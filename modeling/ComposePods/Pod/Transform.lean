import ComposePods.Pod.Controller
import ComposePods.Pod.Session

/-!
# Transforming projects

Every service that has templates is replaced by its controller, one service after the other in the
order of their names. Later templates see the controllers of the services before.

* `Project.put`: another service at a place of a project, which is changed on the spot;
* `Project.transformService`: a service of a project replaced by its controller on the spot;
* `Project.transform`: a project in which one service is its controller;
* `Session.transform`: the text of a project in which all services with templates are controllers;
* `Project.transformText`: the same from a text that declares the templates.
-/

namespace ComposePods

variable [Markup.Machine]

namespace Project

/-- Put a service at a place: the outcome, and the project as it is left. -/
def put (p : Project) (index : Nat) (s : Service) : Except Failure Unit × Project :=
  match p.replace? index s with
  | some q => (.ok (), q)
  | none => (.error (.error (.serviceNotFound s.name)), p)

/-- Replace a service by its controller: the outcome, and the project as it is left. -/
def transformService (p : Project) (settings : Settings) (directory service : String)
    (templates : Templates) : Except Failure Unit × Project :=
  match p.index? service with
  | none => (.error (.error (.serviceNotFound service)), p)
  | some i =>
    match p.services[i]? with
    | none => (.error (.error (.serviceNotFound service)), p)
    | some s =>
      match (Context.ofService p directory s templates).controller settings with
      | .error f => (.error f, p)
      | .ok controller => p.put i controller

/-- The project in which a service is replaced by its controller. -/
def transform (p : Project) (settings : Settings) (directory service : String)
    (templates : Templates) : Except Failure Project :=
  match p.transformService settings directory service templates with
  | (.ok (), q) => .ok q
  | (.error f, _) => .error f

end Project

namespace Session

/-- The project in which every service with templates is replaced by its controller. -/
def transformed (s : Session) : Except Failure Project :=
  s.configurations.entries.foldlM (fun p e => p.transform s.settings s.directory e.1 e.2) s.project

/-- The text of the transformed project. -/
def transform (s : Session) : Except Failure String := do
  match (← s.transformed).text? with
  | some text => return text
  | none => throw (.error .unwritable)

end Session

/-- The text of the project that a text declares, transformed. -/
def Project.transformText (files : Files) (text directory : String) (settings : Settings) :
    Except Failure String := do
  let p ← (Project.ofText text).mapError fun e => .error (.reading e)
  let s ← (Session.ofProject files p directory settings).mapError fun e => .error (.declaration e)
  s.transform

end ComposePods
