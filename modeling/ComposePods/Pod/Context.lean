import ComposePods.Pod.Layer
import ComposePods.Project

/-!
# What templates see

The templates of a service see the service itself, all services of its project, the working
directory and their arguments. A service is seen as its definition behind an entry for its name.

* `Service.namedDefinition`: the name, then the entries of the definition;
* `Context`: a service, its project, and its templates;
* `Context.ofService`, `Context.projectServices`, `Context.argsOf`.
-/

namespace ComposePods

/-- The definition of a service behind its name. -/
def Service.namedDefinition (s : Service) : Mapping :=
  Mapping.overlay [(.string "name", .string s.name)] s.definition

/-- A service that is transformed, with all that its templates can see. -/
structure Context where
  service : Service
  services : List Service
  directory : String
  templates : Templates

namespace Context

/-- The context of a service of a project. -/
def ofService (p : Project) (directory : String) (s : Service) (templates : Templates) : Context :=
  { service := s, services := p.services, directory, templates }

/-- The definition of the service, without its name. -/
def definition (c : Context) : Mapping := c.service.definition

/-- Every service of the project behind its name. -/
def projectServices (c : Context) : List Value :=
  c.services.map fun s => .mapping s.namedDefinition

/-- The arguments of a template. -/
def argsOf (c : Context) (t : Template) : Mapping := c.templates.argsOf t

end Context

end ComposePods
