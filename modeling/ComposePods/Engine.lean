import ComposePods.Dict
import ComposePods.Text.Blank

/-!
# Volumes of the engine

The controller runs in a container engine that gives volumes names of its own. Their labels tell
which names the manifest has for them. The first look-up asks the engine about every mounted volume;
all later ones are answered from what was learned then.

* `VolumeInfo.manifestName?`: the name in the manifest;
* `Engine`, `Engine.Asking`: the engine, and what it is asked about;
* `Engine.survey`: the names of all mounted volumes;
* `Engine.Cache`, `Cache.lookup`.
-/

namespace ComposePods

/-- The kinds of mounts. -/
inductive MountKind where
  | volume
  | bind
  | tmpfs
  deriving DecidableEq

/-- A mount of the controller's container. -/
structure EngineMount where
  kind : MountKind
  name : String
  deriving DecidableEq

/-- What the engine tells about a volume. -/
structure VolumeInfo where
  name : String
  labels : List (String × String)
  deriving DecidableEq

namespace VolumeInfo

/-- The label that names the volume outright. -/
def referenceLabel : String := "com.github.rycus86.podlike.volume-ref"

/-- The label that names the stack of the volume. -/
def namespaceLabel : String := "com.docker.stack.namespace"

/-- The label that names the volume in its project. -/
def projectLabel : String := "com.docker.compose.volume"

/-- The name without the stack's name and an underscore in front, if it starts so. -/
def inStack? (name stack : String) : Option String :=
  let start := stack ++ "_"
  if Text.startsWith start name then some (String.ofList (name.toList.drop start.toList.length))
  else none

/-- The name of the volume in the manifest, as far as its labels tell. -/
def manifestName? (v : VolumeInfo) : Option String :=
  match v.labels.lookup referenceLabel with
  | some explicit => some explicit
  | none =>
    ((v.labels.lookup namespaceLabel).bind (inStack? v.name)) <|> v.labels.lookup projectLabel

end VolumeInfo

/-- The engine: its mounts, and the volumes it can tell about. -/
structure Engine where
  mounts : List EngineMount
  volumes : List (String × VolumeInfo)

namespace Engine

/-- The engine without mounts and volumes. -/
def empty : Engine := ⟨[], []⟩

/-- What the engine tells about a volume; nothing, if it does not know it. -/
def inspect (e : Engine) (name : String) : Option VolumeInfo := e.volumes.lookup name

/-- Add a mount. -/
def mount (e : Engine) (m : EngineMount) : Engine := { e with mounts := e.mounts ++ [m] }

/-- Let the engine tell `info` when it is asked about the volume. -/
def describe (e : Engine) (name : String) (info : VolumeInfo) : Engine :=
  { e with volumes := (name, info) :: e.volumes }

/-- A computation that asks the engine about volumes; their names are recorded, the last one
last. -/
abbrev Asking := StateM (List String)

/-- Ask the engine about a volume. -/
def ask (e : Engine) (name : String) : Asking (Option VolumeInfo) := do
  modify (· ++ [name])
  return e.inspect name

/-- Learn the manifest's name of a mounted volume: it stands for the volume from now on. Other
mounts, volumes that the engine cannot tell about and those without a name in the manifest are
passed over. -/
def learn (e : Engine) (names : Dict String) (m : EngineMount) : Asking (Dict String) := do
  if m.kind ≠ .volume then return names
  match ← e.ask m.name with
  | none => return names
  | some info =>
    match info.manifestName? with
    | some name => return names.insert name m.name
    | none => return names

/-- The engine's names of the mounted volumes, by their names in the manifest. -/
def survey (e : Engine) : Asking (Dict String) := e.mounts.foldlM e.learn .empty

/-- What is known of the volumes: nothing before the first look-up. -/
structure Cache where
  known : Option (Dict String)

namespace Cache

/-- A cache that has not been asked yet. -/
def new : Cache := ⟨none⟩

/-- The engine's names, learned now if they are not known yet. -/
def names (c : Cache) (e : Engine) : Asking (Dict String) :=
  match c.known with
  | some names => return names
  | none => e.survey

/-- The engine's name of a volume of the manifest, the cache afterwards, and the volumes that the
engine was asked about. -/
def lookup (c : Cache) (e : Engine) (source : String) : Option String × Cache × List String :=
  let (names, asked) := (c.names e).run []
  (names.get? source, ⟨some names⟩, asked)

end Cache

end Engine

end ComposePods
