import ComposePods.Path
import ComposePods.Service

/-!
# Host paths of a service

Some properties hold paths of the host: the sources of bind mounts, the environment files and the
build context. Relative ones are taken from a working directory.

* `Path.isRelativeSource`: the source of a mount is a relative path, not the name of a volume;
* `Path.isRemote`: a build context that is not a path;
* `Service.locate`: the service with its relative paths resolved.
-/

namespace ComposePods

/-- The source of a mount is a relative path: it is `.` or starts with `./` or `..`. -/
def Path.isRelativeSource (source : String) : Bool :=
  source == "." || Text.startsWith "./" source || Text.startsWith ".." source

/-- The build context is an address: it has a scheme, or names a known host of repositories. -/
def Path.isRemote (context : String) : Bool :=
  Text.occurs "://".toList context.toList || Text.startsWith "git@" context ||
    Text.startsWith "github.com/" context

/-- The source of a mount, resolved if it is a relative path. -/
def Path.resolveSource (directory source : String) : String :=
  if isRelativeSource source then resolve directory source else source

/-- The build context, resolved unless it is remote. -/
def Path.resolveContext (directory context : String) : String :=
  if isRemote context then context else resolve directory context

/-- A volume with the source of its bind mount resolved. A text without a colon has no source. -/
def Volume.locate (directory : String) : Volume → Volume
  | .short text =>
    match Text.splitOnce ':' text with
    | none => .short text
    | some (source, rest) => .short (Path.resolveSource directory source ++ ":" ++ rest)
  | .long mount =>
    if mount.type = "bind" then
      .long { mount with source := mount.source.map (Path.resolveSource directory) }
    else .long mount

/-- A build with its context resolved. -/
def Build.locate (directory : String) : Build → Build
  | .context path => .context (Path.resolveContext directory path)
  | .detailed options =>
    .detailed { options with context := options.context.map (Path.resolveContext directory) }

/-- The service with its relative host paths resolved from a working directory. -/
def Service.locate (directory : String) (s : Service) : Service :=
  ((s.set .volumes (s.volumes.map (Volume.locate directory))).set .envFile
    (s.envFile.map (·.map (Path.resolve directory)))).set .build
      (s.build.map (Build.locate directory))

end ComposePods
