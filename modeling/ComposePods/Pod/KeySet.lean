import ComposePods.Service.Property

/-!
# Properties that are carried over

What the templates leave unset is filled from the service as given: placement, networking and
lifecycle go to the controller, what the process itself runs with goes to the main component.

* `KeySet`, `KeySet.pod`, `KeySet.transformer`.
-/

namespace ComposePods

/-- A named list of properties. -/
structure KeySet where
  name : String
  properties : List Property

namespace KeySet

/-- The names of the properties. -/
def keys (s : KeySet) : List String := s.properties.map (·.name)

/-- The properties that the controller takes over. -/
def pod : KeySet where
  name := "pod"
  properties :=
    [.configs, .deploy, .dns, .dnsSearch, .domainname, .expose, .extraHosts, .hostname, .labels,
      .logging, .networkMode, .networks, .ports, .restart, .secrets, .stopGracePeriod, .stopSignal]

/-- The properties that the main component takes over. -/
def transformer : KeySet where
  name := "transformer"
  properties :=
    [.build, .capAdd, .capDrop, .command, .devices, .entrypoint, .envFile, .environment,
      .healthcheck, .image, .init, .privileged, .readOnly, .securityOpt, .stdinOpen, .sysctls,
      .tmpfs, .tty, .ulimits, .user, .volumes, .workingDir]

end KeySet

end ComposePods
