import ComposePods.Compose.Build
import ComposePods.Compose.Grant
import ComposePods.Compose.Health
import ComposePods.Compose.Networks
import ComposePods.Compose.Port
import ComposePods.Compose.Volume

/-!
# Properties of a service

Every property that a service can have is listed here with its name and its kind. A kind fixes the
type of the property's values, the value of an unset property, and how the property is read and
written; so a service is read and written by one rule per kind.

* `Kind`, `Kind.Carrier`, `Kind.unset`;
* `Kind.read`, `Kind.write`: the latter leaves out what is unset;
* `Property`, `Property.name`, `Property.kind`, `Property.all`, `Property.ofName?`.
-/

namespace ComposePods

/-- The kinds of properties. -/
inductive Kind where
  | text
  | flag
  | texts
  | textOrList
  | textOrNumber
  | textsOrNumbers
  | pairs
  | labels
  | mapping
  | build
  | grants
  | healthCheck
  | logging
  | networks
  | ports
  | volumes
  deriving DecidableEq

namespace Kind

/-- The values of properties of a kind. -/
@[reducible] def Carrier : Kind → Type
  | .text => Option String
  | .flag => Option Bool
  | .texts => List String
  | .textOrList => Option TextOrList
  | .textOrNumber => Option TextOrNumber
  | .textsOrNumbers => List TextOrNumber
  | .pairs => Dict (Option String)
  | .labels => Dict String
  | .mapping => Option Mapping
  | .build => Option Build
  | .grants => List Grant
  | .healthCheck => Option HealthCheck
  | .logging => Option Logging
  | .networks => Option Networks
  | .ports => List Port
  | .volumes => List Volume

instance (k : Kind) : DecidableEq k.Carrier := by
  cases k <;> simp only [Carrier] <;> infer_instance

/-- The value of a property that is not set. -/
def unset : (k : Kind) → k.Carrier
  | .text | .flag | .textOrList | .textOrNumber | .mapping | .build | .healthCheck | .logging
  | .networks => none
  | .texts | .textsOrNumbers | .grants | .ports | .volumes => []
  | .pairs | .labels => .empty

/-- The document value of a property, if it is set. -/
def write : (k : Kind) → k.Carrier → Option Value
  | .text, v => v.map .string
  | .flag, v => v.map .bool
  | .texts, v => Value.listUnlessEmpty .string v
  | .textOrList, v => v.map (·.toValue)
  | .textOrNumber, v => v.map (·.toValue)
  | .textsOrNumbers, v => Value.listUnlessEmpty (·.toValue) v
  | .pairs, v => Value.unlessEmpty .ofPairs v
  | .labels, v => Value.unlessEmpty .ofLabels v
  | .mapping, v => v.map .mapping
  | .build, v => v.map (·.toValue)
  | .grants, v => Value.listUnlessEmpty (·.toValue) v
  | .healthCheck, v => v.map (·.toValue)
  | .logging, v => v.map (·.toValue)
  | .networks, v => v.map (·.toValue)
  | .ports, v => Value.listUnlessEmpty (·.toValue) v
  | .volumes, v => Value.listUnlessEmpty (·.toValue) v

/-- Read a property of a kind. -/
def read {α : Type} [Source α] : (k : Kind) → α → Except TypeError k.Carrier
  | .text => Source.optional Source.text
  | .flag => Source.optional Source.flag
  | .texts => Source.listOf Source.text
  | .textOrList => Source.optional TextOrList.read
  | .textOrNumber => Source.optional (readForm "StringOrNumber" TextOrNumber.read?)
  | .textsOrNumbers => Source.listOf (readForm "StringOrNumber" TextOrNumber.read?)
  | .pairs => readPairs
  | .labels => readLabels
  | .mapping => Source.optional readMapping
  | .build => Source.optional (readForm "BuildConfig" Build.read?)
  | .grants => Source.listOf (readForm "FileReference" Grant.read?)
  | .healthCheck => Source.optional HealthCheck.read
  | .logging => Source.optional Logging.read
  | .networks => Source.optional (readForm "Networks" Networks.read?)
  | .ports => Source.listOf (readForm "PortConfig" Port.read?)
  | .volumes => Source.listOf (readForm "ServiceVolume" Volume.read?)

end Kind

/-- The properties of a service, in the order in which they are written. -/
inductive Property where
  | build
  | capAdd
  | capDrop
  | cgroupParent
  | command
  | configs
  | containerName
  | credentialSpec
  | dependsOn
  | deploy
  | devices
  | dns
  | dnsSearch
  | domainname
  | entrypoint
  | envFile
  | environment
  | expose
  | externalLinks
  | extraHosts
  | healthcheck
  | hostname
  | image
  | init
  | ipc
  | isolation
  | labels
  | links
  | logging
  | macAddress
  | networkMode
  | networks
  | pid
  | ports
  | privileged
  | readOnly
  | restart
  | secrets
  | securityOpt
  | shmSize
  | stdinOpen
  | stopGracePeriod
  | stopSignal
  | sysctls
  | tmpfs
  | tty
  | ulimits
  | user
  | usernsMode
  | volumes
  | workingDir
  deriving DecidableEq

namespace Property

/-- The name of the property. -/
def name : Property → String
  | .build => "build"
  | .capAdd => "cap_add"
  | .capDrop => "cap_drop"
  | .cgroupParent => "cgroup_parent"
  | .command => "command"
  | .configs => "configs"
  | .containerName => "container_name"
  | .credentialSpec => "credential_spec"
  | .dependsOn => "depends_on"
  | .deploy => "deploy"
  | .devices => "devices"
  | .dns => "dns"
  | .dnsSearch => "dns_search"
  | .domainname => "domainname"
  | .entrypoint => "entrypoint"
  | .envFile => "env_file"
  | .environment => "environment"
  | .expose => "expose"
  | .externalLinks => "external_links"
  | .extraHosts => "extra_hosts"
  | .healthcheck => "healthcheck"
  | .hostname => "hostname"
  | .image => "image"
  | .init => "init"
  | .ipc => "ipc"
  | .isolation => "isolation"
  | .labels => "labels"
  | .links => "links"
  | .logging => "logging"
  | .macAddress => "mac_address"
  | .networkMode => "network_mode"
  | .networks => "networks"
  | .pid => "pid"
  | .ports => "ports"
  | .privileged => "privileged"
  | .readOnly => "read_only"
  | .restart => "restart"
  | .secrets => "secrets"
  | .securityOpt => "security_opt"
  | .shmSize => "shm_size"
  | .stdinOpen => "stdin_open"
  | .stopGracePeriod => "stop_grace_period"
  | .stopSignal => "stop_signal"
  | .sysctls => "sysctls"
  | .tmpfs => "tmpfs"
  | .tty => "tty"
  | .ulimits => "ulimits"
  | .user => "user"
  | .usernsMode => "userns_mode"
  | .volumes => "volumes"
  | .workingDir => "working_dir"

/-- The kind of the property. -/
def kind : Property → Kind
  | .build => .build
  | .capAdd | .capDrop | .dependsOn | .devices | .externalLinks | .extraHosts | .links
  | .securityOpt => .texts
  | .cgroupParent | .containerName | .domainname | .hostname | .image | .ipc | .isolation
  | .macAddress | .networkMode | .pid | .restart | .stopGracePeriod | .stopSignal | .user
  | .usernsMode | .workingDir => .text
  | .command | .dns | .dnsSearch | .entrypoint | .envFile | .tmpfs => .textOrList
  | .configs | .secrets => .grants
  | .credentialSpec | .deploy | .ulimits => .mapping
  | .environment | .sysctls => .pairs
  | .expose => .textsOrNumbers
  | .healthcheck => .healthCheck
  | .init | .privileged | .readOnly | .stdinOpen | .tty => .flag
  | .labels => .labels
  | .logging => .logging
  | .networks => .networks
  | .ports => .ports
  | .shmSize => .textOrNumber
  | .volumes => .volumes

/-- All properties, in the order in which they are written. -/
def all : List Property :=
  [.build, .capAdd, .capDrop, .cgroupParent, .command, .configs, .containerName,
    .credentialSpec, .dependsOn, .deploy, .devices, .dns, .dnsSearch, .domainname, .entrypoint,
    .envFile, .environment, .expose, .externalLinks, .extraHosts, .healthcheck, .hostname,
    .image, .init, .ipc, .isolation, .labels, .links, .logging, .macAddress, .networkMode,
    .networks, .pid, .ports, .privileged, .readOnly, .restart, .secrets, .securityOpt,
    .shmSize, .stdinOpen, .stopGracePeriod, .stopSignal, .sysctls, .tmpfs, .tty, .ulimits,
    .user, .usernsMode, .volumes, .workingDir]

theorem mem_all (p : Property) : p ∈ all := by cases p <;> decide

/-- The property of a name. -/
def ofName? (name : String) : Option Property := all.find? (·.name == name)

/-- The names of all properties. -/
def names : List String := all.map name

/-- The values of a property. -/
abbrev Carrier (p : Property) : Type := p.kind.Carrier

end Property

end ComposePods
