import ComposePods.Service.Property

/-!
# Services

A service has a name, a value for every property, and extensions: further properties whose names
should start with `x-`. Any other further name is unsupported.

* `Service`, `Service.set`, `Service.empty`;
* `Service.definition`: the service as a mapping, without its name;
* `Service.read`: a service read from a value or from a text;
* `Service.unsupported`: the further names that do not start with `x-`.
-/

namespace ComposePods

/-- A service: its properties and its extensions. -/
structure Service where
  name : String
  value : (p : Property) → p.Carrier
  extensions : Dict Value

namespace Service

/-- Two services are equal when name, extensions and all properties are. -/
instance : DecidableEq Service := fun a b =>
  if h : a.name = b.name ∧ a.extensions = b.extensions ∧
    ∀ p ∈ Property.all, a.value p = b.value p then
    isTrue (by
      obtain ⟨hn, he, hv⟩ := h
      cases a; cases b
      simp only at hn he hv
      subst hn he
      congr
      funext p
      exact hv p (Property.mem_all p))
  else isFalse fun e => h (by subst e; exact ⟨rfl, rfl, fun _ _ => rfl⟩)

/-- The service of which nothing is set. -/
def empty (name : String) : Service :=
  { name, value := fun p => p.kind.unset, extensions := .empty }

/-- Set one property. -/
def set (s : Service) (p : Property) (v : p.Carrier) : Service :=
  { s with value := fun q => if h : q = p then h ▸ v else s.value q }

@[simp] theorem set_self (s : Service) (p : Property) (v : p.Carrier) :
    (s.set p v).value p = v := by
  simp [set]

theorem set_of_ne (s : Service) {p q : Property} (v : p.Carrier) (h : q ≠ p) :
    (s.set p v).value q = s.value q := by
  simp [set, h]

/-! ## Names of some properties -/

abbrev build (s : Service) : Option Build := s.value .build
abbrev command (s : Service) : Option TextOrList := s.value .command
abbrev dns (s : Service) : Option TextOrList := s.value .dns
abbrev entrypoint (s : Service) : Option TextOrList := s.value .entrypoint
abbrev envFile (s : Service) : Option TextOrList := s.value .envFile
abbrev image (s : Service) : Option String := s.value .image
abbrev labels (s : Service) : Dict String := s.value .labels
abbrev tmpfs (s : Service) : Option TextOrList := s.value .tmpfs
abbrev volumes (s : Service) : List Volume := s.value .volumes

/-! ## Writing -/

/-- The entry of a property, if it is set. -/
def entry? (s : Service) (p : Property) : Option (Value × Value) :=
  (p.kind.write (s.value p)).map fun v => (.string p.name, v)

/-- The service as a mapping, without its name: the properties that are set, then the extensions. -/
def definition (s : Service) : Mapping :=
  Property.all.filterMap s.entry? ++ s.extensions.entries.map fun e => (.string e.1, e.2)

/-! ## Reading -/

/-- The name is that of an extension. -/
def isExtension (name : String) : Bool := Text.startsWith "x-" name

/-- The further names that are not those of extensions. -/
def unsupported (s : Service) : List String := s.extensions.keys.filter (!isExtension ·)

/-- Every further name is that of an extension. -/
def Valid (s : Service) : Prop := s.unsupported = []

instance (s : Service) : Decidable s.Valid := by unfold Valid; infer_instance

/-- What has been read of a service: the properties met, and the further ones as they came. -/
structure Draft where
  service : Service
  met : List Property
  further : List (String × Value)

section Reader

variable {α : Type} [Source α]

/-- Read one property. A second one of the same name is refused before its value is read. -/
def readEntry (state : Draft) (e : α × α) : Except TypeError Draft := do
  let name ← Source.name e.1
  match Property.ofName? name with
  | some p =>
    if p ∈ state.met then throw (.repeatedField name)
    let v ← p.kind.read e.2
    return { state with service := state.service.set p v, met := p :: state.met }
  | none => return { state with further := state.further ++ [(name, ← Source.untaggedValue e.2)] }

/-- Read a service, which has no name yet. -/
def read (x : α) : Except TypeError Service := do
  let state ← (← Source.entries "struct ServiceConfig" x).foldlM readEntry ⟨empty "", [], []⟩
  if state.further.any (!·.2.keysDistinct) then throw .repeatedKey
  return { state.service with extensions := .ofList state.further }

end Reader

end Service

end ComposePods
