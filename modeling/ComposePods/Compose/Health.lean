import ComposePods.Compose.Alternatives

/-!
# Health checks and logging

Two records that are read field by field, so that the first field at fault is the one reported.

* `HealthCheck`, `Logging`, with a reader and a writer each;
* `readForm`: a property with several forms, read from any source.
-/

namespace ComposePods

/-- How the health of a service is checked. -/
structure HealthCheck where
  test : Option TextOrList
  interval : Option String
  timeout : Option String
  startPeriod : Option String
  retries : Option Nat
  disable : Option Bool
  deriving DecidableEq

/-- Where the output of a service goes. -/
structure Logging where
  driver : Option String
  options : Dict String
  deriving DecidableEq

section Readers

variable {α β : Type} [Source α]

/-- Read a property that errors call `property` in the first of its forms that fits. -/
def readForm (property : String) (read? : Value → Option β) (x : α) : Except TypeError β := do
  match read? (← Source.untaggedValue x) with
  | some b => pure b
  | none => throw (.noForm property)

/-- Read one text or a list of texts. -/
def TextOrList.read (x : α) : Except TypeError TextOrList := readForm "StringOrList" read? x

/-- Read keys and values that may be missing. -/
def readPairs (x : α) : Except TypeError (Dict (Option String)) := do
  match (← Source.value x).pairs? with
  | .ok d => pure d
  | .error e => throw (.loose e)

/-- Read keys and texts. -/
def readLabels (x : α) : Except TypeError (Dict String) := do
  match (← Source.value x).labels? with
  | .ok d => pure d
  | .error e => throw (.loose e)

/-- Read an entry of document values behind the ones that have been read. -/
def readMappingEntry (m : Mapping) (e : α × α) : Except TypeError Mapping := do
  let key ← Source.value e.1
  if Mapping.contains m key then throw .repeatedKey
  return m ++ [(key, ← Source.value e.2)]

/-- Read a mapping of document values. -/
def readMapping (x : α) : Except TypeError Mapping := do
  (← Source.entries "a YAML mapping" x).foldlM readMappingEntry []

end Readers

namespace HealthCheck

variable {α : Type} [Source α]

def fields : List String := ["test", "interval", "timeout", "start_period", "retries", "disable"]

/-- A check of which nothing is set. -/
def empty : HealthCheck :=
  { test := none, interval := none, timeout := none, startPeriod := none, retries := none
    disable := none }

def readField (name : String) (x : α) (h : HealthCheck) : Except TypeError HealthCheck :=
  match name with
  | "test" => return { h with test := ← Source.optional TextOrList.read x }
  | "interval" => return { h with interval := ← Source.optional Source.text x }
  | "timeout" => return { h with timeout := ← Source.optional Source.text x }
  | "start_period" => return { h with startPeriod := ← Source.optional Source.text x }
  | "retries" => return { h with retries := ← Source.optional Source.count x }
  | _ => return { h with disable := ← Source.optional Source.flag x }

def read (x : α) : Except TypeError HealthCheck :=
  Source.record "struct HealthCheckConfig" fields readField empty x

def toValue (h : HealthCheck) : Value :=
  .record [("test", h.test.map (·.toValue)), ("interval", h.interval.map .string),
    ("timeout", h.timeout.map .string), ("start_period", h.startPeriod.map .string),
    ("retries", h.retries.map .ofNat), ("disable", h.disable.map .bool)]

end HealthCheck

namespace Logging

variable {α : Type} [Source α]

def fields : List String := ["driver", "options"]

/-- Logging of which nothing is set. -/
def empty : Logging := { driver := none, options := .empty }

def readField (name : String) (x : α) (l : Logging) : Except TypeError Logging :=
  match name with
  | "driver" => return { l with driver := ← Source.optional Source.text x }
  | _ => return { l with options := ← readLabels x }

def read (x : α) : Except TypeError Logging :=
  Source.record "struct LoggingConfig" fields readField empty x

def toValue (l : Logging) : Value :=
  .record [("driver", l.driver.map .string), ("options", Value.unlessEmpty .ofLabels l.options)]

end Logging

end ComposePods
