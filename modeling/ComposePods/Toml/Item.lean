/-!
# Tables of a configuration

A configuration is a tree of tables. A table is defined once: by its header, by the headers of
tables inside it, or by keys with dots; what one of these has defined the others may not define
again.

* `Toml.Item`, `Toml.Entries`, `Toml.Origin`;
* `Toml.put`: set a key, which may be a path, in a table;
* `Toml.within`: change the table that a path names;
* `Toml.openTable`, `Toml.openElement`: the headers of a table and of an element of an array of
  tables.
-/

namespace ComposePods

namespace Toml

/-- What has defined a table. -/
inductive Origin where
  /-- Its own header. -/
  | header
  /-- The header of a table inside it. -/
  | implied
  /-- A key with dots. -/
  | dotted
  deriving DecidableEq

/-- A value of a configuration. Numbers, booleans and dates are not told apart. -/
inductive Item where
  | text (s : String)
  | list (items : List Item)
  | other
  | table (origin : Origin) (entries : List (String × Item))
  /-- An array of tables; the last one first. -/
  | tables (elements : List (List (String × Item)))

/-- The entries of a table. -/
abbrev Entries := List (String × Item)

/-- The value of a key. -/
def get? (entries : Entries) (key : String) : Option Item := entries.lookup key

/-- The entries with another value of a key, which keeps its place. -/
def set (entries : Entries) (key : String) (item : Item) : Entries :=
  if entries.any (·.1 == key) then entries.map fun e => if e.1 == key then (key, item) else e
  else entries ++ [(key, item)]

/-- Set a key that is not set yet, in a table of the given origin. Keys with dots define the tables
on their way; they may go into tables that keys with dots or inner headers have defined, but only
add to the former. -/
def putIn (key : String) (item : Item) (nested : Bool) :
    List String → Origin → Entries → Option Entries
  | [], origin, entries =>
    if (origin == .dotted) != nested then none
    else if (get? entries key).isSome then none
    else some (set entries key item)
  | k :: ks, _, entries =>
    match get? entries k with
    | none => (putIn key item nested ks .dotted []).map fun es => set entries k (.table .dotted es)
    | some (.table .header _) => none
    | some (.table origin es) =>
      (putIn key item nested ks origin es).map fun es => set entries k (.table origin es)
    | some (.tables (es :: others)) =>
      (putIn key item nested ks .header es).map fun es => set entries k (.tables (es :: others))
    | some _ => none

/-- Set the key of the given path, whose last part is `key`, in a table with a header. -/
def put (path : List String) (key : String) (item : Item) (entries : Entries) : Option Entries :=
  putIn key item (!path.isEmpty) path .header entries

/-- Change the table that a path of headers names; tables on the way are defined if need be, and of
an array of tables the last one is meant. -/
def within (change : Entries → Option Entries) : List String → Entries → Option Entries
  | [], entries => change entries
  | k :: ks, entries =>
    match get? entries k with
    | none => (within change ks []).map fun es => set entries k (.table .implied es)
    | some (.table origin es) =>
      (within change ks es).map fun es => set entries k (.table origin es)
    | some (.tables (es :: others)) =>
      (within change ks es).map fun es => set entries k (.tables (es :: others))
    | some _ => none

/-- The header of a table: it is new, or only headers of tables inside it have been met. -/
def openTable (key : String) (entries : Entries) : Option Entries :=
  match get? entries key with
  | none => some (set entries key (.table .header []))
  | some (.table .implied es) => some (set entries key (.table .header es))
  | some _ => none

/-- The header of the next element of an array of tables. -/
def openElement (key : String) (entries : Entries) : Option Entries :=
  match get? entries key with
  | none => some (set entries key (.tables [[]]))
  | some (.tables elements) => some (set entries key (.tables ([] :: elements)))
  | some _ => none

end Toml

end ComposePods
