import TemplateDebug.Decimal.Double
/-!
# TOML values

Tables keep their members in the order in which they come to be. How a table came to be decides what may still be
added to it: dotted keys may add to tables that only dotted keys or deeper headers have brought about, headers to any
table that is no inline one, and nothing may be given twice.
-/

namespace TemplateDebug

/-- How a table came to be: as an inline value, by a header of its own, by the header of a table in it, or by a dotted
key. -/
inductive Toml.Origin where
  | inlined
  | header
  | deeperHeader
  | dottedKey
  deriving DecidableEq, Repr

/-- A value. An array of tables is made of headers, a list is written in brackets. -/
inductive Toml where
  | text (value : String)
  | integer (value : Int)
  | real (value : Double)
  | flag (value : Bool)
  | dateTime (text : String)
  | list (items : List Toml)
  | tables (items : List Toml)
  | table (origin : Toml.Origin) (members : List (String × Toml))
  deriving Repr, Inhabited

namespace Toml

abbrev Members := List (String × Toml)

/-- A dotted key: the names before its last one, and that. -/
structure Key where
  above : List String
  last : String
  deriving DecidableEq, Repr

/-- The members with another value under a key that is there. -/
def replace (key : String) (value : Toml) (ms : Members) : Members :=
  ms.map fun m => if m.1 = key then (key, value) else m

/-- The members with one more; none if the key is taken. -/
def append? (key : String) (value : Toml) (ms : Members) : Option Members :=
  if (ms.lookup key).isSome then none else some (ms ++ [(key, value)])

/-- The list with its last item replaced by what `f` makes of it. -/
def changeLast? {α : Type} (f : α → Option α) (items : List α) : Option (List α) :=
  items.getLast?.bind fun last => (f last).map fun changed => items.dropLast ++ [changed]

/-! ## Dotted keys -/

/-- The table with more members, where dotted keys may add some: `direct` says that they are added to this very
table, and then only another dotted key may have brought it about. -/
def extend? (direct : Bool) (add : Members → Option Members) : Toml → Option Toml
  | table .dottedKey ms => (add ms).map (table .dottedKey)
  | table .deeperHeader ms => if direct then none else (add ms).map (table .deeperHeader)
  | _ => none

/-- As `extend?`, for any table. -/
def extendAny? (add : Members → Option Members) : Toml → Option Toml
  | table origin ms => (add ms).map (table origin)
  | _ => none

/-- The members with a value under a dotted key, whose tables are made as they are missing. -/
def assign? (last : String) (value : Toml) : List String → Members → Option Members
  | [], ms => append? last value ms
  | name :: above, ms =>
    let add := assign? last value above
    match ms.lookup name with
    | none => (add []).map fun inner => ms ++ [(name, table .dottedKey inner)]
    | some (tables items) =>
      if above.isEmpty then none
      else (changeLast? (extendAny? add) items).map fun items => replace name (tables items) ms
    | some node => (extend? above.isEmpty add node).map fun node => replace name node ms

/-- The members with the values of dotted keys, one after the other. -/
def assignAll? (assignments : List (Key × Toml)) (ms : Members) : Option Members :=
  assignments.foldlM (fun ms a => assign? a.1.last a.2 a.1.above ms) ms

/-! ## Headers -/

/-- The members with a change made in the table that names lead to. In an array of tables its last table is meant;
missing tables are made. -/
def within? (change : Members → Option Members) : List String → Members → Option Members
  | [], ms => change ms
  | name :: names, ms =>
    let inner := within? change names
    match ms.lookup name with
    | none => (inner []).map fun made => ms ++ [(name, table .deeperHeader made)]
    | some (tables items) =>
      (changeLast? (extendAny? inner) items).map fun items => replace name (tables items) ms
    | some (table .inlined _) => none
    | some node => (extendAny? inner node).map fun node => replace name node ms

/-- Defines a table by its header. A table that deeper headers have brought about takes its place now, with the
members it has. -/
def define? (name : String) (fill : Members → Option Members) (ms : Members) : Option Members :=
  match ms.lookup name with
  | none => (fill []).map fun made => ms ++ [(name, table .header made)]
  | some (table .deeperHeader inner) =>
    (fill inner).map fun made => (ms.filter fun m => m.1 ≠ name) ++ [(name, table .header made)]
  | some _ => none

/-- Adds a table to an array of tables, which its first header makes. -/
def addElement? (name : String) (fill : Members → Option Members) (ms : Members) : Option Members :=
  match ms.lookup name with
  | none => (fill []).map fun made => ms ++ [(name, tables [table .header made])]
  | some (tables items) => (fill []).map fun made => replace name (tables (items ++ [table .header made])) ms
  | some _ => none

end Toml

end TemplateDebug
