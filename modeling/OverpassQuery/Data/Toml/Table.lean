import OverpassQuery.Data.Value

/-!
# Tables of TOML in the making

A document builds its tables piece by piece. How a table came about decides what
may still be added to it: a header opens a table once, a table that only leads
to another may be opened later, and a dotted key may extend only what was not
opened by a header. A row of a list of tables is reached through the list.
-/

set_option autoImplicit false

namespace OverpassQuery

namespace Toml

/-- How a table came about. -/
inductive Origin where
  | header
  /-- It stands in front of another in the path of a header. -/
  | passedThrough
  | dottedKey
  deriving DecidableEq

/-- A part of a document in the making. -/
inductive Part where
  | value (data : Data)
  | table (origin : Origin) (entries : List (String × Part))
  /-- A list of tables, the latest first. -/
  | rows (rows : List (List (String × Part)))

/-- Entries of a table in the making. -/
abbrev Entries := List (String × Part)

/-- Entries in which the part of a key is another, or a new one at the end. -/
def setPart (entries : Entries) (key : String) (part : Part) : Entries :=
  if (entries.lookup key).isSome then
    entries.map fun entry => if entry.1 = key then (key, part) else entry
  else entries ++ [(key, part)]

/-- Entries changed in the table that a path leads to. The tables on the way are made when
they are missing. -/
def changeAt? (byDots : Bool) (change : Entries → Option Entries) :
    List String → Entries → Option Entries
  | [], entries => change entries
  | key :: path, entries =>
      match entries.lookup key with
      | none => do
          let inner ← changeAt? byDots change path []
          return setPart entries key (.table (if byDots then .dottedKey else .passedThrough) inner)
      | some (.table origin inner) =>
          if byDots ∧ origin = .header then none
          else (changeAt? byDots change path inner).map fun inner =>
            setPart entries key (.table origin inner)
      | some (.rows (row :: rows)) =>
          if byDots then none
          else (changeAt? byDots change path row).map fun row =>
            setPart entries key (.rows (row :: rows))
      | _ => none

/-- Entries with a value under a key that is new. -/
def addValue? (key : String) (value : Data) (entries : Entries) : Option Entries :=
  if (entries.lookup key).isSome then none else some (entries ++ [(key, .value value)])

/-- Entries in which a table is opened by a header. -/
def openTable? (key : String) (entries : Entries) : Option Entries :=
  match entries.lookup key with
  | none => some (entries ++ [(key, .table .header [])])
  | some (.table .passedThrough inner) => some (setPart entries key (.table .header inner))
  | _ => none

/-- Entries in which a row is added to a list of tables. -/
def addRow? (key : String) (entries : Entries) : Option Entries :=
  match entries.lookup key with
  | none => some (entries ++ [(key, .rows [[]])])
  | some (.rows rows) => some (setPart entries key (.rows ([] :: rows)))
  | _ => none

/-- A change at the last key of a path, in the table that the keys before it lead to. -/
def atLast? (byDots : Bool) (change : String → Entries → Option Entries) (path : List String)
    (entries : Entries) : Option Entries := do
  let key ← path.getLast?
  changeAt? byDots (change key) path.dropLast entries

/-! ## Finished tables -/

mutual

/-- A part as data. -/
def Part.toData : Part → Data
  | .value data => data
  | .table _ entries => .table (entriesToData entries)
  | .rows rows => .list (rowsToData rows).reverse

/-- Entries as data. -/
def entriesToData : List (String × Part) → List (String × Data)
  | [] => []
  | (key, part) :: rest => (key, part.toData) :: entriesToData rest

/-- Rows as data. -/
def rowsToData : List (List (String × Part)) → List Data
  | [] => []
  | row :: rest => .table (entriesToData row) :: rowsToData rest

end

end Toml

end OverpassQuery
