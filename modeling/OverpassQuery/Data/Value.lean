import OverpassQuery.Binary64.Rounding

/-!
# Structured data

The values that data files hold, whatever the notation: JSON, YAML and TOML are
all read into `Data`. Whole numbers stay apart from the others, because they
are written differently. The entries of a table keep the order of the file; of
several entries with one key the last counts.
-/

set_option autoImplicit false

namespace OverpassQuery

/-- A value of a data file. -/
inductive Data where
  | null
  | boolean (value : Bool)
  | integer (value : Int)
  | real (value : Binary64)
  | text (value : String)
  | list (items : List Data)
  | table (entries : List (String × Data))

namespace Data

/-! ## Equality -/

mutual

/-- Whether two values are equal. -/
def equals : Data → Data → Bool
  | .null, .null => true
  | .boolean first, .boolean second => first = second
  | .integer first, .integer second => first = second
  | .real first, .real second => first = second
  | .text first, .text second => first = second
  | .list first, .list second => equalItems first second
  | .table first, .table second => equalEntries first second
  | _, _ => false

/-- Whether two lists have equal items. -/
def equalItems : List Data → List Data → Bool
  | [], [] => true
  | first :: rest, second :: others => equals first second && equalItems rest others
  | _, _ => false

/-- Whether two tables have equal entries. -/
def equalEntries : List (String × Data) → List (String × Data) → Bool
  | [], [] => true
  | (key, first) :: rest, (key', second) :: others =>
      key = key' && equals first second && equalEntries rest others
  | _, _ => false

end

-- The recursion through lists is nested, so the instance cannot be derived.
mutual

theorem equals_iff : ∀ first second : Data, equals first second = true ↔ first = second
  | .list items, second => by cases second <;> simp [equals, equalItems_iff]
  | .table entries, second => by cases second <;> simp [equals, equalEntries_iff]
  | .null, second | .boolean _, second | .integer _, second | .real _, second
  | .text _, second => by cases second <;> simp [equals]

theorem equalItems_iff :
    ∀ first second : List Data, equalItems first second = true ↔ first = second
  | [], second => by cases second <;> simp [equalItems]
  | item :: rest, second => by cases second <;> simp [equalItems, equals_iff, equalItems_iff]

theorem equalEntries_iff :
    ∀ first second : List (String × Data), equalEntries first second = true ↔ first = second
  | [], second => by cases second <;> simp [equalEntries]
  | (key, value) :: rest, second => by
      cases second <;>
        simp [equalEntries, equals_iff, equalEntries_iff, Prod.ext_iff, and_assoc]

end

instance : DecidableEq Data := fun first second => decidable_of_iff _ (equals_iff first second)

/-! ## Parts of values -/

/-- The value of the last entry with a key. -/
def lookup? (entries : List (String × Data)) (key : String) : Option Data :=
  (entries.reverse.find? (·.1 = key)).map (·.2)

/-- The number of negative integers of 64 bits: `2 ^ 63`. -/
def wordNegatives : Nat := 9223372036854775808

/-- The integer of 64 bits with a sign and a magnitude. -/
def wordInteger? (negative : Bool) (magnitude : Nat) : Option Int :=
  if magnitude < wordNegatives then some (if negative then -magnitude else magnitude)
  else if negative ∧ magnitude = wordNegatives then some (-magnitude)
  else none

/-- The double-precision number of a numeric value. -/
def number? : Data → Option Binary64
  | .integer value => some (.ofInt value)
  | .real value => some value
  | _ => none

theorem lookup?_mem {entries : List (String × Data)} {key : String} {value : Data}
    (found : lookup? entries key = some value) : ∃ entry ∈ entries, entry.2 = value := by
  simp only [lookup?, Option.map_eq_some_iff] at found
  obtain ⟨entry, located, same⟩ := found
  exact ⟨entry, List.mem_reverse.mp (List.mem_of_find?_eq_some located), same⟩

theorem sizeOf_lookup?_lt {entries : List (String × Data)} {key : String} {value : Data}
    (found : lookup? entries key = some value) : sizeOf value < sizeOf entries := by
  obtain ⟨entry, mem, same⟩ := lookup?_mem found
  have inEntries := List.sizeOf_lt_of_mem mem
  cases entry
  simp_all
  omega

end Data

end OverpassQuery
