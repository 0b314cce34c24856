import Mathlib.Data.List.TakeWhile

/-!
# Self-delimiting codes

An item is self-delimiting when its code at the front of a text says where it ends:
no other item has a code there, whatever follows (`SelfDelimiting`). Which other items
are considered is a parameter, since names and values of the query language are unambiguous
only among those without certain characters.

A code that is closed by a character it does not contain is cut off at that
character (`eq_and_rest_eq_of_cut`). It may contain that character if what follows it there
cannot follow the end (`eq_and_rest_eq_of_cut_before`). A list of self-delimiting items is
determined by its text when what follows cannot be the beginning of an item
(`flatMap_eq_and_rest_eq_of_append_eq`). Items of one kind are cut off where an item of another
kind follows (`takeWhile_append_of_stops`).
-/

set_option autoImplicit false

namespace OverpassQuery

/-- Two texts that are equal up to the first occurrence of a character are equal before it and
after it. -/
theorem eq_and_rest_eq_of_cut {mark : Char} {first second : List Char} (firstFree : mark ∉ first)
    (secondFree : mark ∉ second) {rest rest' : List Char}
    (same : first ++ mark :: rest = second ++ mark :: rest') : first = second ∧ rest = rest' := by
  induction first generalizing second with
  | nil =>
      cases second with
      | nil => exact ⟨rfl, (List.cons.inj same).2⟩
      | cons char second =>
          have reached : mark = char := (List.cons.inj same).1
          exact absurd (reached ▸ List.mem_cons_self) secondFree
  | cons char first ih =>
      cases second with
      | nil =>
          have reached : char = mark := (List.cons.inj same).1
          exact absurd (reached ▸ List.mem_cons_self) firstFree
      | cons char' second =>
          obtain ⟨rfl, sameTail⟩ := List.cons.inj same
          obtain ⟨rfl, follows⟩ := ih (fun occurs => firstFree (List.mem_cons_of_mem _ occurs))
            (fun occurs => secondFree (List.mem_cons_of_mem _ occurs)) sameTail
          exact ⟨rfl, follows⟩

theorem eq_and_rest_eq_of_cut_text {mark : Char} {first second : String}
    (firstFree : mark ∉ first.toList) (secondFree : mark ∉ second.toList)
    {rest rest' : List Char}
    (same : first.toList ++ mark :: rest = second.toList ++ mark :: rest') :
    first = second ∧ rest = rest' := by
  obtain ⟨equal, follows⟩ := eq_and_rest_eq_of_cut firstFree secondFree same
  exact ⟨String.toList_inj.mp equal, follows⟩

/-- Two texts that are equal up to the first occurrence of a character before one of some others
are equal before it and after it. -/
theorem eq_and_rest_eq_of_cut_before {mark : Char} {ends : List Char} (unmarked : mark ∉ ends)
    {first second : List Char} (firstFree : ∀ char ∈ ends, ¬ [mark, char] <:+: first)
    (secondFree : ∀ char ∈ ends, ¬ [mark, char] <:+: second) {char char' : Char}
    (ending : char ∈ ends) (ending' : char' ∈ ends) {rest rest' : List Char}
    (same : first ++ mark :: char :: rest = second ++ mark :: char' :: rest') :
    first = second ∧ char :: rest = char' :: rest' := by
  -- Where one text has its end, the other does not go on.
  have ends_together : ∀ {text : List Char} {char char' : Char} {rest rest' : List Char},
      (∀ char ∈ ends, ¬ [mark, char] <:+: text) → char ∈ ends →
      mark :: char :: rest = text ++ mark :: char' :: rest' → text = [] := by
    intro text char char' rest rest' free ending same
    match text, free, same with
    | [], _, _ => rfl
    | [_], _, same => exact absurd ((List.cons.inj (List.cons.inj same).2).1 ▸ ending) unmarked
    | first :: second :: more, free, same =>
        obtain ⟨rfl, sameTail⟩ := List.cons.inj same
        obtain ⟨rfl, _⟩ := List.cons.inj sameTail
        exact absurd (List.prefix_append [mark, char] more).isInfix (free char ending)
  induction first generalizing second with
  | nil =>
      obtain rfl := ends_together secondFree ending same
      exact ⟨rfl, (List.cons.inj same).2⟩
  | cons head first ih =>
      cases second with
      | nil => cases ends_together firstFree ending' same.symm
      | cons head' second =>
          obtain ⟨rfl, sameTail⟩ := List.cons.inj same
          have inherited : ∀ {text : List Char}, (∀ char ∈ ends, ¬ [mark, char] <:+: head :: text) →
              ∀ char ∈ ends, ¬ [mark, char] <:+: text :=
            fun free char ending occurs => free char ending (List.infix_cons occurs)
          obtain ⟨rfl, follows⟩ := ih (inherited firstFree) (inherited secondFree) sameTail
          exact ⟨rfl, follows⟩

section Codes

variable {Item : Type}

/-- At the front of a text, the code of the item is not mistaken for the code of another item
that is admitted. -/
def SelfDelimiting (code : Item → List Char) (admitted : Item → Prop) (item : Item) : Prop :=
  ∀ other, admitted other → ∀ rest rest' : List Char,
    code item ++ rest = code other ++ rest' → item = other ∧ rest = rest'

/-- Every code begins with a character of a given kind. -/
def BeginsWith (starts : Char → Prop) (code : Item → List Char) : Prop :=
  ∀ item, ∃ char rest, code item = char :: rest ∧ starts char

/-- A text that is empty or begins with a character of another kind. -/
def Stops (starts : Char → Prop) (text : List Char) : Prop := ∀ char ∈ text.head?, ¬ starts char

/-- **The items of a list are determined by its text.** -/
theorem flatMap_eq_and_rest_eq_of_append_eq {code : Item → List Char} {admitted : Item → Prop}
    {starts : Char → Prop} (begins : BeginsWith starts code) {items : List Item}
    (delimiting : ∀ item ∈ items, SelfDelimiting code admitted item) :
    ∀ {others : List Item}, (∀ other ∈ others, admitted other) → ∀ {rest rest' : List Char},
      Stops starts rest → Stops starts rest' →
      items.flatMap code ++ rest = others.flatMap code ++ rest' →
        items = others ∧ rest = rest' := by
  -- What stops is no item followed by a text.
  have stops_no_item : ∀ {text : List Char} {item : Item} {follows : List Char},
      Stops starts text → text ≠ code item ++ follows := by
    rintro text item follows stops rfl
    obtain ⟨char, rest, begun, start⟩ := begins item
    exact stops char (by simp [begun]) start
  induction items with
  | nil =>
      intro others _ rest rest' stops _ same
      cases others with
      | nil => exact ⟨rfl, same⟩
      | cons other others =>
          rw [List.flatMap_nil, List.nil_append, List.flatMap_cons, List.append_assoc] at same
          exact absurd same (stops_no_item stops)
  | cons item items ih =>
      intro others allAdmitted rest rest' stops stops' same
      rw [List.forall_mem_cons] at delimiting
      cases others with
      | nil =>
          rw [List.flatMap_nil, List.nil_append, List.flatMap_cons, List.append_assoc] at same
          exact absurd same.symm (stops_no_item stops')
      | cons other others =>
          rw [List.forall_mem_cons] at allAdmitted
          rw [List.flatMap_cons, List.append_assoc, List.flatMap_cons, List.append_assoc] at same
          obtain ⟨rfl, sameTail⟩ := delimiting.1 other allAdmitted.1 _ _ same
          obtain ⟨rfl, follows⟩ := ih delimiting.2 allAdmitted.2 stops stops' sameTail
          exact ⟨rfl, follows⟩

end Codes

/-! ## Taking items of one kind -/

section Runs

variable {α : Type} {keep : α → Bool} {kept rest : List α}

theorem takeWhile_append_of_stops (all : ∀ item ∈ kept, keep item = true)
    (stops : ∀ item ∈ rest.head?, keep item = false) : (kept ++ rest).takeWhile keep = kept := by
  rw [List.takeWhile_append_of_pos all]
  cases rest with
  | nil => simp
  | cons item rest => simp [stops item rfl]

theorem dropWhile_append_of_stops (all : ∀ item ∈ kept, keep item = true)
    (stops : ∀ item ∈ rest.head?, keep item = false) : (kept ++ rest).dropWhile keep = rest := by
  rw [List.dropWhile_append_of_pos all]
  cases rest with
  | nil => rfl
  | cons item rest => simp [stops item rfl]

/-- What is left after the items of a kind begins with another. -/
theorem head?_dropWhile_stops (keep : α → Bool) (list : List α) :
    ∀ item ∈ (list.dropWhile keep).head?, keep item = false := by
  intro item first
  have stopped := List.head?_dropWhile_not keep list
  rw [first] at stopped
  simpa using stopped

end Runs

end OverpassQuery
