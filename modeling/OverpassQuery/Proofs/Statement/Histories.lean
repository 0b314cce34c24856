import OverpassQuery.Proofs.Statement.Reachable

/-!
# Histories of unions and sequences

A union is offered batches of members, one after the other, and takes some of them
(`UnionStatement.offered`, `UnionStatement.taken`). Whether it takes a batch depends on the
batch alone (`UnionStatement.outcome_extended_eq`), so what became of the batches before does
not matter, and by induction the union is the one that is made at once of all the members
that it took (`UnionStatement.offered_written`). A sequence takes every batch.

What was written once stays: the text of a union up to the end of its members, and the whole
text of a sequence, begin every later text.
-/

set_option autoImplicit false

namespace OverpassQuery

open Statement

/-! ## Unions -/

namespace UnionStatement

/-- A union after batches of members were offered to it in turn, whatever came of them. -/
def offered (union : UnionStatement) (batches : List (List Statement)) : UnionStatement :=
  batches.foldl (fun union batch => (union.extended batch).2) union

/-- The batches that a union takes when they are offered to it in turn. -/
def taken (union : UnionStatement) : List (List Statement) → List (List Statement)
  | [] => []
  | batch :: rest =>
      match union.extended batch with
      | (.ok (), grown) => batch :: taken grown rest
      | (.error _, kept) => taken kept rest

/-- Whether a batch is taken depends on the batch alone. -/
theorem outcome_extended_eq (union other : UnionStatement) (batch : List Statement) :
    (union.extended batch).1 = (other.extended batch).1 := by
  cases found : firstBlockOf? batch with
  | none => rw [extended_of_flat union found, extended_of_flat other found]
  | some inner => rw [extended_of_block union found, extended_of_block other found]

/-- A batch that is refused changes nothing. -/
theorem extended_of_refused {union : UnionStatement} {batch : List Statement} {cause : BuildError}
    (refused : (union.extended batch).1 = .error cause) : (union.extended batch).2 = union := by
  cases found : firstBlockOf? batch with
  | none =>
      rw [extended_of_flat union found] at refused
      exact nomatch refused
  | some inner => rw [extended_of_block union found]

theorem taken_of_flat (union : UnionStatement) {batch : List Statement}
    (flat : firstBlockOf? batch = none) (rest : List (List Statement)) :
    union.taken (batch :: rest)
      = batch :: (written union.result (union.members ++ batch)).taken rest := by
  rw [taken, extended_of_flat union flat]

theorem taken_of_block (union : UnionStatement) {batch : List Statement} {inner : Block}
    (found : firstBlockOf? batch = some inner) (rest : List (List Statement)) :
    union.taken (batch :: rest) = union.taken rest := by
  rw [taken, extended_of_block union found]

/-- Members without a block stay so with the batches that are taken. -/
theorem firstBlockOf?_append_taken (batches : List (List Statement)) :
    ∀ {union : UnionStatement} {members : List Statement}, firstBlockOf? members = none →
      firstBlockOf? (members ++ (union.taken batches).flatten) = none := by
  induction batches with
  | nil =>
      intro union members flat
      rw [taken, List.flatten_nil, List.append_nil]
      exact flat
  | cons batch rest ih =>
      intro union members flat
      cases found : firstBlockOf? batch with
      | some inner =>
          rw [taken_of_block union found]
          exact ih flat
      | none =>
          rw [taken_of_flat union found, List.flatten_cons, ← List.append_assoc]
          refine ih ?_
          rw [firstBlockOf?_append, flat, found, Option.or_none]

/-- **A union with a history is written from what it took.** -/
theorem offered_written (batches : List (List Statement)) :
    ∀ (result : String) (members : List Statement),
      (written result members).offered batches
        = written result (members ++ ((written result members).taken batches).flatten) := by
  induction batches with
  | nil =>
      intro result members
      rw [taken, List.flatten_nil, List.append_nil]
      rfl
  | cons batch rest ih =>
      intro result members
      rw [offered, List.foldl_cons]
      cases found : firstBlockOf? batch with
      | some inner =>
          rw [extended_of_block _ found, taken_of_block _ found]
          exact ih result members
      | none =>
          rw [extended_of_flat _ found, taken_of_flat _ found, List.flatten_cons,
            ← List.append_assoc]
          exact ih result (members ++ batch)

theorem offered_append (union : UnionStatement) (first second : List (List Statement)) :
    union.offered (first ++ second) = (union.offered first).offered second :=
  List.foldl_append

theorem text_written_append (result : String) (members more : List Statement) :
    (written result (members ++ more)).text
      = opening members ++ texts more ++ closing result := by
  rw [written, opening, texts_append, ← String.append_assoc, ← opening]

/-- Up to the end of the members, the text of a union begins its text after more batches. -/
theorem text_offered_append (result : String) (members : List Statement)
    (first second : List (List Statement)) :
    ∃ opened more, ((written result members).offered first).text = opened ++ closing result ∧
      ((written result members).offered (first ++ second)).text
        = opened ++ more ++ closing result := by
  rw [offered_append, offered_written first, offered_written second]
  exact ⟨_, _, rfl, text_written_append result _ _⟩

end UnionStatement

/-! ## Sequences -/

namespace Sequence

/-- A sequence after batches of statements were appended to it in turn. -/
def appended (sequence : Sequence) (batches : List (List Statement)) : Sequence :=
  batches.foldl append sequence

theorem appended_ofList (batches : List (List Statement)) : ∀ statements : List Statement,
    (ofList statements).appended batches = ofList (statements ++ batches.flatten) := by
  induction batches with
  | nil =>
      intro statements
      rw [List.flatten_nil, List.append_nil]
      rfl
  | cons batch rest ih =>
      intro statements
      rw [appended, List.foldl_cons, append, List.flatten_cons, ← List.append_assoc]
      exact ih (statements ++ batch)

theorem appended_append (sequence : Sequence) (first second : List (List Statement)) :
    sequence.appended (first ++ second) = (sequence.appended first).appended second :=
  List.foldl_append

/-- The text of a sequence begins its text after more batches. -/
theorem text_appended_append (statements : List Statement) (first second : List (List Statement)) :
    ∃ more, ((ofList statements).appended (first ++ second)).text
      = ((ofList statements).appended first).text ++ more := by
  rw [appended_append, appended_ofList first, appended_ofList second]
  exact ⟨_, texts_append _ _⟩

/-- A reachable sequence is the one that its statements make. -/
theorem eq_ofList_of_reachable {sequence : Sequence}
    (reachable : (Statement.sequence sequence).Reachable) :
    sequence = ofList sequence.statements := by
  cases reachable.wellFormed with
  | sequence formed => rfl

end Sequence

/-! ## One construction -/

/-- The first batches of some are the first batches of more of them. -/
theorem exists_take_eq_append {earlier later : Nat} (before : earlier ≤ later)
    (batches : List (List Statement)) :
    ∃ between, batches.take later = batches.take earlier ++ between := by
  refine ⟨(batches.take later).drop earlier, ?_⟩
  have first : (batches.take later).take earlier = batches.take earlier := by
    rw [List.take_take, Nat.min_eq_left before]
  rw [← first, List.take_append_drop]

/-- **Any history of appends is one construction.** A union to which batches were offered in
turn is the union made of its first members and of the members of the batches that it took.
A batch that it refused left it as it was, and whether a union takes a batch does not depend
on the union. A sequence to which batches were appended in turn is the sequence of all the
statements. At any time in such a history the text so far begins each later text, for a union
without the end that closes its members. -/
theorem history_eq_construction {result : String} {members : List Statement}
    {union : UnionStatement} (made : UnionStatement.make result members = .ok union)
    {sequence : Sequence} (reachable : (Statement.sequence sequence).Reachable)
    (batches : List (List Statement)) :
    UnionStatement.make result (members ++ (union.taken batches).flatten)
        = .ok (union.offered batches) ∧
      (∀ (held : UnionStatement) (batch : List Statement) (cause : BuildError),
        (held.extended batch).1 = .error cause → (held.extended batch).2 = held) ∧
      (∀ (held other : UnionStatement) (batch : List Statement),
        (held.extended batch).1 = (other.extended batch).1) ∧
      sequence.appended batches = Sequence.ofList (sequence.statements ++ batches.flatten) ∧
      ∀ earlier later, earlier ≤ later →
        (∃ opened more,
          (union.offered (batches.take earlier)).text
            = opened ++ UnionStatement.closing union.result ∧
          (union.offered (batches.take later)).text
            = opened ++ more ++ UnionStatement.closing union.result) ∧
        ∃ more, (sequence.appended (batches.take later)).text
          = (sequence.appended (batches.take earlier)).text ++ more := by
  obtain ⟨flat, rfl⟩ := UnionStatement.make_eq_ok_iff.mp made
  obtain ⟨statements, rfl⟩ : ∃ statements, sequence = Sequence.ofList statements :=
    ⟨_, Sequence.eq_ofList_of_reachable reachable⟩
  refine ⟨?_, fun _ _ _ => UnionStatement.extended_of_refused,
    UnionStatement.outcome_extended_eq, Sequence.appended_ofList batches statements, ?_⟩
  · rw [UnionStatement.make_eq_ok_iff, UnionStatement.offered_written]
    exact ⟨UnionStatement.firstBlockOf?_append_taken batches flat, rfl⟩
  · intro earlier later before
    obtain ⟨between, split⟩ := exists_take_eq_append before batches
    rw [split]
    exact ⟨UnionStatement.text_offered_append _ _ _ _, Sequence.text_appended_append _ _ _⟩

/-- Batches for a union: the second ends with a union, which is refused with all before it. -/
def mixedBatches : List (List Statement) :=
  [[.recurse (.make .up)], [.out (.make .count), .union grownUnion], [.out (.make .center)]]

theorem history_of_mixedBatches :
    (∃ union, UnionStatement.make "" [] = .ok union ∧
      union.taken mixedBatches = [[.recurse (.make .up)], [.out (.make .center)]] ∧
      UnionStatement.make "" [.recurse (.make .up), .out (.make .center)]
        = .ok (union.offered mixedBatches)) ∧
      (Statement.sequence Sequence.empty).Reachable ∧
      Sequence.empty.appended mixedBatches = Sequence.ofList mixedBatches.flatten := by
  have made : UnionStatement.make "" [] = .ok (UnionStatement.written "_" []) := rfl
  have history := history_eq_construction made .emptySequence mixedBatches
  exact ⟨⟨_, made, rfl, history.1⟩, .emptySequence, history.2.2.2.1⟩

end OverpassQuery
