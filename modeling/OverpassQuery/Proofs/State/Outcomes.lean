import Mathlib.Data.List.Forall2

/-!
# Outcomes of computations that can fail

A computation in steps succeeds when each of its steps does. What the makers and readers of
this library have in common is a chain of checks and readings, so these equivalences
open such a chain one step at a time, and nothing else about the step is needed.
-/

set_option autoImplicit false

namespace OverpassQuery

theorem bind_eq_ok_iff {ε α β : Type} {attempt : Except ε α} {next : α → Except ε β}
    {value : β} :
    attempt >>= next = .ok value ↔ ∃ middle, attempt = .ok middle ∧ next middle = .ok value := by
  cases attempt with
  | error cause => simp [bind, Except.bind]
  | ok middle => simp [bind, Except.bind]

theorem bind_eq_error_iff {ε α β : Type} {attempt : Except ε α} {next : α → Except ε β}
    {cause : ε} :
    attempt >>= next = .error cause ↔
      attempt = .error cause ∨ ∃ middle, attempt = .ok middle ∧ next middle = .error cause := by
  cases attempt with
  | error refusal => simp [bind, Except.bind]
  | ok middle => simp [bind, Except.bind]

theorem map_eq_ok_iff {ε α β : Type} {attempt : Except ε α} {finish : α → β} {value : β} :
    attempt.map finish = .ok value ↔ ∃ result, attempt = .ok result ∧ finish result = value := by
  cases attempt with
  | error cause => simp [Except.map]
  | ok result => simp [Except.map]

theorem map_eq_error_iff {ε α β : Type} {attempt : Except ε α} {finish : α → β} {cause : ε} :
    attempt.map finish = .error cause ↔ attempt = .error cause := by
  cases attempt with
  | error refusal => simp [Except.map]
  | ok result => simp [Except.map]

theorem check_bind_eq_ok_iff {ε α : Type} {check : Except ε Unit} {next : Except ε α}
    {value : α} :
    (do check; next) = Except.ok value ↔ check = .ok () ∧ next = .ok value := by
  rw [bind_eq_ok_iff]
  exact ⟨fun ⟨_, checked, done⟩ => ⟨checked, done⟩, fun ⟨checked, done⟩ => ⟨(), checked, done⟩⟩

/-- What fails is the check, or after it what follows. -/
theorem check_bind_eq_error_iff {ε α : Type} {check : Except ε Unit} {next : Except ε α}
    {cause : ε} :
    (do check; next) = Except.error cause ↔
      check = .error cause ∨ check = .ok () ∧ next = .error cause := by
  rw [bind_eq_error_iff]
  exact or_congr_right
    ⟨fun ⟨_, checked, failed⟩ => ⟨checked, failed⟩, fun ⟨checked, failed⟩ => ⟨(), checked, failed⟩⟩

/-- A maker that checks and then writes succeeds when the check does. -/
theorem checked_eq_ok_iff {ε α : Type} {check : Except ε Unit} {written value : α} :
    (do check; return written) = Except.ok value ↔ check = .ok () ∧ value = written := by
  rw [check_bind_eq_ok_iff]
  exact and_congr_right fun _ => Except.ok.injEq written value ▸ eq_comm

theorem mapError_eq_error_iff {ε ε' α : Type} {attempt : Except ε α} {rename : ε → ε'}
    {cause : ε'} :
    attempt.mapError rename = .error cause ↔
      ∃ inner, attempt = .error inner ∧ rename inner = cause := by
  cases attempt with
  | error inner =>
      show Except.error (rename inner) = .error cause ↔ _
      simp
  | ok result => exact iff_of_false nofun nofun

/-- A check that refuses for no cause passes. -/
theorem check_eq_ok_iff_no_cause {ε : Type} {check : Except ε Unit} :
    check = .ok () ↔ ∀ cause, check ≠ .error cause := by
  cases check with
  | error cause => simp
  | ok passed => simp

/-- Of the items of a list the first that is refused decides, and the items before it pass. -/
theorem forM_eq_error_iff {ε α : Type} {items : List α} {check : α → Except ε Unit} {cause : ε} :
    forM items check = .error cause ↔
      ∃ before item after, items = before ++ item :: after ∧
        (∀ earlier ∈ before, check earlier = .ok ()) ∧ check item = .error cause := by
  induction items with
  | nil =>
      constructor
      · intro refused
        cases refused
      · rintro ⟨before, item, after, split, -⟩
        cases before <;> cases split
  | cons first rest ih =>
      rw [List.forM_cons, check_bind_eq_error_iff, ih]
      constructor
      · rintro (refused | ⟨passed, before, item, after, rfl, earlier, refused⟩)
        · exact ⟨[], first, rest, rfl, nofun, refused⟩
        · refine ⟨first :: before, item, after, rfl, ?_, refused⟩
          exact List.forall_mem_cons.mpr ⟨passed, earlier⟩
      · rintro ⟨before, item, after, split, earlier, refused⟩
        cases before with
        | nil =>
            obtain ⟨rfl, rfl⟩ := List.cons.inj split
            exact .inl refused
        | cons head before =>
            obtain ⟨rfl, rfl⟩ := List.cons.inj split
            rw [List.forall_mem_cons] at earlier
            exact .inr ⟨earlier.1, before, item, after, rfl, earlier.2, refused⟩

/-- Items have results one by one when each of them has one. -/
theorem exists_forall₂_iff {α β : Type} {yields : α → β → Prop} {items : List α} :
    (∃ results, List.Forall₂ yields items results) ↔
      ∀ item ∈ items, ∃ result, yields item result := by
  induction items with
  | nil => exact iff_of_true ⟨[], .nil⟩ nofun
  | cons item items ih =>
      rw [List.forall_mem_cons, ← ih]
      simp only [List.forall₂_cons_left_iff]
      constructor
      · rintro ⟨_, result, results, yielded, more, -⟩
        exact ⟨⟨result, yielded⟩, results, more⟩
      · rintro ⟨⟨result, yielded⟩, results, more⟩
        exact ⟨_, result, results, yielded, more, rfl⟩

/-- Every result comes from an item. -/
theorem exists_item_of_forall₂ {α β : Type} {yields : α → β → Prop} {items : List α}
    {results : List β} (yielded : List.Forall₂ yields items results) :
    ∀ result ∈ results, ∃ item ∈ items, yields item result := by
  induction yielded with
  | nil => exact nofun
  | cons first _ ih =>
      refine List.forall_mem_cons.mpr ⟨⟨_, List.mem_cons_self, first⟩, fun result member => ?_⟩
      obtain ⟨item, within, yielded⟩ := ih result member
      exact ⟨item, List.mem_cons_of_mem _ within, yielded⟩

/-- Reading all items of a list succeeds when each is read. -/
theorem mapM_eq_ok_iff {ε α β : Type} {items : List α} {read : α → Except ε β} {results : List β} :
    items.mapM read = .ok results ↔
      List.Forall₂ (fun item result => read item = .ok result) items results := by
  induction items generalizing results with
  | nil =>
      rw [List.mapM_nil, List.forall₂_nil_left_iff]
      exact Except.ok.injEq [] results ▸ eq_comm
  | cons item items ih =>
      rw [List.mapM_cons, bind_eq_ok_iff, List.forall₂_cons_left_iff]
      refine exists_congr fun result => ?_
      rw [bind_eq_ok_iff]
      constructor
      · rintro ⟨done, others, rest, ⟨⟩⟩
        exact ⟨others, done, ih.mp rest, rfl⟩
      · rintro ⟨others, done, rest, rfl⟩
        exact ⟨done, others, ih.mpr rest, rfl⟩

/-- Reading all items of a list checks each of them. -/
theorem mapM_map_unit {ε α β : Type} (items : List α) (read : α → Except ε β) :
    (items.mapM read).map (fun _ => ()) = forM items fun item => (read item).map fun _ => () := by
  induction items with
  | nil => rfl
  | cons item items ih =>
      rw [List.mapM_cons, List.forM_cons, ← ih]
      cases read item with
      | error cause => rfl
      | ok result =>
          cases items.mapM read with
          | error cause => rfl
          | ok results => rfl

/-- Of the items of a list the first that cannot be read decides. -/
theorem mapM_eq_error_iff {ε α β : Type} {items : List α} {read : α → Except ε β} {cause : ε} :
    items.mapM read = .error cause ↔
      ∃ before item after, items = before ++ item :: after ∧
        (∀ earlier ∈ before, ∃ result, read earlier = .ok result) ∧ read item = .error cause := by
  have checked : (items.mapM read).map (fun _ => ()) = .error cause ↔
      ∃ before item after, items = before ++ item :: after ∧
        (∀ earlier ∈ before, (read earlier).map (fun _ => ()) = .ok ()) ∧
          (read item).map (fun _ => ()) = .error cause := by
    rw [mapM_map_unit, forM_eq_error_iff]
  simpa only [map_eq_error_iff, map_eq_ok_iff, and_true] using checked

theorem mapM_eq_some_iff {α β : Type} {items : List α} {read? : α → Option β} {results : List β} :
    items.mapM read? = some results ↔
      List.Forall₂ (fun item result => read? item = some result) items results := by
  induction items generalizing results with
  | nil =>
      rw [List.mapM_nil, List.forall₂_nil_left_iff]
      exact Option.some.injEq [] results ▸ eq_comm
  | cons item items ih =>
      simp only [List.mapM_cons, Option.bind_eq_bind, Option.bind_eq_some_iff,
        List.forall₂_cons_left_iff, ih, pure, Option.some.injEq]
      refine exists_congr fun result => ?_
      constructor
      · rintro ⟨done, others, rest, rfl⟩
        exact ⟨others, done, rest, rfl⟩
      · rintro ⟨others, done, rest, rfl⟩
        exact ⟨done, others, rest, rfl⟩

theorem mapError_eq_ok_iff {ε ε' α : Type} {attempt : Except ε α} {rename : ε → ε'} {value : α} :
    attempt.mapError rename = .ok value ↔ attempt = .ok value := by
  cases attempt with
  | error cause => exact iff_of_false nofun nofun
  | ok result =>
      constructor
      · rintro ⟨⟩
        rfl
      · rintro ⟨⟩
        rfl

end OverpassQuery
