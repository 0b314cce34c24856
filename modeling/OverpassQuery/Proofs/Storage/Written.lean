import Mathlib.Data.List.Basic
import OverpassQuery.Proofs.State.Outcomes
import OverpassQuery.Proofs.Text.SelfDelimiting
import OverpassQuery.Storage

/-!
# Files after a file is written

A path leads to a place through directories only, so it leads to the same place once a file there
has got new content (`FileTree.follow_put_eq_ok_iff`). The file is read back under the path that
it was written to, and nothing else in the tree is touched (`FileTree.hasWritten_of_write`).
-/

set_option autoImplicit false

namespace OverpassQuery

namespace FileTree

/-! ## One file -/

theorem content?_put_self (tree : FileTree) (place : FilePath) (content : Bytes) :
    (tree.put place content).content? place = some content :=
  List.lookup_cons_self

theorem content?_put_of_ne (tree : FileTree) {place other : FilePath} (content : Bytes)
    (elsewhere : other ≠ place) :
    (tree.put place content).content? other = tree.content? other := by
  have kept : ∀ files : List (FilePath × Bytes),
      (files.filter (·.1 ≠ place)).lookup other = files.lookup other := by
    intro files
    induction files with
    | nil => rfl
    | cons file files ih =>
        obtain ⟨name, old⟩ := file
        by_cases replaced : name = place
        · have passed : (other == name) = false := by simp [replaced, elsewhere]
          rw [List.filter_cons_of_neg (by simp [replaced]), List.lookup_cons, passed]
          exact ih
        · rw [List.filter_cons_of_pos (by simp [replaced]), List.lookup_cons, List.lookup_cons, ih]
  have notNew : (other == place) = false := beq_eq_false_iff_ne.mpr elsewhere
  rw [content?, put, List.lookup_cons, notNew]
  exact kept tree.files

/-! ## Paths after a file is written -/

/-- Files do not count on the way to a place. -/
theorem walk_put_eq_ok_iff {tree : FileTree} {changed target : FilePath} {content : Bytes}
    (names : List String) : ∀ {place : FilePath},
      (tree.put changed content).walk place names = .ok target ↔
        tree.walk place names = .ok target := by
  induction names with
  | nil => exact Iff.rfl
  | cons name names ih =>
      intro place
      have same : (tree.put changed content).isDirectory place = tree.isDirectory place := rfl
      rw [walk, walk, same]
      split
      · split
        · exact ih
        · split
          · exact ih
          · split
            · simp
            · exact ih
      · -- A way that no directory stands on ends in one failure or another.
        constructor
        · intro led
          split at led
          · cases led
          · cases led
        · intro led
          split at led
          · cases led
          · cases led

theorem follow_put_eq_ok_iff {tree : FileTree} {changed target : FilePath} {content : Bytes}
    (path : String) (names : List String) :
    (tree.put changed content).follow path names = .ok target ↔
      tree.follow path names = .ok target := by
  unfold follow
  split
  · simp
  · split
    · simp
    · split
      · simp
      · exact walk_put_eq_ok_iff names

/-- The last piece of a text that is cut at slashes is empty only if the text ends with one. -/
theorem getLast?_splitOn_ne_nil {chars : List Char} (nonempty : chars ≠ [])
    (noSlash : chars.getLast? ≠ some '/') : (chars.splitOn '/').getLast? ≠ some [] := by
  induction chars with
  | nil => exact absurd rfl nonempty
  | cons char rest ih =>
      rw [List.splitOn_cons_eq_if_modifyHead]
      cases rest with
      | nil =>
          have noSlash : char ≠ '/' := by simpa using noSlash
          simp [noSlash]
      | cons next rest =>
          have last := ih (List.cons_ne_nil next rest) (by simpa using noSlash)
          obtain ⟨piece, pieces, cut⟩ := List.exists_cons_of_ne_nil
            (List.splitOn_ne_nil '/' (next :: rest))
          rw [cut] at last ⊢
          split
          · simpa using last
          · cases pieces with
            | nil => simp
            | cons second pieces => simpa using last

theorem namesToLast_eq {path : String} (nonempty : path ≠ "")
    (noSlash : path.toList.getLast? ≠ some '/') : namesToLast path = names path := by
  have chars : path.toList ≠ [] := fun none => nonempty (String.toList_eq_nil_iff.mp none)
  have last := getLast?_splitOn_ne_nil chars noSlash
  have stops : ∀ name ∈ (names path).reverse.head?, decide (name = "") = false := by
    intro name first
    rw [List.head?_reverse, names, List.getLast?_map, Option.mem_def,
      Option.map_eq_some_iff] at first
    obtain ⟨piece, isLast, rfl⟩ := first
    refine decide_eq_false fun empty => last ?_
    rw [isLast, String.ofList_eq_empty_iff.mp empty]
  have kept : (names path).reverse.dropWhile (· = "") = (names path).reverse :=
    @dropWhile_append_of_stops _ _ [] _ nofun stops
  rw [namesToLast, kept, List.reverse_reverse]

/-! ## Written trees -/

/-- A tree in which the file under a path has got some content, and all else is as it was in
another tree. -/
structure HasWritten (tree : FileTree) (path : String) (content : Bytes) (written : FileTree) :
    Prop where
  read : written.read path = .ok content
  /-- The path leads where it led before, and nothing changed elsewhere. -/
  elsewhere : ∃ place, tree.locate path = .ok place ∧ written.locate path = .ok place ∧
    ∀ other, other ≠ place → written.content? other = tree.content? other
  directories : written.directories = tree.directories
  workingDirectory : written.workingDirectory = tree.workingDirectory

/-- **A file is read back under the path that it was written to, and nothing else is touched.** -/
theorem hasWritten_of_write {tree written : FileTree} {path : String} {content : Bytes}
    (wrote : tree.write path content = .ok written) : tree.HasWritten path content written := by
  obtain ⟨place, followed, wrote⟩ := bind_eq_ok_iff.mp wrote
  split at wrote
  · cases wrote
  · next refused =>
    obtain ⟨noDirectory, noSlash⟩ := not_or.mp refused
    cases wrote
    have nonempty : path ≠ "" := by
      rintro rfl
      cases followed
    have located : tree.locate path = .ok place := by
      rw [locate, ← namesToLast_eq nonempty noSlash]
      exact followed
    have relocated : (tree.put place content).locate path = .ok place :=
      (follow_put_eq_ok_iff path (names path)).mpr located
    refine ⟨?_, ⟨place, located, relocated, fun other elsewhere => ?_⟩, rfl, rfl⟩
    · have same : (tree.put place content).isDirectory place = tree.isDirectory place := rfl
      rw [FileTree.read, relocated]
      simp [bind, Except.bind, same, noDirectory, content?_put_self]
    · exact tree.content?_put_of_ne content elsewhere

end FileTree

end OverpassQuery
