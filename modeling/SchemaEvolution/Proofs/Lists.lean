import Mathlib.Data.List.Forall2

/-!
# Lists

What proofs about several parts of the library use of lists.
-/

namespace SchemaEvolution

/-- Items are read one by one. -/
theorem mapM_map_eq_some {ι item α : Type} {read : item → Option α} {write : ι → item}
    {result : ι → α} {items : List ι} (h : ∀ i ∈ items, read (write i) = some (result i)) :
    (items.map write).mapM read = some (items.map result) := by
  induction items with
  | nil => rfl
  | cons i items ih =>
    rw [List.map_cons, List.mapM_cons, h i List.mem_cons_self,
      ih fun j hj => h j (List.mem_cons_of_mem _ hj)]
    rfl

/-- Reading the items of a list is reading each of them. -/
theorem mapM_eq_some_iff {item α : Type} {read : item → Option α} {items : List item}
    {results : List α} :
    items.mapM read = some results ↔ List.Forall₂ (fun i a => read i = some a) items results := by
  induction items generalizing results with
  | nil => simp [eq_comm]
  | cons i items ih =>
    simp only [List.mapM_cons, Option.bind_eq_bind, Option.bind_eq_some_iff, Option.pure_def,
      Option.some.injEq, List.forall₂_cons_left_iff, ih]
    constructor
    · rintro ⟨a, hread, rest, hrest, rfl⟩
      exact ⟨a, rest, hread, hrest, rfl⟩
    · rintro ⟨a, rest, hread, hrest, rfl⟩
      exact ⟨a, hread, rest, hrest, rfl⟩

/-- An element of a list behind another one stands in either of them. -/
theorem split_append {ι : Type} {first second before after : List ι} {x : ι}
    (h : first ++ second = before ++ x :: after) :
    (∃ later, first = before ++ x :: later) ∨
      ∃ earlier, before = first ++ earlier ∧ second = earlier ++ x :: after := by
  rcases List.append_eq_append_iff.mp h with ⟨earlier, hbefore, hsecond⟩ | ⟨later, hfirst, hrest⟩
  · exact .inr ⟨earlier, hbefore, hsecond⟩
  · cases later with
    | nil =>
      right
      refine ⟨[], ?_, hrest.symm⟩
      rw [hfirst, List.append_nil, List.append_nil]
    | cons y later =>
      left
      obtain ⟨rfl, -⟩ := List.cons.inj hrest
      exact ⟨later, hfirst⟩

/-- A run of elements ends where what follows starts with another one. -/
theorem takeWhile_run {ι : Type} {p : ι → Bool} {run rest : List ι} (hrun : ∀ x ∈ run, p x = true)
    (hrest : ∀ x ∈ rest.head?, p x = false) : (run ++ rest).takeWhile p = run := by
  rw [List.takeWhile_append_of_pos hrun]
  cases rest with
  | nil => rw [List.takeWhile_nil, List.append_nil]
  | cons x rest => rw [List.takeWhile_cons_of_neg (by simp [hrest x rfl]), List.append_nil]

theorem dropWhile_run {ι : Type} {p : ι → Bool} {run rest : List ι} (hrun : ∀ x ∈ run, p x = true)
    (hrest : ∀ x ∈ rest.head?, p x = false) : (run ++ rest).dropWhile p = rest := by
  rw [List.dropWhile_append_of_pos hrun]
  cases rest with
  | nil => rw [List.dropWhile_nil]
  | cons x rest => rw [List.dropWhile_cons_of_neg (by simp [hrest x rfl])]

end SchemaEvolution
