import SchemaEvolution.Migration.Basic
import SchemaEvolution.Proofs.Lists

/-!
# Operations and their inverses

Undoing a list of operations turns its order around, is possible exactly if each of them can be
undone, and gives the list back when it is done twice (`reverseAll_is_partial_involution`). Logic
that is built from operations can be undone in the same cases, by the inverses.
-/

namespace SchemaEvolution.Operation

variable {op back again : Operation} {ops first second undo twice : List Operation}

/-- What has an inverse that has an inverse is a renaming, a change of a column from a known one, or
a statement that comes with the one that undoes it. Its parts change places, and back again. -/
theorem reverse_reverse (hback : op.reverse = some back) (hagain : back.reverse = some again) :
    again = op := by
  cases op with
  | renameTable | renameColumn =>
    cases hback
    cases hagain
    rfl
  | modifyColumn table name column previous =>
    obtain ⟨previous, rfl, rfl⟩ := Option.map_eq_some_iff.mp hback
    cases hagain
    rfl
  | runSql forward backward =>
    obtain ⟨backward, rfl, rfl⟩ := Option.map_eq_some_iff.mp hback
    cases hagain
    rfl
  | insert table columns values =>
    obtain ⟨filter, -, rfl⟩ := Option.map_eq_some_iff.mp hback
    cases hagain
  | createTable | addColumn | addPrimaryKey | addForeignKey | addUniqueKey | addIndex
  | addTableComment | addColumnComment =>
    cases hback
    cases hagain
  | dropTable | dropColumn | dropPrimaryKey | dropForeignKey | dropUniqueKey | dropIndex
  | removeTableComment | removeColumnComment | update | delete => cases hback

/-- A list is undone by the inverses of its operations, one by one, the last one first. -/
theorem reverseAll_eq_some_iff :
    reverseAll ops = some undo ↔
      List.Forall₂ (fun op back => op.reverse = some back) ops undo.reverse := by
  rw [reverseAll, mapM_eq_some_iff, ← List.forall₂_reverse_iff, List.reverse_reverse]

/-- Two lists one after the other are undone if both are, the second one first. -/
theorem reverseAll_append_eq_some_iff :
    reverseAll (first ++ second) = some undo ↔
      ∃ undoFirst undoSecond, reverseAll first = some undoFirst ∧
        reverseAll second = some undoSecond ∧ undo = undoSecond ++ undoFirst := by
  simp only [reverseAll, List.reverse_append, List.mapM_append, Option.bind_eq_bind,
    Option.bind_eq_some_iff, Option.pure_def, Option.some.injEq]
  constructor
  · rintro ⟨undoSecond, hsecond, undoFirst, hfirst, rfl⟩
    exact ⟨undoFirst, undoSecond, hfirst, hsecond, rfl⟩
  · rintro ⟨undoFirst, undoSecond, hfirst, hsecond, rfl⟩
    exact ⟨undoSecond, hsecond, undoFirst, hfirst, rfl⟩

theorem reverseAll_singleton (op : Operation) :
    reverseAll [op] = op.reverse.map fun back => [back] := by
  cases hop : op.reverse <;> simp [reverseAll, hop]

theorem reverseAll_cons_eq_some_iff :
    reverseAll (op :: ops) = some undo ↔
      ∃ back undoRest, op.reverse = some back ∧ reverseAll ops = some undoRest ∧
        undo = undoRest ++ [back] := by
  rw [← List.singleton_append, reverseAll_append_eq_some_iff]
  constructor
  · rintro ⟨undoOp, undoRest, hop, hrest, rfl⟩
    rw [reverseAll_singleton] at hop
    obtain ⟨back, hback, rfl⟩ := Option.map_eq_some_iff.mp hop
    exact ⟨back, undoRest, hback, hrest, rfl⟩
  · rintro ⟨back, undoRest, hback, hrest, rfl⟩
    exact ⟨[back], undoRest, by rw [reverseAll_singleton, hback, Option.map_some], hrest, rfl⟩

/-- A list is undone exactly if all its operations are. -/
theorem isSome_reverseAll_iff :
    (reverseAll ops).isSome = true ↔ ∀ op ∈ ops, op.isReversible = true := by
  induction ops with
  | nil => simp [reverseAll]
  | cons op rest ih =>
    rw [List.forall_mem_cons, ← ih]
    simp only [isReversible, Option.isSome_iff_exists, reverseAll_cons_eq_some_iff]
    constructor
    · rintro ⟨undo, back, undoRest, hback, hrest, rfl⟩
      exact ⟨⟨back, hback⟩, undoRest, hrest⟩
    · rintro ⟨⟨back, hback⟩, undoRest, hrest⟩
      exact ⟨_, back, undoRest, hback, hrest, rfl⟩

theorem length_reverseAll (hundo : reverseAll ops = some undo) : undo.length = ops.length := by
  rw [(reverseAll_eq_some_iff.mp hundo).length_eq, List.length_reverse]

/-- The inverses of the inverses of some operations, one by one, are these. -/
private theorem eq_of_inverses {inverses : List Operation}
    (hback : List.Forall₂ (fun op back => op.reverse = some back) ops inverses)
    (hagain : List.Forall₂ (fun op back => op.reverse = some back) inverses twice) :
    twice = ops := by
  induction hback generalizing twice with
  | nil => exact List.forall₂_nil_left_iff.mp hagain
  | cons hop _ ih =>
    obtain ⟨again, rest, hreverse, hrest, rfl⟩ := List.forall₂_cons_left_iff.mp hagain
    rw [reverse_reverse hop hreverse, ih hrest]

/-- What undoes the inverses of a list is the list. -/
theorem reverseAll_reverseAll (hundo : reverseAll ops = some undo)
    (htwice : reverseAll undo = some twice) : twice = ops := by
  have hagain := List.forall₂_reverse_iff.mpr (reverseAll_eq_some_iff.mp htwice)
  rw [List.reverse_reverse] at hagain
  exact eq_of_inverses (reverseAll_eq_some_iff.mp hundo) hagain

/-- Applying operations is applying each of them, in order. -/
theorem applyAll_eq_forM (c : Client) (ops : List Operation) :
    applyAll c ops = forM ops fun op => op.apply c := by
  induction ops with
  | nil => rfl
  | cons op rest ih => rw [applyAll, ih, List.forM_cons]

/-- Undoing turns the order of two lists around and is possible for both or for neither. A list can
be undone exactly if each of its operations can, in as many operations, and what undoes these is the
list itself. Logic that is built from a list applies its operations in order; it can be undone
exactly if the list can, by applying what undoes the list. -/
theorem reverseAll_is_partial_involution (xs ys : List Operation) :
    (∀ undo, reverseAll (xs ++ ys) = some undo ↔
      ∃ undoXs undoYs, reverseAll xs = some undoXs ∧ reverseAll ys = some undoYs ∧
        undo = undoYs ++ undoXs) ∧
    ((reverseAll xs).isSome = true ↔ ∀ op ∈ xs, op.isReversible = true) ∧
    (∀ undo, reverseAll xs = some undo →
      undo.length = xs.length ∧ ∀ twice, reverseAll undo = some twice → twice = xs) ∧
    (Logic.ofOperations xs).isReversible = (reverseAll xs).isSome ∧
    ((Logic.ofOperations xs).up = fun c => forM xs fun op => op.apply c) ∧
    (Logic.ofOperations xs).down? =
      (reverseAll xs).map fun undo c => forM undo fun op => op.apply c := by
  refine ⟨fun undo => reverseAll_append_eq_some_iff, isSome_reverseAll_iff, fun undo hundo =>
    ⟨length_reverseAll hundo, fun twice htwice => reverseAll_reverseAll hundo htwice⟩, ?_⟩
  simp only [← applyAll_eq_forM, Logic.ofOperations]
  cases reverseAll xs <;> exact ⟨rfl, rfl, rfl⟩

/-- A renaming and a change of a column are undone and redone. A row without columns cannot be
deleted, so its insertion is not undone. -/
theorem reverseAll_is_partial_involution_of_column :
    reverseAll [.renameTable "a" "b",
        .modifyColumn "b" "x" (.ofType "x" .text) (some (.integer "x"))] =
      some [.modifyColumn "b" "x" (.integer "x") (some (.ofType "x" .text)), .renameTable "b" "a"] ∧
    (∀ twice, reverseAll [.modifyColumn "b" "x" (.integer "x") (some (.ofType "x" .text)),
        .renameTable "b" "a"] = some twice →
      twice = [.renameTable "a" "b",
        .modifyColumn "b" "x" (.ofType "x" .text) (some (.integer "x"))]) ∧
    (Logic.ofOperations [.renameTable "a" "b", .insert "b" [] []]).isReversible = false := by
  have hundo : reverseAll [.renameTable "a" "b",
        .modifyColumn "b" "x" (.ofType "x" .text) (some (.integer "x"))] =
      some [.modifyColumn "b" "x" (.integer "x") (some (.ofType "x" .text)),
        .renameTable "b" "a"] := rfl
  refine ⟨hundo, ((reverseAll_is_partial_involution _ []).2.2.1 _ hundo).2, ?_⟩
  exact (reverseAll_is_partial_involution _ []).2.2.2.1

end SchemaEvolution.Operation
