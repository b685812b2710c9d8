import SchemaEvolution.Sqlite.Connection

/-!
# Engines that control transactions

What there is to see of an engine, and what it does to that when it begins and ends transactions and
when it runs statements that do neither (`Engine.Controls`). The built-in store is such an engine
(`controls_storeEngine`).
-/

namespace SchemaEvolution.Sqlite

/-- What there is to see of an engine: the data that the connection sees, the data that a new
connection would see, and whether a transaction is open. -/
structure View (σ δ : Type) where
  data : σ → δ
  durable : σ → δ
  isOpen : σ → Bool

/-- Two states that look alike. -/
structure View.Same {σ δ : Type} (v : View σ δ) (s s' : σ) : Prop where
  data : v.data s' = v.data s
  durable : v.durable s' = v.durable s
  isOpen : v.isOpen s' = v.isOpen s

/-- The statements that begin and end transactions. -/
def controlTexts : List String := ["BEGIN", "COMMIT", "ROLLBACK"]

/-- An engine runs these three statements as transaction control, and the ordinary ones within the
open transaction or, if there is none, durably. What fails has no effect. Closing ends the connection
also where it fails, and what is not committed is discarded with it. -/
structure Engine.Controls {σ δ : Type} (e : Engine σ) (v : View σ δ) (isOrdinary : String → Prop) :
    Prop where
  not_control : ∀ {sql}, isOrdinary sql → sql ∉ controlTexts
  begins : ∀ {s outcome s'}, v.isOpen s = false → e.run "BEGIN" [] s = (.ok outcome, s') →
    v.isOpen s' = true ∧ v.data s' = v.data s ∧ v.durable s' = v.durable s
  commits : ∀ {s outcome s'}, v.isOpen s = true → e.run "COMMIT" [] s = (.ok outcome, s') →
    v.isOpen s' = false ∧ v.data s' = v.data s ∧ v.durable s' = v.data s
  rollsBack : ∀ {s outcome s'}, v.isOpen s = true → e.run "ROLLBACK" [] s = (.ok outcome, s') →
    v.isOpen s' = false ∧ v.data s' = v.durable s ∧ v.durable s' = v.durable s
  runsWithin : ∀ {sql values s outcome s'}, isOrdinary sql → v.isOpen s = true →
    e.run sql values s = (.ok outcome, s') → v.isOpen s' = true ∧ v.durable s' = v.durable s
  runsAlone : ∀ {sql values s outcome s'}, isOrdinary sql → v.isOpen s = false →
    e.run sql values s = (.ok outcome, s') → v.isOpen s' = false ∧ v.durable s' = v.data s'
  fails : ∀ {sql values s cause s'}, isOrdinary sql ∨ sql ∈ controlTexts →
    e.run sql values s = (.error cause, s') → v.Same s s'
  closes : ∀ {s answer s'}, e.close s = (answer, s') →
    v.isOpen s' = false ∧ v.data s' = v.durable s ∧ v.durable s' = v.durable s

/-! ### The built-in store -/

namespace Store

/-- The tables that are not temporary. A new connection sees what there was before the open
transaction. -/
def view : View Store (List StoredTable) where
  data s := s.tables.filter fun t => !t.temporary
  durable s := (s.saved.getD s.tables).filter fun t => !t.temporary
  isOpen s := s.saved.isSome

/-- A text that holds one statement. -/
def Holds (sql : String) (statement : Statement) : Prop :=
  ∃ rest, Statement.next (Lexeme.ofStatements sql) = .ok (some (statement, rest)) ∧
    Statement.next rest = .ok none

theorem Holds.unique {sql : String} {first second : Statement} (h : Holds sql first)
    (h' : Holds sql second) : first = second := by
  obtain ⟨rest, hfirst, -⟩ := h
  obtain ⟨rest', hsecond, -⟩ := h'
  rw [hfirst] at hsecond
  cases hsecond
  rfl

/-- A text with one statement is run by carrying that out. -/
theorem run_of_holds {sql : String} {statement : Statement} (h : Holds sql statement)
    (bound : List Value) (s : Store) :
    Store.run sql bound s =
      ((s.carryOut bound statement).1.map fun result =>
          ⟨joined {} result, 0 + (s.carryOut bound statement).2.changes⟩,
        (s.carryOut bound statement).2) := by
  obtain ⟨rest, hnext, hlast⟩ := h
  have hend (fuel : Nat) (outcome : Outcome) (s : Store) :
      runAll bound fuel rest outcome s = (.ok outcome, s) := by
    cases fuel with
    | zero => rfl
    | succ fuel => simp only [runAll, hlast]
  simp only [Store.run, runAll, hnext]
  cases hcarried : s.carryOut bound statement with
  | mk answer after =>
    cases answer with
    | error cause => rfl
    | ok result => exact hend _ _ _

/-- Statements that neither begin nor end transactions; an insert may roll one back. -/
def leavesTransactions : Statement → Bool
  | .begin | .commit | .rollback | .insert _ _ _ _ => false
  | _ => true

/-- Whether a text holds one such statement. -/
def isOrdinary (sql : String) : Bool :=
  match Statement.next (Lexeme.ofStatements sql) with
  | .ok (some (statement, rest)) =>
    leavesTransactions statement && (Statement.next rest matches .ok none)
  | _ => false

theorem holds_of_isOrdinary {sql : String} (h : isOrdinary sql = true) :
    ∃ statement, Holds sql statement ∧ leavesTransactions statement = true := by
  rw [isOrdinary] at h
  split at h
  · next statement rest hnext =>
    obtain ⟨hleaves, hlast⟩ := (Bool.and_eq_true _ _).mp h
    refine ⟨statement, ⟨rest, hnext, ?_⟩, hleaves⟩
    split at hlast
    · assumption
    · cases hlast
  · cases h

private theorem exists_of_bind_eq_ok {α β : Type} {x : Except BackendError α}
    {f : α → Except BackendError β} {b : β} (h : x >>= f = .ok b) : ∃ a, f a = .ok b := by
  cases x with
  | ok a => exact ⟨a, h⟩
  | error cause => cases h

theorem saved_withoutRows {s after : Store} {t : StoredTable} {gone : List Int}
    (h : s.withoutRows t gone = .ok after) : after.saved = s.saved := by
  rw [withoutRows] at h
  split at h
  · cases h
    rfl
  · obtain ⟨⟨tables, count, others⟩, hchecked⟩ := exists_of_bind_eq_ok h
    obtain ⟨_, hafter⟩ := exists_of_bind_eq_ok hchecked
    cases hafter
    rfl

theorem saved_remove_forgetGiven (s : Store) (t : StoredTable) :
    ((s.remove t).forgetGiven t).saved = s.saved := by
  rw [forgetGiven]
  repeat' split
  all_goals rfl

/-- The open transaction is the same, and the tables are if the change failed. -/
structure Keeps {α : Type} (s : Store) (change : Change α) : Prop where
  saved : change.2.saved = s.saved
  tables : change.1.isOk = false → change.2.tables = s.tables

namespace Keeps

variable {α : Type} {s : Store}

theorem failed (cause : BackendError) : Keeps s (s.failed cause : Change α) := ⟨rfl, fun _ => rfl⟩

theorem interrupted (cause : BackendError) : Keeps s (s.interrupted cause : Change α) :=
  ⟨rfl, fun _ => rfl⟩

theorem of_ok {answer : α} {s' : Store} (h : s'.saved = s.saved) :
    Keeps s ((.ok answer, s') : Change α) := ⟨h, nofun⟩

/-- A change of a store that differs in other things. -/
theorem of_same {s' : Store} {change : Change α} (h : Keeps s' change) (hsaved : s'.saved = s.saved)
    (htables : s'.tables = s.tables) : Keeps s change :=
  ⟨h.saved.trans hsaved, fun herror => (h.tables herror).trans htables⟩

theorem evaluating (e : Evaluation α) : Keeps s (s.evaluating e) := by
  rw [Store.evaluating]
  split
  · exact of_ok rfl
  · exact failed _

theorem select (bound : List Value) (columns : List ResultColumn) (table : Option TableRef)
    (condition : Option Expression) : Keeps s (s.select bound columns table condition) := by
  rw [Store.select]
  split
  · exact (evaluating _).of_same rfl rfl
  · exact failed _

theorem hasRow (bound : List Value) (table : TableRef) (condition : Option Expression)
    (written : String) : Keeps s (s.hasRow bound table condition written) := by
  rw [Store.hasRow]
  split
  · next temporary e _ =>
    have hevaluated : Keeps s ((s.used temporary).evaluating e) :=
      (evaluating e).of_same rfl rfl
    refine ⟨hevaluated.saved, fun herror => hevaluated.tables ?_⟩
    cases hanswer : ((s.used temporary).evaluating e).1 with
    | error cause => rfl
    | ok rows => simp [hanswer, Except.map, Except.isOk, Except.toBool] at herror
  · exact failed _

theorem createTable (temporary ifMissing : Bool) (table : TableRef) (d : Declaration)
    (source : String) : Keeps s (s.createTable temporary ifMissing table d source) := by
  rw [Store.createTable]
  split
  · exact failed _
  · next temporary isThere _ =>
    dsimp only
    split
    · next after hafter =>
      apply of_ok
      split at hafter
      · split at hafter
        · cases hafter
        · cases hafter
          rfl
      · obtain ⟨t, hwritable⟩ := exists_of_bind_eq_ok hafter
        obtain ⟨_, hadded⟩ := exists_of_bind_eq_ok hwritable
        cases hadded
        rfl
    · exact (failed _).of_same rfl rfl

theorem dropTable (ifPresent : Bool) (table : TableRef) :
    Keeps s (s.dropTable ifPresent table) := by
  rw [Store.dropTable]
  split
  · exact failed _
  · exact of_ok rfl
  · next t _ =>
    split
    · exact interrupted _
    · next emptied hemptied =>
      have hsaved := (saved_remove_forgetGiven emptied t).trans (saved_withoutRows hemptied)
      dsimp only
      split
      · exact of_ok hsaved
      · exact of_ok hsaved

theorem delete (bound : List Value) (table : TableRef) (condition : Option Expression) :
    Keeps s (s.delete bound table condition) := by
  rw [Store.delete]
  split
  · exact failed _
  · split
    · exact interrupted _
    · exact interrupted _
    · split
      · exact interrupted _
      · next after hafter =>
        have hsaved : after.saved = s.saved := saved_withoutRows hafter
        exact of_ok hsaved

theorem noting {change : Change α} {table : TableRef} (h : Keeps (s.noting table) change) :
    Keeps s change := by
  have hsame : (s.noting table).saved = s.saved ∧ (s.noting table).tables = s.tables := by
    rw [Store.noting]
    split <;> exact ⟨rfl, rfl⟩
  exact h.of_same hsame.1 hsame.2

/-- A statement that leaves transactions alone keeps the open one. -/
theorem carryOut {statement : Statement} (h : leavesTransactions statement = true)
    (bound : List Value) : Keeps s (s.carryOut bound statement) := by
  cases statement with
  | select columns table condition =>
    cases table with
    | none => exact select bound columns none condition
    | some table => exact (select bound columns (some table) condition).noting
  | hasRow table condition written => exact (hasRow bound table condition written).noting
  | createTable temporary ifMissing table declaration source =>
    exact createTable temporary ifMissing table declaration source
  | dropTable ifPresent table => exact (dropTable ifPresent table).noting
  | delete table condition => exact (delete bound table condition).noting
  | _ => cases h

end Keeps

/-- An ordinary text keeps the open transaction. -/
theorem keeps_run {sql : String} (h : isOrdinary sql = true) (bound : List Value) (s : Store) :
    (Store.run sql bound s).2.saved = s.saved ∧
      ∀ cause, (Store.run sql bound s).1 = .error cause →
        (Store.run sql bound s).2.tables = s.tables := by
  obtain ⟨statement, hholds, hleaves⟩ := holds_of_isOrdinary h
  have hkeeps : Keeps s (s.carryOut bound statement) := Keeps.carryOut hleaves bound
  rw [run_of_holds hholds]
  refine ⟨hkeeps.saved, fun cause herror => hkeeps.tables ?_⟩
  cases hanswer : (s.carryOut bound statement).1 with
  | error cause => rfl
  | ok result =>
    rw [hanswer] at herror
    cases herror

theorem holds_begin : Holds "BEGIN" .begin := ⟨[], by with_unfolding_all rfl, rfl⟩

theorem holds_commit : Holds "COMMIT" .commit := ⟨[], by with_unfolding_all rfl, rfl⟩

theorem holds_rollback : Holds "ROLLBACK" .rollback := ⟨[], by with_unfolding_all rfl, rfl⟩

theorem run_begin {s : Store} (h : s.saved = none) : ∃ outcome,
    Store.run "BEGIN" [] s = (.ok outcome, { s with saved := some s.tables }) := by
  rw [run_of_holds holds_begin]
  simp [carryOut, transact, h, Except.map]

theorem run_commit {s : Store} (h : s.saved.isSome = true) : ∃ outcome,
    Store.run "COMMIT" [] s = (.ok outcome, { s with saved := none }) := by
  rw [run_of_holds holds_commit]
  simp [carryOut, transact, h, Except.map]

theorem run_rollback {s : Store} (h : s.saved.isSome = true) : ∃ outcome,
    Store.run "ROLLBACK" [] s = (.ok outcome, s.undone) := by
  rw [run_of_holds holds_rollback]
  simp [carryOut, transact, h, Except.map]

/-- Transaction control that fails has no effect. Nothing can be bound in it. -/
theorem run_control_error {sql : String} (hsql : sql ∈ controlTexts) {bound : List Value}
    {s s' : Store} {cause : BackendError} (h : Store.run sql bound s = (.error cause, s')) :
    s' = s := by
  obtain ⟨statement, hholds, hcontrol⟩ : ∃ statement, Holds sql statement ∧
      (statement = .begin ∨ statement = .commit ∨ statement = .rollback) := by
    simp only [controlTexts, List.mem_cons, List.not_mem_nil, or_false] at hsql
    rcases hsql with rfl | rfl | rfl
    · exact ⟨_, holds_begin, by simp⟩
    · exact ⟨_, holds_commit, by simp⟩
    · exact ⟨_, holds_rollback, by simp⟩
  rw [run_of_holds hholds] at h
  rcases hcontrol with rfl | rfl | rfl <;>
    cases hsaved : s.saved <;> simp_all [carryOut, transact, Except.map, failed]

end Store

/-- The built-in store controls transactions. -/
theorem controls_storeEngine : storeEngine.Controls Store.view (Store.isOrdinary · = true) where
  not_control := by
    intro sql hordinary hmem
    obtain ⟨statement, hholds, hleaves⟩ := Store.holds_of_isOrdinary hordinary
    simp only [controlTexts, List.mem_cons, List.not_mem_nil, or_false] at hmem
    rcases hmem with rfl | rfl | rfl
    · cases hholds.unique Store.holds_begin
      cases hleaves
    · cases hholds.unique Store.holds_commit
      cases hleaves
    · cases hholds.unique Store.holds_rollback
      cases hleaves
  begins := by
    intro s outcome s' hopen hrun
    have hnone : s.saved = none := by simpa [Store.view] using hopen
    obtain ⟨_, hbegin⟩ := Store.run_begin hnone
    cases hbegin.symm.trans hrun
    simp [Store.view, hnone]
  commits := by
    intro s outcome s' hopen hrun
    obtain ⟨_, hcommit⟩ := Store.run_commit hopen
    cases hcommit.symm.trans hrun
    simp [Store.view]
  rollsBack := by
    intro s outcome s' hopen hrun
    obtain ⟨_, hrollback⟩ := Store.run_rollback hopen
    cases hrollback.symm.trans hrun
    simp [Store.view, Store.undone]
  runsWithin := by
    intro sql values s outcome s' hordinary hopen hrun
    have hsaved := (Store.keeps_run hordinary values s).1
    change Store.run sql values s = _ at hrun
    rw [hrun] at hsaved
    obtain ⟨tables, htables⟩ := Option.isSome_iff_exists.mp hopen
    dsimp only at hsaved
    simp [Store.view, hsaved, htables]
  runsAlone := by
    intro sql values s outcome s' hordinary hopen hrun
    have hsaved := (Store.keeps_run hordinary values s).1
    change Store.run sql values s = _ at hrun
    rw [hrun] at hsaved
    dsimp only at hsaved
    have hnone : s.saved = none := by simpa [Store.view] using hopen
    simp [Store.view, hsaved, hnone]
  fails := by
    intro sql values s cause s' hsql hrun
    rcases hsql with hordinary | hcontrol
    · obtain ⟨hsaved, htables⟩ := Store.keeps_run hordinary values s
      change Store.run sql values s = _ at hrun
      rw [hrun] at hsaved htables
      have hsame : s'.saved = s.saved ∧ s'.tables = s.tables := ⟨hsaved, htables cause rfl⟩
      constructor <;> simp [Store.view, hsame]
    · cases Store.run_control_error hcontrol hrun
      exact ⟨rfl, rfl, rfl⟩
  closes := by
    intro s answer s' hclose
    cases hclose
    simp [Store.close, Store.view, Store.undone]

end SchemaEvolution.Sqlite
