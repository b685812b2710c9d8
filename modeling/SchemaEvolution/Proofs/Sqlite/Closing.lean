import SchemaEvolution.Proofs.Sqlite.Connections

/-!
# Closed connections

A connection is closed whether or not its engine closes without an error. It stays as it was then,
whatever it is asked, and its engine is sent nothing more (`stays_closed`). It refuses the calls that would run a statement, and only these.
Commit, rollback and a second close find nothing to end and succeed, and an insert without an output
slot is refused for that before anyone looks whether the connection is open.
-/

namespace SchemaEvolution

namespace Call

/-- Whether a call would run a statement. An insert runs only if it has a slot for what it is to hand
back, and transactions are ended only where one is open. -/
def runsStatement : Call → Bool
  | .execute _ _ | .query _ _ | .scalar _ _ => true
  | .insertReturning _ parameters => (Sqlite.Connection.slotName? parameters).isSome
  | .commit | .rollback | .close => false

/-- What a closed connection answers. -/
def answerOnceClosed : (call : Call) → Except BackendError call.Answer
  | .execute _ _ | .query _ _ | .scalar _ _ => .error .closed
  | .insertReturning _ parameters =>
    if (Sqlite.Connection.slotName? parameters).isSome then .error .closed
    else .error { message := "statement has no output parameter" }
  | .commit | .rollback | .close => .ok ()

/-- A call is refused for the closed connection exactly if it would run a statement. -/
theorem answerOnceClosed_closed_iff (call : Call) :
    (∃ cause, call.answerOnceClosed = .error cause ∧ cause.kind = .closed) ↔
      call.runsStatement = true := by
  cases call with
  | insertReturning sql parameters =>
    cases hslot : Sqlite.Connection.slotName? parameters <;>
      simp [answerOnceClosed, runsStatement, hslot, BackendError.closed]
  | _ => simp [answerOnceClosed, runsStatement, BackendError.closed]

end Call

namespace Sqlite.Connection

variable {σ : Type} {e : Engine σ} {c c' : Connection σ}

/-- A call fails because the connection is closed. -/
def FailsAsClosed (e : Engine σ) (c : Connection σ) (call : Call) : Prop :=
  ∃ cause, ((backend e).answer call c).1 = .error cause ∧ cause.kind = .closed

/-! ### Before it is closed -/

/-- A transaction is open in an open connection only. -/
def IdleIfClosed (c : Connection σ) : Prop := c.isOpen = false → c.inTransaction = false

theorem Ran.idleIfClosed {sql : String} (hran : Ran e sql c c') (h : c.IdleIfClosed) :
    c'.IdleIfClosed := by
  cases hran with
  | notAtAll => exact h
  | alone values noNeed => exact h
  | notBegun isIdle hrun => exact h
  | begun values isOpen isTransactional isIdle hrun =>
    intro hclosed
    cases isOpen.symm.trans hclosed

/-- Ending a transaction begins none. -/
theorem finish_idleIfClosed (sql : String) (h : c.IdleIfClosed) :
    (finish e sql c).2.IdleIfClosed := by
  cases hin : c.inTransaction with
  | false =>
    have hfinish : finish e sql c = (.ok (), c) := by simp [finish, hin]
    rwa [hfinish]
  | true =>
    have hopen : c.isOpen = true := by
      cases hclosed : c.isOpen with
      | true => rfl
      | false => cases hin.symm.trans (h hclosed)
    have hkept : (finish e sql c).2.isOpen = true := by
      rw [finish, if_pos hin, runPlain, if_pos hopen]
      cases e.run sql [] c.state with
      | mk answer s => cases answer <;> exact hopen
    intro hclosed
    cases hkept.symm.trans hclosed

/-- Closing is answered as the engine says, and ends the transaction that is open. -/
theorem close_closed (h : c.IdleIfClosed) :
    ((backend e).answer .close c).1 = (if c.isOpen then (e.close c.state).1 else .ok ()) ∧
      (step e c .close).isOpen = false ∧ (step e c .close).inTransaction = false := by
  change (close e c).1 = _ ∧ (close e c).2.isOpen = false ∧ (close e c).2.inTransaction = false
  cases hopen : c.isOpen with
  | true => simp [close, hopen]
  | false => simp [close, hopen, h hopen]

theorem idleIfClosed_step (h : c.IdleIfClosed) (call : Call) : (step e c call).IdleIfClosed := by
  cases hstatement : call.statement? with
  | some sql => exact (ran_step hstatement c).idleIfClosed h
  | none =>
    cases call with
    | commit => exact finish_idleIfClosed "COMMIT" h
    | rollback => exact finish_idleIfClosed "ROLLBACK" h
    | close => exact fun _ => (close_closed h).2.2
    | _ => cases hstatement

theorem idleIfClosed_after (h : c.IdleIfClosed) (calls : List Call) :
    (after e c calls).IdleIfClosed := by
  induction calls generalizing c with
  | nil => exact h
  | cons call calls ih => exact ih (idleIfClosed_step h call)

/-! ### Once it is closed -/

section

variable (hclosed : c.isOpen = false) (hidle : c.inTransaction = false)

include hclosed

/-- Nothing is run, whether or not a transaction would have to be begun first. -/
theorem run_of_closed (sql : String) (parameters : List Parameter) :
    run e sql parameters c = (.error .closed, c) := by
  have hplain (text : String) (values : List Value) :
      runPlain e text values c = (.error .closed, c) := by simp [runPlain, hclosed]
  rw [run, beginIfNeeded, hplain]
  cases c.transactional && !c.inTransaction with
  | false => exact hplain sql _
  | true => rfl

include hidle

/-- A closed connection has one answer to each call, and stays as it is. -/
theorem answer_of_closed (call : Call) :
    (backend e).answer call c = (call.answerOnceClosed, c) := by
  have hrun := run_of_closed (e := e) hclosed
  have hfinish (sql : String) : finish e sql c = (.ok (), c) := by simp [finish, hidle]
  cases call with
  | execute sql parameters => simp [backend, execute, hrun, Except.map, Call.answerOnceClosed]
  | query sql parameters => simp [backend, query, hrun, Except.map, Call.answerOnceClosed]
  | scalar sql parameters => simp [backend, query, hrun, Except.map, Call.answerOnceClosed]
  | insertReturning sql parameters =>
    cases hslot : slotName? parameters <;>
      simp [backend, insertReturning, query, hrun, hslot, Except.map, Except.bind,
        Call.answerOnceClosed]
  | commit => exact hfinish "COMMIT"
  | rollback => exact hfinish "ROLLBACK"
  | close => simp [backend, close, hclosed, Call.answerOnceClosed]

theorem after_of_closed (calls : List Call) : after e c calls = c := by
  induction calls with
  | nil => rfl
  | cons call calls ih =>
    have hstep : step e c call = c := by rw [step, answer_of_closed hclosed hidle]
    rw [after, List.foldl_cons, hstep]
    exact ih

end

/-- Whatever was done with a connection since it was opened, closing it is answered as its engine says
and leaves it closed even where that fails. From then on it stays as it is, and it refuses for that
exactly the calls that would run a statement. -/
theorem stays_closed (e : Engine σ) (s : σ) (transactional : Bool) (calls later : List Call)
    (call : Call) :
    let opened : Connection σ := { state := s, transactional }
    let before := after e opened calls
    let closed := step e before .close
    let c := after e closed later
    ((backend e).answer .close before).1 =
        (if before.isOpen then (e.close before.state).1 else .ok ()) ∧
      c = closed ∧ c.isOpen = false ∧ c.inTransaction = false ∧
      (FailsAsClosed e c call ↔ call.runsStatement = true) ∧
      (backend e).answer call c = (call.answerOnceClosed, closed) := by
  intro opened before closed c
  have hopened : opened.IdleIfClosed := fun _ => rfl
  obtain ⟨hanswered, hclosed, hidle⟩ := close_closed (e := e) (idleIfClosed_after hopened calls)
  have hsame : c = closed := after_of_closed hclosed hidle later
  have hanswer : (backend e).answer call closed = (call.answerOnceClosed, closed) :=
    answer_of_closed hclosed hidle call
  rw [hsame, FailsAsClosed, hanswer]
  exact ⟨hanswered, rfl, hclosed, hidle, call.answerOnceClosed_closed_iff, rfl⟩

/-- A transaction is open when the connection is closed. Afterwards neither commit nor rollback is
refused, and an insert without an output slot is, but not for the closed connection. -/
theorem commit_succeeds_once_closed :
    let opened : Connection Store := { state := {}, transactional := true }
    let begun := after storeEngine opened [.execute "CREATE TABLE a (x)" []]
    let closed := step storeEngine begun .close
    begun.inTransaction = true ∧ succeeds storeEngine begun .close = true ∧
      ¬FailsAsClosed storeEngine closed .commit ∧ ¬FailsAsClosed storeEngine closed .rollback ∧
      ¬FailsAsClosed storeEngine closed (.insertReturning "INSERT INTO a DEFAULT VALUES" []) := by
  intro opened begun closed
  obtain ⟨outcome, hbegin⟩ := Store.run_begin (s := {}) rfl
  have hbegun : begun.inTransaction = true := by
    simp [begun, after, step, backend, execute, run, beginIfNeeded, runPlain, opened, storeEngine,
      hbegin]
  have hidle : begun.IdleIfClosed := idleIfClosed_after (fun _ => rfl) _
  obtain ⟨hanswered, hclosed, hended⟩ := close_closed (e := storeEngine) hidle
  have hsucceeds : succeeds storeEngine begun .close = true := by
    rw [succeeds, hanswered]
    cases begun.isOpen <;> rfl
  have hanswer := answer_of_closed (e := storeEngine) hclosed hended
  simp only [FailsAsClosed, closed, hanswer, Call.answerOnceClosed_closed_iff]
  exact ⟨hbegun, hsucceeds, by decide⟩

end Sqlite.Connection

end SchemaEvolution
