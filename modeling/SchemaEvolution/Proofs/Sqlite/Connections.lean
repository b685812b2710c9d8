import SchemaEvolution.Proofs.Sqlite.Controls

/-!
# Connections that know of their transactions

On an engine that controls transactions, a connection knows whether one is open. Each call keeps
its flag in step with the engine (`tracks_step`), and so does every sequence of calls
(`tracks_after`). In a transactional connection only what is committed becomes durable.
-/

namespace SchemaEvolution

/-- The text of the statement that a call runs, if it runs one. -/
def Call.statement? : Call → Option String
  | .execute sql _ => some sql
  | .insertReturning sql _ => some sql
  | .query sql _ => some sql
  | .scalar sql _ => some sql
  | _ => none

namespace Sqlite

variable {σ δ : Type} {e : Engine σ} {v : View σ δ} {isOrdinary : String → Prop}

/-! ### What an engine does with an ordinary statement -/

namespace Engine.Controls

variable (h : e.Controls v isOrdinary) {sql : String} (hsql : isOrdinary sql)
  (values : List Value) {s : σ}

include h hsql

/-- Within the open transaction nothing becomes durable. -/
theorem run_within (hopen : v.isOpen s = true) :
    v.isOpen (e.run sql values s).2 = true ∧ v.durable (e.run sql values s).2 = v.durable s := by
  cases hrun : e.run sql values s with
  | mk answer s' =>
    cases answer with
    | ok outcome => exact h.runsWithin hsql hopen hrun
    | error cause =>
      have hsame := h.fails (.inl hsql) hrun
      exact ⟨hsame.isOpen.trans hopen, hsame.durable⟩

/-- Without a transaction everything is durable. -/
theorem run_alone (hopen : v.isOpen s = false) (hsettled : v.data s = v.durable s) :
    v.isOpen (e.run sql values s).2 = false ∧
      v.data (e.run sql values s).2 = v.durable (e.run sql values s).2 := by
  cases hrun : e.run sql values s with
  | mk answer s' =>
    cases answer with
    | ok outcome =>
      have hran := h.runsAlone hsql hopen hrun
      exact ⟨hran.1, hran.2.symm⟩
    | error cause =>
      have hsame := h.fails (.inl hsql) hrun
      exact ⟨hsame.isOpen.trans hopen, hsame.data.trans (hsettled.trans hsame.durable.symm)⟩

end Engine.Controls

namespace Connection

/-- The connection after a call. -/
def step (e : Engine σ) (c : Connection σ) (call : Call) : Connection σ :=
  ((backend e).answer call c).2

/-- Whether a call succeeds. -/
def succeeds (e : Engine σ) (c : Connection σ) (call : Call) : Bool :=
  ((backend e).answer call c).1.isOk

/-- The connection after some calls. -/
def after (e : Engine σ) (c : Connection σ) (calls : List Call) : Connection σ :=
  calls.foldl (step e) c

/-- The data at the last successful commit, or what there was before the calls. -/
def lastCommitted (e : Engine σ) (v : View σ δ) : Connection σ → δ → List Call → δ
  | _, committed, [] => committed
  | c, committed, call :: calls =>
    lastCommitted e v (step e c call)
      (if call = .commit ∧ succeeds e c call = true then v.data c.state else committed) calls

/-! ### What a call does -/

/-- What a connection answers to a statement, and what becomes of it. -/
inductive Runs (e : Engine σ) (sql : String) (values : List Value) (c : Connection σ) :
    Except BackendError Outcome → Connection σ → Prop
  | closed : Runs e sql values c (.error .closed) c
  | alone (noNeed : c.transactional = true → c.inTransaction = true) :
      Runs e sql values c (e.run sql values c.state).1
        { c with state := (e.run sql values c.state).2 }
  | notBegun {cause : BackendError} {s : σ} (isIdle : c.inTransaction = false)
      (hrun : e.run "BEGIN" [] c.state = (.error cause, s)) :
      Runs e sql values c (.error cause) { c with state := s }
  | begun {outcome : Outcome} {s : σ} (isOpen : c.isOpen = true)
      (isTransactional : c.transactional = true) (isIdle : c.inTransaction = false)
      (hrun : e.run "BEGIN" [] c.state = (.ok outcome, s)) :
      Runs e sql values c (e.run sql values s).1
        { c with state := (e.run sql values s).2, inTransaction := true }

theorem runs_run (e : Engine σ) (sql : String) (parameters : List Parameter) (c : Connection σ) :
    Runs e sql (parameters.filterMap Parameter.value?) c (run e sql parameters c).1
      (run e sql parameters c).2 := by
  rw [run, beginIfNeeded]
  cases hneeded : c.transactional && !c.inTransaction with
  | false =>
    simp only [Bool.false_eq_true, if_false, runPlain]
    split
    · exact .alone (by simpa using hneeded)
    · exact .closed
  | true =>
    obtain ⟨htransactional, hidle⟩ : c.transactional = true ∧ c.inTransaction = false := by
      simpa using hneeded
    cases hopen : c.isOpen with
    | false =>
      simp only [if_true, runPlain, hopen, Bool.false_eq_true, if_false]
      exact .closed
    | true =>
      cases hbegin : e.run "BEGIN" [] c.state with
      | mk answer s =>
        cases answer with
        | error cause =>
          have hruns : Runs e sql (parameters.filterMap Parameter.value?) c (.error cause)
              { c with state := s } := .notBegun hidle hbegin
          simp only [if_true, runPlain, hopen, hbegin]
          simpa [hopen] using hruns
        | ok outcome =>
          have hruns : Runs e sql (parameters.filterMap Parameter.value?) c _ _ :=
            .begun hopen htransactional hidle hbegin
          simp only [if_true, runPlain, hopen, hbegin]
          simpa [hopen] using hruns

/-- What becomes of a connection in a call that runs a statement. -/
inductive Ran (e : Engine σ) (sql : String) (c : Connection σ) : Connection σ → Prop
  | notAtAll : Ran e sql c c
  | alone (values : List Value) (noNeed : c.transactional = true → c.inTransaction = true) :
      Ran e sql c { c with state := (e.run sql values c.state).2 }
  | notBegun {cause : BackendError} {s : σ} (isIdle : c.inTransaction = false)
      (hrun : e.run "BEGIN" [] c.state = (.error cause, s)) : Ran e sql c { c with state := s }
  | begun {outcome : Outcome} {s : σ} (values : List Value) (isOpen : c.isOpen = true)
      (isTransactional : c.transactional = true) (isIdle : c.inTransaction = false)
      (hrun : e.run "BEGIN" [] c.state = (.ok outcome, s)) :
      Ran e sql c { c with state := (e.run sql values s).2, inTransaction := true }

theorem Runs.ran {sql : String} {values : List Value} {c c' : Connection σ}
    {answer : Except BackendError Outcome} (h : Runs e sql values c answer c') :
    Ran e sql c c' := by
  cases h with
  | closed => exact .notAtAll
  | alone noNeed => exact .alone values noNeed
  | notBegun isIdle hrun => exact .notBegun isIdle hrun
  | begun isOpen isTransactional isIdle hrun =>
    exact .begun values isOpen isTransactional isIdle hrun

theorem ran_run (e : Engine σ) (sql : String) (parameters : List Parameter) (c : Connection σ) :
    Ran e sql c (run e sql parameters c).2 := (runs_run e sql parameters c).ran

/-- A call with a statement runs it, if it runs anything. -/
theorem ran_step {call : Call} {sql : String} (h : call.statement? = some sql) (c : Connection σ) :
    Ran e sql c (step e c call) := by
  cases call with
  | execute text parameters =>
    cases h
    exact ran_run e sql parameters c
  | insertReturning text parameters =>
    cases h
    change Ran e sql c (insertReturning e sql parameters c).2
    rw [insertReturning]
    split
    · exact .notAtAll
    · exact ran_run e sql parameters c
  | query text parameters =>
    cases h
    exact ran_run e sql parameters c
  | scalar text parameters =>
    cases h
    exact ran_run e sql parameters c
  | _ => cases h

/-- A connection in which nothing has been done yet. -/
structure Opened (v : View σ δ) (c : Connection σ) : Prop where
  isOpen : c.isOpen = true
  isIdle : c.inTransaction = false
  noneOpen : v.isOpen c.state = false
  settled : v.data c.state = v.durable c.state

/-- The connection knows whether a transaction is open. If none is, all data is durable. -/
structure Tracks (v : View σ δ) (c : Connection σ) : Prop where
  inTransaction : c.inTransaction = v.isOpen c.state
  mode : c.inTransaction = true → c.transactional = true ∧ c.isOpen = true
  settled : v.isOpen c.state = false → v.data c.state = v.durable c.state

theorem Opened.tracks {c : Connection σ} (h : c.Opened v) : c.Tracks v where
  inTransaction := h.isIdle.trans h.noneOpen.symm
  mode hopen := by
    rw [h.isIdle] at hopen
    cases hopen
  settled _ := h.settled

variable {c c' : Connection σ}

/-- What has no effect on the engine leaves the connection knowing what is open. -/
theorem Tracks.of_same {s : σ} (htracks : c.Tracks v) (hsame : v.Same c.state s) :
    Tracks v { c with state := s } where
  inTransaction := htracks.inTransaction.trans hsame.isOpen.symm
  mode := htracks.mode
  settled hclosed :=
    hsame.data.trans ((htracks.settled (hsame.isOpen.symm.trans hclosed)).trans hsame.durable.symm)

/-- A statement leaves the connection knowing what is open, and in a transactional one makes nothing
durable. -/
theorem Ran.tracks {sql : String} (hran : Ran e sql c c') (h : e.Controls v isOrdinary)
    (hsql : isOrdinary sql) (htracks : c.Tracks v) :
    c'.Tracks v ∧ c'.transactional = c.transactional ∧
      (c.transactional = true → v.durable c'.state = v.durable c.state) := by
  cases hran with
  | notAtAll => exact ⟨htracks, rfl, fun _ => rfl⟩
  | alone values noNeed =>
    cases hopen : v.isOpen c.state with
    | true =>
      obtain ⟨hstays, hdurable⟩ := h.run_within hsql values hopen
      refine ⟨⟨htracks.inTransaction.trans (hopen.trans hstays.symm), htracks.mode, ?_⟩, rfl,
        fun _ => hdurable⟩
      simp [hstays]
    | false =>
      obtain ⟨hstays, hsettled⟩ := h.run_alone hsql values hopen (htracks.settled hopen)
      have hidle : c.inTransaction = false := htracks.inTransaction.trans hopen
      refine ⟨⟨htracks.inTransaction.trans (hopen.trans hstays.symm), htracks.mode,
        fun _ => hsettled⟩, rfl, fun htransactional => ?_⟩
      rw [noNeed htransactional] at hidle
      cases hidle
  | notBegun isIdle hrun =>
    have hsame := h.fails (.inr (by decide)) hrun
    exact ⟨htracks.of_same hsame, rfl, fun _ => hsame.durable⟩
  | begun values isOpen isTransactional isIdle hrun =>
    have hclosed : v.isOpen c.state = false := htracks.inTransaction.symm.trans isIdle
    obtain ⟨hbegun, -, hbefore⟩ := h.begins hclosed hrun
    obtain ⟨hstays, hdurable⟩ := h.run_within hsql values hbegun
    refine ⟨⟨hstays.symm, fun _ => ⟨isTransactional, isOpen⟩, ?_⟩, rfl,
      fun _ => hdurable.trans hbefore⟩
    simp [hstays]

/-- How a transaction ends, if one is open: as the engine says, or not at all. -/
theorem finish_cases (sql : String) (htracks : c.Tracks v) :
    (c.inTransaction = false ∧ finish e sql c = (.ok (), c)) ∨
    (∃ outcome s, v.isOpen c.state = true ∧ e.run sql [] c.state = (.ok outcome, s) ∧
      finish e sql c = (.ok (), { c with state := s, inTransaction := false })) ∨
    ∃ cause s, e.run sql [] c.state = (.error cause, s) ∧
      finish e sql c = (.error cause, { c with state := s }) := by
  cases hidle : c.inTransaction with
  | false => exact .inl ⟨rfl, by simp [finish, hidle]⟩
  | true =>
    have hopen : c.isOpen = true := (htracks.mode hidle).2
    right
    cases hrun : e.run sql [] c.state with
    | mk answer s =>
      cases answer with
      | ok outcome =>
        exact .inl ⟨outcome, s, htracks.inTransaction.symm.trans hidle, rfl,
          by simp [finish, runPlain, hidle, hopen, hrun]⟩
      | error cause =>
        exact .inr ⟨cause, s, rfl, by simp [finish, runPlain, hidle, hopen, hrun]⟩

/-- Within a transaction the engine says whether it ends. -/
theorem finish_within (sql : String) (hin : c.inTransaction = true) (hopen : c.isOpen = true) :
    (finish e sql c).1 = (e.run sql [] c.state).1.map fun _ => () := by
  rw [finish, if_pos hin, runPlain, if_pos hopen]
  cases e.run sql [] c.state with
  | mk answer s => cases answer <;> rfl

/-- A commit that succeeds makes the data durable as it is, and one that fails does nothing. -/
theorem commit_step (h : e.Controls v isOrdinary) (htracks : c.Tracks v) :
    (step e c .commit).Tracks v ∧ (step e c .commit).transactional = c.transactional ∧
      v.data (step e c .commit).state = v.data c.state ∧
      v.durable (step e c .commit).state =
        if succeeds e c .commit = true then v.data c.state else v.durable c.state := by
  change (finish e "COMMIT" c).2.Tracks v ∧ (finish e "COMMIT" c).2.transactional = _ ∧
    v.data (finish e "COMMIT" c).2.state = _ ∧ v.durable (finish e "COMMIT" c).2.state =
      if (finish e "COMMIT" c).1.isOk = true then _ else _
  rcases finish_cases "COMMIT" htracks with ⟨hidle, hfinish⟩ | ⟨outcome, s, hopen, hrun, hfinish⟩ |
    ⟨cause, s, hrun, hfinish⟩
  · have hsettled := htracks.settled (htracks.inTransaction.symm.trans hidle)
    rw [hfinish]
    exact ⟨htracks, rfl, rfl, hsettled.symm⟩
  · obtain ⟨hclosed, hdata, hdurable⟩ := h.commits hopen hrun
    rw [hfinish]
    exact ⟨⟨hclosed.symm, nofun, fun _ => hdata.trans hdurable.symm⟩, rfl, hdata, hdurable⟩
  · have hsame := h.fails (.inr (by decide)) hrun
    rw [hfinish]
    exact ⟨htracks.of_same hsame, rfl, hsame.data, hsame.durable⟩

/-- A rollback that succeeds brings back what is durable, and one that fails does nothing. -/
theorem rollback_step (h : e.Controls v isOrdinary) (htracks : c.Tracks v) :
    (step e c .rollback).Tracks v ∧ (step e c .rollback).transactional = c.transactional ∧
      v.durable (step e c .rollback).state = v.durable c.state ∧
      (succeeds e c .rollback = true →
        v.data (step e c .rollback).state = v.durable c.state) := by
  change (finish e "ROLLBACK" c).2.Tracks v ∧ (finish e "ROLLBACK" c).2.transactional = _ ∧
    v.durable (finish e "ROLLBACK" c).2.state = _ ∧
      ((finish e "ROLLBACK" c).1.isOk = true → v.data (finish e "ROLLBACK" c).2.state = _)
  rcases finish_cases "ROLLBACK" htracks with ⟨hidle, hfinish⟩ |
    ⟨outcome, s, hopen, hrun, hfinish⟩ | ⟨cause, s, hrun, hfinish⟩
  · have hsettled := htracks.settled (htracks.inTransaction.symm.trans hidle)
    rw [hfinish]
    exact ⟨htracks, rfl, rfl, fun _ => hsettled⟩
  · obtain ⟨hclosed, hdata, hdurable⟩ := h.rollsBack hopen hrun
    rw [hfinish]
    exact ⟨⟨hclosed.symm, nofun, fun _ => hdata.trans hdurable.symm⟩, rfl, hdurable, fun _ => hdata⟩
  · have hsame := h.fails (.inr (by decide)) hrun
    rw [hfinish]
    exact ⟨htracks.of_same hsame, rfl, hsame.durable, nofun⟩

/-- Closing discards what is not durable, whether or not it succeeds. -/
theorem close_step (h : e.Controls v isOrdinary) (htracks : c.Tracks v) :
    (step e c .close).Tracks v ∧ (step e c .close).transactional = c.transactional ∧
      (step e c .close).isOpen = false ∧ (step e c .close).inTransaction = false ∧
      v.data (step e c .close).state = v.durable c.state ∧
      v.durable (step e c .close).state = v.durable c.state := by
  change (close e c).2.Tracks v ∧ (close e c).2.transactional = _ ∧ (close e c).2.isOpen = _ ∧
    (close e c).2.inTransaction = _ ∧ v.data (close e c).2.state = _ ∧
      v.durable (close e c).2.state = _
  cases hopen : c.isOpen with
  | true =>
    cases hclose : e.close c.state with
    | mk answer s =>
      obtain ⟨hclosed, hdata, hdurable⟩ := h.closes hclose
      rw [show close e c = (answer, ⟨s, false, c.transactional, false⟩) by
        simp [close, hopen, hclose]]
      exact ⟨⟨hclosed.symm, nofun, fun _ => hdata.trans hdurable.symm⟩, rfl, rfl, rfl, hdata,
        hdurable⟩
  | false =>
    have hidle : c.inTransaction = false := by
      cases hin : c.inTransaction with
      | false => rfl
      | true => exact (htracks.mode hin).2.symm.trans hopen
    have hsettled := htracks.settled (htracks.inTransaction.symm.trans hidle)
    rw [show close e c = (.ok (), c) by simp [close, hopen]]
    exact ⟨htracks, rfl, hopen, hidle, hsettled, rfl⟩

/-- Each call keeps the connection informed. In a transactional one only a successful commit makes
anything durable. -/
theorem tracks_step (h : e.Controls v isOrdinary) {call : Call}
    (hcall : ∀ sql, call.statement? = some sql → isOrdinary sql) (htracks : c.Tracks v) :
    (step e c call).Tracks v ∧ (step e c call).transactional = c.transactional ∧
      (c.transactional = true → v.durable (step e c call).state =
        if call = .commit ∧ succeeds e c call = true then v.data c.state
        else v.durable c.state) := by
  cases hstatement : call.statement? with
  | some sql =>
    have hother : call ≠ .commit := by
      rintro rfl
      cases hstatement
    obtain ⟨htracks, hmode, hdurable⟩ :=
      (ran_step hstatement c).tracks h (hcall sql hstatement) htracks
    refine ⟨htracks, hmode, fun htransactional => ?_⟩
    rw [if_neg fun hcommit => hother hcommit.1]
    exact hdurable htransactional
  | none =>
    cases call with
    | commit =>
      obtain ⟨htracks, hmode, -, hdurable⟩ := commit_step h htracks
      exact ⟨htracks, hmode, fun _ => by simpa using hdurable⟩
    | rollback =>
      obtain ⟨htracks, hmode, hdurable, -⟩ := rollback_step h htracks
      exact ⟨htracks, hmode, fun _ => by simpa using hdurable⟩
    | close =>
      obtain ⟨htracks, hmode, -, -, -, hdurable⟩ := close_step h htracks
      exact ⟨htracks, hmode, fun _ => by simpa using hdurable⟩
    | _ => cases hstatement

/-- Every sequence of calls keeps the connection informed, and in a transactional one the durable
data is that at the last successful commit. -/
theorem tracks_after (h : e.Controls v isOrdinary) (calls : List Call)
    (hcalls : ∀ call ∈ calls, ∀ sql, call.statement? = some sql → isOrdinary sql)
    (htracks : c.Tracks v) :
    (after e c calls).Tracks v ∧ (after e c calls).transactional = c.transactional ∧
      (c.transactional = true →
        v.durable (after e c calls).state = lastCommitted e v c (v.durable c.state) calls) := by
  induction calls generalizing c with
  | nil => exact ⟨htracks, rfl, fun _ => rfl⟩
  | cons call calls ih =>
    obtain ⟨hstep, hmode, hdurable⟩ := tracks_step h (hcalls call List.mem_cons_self) htracks
    obtain ⟨hafter, hsameMode, hcommitted⟩ :=
      ih (fun later hlater => hcalls later (List.mem_cons_of_mem _ hlater)) hstep
    refine ⟨hafter, hsameMode.trans hmode, fun htransactional => ?_⟩
    rw [lastCommitted, ← hdurable htransactional]
    exact hcommitted (hmode.trans htransactional)

end Connection

end Sqlite

end SchemaEvolution
