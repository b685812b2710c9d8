import SchemaEvolution.Proofs.Sqlite.Connections

/-!
# Transactions of connections

No call begins a transaction while one is open (`begins_after`), which an engine shows that notes
what it is sent. With what a connection knows of its transactions, this makes it commit and roll
back as it should (`transacts_after`).
-/

namespace SchemaEvolution.Sqlite

variable {σ δ : Type} {e : Engine σ} {v : View σ δ} {isOrdinary : String → Prop}

/-! ### What an engine is sent -/

/-- A text that an engine was sent, and whether a transaction was open then. -/
structure Note where
  text : String
  whileOpen : Bool

/-- The engine, noting what it is sent. -/
def Engine.noting (e : Engine σ) (v : View σ δ) : Engine (σ × List Note) where
  run sql values s :=
    ((e.run sql values s.1).1, (e.run sql values s.1).2, s.2 ++ [⟨sql, v.isOpen s.1⟩])
  close s := ((e.close s.1).1, (e.close s.1).2, s.2)

/-- The notes are not seen. -/
def View.beside {τ : Type} (v : View σ δ) : View (σ × τ) δ :=
  ⟨fun s => v.data s.1, fun s => v.durable s.1, fun s => v.isOpen s.1⟩

theorem Engine.run_of_noting {sql : String} {values : List Value}
    {s s' : σ × List Note} {answer : Except BackendError Outcome}
    (h : (e.noting v).run sql values s = (answer, s')) :
    e.run sql values s.1 = (answer, s'.1) := by
  cases h
  rfl

theorem Engine.close_of_noting {s s' : σ × List Note} {answer : Except BackendError Unit}
    (h : (e.noting v).close s = (answer, s')) : e.close s.1 = (answer, s'.1) := by
  cases h
  rfl

theorem Engine.notes_of_noting {sql : String} {values : List Value} {s s' : σ × List Note}
    {answer : Except BackendError Outcome} (h : (e.noting v).run sql values s = (answer, s')) :
    s'.2 = s.2 ++ [⟨sql, v.isOpen s.1⟩] := by
  cases h
  rfl

/-- Noting does not change how an engine controls transactions. -/
theorem Engine.Controls.noting (h : e.Controls v isOrdinary) :
    (e.noting v).Controls v.beside isOrdinary where
  not_control := h.not_control
  begins hclosed hrun := h.begins hclosed (run_of_noting hrun)
  commits hopen hrun := h.commits hopen (run_of_noting hrun)
  rollsBack hopen hrun := h.rollsBack hopen (run_of_noting hrun)
  runsWithin hsql hopen hrun := h.runsWithin hsql hopen (run_of_noting hrun)
  runsAlone hsql hclosed hrun := h.runsAlone hsql hclosed (run_of_noting hrun)
  fails hsql hrun :=
    have hsame := h.fails hsql (run_of_noting hrun)
    ⟨hsame.data, hsame.durable, hsame.isOpen⟩
  closes hclose := h.closes (close_of_noting hclose)

namespace Connection

/-- A connection to an engine that notes, without the notes. -/
def forget {τ : Type} (c : Connection (σ × τ)) : Connection σ := { c with state := c.state.1 }

variable {c : Connection (σ × List Note)}

theorem runPlain_noting (sql : String) (values : List Value) :
    (runPlain (e.noting v) sql values c).map id forget = runPlain e sql values c.forget := by
  obtain ⟨s, isOpen, transactional, inTransaction⟩ := c
  cases isOpen <;> rfl

theorem beginIfNeeded_noting :
    (beginIfNeeded (e.noting v) c).map id forget = beginIfNeeded e c.forget := by
  have hplain := runPlain_noting (e := e) (v := v) (c := c) "BEGIN" []
  unfold beginIfNeeded
  rw [← hplain]
  change Prod.map id forget (if c.transactional && !c.inTransaction then _ else _) =
    if c.transactional && !c.inTransaction then _ else _
  split
  · rcases runPlain (e.noting v) "BEGIN" [] c with ⟨_ | _, _⟩ <;> rfl
  · rfl

theorem run_noting (sql : String) (parameters : List Parameter) :
    (run (e.noting v) sql parameters c).map id forget = run e sql parameters c.forget := by
  unfold run
  rw [← beginIfNeeded_noting (v := v)]
  rcases beginIfNeeded (e.noting v) c with ⟨_ | _, begun⟩
  · rfl
  · exact runPlain_noting _ _

theorem query_noting (sql : String) (parameters : List Parameter) :
    (query (e.noting v) sql parameters c).map id forget = query e sql parameters c.forget := by
  unfold query
  rw [← run_noting (v := v)]
  rfl

theorem finish_noting (sql : String) :
    (finish (e.noting v) sql c).map id forget = finish e sql c.forget := by
  have hplain := runPlain_noting (e := e) (v := v) (c := c) sql []
  unfold finish
  rw [← hplain]
  change Prod.map id forget (if c.inTransaction then _ else _) = if c.inTransaction then _ else _
  split
  · rcases runPlain (e.noting v) sql [] c with ⟨_ | _, _⟩ <;> rfl
  · rfl

/-- Noting changes nothing else. -/
theorem answer_noting (call : Call) :
    ((backend (e.noting v)).answer call c).map id forget = (backend e).answer call c.forget := by
  cases call with
  | execute sql parameters =>
    change (execute (e.noting v) sql parameters c).map id forget = execute e sql parameters c.forget
    unfold execute
    rw [← run_noting (v := v)]
    rfl
  | insertReturning sql parameters =>
    change (insertReturning (e.noting v) sql parameters c).map id forget =
      insertReturning e sql parameters c.forget
    unfold insertReturning
    split
    · rfl
    · rw [← query_noting (v := v)]
      rfl
  | query sql parameters => exact query_noting sql parameters
  | scalar sql parameters =>
    change Prod.map id forget ((query (e.noting v) sql parameters c).1.map (·.scalar), _) =
      ((query e sql parameters c.forget).1.map (·.scalar), (query e sql parameters c.forget).2)
    rw [← query_noting (v := v)]
    rfl
  | commit => exact finish_noting "COMMIT"
  | rollback => exact finish_noting "ROLLBACK"
  | close =>
    change (close (e.noting v) c).map id forget = close e c.forget
    obtain ⟨s, isOpen, transactional, inTransaction⟩ := c
    cases isOpen <;> rfl

theorem forget_after (calls : List Call) :
    (after (e.noting v) c calls).forget = after e c.forget calls := by
  induction calls generalizing c with
  | nil => rfl
  | cons call calls ih =>
    refine ih.trans (congrArg (after e · calls) ?_)
    exact congrArg Prod.snd (answer_noting call)

/-- A connection before it is noted what its engine is sent. -/
def noted (c : Connection σ) : Connection (σ × List Note) := { c with state := (c.state, []) }

/-- No transaction is begun while one is open. -/
def BeginsWhenIdle (notes : List Note) : Prop :=
  ∀ note ∈ notes, note.text = "BEGIN" → note.whileOpen = false

theorem BeginsWhenIdle.append {notes : List Note} {note : Note} (h : BeginsWhenIdle notes)
    (hnote : note.text = "BEGIN" → note.whileOpen = false) : BeginsWhenIdle (notes ++ [note]) := by
  intro other hother
  rcases List.mem_append.mp hother with hmem | hmem
  · exact h other hmem
  · cases List.mem_singleton.mp hmem
    exact hnote

/-- A statement begins a transaction only if none is open. -/
theorem Ran.begins {c' : Connection (σ × List Note)} {sql : String}
    (hran : Ran (e.noting v) sql c c') (hsql : sql ≠ "BEGIN") (htracks : c.Tracks v.beside)
    (hbegins : BeginsWhenIdle c.state.2) : BeginsWhenIdle c'.state.2 := by
  cases hran with
  | notAtAll => exact hbegins
  | alone values noNeed => exact hbegins.append fun hbegin => absurd hbegin hsql
  | notBegun isIdle hrun =>
    have hclosed : v.isOpen c.state.1 = false := htracks.inTransaction.symm.trans isIdle
    exact (Engine.notes_of_noting hrun).symm ▸ hbegins.append fun _ => hclosed
  | begun values isOpen isTransactional isIdle hrun =>
    have hclosed : v.isOpen c.state.1 = false := htracks.inTransaction.symm.trans isIdle
    have hbegun := (Engine.notes_of_noting hrun).symm ▸ hbegins.append fun _ => hclosed
    exact hbegun.append fun hbegin => absurd hbegin hsql

theorem finish_begins {sql : String} (hsql : sql ≠ "BEGIN") (htracks : c.Tracks v.beside)
    (hbegins : BeginsWhenIdle c.state.2) :
    BeginsWhenIdle (finish (e.noting v) sql c).2.state.2 := by
  have hended : BeginsWhenIdle (c.state.2 ++ [⟨sql, v.isOpen c.state.1⟩]) :=
    hbegins.append fun hbegin => absurd hbegin hsql
  rcases finish_cases (e := e.noting v) sql htracks with
    ⟨-, hfinish⟩ | ⟨outcome, s, -, hrun, hfinish⟩ | ⟨cause, s, hrun, hfinish⟩
  · rw [hfinish]
    exact hbegins
  · rw [hfinish]
    exact (Engine.notes_of_noting hrun).symm ▸ hended
  · rw [hfinish]
    exact (Engine.notes_of_noting hrun).symm ▸ hended

/-- No call begins a transaction while one is open. -/
theorem begins_step (h : e.Controls v isOrdinary) {call : Call}
    (hcall : ∀ sql, call.statement? = some sql → isOrdinary sql) (htracks : c.Tracks v.beside)
    (hbegins : BeginsWhenIdle c.state.2) :
    BeginsWhenIdle (step (e.noting v) c call).state.2 := by
  cases hstatement : call.statement? with
  | some sql =>
    refine (ran_step hstatement c).begins ?_ htracks hbegins
    rintro rfl
    exact h.not_control (hcall "BEGIN" hstatement) (by decide)
  | none =>
    cases call with
    | commit => exact finish_begins (by decide) htracks hbegins
    | rollback => exact finish_begins (by decide) htracks hbegins
    | close =>
      change BeginsWhenIdle (close (e.noting v) c).2.state.2
      unfold close
      split <;> exact hbegins
    | _ => cases hstatement

/-- No sequence of calls does. -/
theorem begins_after (h : e.Controls v isOrdinary) (calls : List Call)
    (hcalls : ∀ call ∈ calls, ∀ sql, call.statement? = some sql → isOrdinary sql)
    (htracks : c.Tracks v.beside) (hbegins : BeginsWhenIdle c.state.2) :
    BeginsWhenIdle (after (e.noting v) c calls).state.2 := by
  induction calls generalizing c with
  | nil => exact hbegins
  | cons call calls ih =>
    have hcall := hcalls call List.mem_cons_self
    exact ih (fun later hlater => hcalls later (List.mem_cons_of_mem _ hlater))
      (tracks_step h.noting hcall htracks).1 (begins_step h hcall htracks hbegins)

variable {c : Connection σ}

/-- What holds of a connection that was opened as `c` after some calls. -/
structure Transacts (e : Engine σ) (v : View σ δ) (c : Connection σ) (calls : List Call)
    (c' : Connection σ) : Prop where
  /-- It knows whether a transaction is open. -/
  informed : c'.inTransaction = v.isOpen c'.state
  inMode : c'.inTransaction = true → c.transactional = true ∧ c'.isOpen = true
  /-- What its engine was sent on the way here begins no transaction within another. -/
  noted : (after (e.noting v) c.noted calls).forget = c'
  begins : BeginsWhenIdle (after (e.noting v) c.noted calls).state.2
  /-- In a transactional connection only what is committed is durable, and it is seen again after a
  rollback. -/
  durable : c.transactional = true →
    v.durable c'.state = lastCommitted e v c (v.data c.state) calls
  rollsBack : c.transactional = true → succeeds e c' .rollback = true →
    v.data (step e c' .rollback).state = lastCommitted e v c (v.data c.state) calls
  commits : c.transactional = true → succeeds e c' .commit = true →
    v.durable (step e c' .commit).state = v.data c'.state ∧
      v.data (step e c' .commit).state = v.data c'.state
  /-- Within a transaction both end as the engine says. -/
  finishes : c'.inTransaction = true →
    ((backend e).answer .commit c').1 = (e.run "COMMIT" [] c'.state).1.map (fun _ => ()) ∧
      ((backend e).answer .rollback c').1 = (e.run "ROLLBACK" [] c'.state).1.map (fun _ => ())
  /-- Closing discards the rest, whether or not it succeeds. -/
  closes : (step e c' .close).isOpen = false ∧ (step e c' .close).inTransaction = false ∧
    v.data (step e c' .close).state = v.durable c'.state ∧
    v.durable (step e c' .close).state = v.durable c'.state
  /-- In another connection everything is durable at once. -/
  alone : c.transactional = false → v.isOpen c'.state = false ∧
    v.durable c'.state = v.data c'.state ∧ (backend e).answer .commit c' = (.ok (), c') ∧
    (backend e).answer .rollback c' = (.ok (), c')

/-- Connections commit and roll back as they should, whatever the calls. -/
theorem transacts_after (h : e.Controls v isOrdinary) (hc : c.Opened v) {calls : List Call}
    (hcalls : ∀ call ∈ calls, ∀ sql, call.statement? = some sql → isOrdinary sql) :
    Transacts e v c calls (after e c calls) := by
  obtain ⟨htracks, hmode, hdurable⟩ := tracks_after h calls hcalls hc.tracks
  rw [← hc.settled] at hdurable
  have hnoted : c.noted.Tracks v.beside :=
    Opened.tracks ⟨hc.isOpen, hc.isIdle, hc.noneOpen, hc.settled⟩
  obtain ⟨-, -, hkept, hback⟩ := rollback_step h htracks
  obtain ⟨-, -, hsame, hcommit⟩ := commit_step h htracks
  obtain ⟨-, -, hclose⟩ := close_step h htracks
  constructor
  case informed => exact htracks.inTransaction
  case inMode => exact fun hin => ⟨hmode.symm.trans (htracks.mode hin).1, (htracks.mode hin).2⟩
  case noted => exact forget_after calls
  case begins => exact begins_after h calls hcalls hnoted nofun
  case durable => exact hdurable
  case rollsBack =>
    intro htransactional hsucceeds
    exact (hback hsucceeds).trans (hdurable htransactional)
  case commits =>
    intro htransactional hsucceeds
    rw [if_pos hsucceeds] at hcommit
    exact ⟨hcommit, hsame⟩
  case finishes =>
    intro hin
    have hopen := (htracks.mode hin).2
    exact ⟨finish_within "COMMIT" hin hopen, finish_within "ROLLBACK" hin hopen⟩
  case closes => exact hclose
  case alone =>
    intro hauto
    have hidle : (after e c calls).inTransaction = false := by
      cases hin : (after e c calls).inTransaction with
      | false => rfl
      | true => exact (htracks.mode hin).1.symm.trans (hmode.trans hauto)
    have hclosed := htracks.inTransaction.symm.trans hidle
    have hfinish (sql : String) : finish e sql (after e c calls) = (.ok (), after e c calls) := by
      simp [finish, hidle]
    exact ⟨hclosed, (htracks.settled hclosed).symm, hfinish "COMMIT", hfinish "ROLLBACK"⟩

/-- A transactional connection to the built-in store, in which one of two changes is committed. -/
theorem transacts_after_commit_between_changes :
    let c : Connection Store := { state := {}, transactional := true }
    let calls : List Call :=
      [.execute "CREATE TABLE a (x)" [], .commit, .execute "DROP TABLE a" []]
    Transacts storeEngine Store.view c calls (after storeEngine c calls) := by
  apply transacts_after controls_storeEngine ⟨rfl, rfl, rfl, rfl⟩
  intro call hcall sql hsql
  simp only [List.mem_cons, List.not_mem_nil, or_false] at hcall
  rcases hcall with rfl | rfl | rfl
  · cases hsql
    decide +kernel
  · cases hsql
  · cases hsql
    decide +kernel

end Connection

end SchemaEvolution.Sqlite
