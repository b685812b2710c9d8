import SchemaEvolution.Proofs.Runner.Command
import SchemaEvolution.Proofs.Runner.Idle

/-!
# Rolling back

On a kept table, rolling a recorded version back runs what undoes it, once, and takes its row away,
or reports that it failed and leaves the rows as they are. Calls that roll the latest version back,
one after the other, unwind what is recorded from the highest version down: each takes away the next
one, up to the first that cannot be undone. That one is refused from then on, and where there is
none, the calls find nothing more to do.
-/

namespace SchemaEvolution

/-- The state that a number of calls of a procedure leave, one after the other. -/
def Procedure.finalAfter {σ α : Type} (backend : Backend σ) (p : Procedure α) : Nat → σ → σ
  | 0, s => s
  | n + 1, s => finalAfter backend p n (p.runFrom backend s).final

namespace Runner

open Procedure (attempts finalAfter QueriesKeep)
open VersionTable (Rows recordedIn Lists)

variable {σ α β : Type}

section Outcomes

variable (r : Runner) (rows : σ → Option Rows) (s : σ)

/-- What undoes a version runs, once, and nothing else does. It goes well, and of what is recorded
the row of the version is gone. -/
structure TakesBack (v : Int64) (a : α)
    (course : Course Step Step.Answer σ (Except MigrationError α)) : Prop where
  result : course.result = .ok a
  ran : ∃ logic, r.logic? .down v = some logic ∧
    ⟨.run .down v logic, .ok ()⟩ ∈ course.exchanges
  tried : attempts course.exchanges = [⟨.down v, true⟩]
  left : recordedIn rows course.final =
    (recordedIn rows s).filter (· ≠ (v, r.versions.group))

/-- What undoes a version runs, once, and fails. The failure is reported, and the rows are as they
were. -/
structure FailsToTakeBack (v : Int64) (cause : Error)
    (course : Course Step Step.Answer σ (Except MigrationError α)) : Prop where
  result : course.result = .error (.failed v cause)
  ran : ∃ logic, r.logic? .down v = some logic ∧
    ⟨.run .down v logic, .error cause⟩ ∈ course.exchanges
  tried : attempts course.exchanges = [⟨.down v, false⟩]
  rows_eq : rows course.final = rows s

/-- Nothing runs: the course asks, and what queries do not change is as it was. -/
structure OnlyAsks (backend : Backend σ) (result : Except MigrationError α)
    (course : Course Step Step.Answer σ (Except MigrationError α)) : Prop where
  result : course.result = result
  queries : ∀ x ∈ course.exchanges, x.request.isQuery = true
  rows_eq : rows course.final = rows s
  observe_eq : ∀ (τ : Type) (observe : σ → τ), QueriesKeep backend observe →
    observe course.final = observe s

end Outcomes

variable {r : Runner} {backend : Backend σ} {rows : σ → Option Rows} {s : σ}

/-! ### One version -/

/-- A procedure that takes a version back, or fails to, does so behind queries, and whatever becomes
of its result. -/
private theorem takesBack_or_fails_behind {v : Int64} {a : α} {p : Procedure α} {s' : σ}
    {asking : List Procedure.Exchange} (f : α → β) (hrows : rows s' = rows s)
    (hqueries : ∀ x ∈ asking, x.request.isQuery = true)
    (h : r.TakesBack rows s' v a (p.runFrom backend s') ∨
      ∃ cause, r.FailsToTakeBack rows s' v cause (p.runFrom backend s')) :
    r.TakesBack rows s v (f a) ((Procedure.runFrom backend (f <$> p) s').after asking) ∨
      ∃ cause, r.FailsToTakeBack rows s v cause
        ((Procedure.runFrom backend (f <$> p) s').after asking) := by
  have htried : attempts (asking ++ (p.runFrom backend s').exchanges) =
      attempts (p.runFrom backend s').exchanges := by
    rw [Procedure.attempts_append, Procedure.attempts_of_queries hqueries, List.nil_append]
  rw [Procedure.runFrom_map, Course.after_mk]
  rcases h with ⟨hresult, ⟨logic, hlogic, hran⟩, hdown, hleft⟩ |
    ⟨cause, hresult, ⟨logic, hlogic, hran⟩, hdown, hsame⟩
  · refine .inl ⟨by rw [hresult]; rfl, ⟨logic, hlogic, List.mem_append_right _ hran⟩,
      htried.trans hdown, ?_⟩
    rw [← VersionTable.recordedIn_congr hrows]
    exact hleft
  · exact .inr ⟨cause, by rw [hresult]; rfl, ⟨logic, hlogic, List.mem_append_right _ hran⟩,
      htried.trans hdown, hsame.trans hrows⟩

/-- A recorded version that can be undone goes down, or fails to. -/
private theorem carry_down (kept : r.versions.KeptBy r.client backend rows)
    (spares : r.Spares backend rows) {v : Int64} (hundo : r.CanUndo v)
    (hrow : (v, r.versions.group) ∈ recordedIn rows s) :
    r.TakesBack rows s v () ((r.carry (.down v)).runFrom backend s) ∨
      ∃ cause, r.FailsToTakeBack rows s v cause ((r.carry (.down v)).runFrom backend s) := by
  obtain ⟨logic, hlogic⟩ := Option.isSome_iff_exists.mp (isSome_logic?_down_of_canUndo hundo)
  have hmove : r.logic? (Move.down v).phase (Move.down v).version = some logic := hlogic
  have hspared := spares _ _ _ hlogic s
  cases hrun : (logic.run.on backend).run s with
  | mk outcome s₁ =>
    rw [hrun] at hspared
    cases outcome with
    | error cause =>
      rw [runFrom_carry_of_error hmove hrun]
      exact .inr ⟨cause, rfl, ⟨logic, hlogic, List.mem_singleton_self _⟩, rfl, hspared⟩
    | ok _ =>
      have hrecorded := VersionTable.recordedIn_congr hspared
      have hexists : rows s₁ = some (recordedIn rows s₁) :=
        VersionTable.rows_eq_some_of_mem (by rw [hrecorded]; exact hrow)
      obtain ⟨s₂, settling, hsettle, htried, hleft⟩ :=
        runFrom_settle kept (m := .down v) fun _ => hexists
      rw [runFrom_carry_of_ok hmove hrun, hsettle]
      refine .inl ⟨rfl, ⟨logic, hlogic, List.mem_cons_self⟩, ?_, ?_⟩
      · rw [Course.exchanges_after, Procedure.attempts_append, htried]
        rfl
      · rw [Course.final_after, VersionTable.recordedIn_of_some hleft, hrecorded]
        rfl

/-- A plan of one move is the move. -/
private theorem carryAll_singleton (m : Move) : r.carryAll [m] = r.carry m := by
  change r.carry m >>= (fun _ => pure ()) = _
  rw [← map_eq_pure_bind]
  exact id_map' _

/-- Rolling back a recorded version that can be undone takes it back, or fails to. -/
theorem rollback_of_canUndo (kept : r.versions.KeptBy r.client backend rows)
    (spares : r.Spares backend rows) {v : Int64} (hundo : r.CanUndo v)
    (hrow : (v, r.versions.group) ∈ recordedIn rows s) :
    r.TakesBack rows s v true ((r.rollback v).runFrom backend s) ∨
      ∃ cause, r.FailsToTakeBack rows s v cause ((r.rollback v).runFrom backend s) := by
  obtain ⟨down, hdown⟩ := findDown_of_canUndo hundo
  obtain ⟨applied, s', reading, hread, hrows, hlists, hqueries⟩ := runFrom_applied kept s
  have happlied : applied.contains v = true :=
    List.contains_iff_mem.mpr ((hlists.mem_iff v).mpr hrow)
  have hcourse : (r.rollback v).runFrom backend s =
      (Procedure.runFrom backend ((fun _ => true) <$> r.carry (.down v)) s').after reading := by
    rw [rollback_eq, hdown]
    refine (Procedure.runFrom_bind_of_ok (Procedure.runFrom_ofExcept _ _) _).trans ?_
    rw [Course.after_nil, Procedure.runFrom_bind_of_ok hread, planBack, if_pos happlied, happlied,
      carryAll_singleton]
  rw [← VersionTable.recordedIn_congr hrows] at hrow
  rw [hcourse]
  exact takesBack_or_fails_behind (fun _ => true) hrows hqueries (carry_down kept spares hundo hrow)

/-! ### The latest version -/

/-- A course that only asks leaves what queries do not change. -/
private theorem onlyAsks_of_queries {p : Procedure α} {result : Except MigrationError α}
    (hresult : (p.runFrom backend s).result = result)
    (hqueries : ∀ x ∈ (p.runFrom backend s).exchanges, x.request.isQuery = true)
    (hrows : rows (p.runFrom backend s).final = rows s) :
    OnlyAsks rows s backend result (p.runFrom backend s) :=
  ⟨hresult, hqueries, hrows, fun _ _ hkeep => Procedure.observe_final_of_queries hkeep hqueries⟩

private theorem getLast?_of_reverse {applied rest : List Int64} {v : Int64}
    (h : applied.reverse = v :: rest) : applied.getLast? = some v := by
  rw [← List.head?_reverse, h]
  rfl

/-- Where nothing is recorded, nothing is rolled back. -/
private theorem rollbackLast_of_nil (kept : r.versions.KeptBy r.client backend rows)
    (h : Lists (recordedIn rows s) r.versions.group []) :
    OnlyAsks rows s backend (.ok none) (r.rollbackLast.runFrom backend s) := by
  obtain ⟨applied, s', reading, hread, hrows, hlists, hqueries⟩ := runFrom_applied kept s
  obtain rfl : applied = [] := List.eq_nil_iff_forall_not_mem.mpr fun v hv =>
    List.not_mem_nil ((h.mem_iff v).mpr ((hlists.mem_iff v).mp hv))
  have hcourse : r.rollbackLast.runFrom backend s = ⟨.ok none, s', reading⟩ := by
    rw [rollbackLast, Procedure.runFrom_bind_of_ok hread]
    exact congrArg (Course.mk _ _) (List.append_nil _)
  apply onlyAsks_of_queries <;> rw [hcourse]
  · exact hqueries
  · exact hrows

/-- Rolling the latest version back is rolling that version back, once it is known which it is. -/
private theorem runFrom_rollbackLast (kept : r.versions.KeptBy r.client backend rows)
    {applied rest : List Int64} {v : Int64} (h : Lists (recordedIn rows s) r.versions.group applied)
    (hlatest : applied.reverse = v :: rest) :
    ∃ s' reading, rows s' = rows s ∧
      (∀ x ∈ reading, Step.isQuery x.request = true) ∧
      r.rollbackLast.runFrom backend s =
        (Procedure.runFrom backend ((fun _ => some v) <$> r.rollback v) s').after reading := by
  obtain ⟨applied', s', reading, hread, hrows, hlists, hqueries⟩ := runFrom_applied kept s
  obtain rfl : applied' = applied := Ascending.ext hlists.ascending h.ascending fun w =>
    (hlists.mem_iff w).trans (h.mem_iff w).symm
  refine ⟨s', reading, hrows, hqueries, ?_⟩
  rw [rollbackLast, Procedure.runFrom_bind_of_ok hread, getLast?_of_reverse hlatest,
    map_eq_pure_bind]

/-- The latest version is taken back, or fails to be. -/
private theorem rollbackLast_of_canUndo (kept : r.versions.KeptBy r.client backend rows)
    (spares : r.Spares backend rows) {applied rest : List Int64} {v : Int64}
    (h : Lists (recordedIn rows s) r.versions.group applied) (hlatest : applied.reverse = v :: rest)
    (hundo : r.CanUndo v) :
    r.TakesBack rows s v (some v) (r.rollbackLast.runFrom backend s) ∨
      ∃ cause, r.FailsToTakeBack rows s v cause (r.rollbackLast.runFrom backend s) := by
  obtain ⟨s', reading, hrows, hqueries, hcourse⟩ := runFrom_rollbackLast kept h hlatest
  have hrow : (v, r.versions.group) ∈ recordedIn rows s' := by
    rw [VersionTable.recordedIn_congr hrows, ← h.mem_iff, ← List.mem_reverse, hlatest]
    exact List.mem_cons_self
  rw [hcourse]
  exact takesBack_or_fails_behind (fun _ => some v) hrows hqueries
    (rollback_of_canUndo kept spares hundo hrow)

/-- A latest version that cannot be undone is refused. -/
private theorem rollbackLast_of_not_canUndo (kept : r.versions.KeptBy r.client backend rows)
    {applied rest : List Int64} {v : Int64} (h : Lists (recordedIn rows s) r.versions.group applied)
    (hlatest : applied.reverse = v :: rest) (hundo : ¬ r.CanUndo v) :
    OnlyAsks rows s backend (.error (r.refusal v)) (r.rollbackLast.runFrom backend s) := by
  obtain ⟨s', reading, hrows, hqueries, hmapped⟩ := runFrom_rollbackLast kept h hlatest
  have hrollback : (r.rollback v).runFrom backend s' = ⟨.error (r.refusal v), s', []⟩ := by
    rw [rollback_eq, findDown_of_not_canUndo hundo]
    exact Procedure.runFrom_bind_of_error (Procedure.runFrom_ofExcept _ _) _
  have hcourse : r.rollbackLast.runFrom backend s = ⟨.error (r.refusal v), s', reading⟩ := by
    rw [hmapped, Procedure.runFrom_map, hrollback]
    exact congrArg (Course.mk _ _) (List.append_nil _)
  apply onlyAsks_of_queries <;> rw [hcourse]
  · exact hqueries
  · exact hrows

/-! ### Call after call -/

/-- Without the latest version, the others are recorded. -/
private theorem lists_of_latest {present : Rows} {group : String} {applied rest : List Int64}
    {v : Int64} (h : Lists present group applied) (hlatest : applied.reverse = v :: rest) :
    Lists (present.filter (· ≠ (v, group))) group rest.reverse := by
  have happlied : applied = rest.reverse ++ [v] := by
    rw [← List.reverse_reverse applied, hlatest, List.reverse_cons]
  obtain ⟨hascending, hmem⟩ := h
  rw [happlied] at hascending hmem
  refine ⟨(List.pairwise_append.mp hascending).1, fun w => ?_⟩
  have hlower : v ∉ rest.reverse := fun hv =>
    Int64.lt_irrefl ((List.pairwise_append.mp hascending).2.2 v hv v (List.mem_singleton_self v))
  rw [Multiset.mem_filter, ← hmem, List.mem_append, List.mem_singleton]
  constructor
  · intro hw
    refine ⟨.inl hw, fun he => hlower ?_⟩
    obtain rfl : w = v := congrArg Prod.fst he
    exact hw
  · rintro ⟨hw | rfl, hne⟩
    · exact hw
    · exact absurd rfl hne

/-- The calls in a row that roll the latest version back each take one version back, from the
highest one down, as long as there are versions to be undone. Then they only ask: they find nothing,
or refuse the version that is the latest now. -/
structure Unwinds (r : Runner) (backend : Backend σ) (rows : σ → Option Rows) (s : σ)
    (undone rest : List Int64) : Prop where
  takesBack : ∀ n v, undone[n]? = some v →
    r.TakesBack rows (finalAfter backend r.rollbackLast n s) v (some v)
      (r.rollbackLast.runFrom backend (finalAfter backend r.rollbackLast n s))
  onlyAsks : ∀ n, undone.length ≤ n →
    OnlyAsks rows (finalAfter backend r.rollbackLast n s) backend
      (match rest.head? with
        | none => .ok none
        | some v => .error (r.refusal v))
      (r.rollbackLast.runFrom backend (finalAfter backend r.rollbackLast n s))
  left : ∀ n v, (v, r.versions.group) ∈ recordedIn rows (finalAfter backend r.rollbackLast n s) ↔
    v ∈ undone.drop n ++ rest

section Unwinding

variable {undone rest : List Int64} (kept : r.versions.KeptBy r.client backend rows)
  (spares : r.Spares backend rows) (hundone : ∀ v ∈ undone, r.CanUndo v)
  (hrest : ∀ v ∈ rest.head?, ¬ r.CanUndo v)

include kept spares hundone hrest

/-- One call takes the latest version back if it can be undone, and leaves the rows otherwise. -/
private theorem lists_final
    (h : Lists (recordedIn rows s) r.versions.group (undone ++ rest).reverse)
    (hsucceeds : ∀ a ∈ attempts (r.rollbackLast.runFrom backend s).exchanges, a.succeeded = true) :
    Lists (recordedIn rows (r.rollbackLast.runFrom backend s).final) r.versions.group
      (undone.drop 1 ++ rest).reverse := by
  cases undone with
  | cons v undone =>
    have hlatest : (v :: undone ++ rest).reverse.reverse = v :: (undone ++ rest) :=
      List.reverse_reverse _
    rcases rollbackLast_of_canUndo kept spares h hlatest (hundone v List.mem_cons_self) with
      hback | ⟨cause, hfails⟩
    · rw [hback.left]
      exact lists_of_latest h hlatest
    · rw [hfails.tried] at hsucceeds
      cases hsucceeds _ (List.mem_singleton_self _)
  | nil =>
    cases rest with
    | nil =>
      rw [VersionTable.recordedIn_congr (rollbackLast_of_nil kept h).rows_eq]
      exact h
    | cons v rest =>
      have hlatest : ([] ++ v :: rest).reverse.reverse = v :: rest := List.reverse_reverse _
      have hasks := rollbackLast_of_not_canUndo kept h hlatest (hrest v rfl)
      rw [VersionTable.recordedIn_congr hasks.rows_eq]
      exact h

/-- Some calls take as many versions back, while there are any to be undone. -/
private theorem lists_finalAfter
    (h : Lists (recordedIn rows s) r.versions.group (undone ++ rest).reverse)
    (hsucceeds : ∀ n, ∀ a ∈ attempts (r.rollbackLast.runFrom backend
      (finalAfter backend r.rollbackLast n s)).exchanges, a.succeeded = true) (n : Nat) :
    Lists (recordedIn rows (finalAfter backend r.rollbackLast n s)) r.versions.group
      (undone.drop n ++ rest).reverse := by
  induction n generalizing s undone with
  | zero => exact h
  | succ n ih =>
    have hnext := lists_final kept spares hundone hrest h (hsucceeds 0)
    have hdrop : (undone.drop 1).drop n = undone.drop (n + 1) := by
      rw [List.drop_drop, Nat.add_comm]
    rw [← hdrop]
    exact ih (fun v hv => hundone v (List.mem_of_mem_drop hv)) hnext fun n => hsucceeds (n + 1)

/-- Calls whose logic all goes well unwind what is recorded. -/
theorem unwinds_of_lists
    (h : Lists (recordedIn rows s) r.versions.group (undone ++ rest).reverse)
    (hsucceeds : ∀ n, ∀ a ∈ attempts (r.rollbackLast.runFrom backend
      (finalAfter backend r.rollbackLast n s)).exchanges, a.succeeded = true) :
    r.Unwinds backend rows s undone rest where
  takesBack n v hv := by
    obtain ⟨hlt, rfl⟩ := List.getElem?_eq_some_iff.mp hv
    have hlists := lists_finalAfter kept spares hundone hrest h hsucceeds n
    have hlatest : (undone.drop n ++ rest).reverse.reverse =
        undone[n] :: (undone.drop (n + 1) ++ rest) := by
      rw [List.reverse_reverse, List.drop_eq_getElem_cons hlt, List.cons_append]
    rcases rollbackLast_of_canUndo kept spares hlists hlatest
      (hundone _ (List.getElem_mem hlt)) with hback | ⟨cause, hfails⟩
    · exact hback
    · have hsucceeded := hsucceeds n
      rw [hfails.tried] at hsucceeded
      cases hsucceeded _ (List.mem_singleton_self _)
  onlyAsks n hn := by
    have hlists := lists_finalAfter kept spares hundone hrest h hsucceeds n
    rw [List.drop_eq_nil_of_le hn, List.nil_append] at hlists
    cases rest with
    | nil => exact rollbackLast_of_nil kept hlists
    | cons v rest =>
      exact rollbackLast_of_not_canUndo kept hlists (List.reverse_reverse _) (hrest v rfl)
  left n v := by
    rw [← (lists_finalAfter kept spares hundone hrest h hsucceeds n).mem_iff, List.mem_reverse]

end Unwinding

/-- Recorded versions are those that can be undone, from the highest one down, and the rest. -/
private theorem exists_undone {applied : List Int64} {present : Rows}
    (h : Lists present r.versions.group applied) :
    ∃ undone rest : List Int64, (undone ++ rest).reverse = applied ∧
      (undone ++ rest).Pairwise (· > ·) ∧
      (∀ v, v ∈ undone ++ rest ↔ (v, r.versions.group) ∈ present) ∧
      (∀ v ∈ undone, r.CanUndo v) ∧ ∀ v ∈ rest.head?, ¬ r.CanUndo v := by
  have hdescending : applied.reverse.Pairwise (· > ·) := List.pairwise_reverse.mpr h.ascending
  have hmem (v : Int64) : v ∈ applied.reverse ↔ (v, r.versions.group) ∈ present := by
    rw [List.mem_reverse, h.mem_iff]
  rcases canUndo_or_first (r := r) applied.reverse with
    hall | ⟨undone, v, rest, hsplit, hundone, hv⟩
  · refine ⟨applied.reverse, [], ?_, ?_, ?_, hall, nofun⟩ <;> rw [List.append_nil]
    · exact List.reverse_reverse applied
    · exact hdescending
    · exact hmem
  · rw [hsplit] at hdescending hmem
    refine ⟨undone, v :: rest, ?_, hdescending, hmem, hundone, ?_⟩
    · rw [← hsplit, List.reverse_reverse]
    · rintro w hw
      obtain rfl : v = w := Option.some.inj hw
      exact hv

/-- Rolling back, on a kept table that the migrations leave alone. A recorded version that can be
undone is taken back, or what undoes it fails. Calls in a row that roll the latest version back, and
whose logic all goes well, unwind what is recorded in descending order up to the first version that
cannot be undone, or to the end. -/
theorem rollback_unwinds_newest_first (kept : r.versions.KeptBy r.client backend rows)
    (spares : r.Spares backend rows) (s : σ) :
    (∀ v, (v, r.versions.group) ∈ recordedIn rows s → r.CanUndo v →
      r.TakesBack rows s v true ((r.rollback v).runFrom backend s) ∨
        ∃ cause, r.FailsToTakeBack rows s v cause ((r.rollback v).runFrom backend s)) ∧
    ((∀ n, ∀ a ∈ attempts (r.rollbackLast.runFrom backend
        (finalAfter backend r.rollbackLast n s)).exchanges, a.succeeded = true) →
      ∃ undone rest, (undone ++ rest).Pairwise (· > ·) ∧
        (∀ v, v ∈ undone ++ rest ↔ (v, r.versions.group) ∈ recordedIn rows s) ∧
        (∀ v ∈ undone, r.CanUndo v) ∧ (∀ v ∈ rest.head?, ¬ r.CanUndo v) ∧
        r.Unwinds backend rows s undone rest) := by
  refine ⟨fun v hrow hundo => rollback_of_canUndo kept spares hundo hrow, fun hsucceeds => ?_⟩
  obtain ⟨applied, -, -, -, -, hlists, -⟩ := runFrom_applied kept s
  obtain ⟨undone, rest, rfl, hdescending, hmem, hundone, hrest⟩ := exists_undone hlists
  exact ⟨undone, rest, hdescending, hmem, hundone, hrest,
    unwinds_of_lists kept spares hundone hrest hlists hsucceeds⟩

private theorem succeeded_of_every {group : String} {versions : List Int64}
    {p : Program Step Step.Answer α} (h : p.Every (idle group versions).RunsOwn) (s : σ) :
    ∀ a ∈ attempts (p.runFrom (Procedure.answering backend) s).exchanges, a.succeeded = true := by
  induction p generalizing s with
  | done a => exact nofun
  | ask step next ih =>
    intro a ha
    rw [Program.runFrom, Course.exchanges_after, Procedure.attempts_append] at ha
    rcases List.mem_append.mp ha with hfirst | hlater
    · cases step with
      | call c => cases hfirst
      | run phase version logic =>
        obtain rfl : logic = pure () := logic?_idle h.1
        obtain rfl := List.mem_singleton.mp hfirst
        rfl
    · exact ih _ (h.2 _) _ a hlater

/-- What an idle runner tries goes well, call after call. -/
theorem succeeded_of_idle {group : String} {versions : List Int64} (n : Nat) :
    ∀ a ∈ attempts ((idle group versions).rollbackLast.runFrom backend
      (finalAfter backend (idle group versions).rollbackLast n s)).exchanges, a.succeeded = true :=
  succeeded_of_every runsOwn_of_parts.rollbackLast _

/-- Of four recorded versions the upper two are unwound. The next one, which the runner does not
know, is refused from then on. -/
theorem rollback_unwinds_down_to_unknown :
    (idle "a" [1, 3, 4]).Unwinds keeper VersionTable.Memory.rows
      (some [(1, "a"), (2, "a"), (3, "a"), (4, "a")]) [4, 3] [2, 1] := by
  obtain ⟨-, hunwinds⟩ := rollback_unwinds_newest_first (keptBy_idle "a" [1, 3, 4])
    (spares_idle "a" [1, 3, 4] keeper VersionTable.Memory.rows)
    (some [(1, "a"), (2, "a"), (3, "a"), (4, "a")])
  obtain ⟨undone, rest, hdescending, hmem, hundone, hrest, hunwinds⟩ :=
    hunwinds fun n => succeeded_of_idle n
  have hunknown : ¬ (idle "a" [1, 3, 4]).CanUndo 2 := by
    rintro ⟨m, hm, -⟩
    cases hm
  have hversions : undone ++ rest = [4, 3, 2, 1] := by
    refine List.reverse_injective (Ascending.ext (List.pairwise_reverse.mpr hdescending)
      (by decide) fun v => List.mem_reverse.trans ((hmem v).trans ?_))
    simp [recordedIn, VersionTable.Memory.rows, idle]
  rcases undone with - | ⟨v₁, - | ⟨v₂, - | ⟨v₃, undone⟩⟩⟩
  · cases hversions
    exact absurd (canUndo_idle (by decide)) (hrest 4 rfl)
  · cases hversions
    exact absurd (canUndo_idle (by decide)) (hrest 3 rfl)
  · cases hversions
    exact hunwinds
  · obtain rfl : v₃ = 2 := congrArg (·.getD 2 0) hversions
    exact absurd (hundone 2 (by simp)) hunknown

end Runner

end SchemaEvolution
