import SchemaEvolution.Dialect.Sqlite
import SchemaEvolution.Proofs.Operation.Statements

/-!
# Clients that are not strict

A client that is not strict differs from a strict one in a single thing: where the backend refuses
to create what exists, it goes on with the next operation. Until then the two send the same
statements and leave the same state.
-/

namespace SchemaEvolution

variable {σ : Type} {backend : Backend σ}

/-- A client that is strict or not, and otherwise the same. -/
def Client.withStrict (c : Client) (strict : Bool) : Client :=
  { c with config := { c.config with strict } }

namespace Operation

variable {c : Client} {op : Operation} {e : Error}

/-- The failure of an operation is that the backend has what the operation creates: its statements
could be written, and one of them was refused because the object exists. -/
structure MeetsExisting (c : Client) (op : Operation) (e : Error) : Prop where
  isCreation : op.isCreation = true
  written : ∃ statements, op.statements c = .ok statements
  isAlreadyExists : e.isAlreadyExists = true

/-- What an operation is written as does not depend on whether the client is strict. -/
theorem statements_withStrict (c : Client) (strict : Bool) (op : Operation) :
    op.statements (c.withStrict strict) = op.statements c := by
  cases op <;> rfl

theorem passesOver_strict (e : Error) : op.passesOver (c.withStrict true) e = false :=
  passesOver_of_strict rfl e

theorem passesOver_lenient (e : Error) :
    op.passesOver (c.withStrict false) e = (op.isCreation && e.isAlreadyExists) := by
  simp [passesOver, Client.withStrict]

/-! ### One operation -/

/-- An operation has the same course on both clients, unless it meets what exists: then only the
result differs. -/
theorem apply_lenient_cases (c : Client) (op : Operation) (backend : Backend σ) (s : σ) :
    ((op.apply (c.withStrict false)).runFrom backend s =
        (op.apply (c.withStrict true)).runFrom backend s ∧
      ∀ e, ((op.apply (c.withStrict true)).runFrom backend s).result = .error e →
        ¬ MeetsExisting c op e) ∨
    ∃ e t exchanges, MeetsExisting c op e ∧
      (op.apply (c.withStrict true)).runFrom backend s = ⟨.error e, t, exchanges⟩ ∧
      (op.apply (c.withStrict false)).runFrom backend s = ⟨.ok (), t, exchanges⟩ := by
  cases hwritten : op.statements c with
  | error e =>
    left
    have hcourse (strict : Bool) :
        (op.apply (c.withStrict strict)).runFrom backend s = ⟨.error e, s, []⟩ :=
      runFrom_apply_of_unwritten ((statements_withStrict c strict op).trans hwritten) s
    refine ⟨(hcourse false).trans (hcourse true).symm, fun _ _ hmeets => ?_⟩
    obtain ⟨statements, hok⟩ := hmeets.written
    cases hwritten.symm.trans hok
  | ok statements =>
    have hcourse (strict : Bool) : (op.apply (c.withStrict strict)).runFrom backend s =
        (pardon (op.passesOver (c.withStrict strict)) (sendEach statements)).runFrom backend s :=
      runFrom_apply_of_ok ((statements_withStrict c strict op).trans hwritten) s
    rw [hcourse, hcourse, runFrom_pardon, runFrom_pardon]
    cases hsent : (sendEach statements).runFrom backend s with
    | mk result t exchanges =>
      cases result with
      | ok _ => exact .inl ⟨rfl, nofun⟩
      | error e =>
        cases hmeets : op.isCreation && e.isAlreadyExists with
        | true =>
          obtain ⟨hcreation, hexists⟩ := Bool.and_eq_true_iff.mp hmeets
          refine .inr ⟨e, t, exchanges, ⟨hcreation, ⟨_, hwritten⟩, hexists⟩, ?_, ?_⟩
          · simp [passesOver_strict]
          · simp [passesOver_lenient, hmeets]
        | false =>
          refine .inl ⟨by simp [passesOver_strict, passesOver_lenient, hmeets], fun e' he' h => ?_⟩
          have hsame : e = e' := by simpa [passesOver_strict] using he'
          rw [hsame, h.isCreation, h.isAlreadyExists] at hmeets
          cases hmeets

/-! ### All of them -/

/-- The course of operations on a client that is strict or not. -/
def courseOn (c : Client) (backend : Backend σ) (strict : Bool) (ops : List Operation) (s : σ) :
    Course Call (fun call => Except BackendError call.Answer) σ (Except Error Unit) :=
  (applyAll (c.withStrict strict) ops).runFrom backend s

section Courses

variable {strict : Bool} {rest : List Operation} {s t : σ} {xs : List Action.Exchange}

theorem courseOn_cons_of_ok
    (h : (op.apply (c.withStrict strict)).runFrom backend s = ⟨.ok (), t, xs⟩) :
    courseOn c backend strict (op :: rest) s = (courseOn c backend strict rest t).after xs :=
  Action.runFrom_bind_of_ok h _

theorem courseOn_cons_of_error
    (h : (op.apply (c.withStrict strict)).runFrom backend s = ⟨.error e, t, xs⟩) :
    courseOn c backend strict (op :: rest) s = ⟨.error e, t, xs⟩ :=
  Action.runFrom_bind_of_error h _

end Courses

/-- How a client that is not strict fares with operations, compared with a strict one. -/
structure GoesOn (c : Client) (backend : Backend σ) (ops : List Operation) (s : σ) : Prop where
  /-- It sends what the strict client sends, and maybe more. -/
  sent : (courseOn c backend true ops s).exchanges <+: (courseOn c backend false ops s).exchanges
  /-- Where the strict client succeeds it does the same. -/
  of_ok : (courseOn c backend true ops s).result = .ok () →
    courseOn c backend false ops s = courseOn c backend true ops s
  /-- Where the strict client fails, that is an operation which fails after all before it have
  succeeded. If the backend has what the operation creates, the client goes on with the operations
  after it from the state in which the strict client ends; if not, it does the same. -/
  of_error : ∀ e, (courseOn c backend true ops s).result = .error e →
    ∃ before op after, ops = before ++ op :: after ∧
      (courseOn c backend true before s).result = .ok () ∧
      ((op.apply (c.withStrict true)).runFrom backend
        (courseOn c backend true before s).final).result = .error e ∧
      (MeetsExisting c op e → courseOn c backend false ops s =
        (courseOn c backend false after (courseOn c backend true ops s).final).after
          (courseOn c backend true ops s).exchanges) ∧
      (¬ MeetsExisting c op e →
        courseOn c backend false ops s = courseOn c backend true ops s)

namespace GoesOn

variable {rest : List Operation} {s t : σ} {xs : List Action.Exchange}

/-- Both clients carry the first operation out. -/
private theorem cons (hstrict : (op.apply (c.withStrict true)).runFrom backend s = ⟨.ok (), t, xs⟩)
    (hlenient : (op.apply (c.withStrict false)).runFrom backend s = ⟨.ok (), t, xs⟩)
    (hrest : GoesOn c backend rest t) : GoesOn c backend (op :: rest) s := by
  constructor <;> rw [courseOn_cons_of_ok hstrict, courseOn_cons_of_ok hlenient]
  case sent => exact (List.prefix_append_right_inj xs).mpr hrest.sent
  case of_ok =>
    intro h
    rw [hrest.of_ok h]
  case of_error =>
    intro e h
    obtain ⟨before, op', after, rfl, hbefore, hop', hmeets, hother⟩ := hrest.of_error e h
    refine ⟨op :: before, op', after, rfl, ?_, ?_, fun h => ?_, fun h => ?_⟩
    · rw [courseOn_cons_of_ok hstrict]
      exact hbefore
    · rw [courseOn_cons_of_ok hstrict]
      exact hop'
    · rw [hmeets h, Course.after_after]
      rfl
    · rw [hother h]

/-- Neither client gets past the first operation, which does not meet what exists. -/
private theorem of_fails
    (hstrict : (op.apply (c.withStrict true)).runFrom backend s = ⟨.error e, t, xs⟩)
    (hlenient : (op.apply (c.withStrict false)).runFrom backend s = ⟨.error e, t, xs⟩)
    (hother : ¬ MeetsExisting c op e) : GoesOn c backend (op :: rest) s := by
  have hsame : courseOn c backend false (op :: rest) s = courseOn c backend true (op :: rest) s :=
    (courseOn_cons_of_error hlenient).trans (courseOn_cons_of_error hstrict).symm
  refine ⟨hsame ▸ List.prefix_rfl, fun _ => hsame, fun e' he' => ?_⟩
  rw [courseOn_cons_of_error hstrict] at he'
  cases he'
  exact ⟨[], op, rest, rfl, rfl, congrArg Course.result hstrict, (absurd · hother), fun _ => hsame⟩

/-- The first operation meets what exists, and only the strict client ends with it. -/
private theorem of_meets
    (hstrict : (op.apply (c.withStrict true)).runFrom backend s = ⟨.error e, t, xs⟩)
    (hlenient : (op.apply (c.withStrict false)).runFrom backend s = ⟨.ok (), t, xs⟩)
    (hmeets : MeetsExisting c op e) : GoesOn c backend (op :: rest) s := by
  constructor <;> rw [courseOn_cons_of_error hstrict, courseOn_cons_of_ok hlenient]
  case sent => exact List.prefix_append _ _
  case of_ok => exact nofun
  case of_error =>
    rintro _ ⟨⟩
    exact ⟨[], op, rest, rfl, rfl, congrArg Course.result hstrict, fun _ => rfl,
      (absurd hmeets ·)⟩

end GoesOn

/-- Operations on a strict client and on one that is not, and otherwise the same, from one state of
any backend: what the strict client sends is a prefix of what the other sends. When the strict
client succeeds, both do the same. When it fails, an operation failed after all before it succeeded;
if the backend has what that operation creates, the other client goes on with the next operation,
and if not, both do the same. -/
theorem lenient_goes_on_past_existing (c : Client) (backend : Backend σ) (ops : List Operation)
    (s : σ) : GoesOn c backend ops s := by
  induction ops generalizing s with
  | nil => exact ⟨List.prefix_rfl, fun _ => rfl, nofun⟩
  | cons op rest ih =>
    rcases apply_lenient_cases c op backend s with ⟨hsame, hother⟩ |
        ⟨e, t, xs, hmeets, hstrict, hlenient⟩
    · cases hop : (op.apply (c.withStrict true)).runFrom backend s with
      | mk result t xs =>
        rw [hop] at hsame hother
        cases result with
        | ok _ => exact .cons hop hsame (ih t)
        | error e => exact .of_fails hop hsame (hother e rfl)
    · exact .of_meets hstrict hlenient hmeets

/-- A backend that has what the second statement creates. -/
private def havingSecond : Backend Nat where
  answer
    | .execute _ _ => fun n =>
      (if n = 1 then .error { kind := .alreadyExists, message := "duplicate" } else .ok 0, n + 1)
    | _ => fun n => (.error .closed, n + 1)

/-- A column is added twice, and then an index. -/
private def addedTwice : List Operation :=
  [.addColumn "people" (Column.integer "age"), .addColumn "people" (Column.integer "age"),
    .addIndex "people" "people_age" ["age"]]

theorem lenient_goes_on_past_column :
    ∃ before op after, addedTwice = before ++ op :: after ∧
      (courseOn ⟨Dialect.sqlite, none, {}⟩ havingSecond true addedTwice 0).exchanges.length = 2 ∧
      courseOn ⟨Dialect.sqlite, none, {}⟩ havingSecond false addedTwice 0 =
        (courseOn ⟨Dialect.sqlite, none, {}⟩ havingSecond false after 2).after
          (courseOn ⟨Dialect.sqlite, none, {}⟩ havingSecond true addedTwice 0).exchanges := by
  obtain ⟨before, op, after, hsplit, -, -, hmeets, -⟩ :=
    (lenient_goes_on_past_existing ⟨Dialect.sqlite, none, {}⟩ havingSecond addedTwice 0).of_error
      _ rfl
  have hop : op ∈ addedTwice := hsplit ▸ List.mem_append_right _ List.mem_cons_self
  have hcreations : ∀ op ∈ addedTwice, op.isCreation = true := by decide
  have hwritten : ∀ op ∈ addedTwice, ∃ statements,
      op.statements ⟨Dialect.sqlite, none, {}⟩ = .ok statements := by
    simp [addedTwice, statements]
  exact ⟨before, op, after, hsplit, rfl, hmeets ⟨hcreations op hop, hwritten op hop, rfl⟩⟩

end Operation

end SchemaEvolution
