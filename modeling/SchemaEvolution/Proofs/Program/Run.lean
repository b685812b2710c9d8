import SchemaEvolution.Proofs.Lists
import SchemaEvolution.Session

/-!
# Courses of programs

What happens when something answers the requests of a program: its result, the state that is left,
and every request with its answer, in order. Without the exchanges this is `Program.run`
(`run_eq_runFrom`); the course of a composed program is that of its parts, one after the other
(`runFrom_bind`).
-/

namespace SchemaEvolution

/-- A request and the answer that it got. -/
structure Exchange (Request : Type) (Answer : Request → Type) where
  request : Request
  answer : Answer request

/-- The course of a program: its result, the state it leaves, and its exchanges in order. -/
structure Course (Request : Type) (Answer : Request → Type) (σ α : Type) where
  result : α
  final : σ
  exchanges : List (Exchange Request Answer)

variable {Request : Type} {Answer : Request → Type} {σ α β ε : Type}

namespace Course

/-- The course that some exchanges precede. -/
def after (earlier : List (Exchange Request Answer)) (c : Course Request Answer σ α) :
    Course Request Answer σ α :=
  { c with exchanges := earlier ++ c.exchanges }

@[simp] theorem after_nil (c : Course Request Answer σ α) : c.after [] = c := rfl

@[simp] theorem after_mk (earlier exchanges : List (Exchange Request Answer)) (a : α) (s : σ) :
    after earlier ⟨a, s, exchanges⟩ = ⟨a, s, earlier ++ exchanges⟩ := rfl

@[simp] theorem after_after (first second : List (Exchange Request Answer))
    (c : Course Request Answer σ α) : (c.after second).after first = c.after (first ++ second) := by
  simp [after]

@[simp] theorem result_after (earlier : List (Exchange Request Answer))
    (c : Course Request Answer σ α) : (c.after earlier).result = c.result := rfl

@[simp] theorem final_after (earlier : List (Exchange Request Answer))
    (c : Course Request Answer σ α) : (c.after earlier).final = c.final := rfl

@[simp] theorem exchanges_after (earlier : List (Exchange Request Answer))
    (c : Course Request Answer σ α) : (c.after earlier).exchanges = earlier ++ c.exchanges := rfl

end Course

namespace Program

variable (answer : (request : Request) → StateM σ (Answer request))

/-- The course of a program from a state, with a way to answer each request. -/
def runFrom : Program Request Answer α → σ → Course Request Answer σ α
  | .done a, s => ⟨a, s, []⟩
  | .ask request next, s =>
    let reply := (answer request).run s
    ((next reply.1).runFrom reply.2).after [⟨request, reply.1⟩]

@[simp] theorem runFrom_done (a : α) (s : σ) :
    (done a : Program Request Answer α).runFrom answer s = ⟨a, s, []⟩ := rfl

/-- One request is one exchange. -/
theorem runFrom_perform (request : Request) (s : σ) :
    (perform request : Program Request Answer _).runFrom answer s =
      ⟨((answer request).run s).1, ((answer request).run s).2,
        [⟨request, ((answer request).run s).1⟩]⟩ := rfl

/-- The course of a composed program is that of its parts, one after the other. -/
theorem runFrom_bind (p : Program Request Answer α) (f : α → Program Request Answer β) (s : σ) :
    (p >>= f).runFrom answer s =
      ((f (p.runFrom answer s).result).runFrom answer (p.runFrom answer s).final).after
        (p.runFrom answer s).exchanges := by
  induction p generalizing s with
  | done a => rfl
  | ask request next ih =>
    rw [ask_bind, runFrom, runFrom, ih]
    simp

/-- Running a program gives the result and the final state of its course. -/
theorem run_eq_runFrom (p : Program Request Answer α) (s : σ) :
    (p.run answer).run s = ((p.runFrom answer s).result, (p.runFrom answer s).final) := by
  induction p generalizing s with
  | done a => rfl
  | ask request next ih =>
    rw [run, StateT.run_bind, runFrom]
    exact ih _ _

/-- Composition goes on with the result of a part that succeeds. -/
theorem runFrom_bind_of_ok {p : ExceptT ε (Program Request Answer) α} {s t : σ} {a : α}
    {exchanges : List (Exchange Request Answer)}
    (f : α → ExceptT ε (Program Request Answer) β)
    (h : runFrom answer p.run s = ⟨.ok a, t, exchanges⟩) :
    runFrom answer (p >>= f).run s = (runFrom answer (f a).run t).after exchanges := by
  rw [ExceptT.run_bind, runFrom_bind, h]

/-- Composition ends with the failure of a part. -/
theorem runFrom_bind_of_error {p : ExceptT ε (Program Request Answer) α} {s t : σ} {e : ε}
    {exchanges : List (Exchange Request Answer)}
    (f : α → ExceptT ε (Program Request Answer) β)
    (h : runFrom answer p.run s = ⟨.error e, t, exchanges⟩) :
    runFrom answer (p >>= f).run s = ⟨.error e, t, exchanges⟩ := by
  rw [ExceptT.run_bind, runFrom_bind, h]
  simp

/-! ### Failures -/

section Failures

/-- The first failure that an exchange reports ends the course and is its result. -/
def Prompt (failure? : Exchange Request Answer → Option ε)
    (course : Course Request Answer σ (Except ε α)) : Prop :=
  ∀ before x after e, course.exchanges = before ++ x :: after → failure? x = some e →
    after = [] ∧ course.result = .error e

variable {answer} {failure? : Exchange Request Answer → Option ε}

/-- A course without exchanges is prompt. -/
theorem prompt_nil (result : Except ε α) (s : σ) :
    Prompt failure? (⟨result, s, []⟩ : Course Request Answer σ (Except ε α)) := by
  intro before x after e hsplit
  exact absurd hsplit.symm (List.append_ne_nil_of_right_ne_nil _ (List.cons_ne_nil _ _))

/-- A course of one exchange is prompt if its failure is the result. -/
theorem prompt_singleton {result : Except ε α} {s : σ} {x : Exchange Request Answer}
    (h : ∀ e, failure? x = some e → result = .error e) :
    Prompt failure? (⟨result, s, [x]⟩ : Course Request Answer σ (Except ε α)) := by
  intro before y after e hsplit hfailed
  cases before with
  | nil =>
    obtain ⟨rfl, rfl⟩ := List.cons.inj hsplit
    exact ⟨rfl, h e hfailed⟩
  | cons first rest => simp at hsplit

/-- A composed program is prompt when its parts are. -/
theorem prompt_bind {p : ExceptT ε (Program Request Answer) α} {s : σ}
    {f : α → ExceptT ε (Program Request Answer) β}
    (hp : Prompt failure? (p.run.runFrom answer s))
    (hf : ∀ a t, Prompt failure? ((f a).run.runFrom answer t)) :
    Prompt failure? (runFrom answer (p >>= f).run s) := by
  cases hcourse : p.run.runFrom answer s with
  | mk result t exchanges =>
    rw [hcourse] at hp
    cases result with
    | error e =>
      rw [runFrom_bind_of_error answer f hcourse]
      intro before x after e' hsplit hfailed
      obtain ⟨hafter, hresult⟩ := hp before x after e' hsplit hfailed
      cases hresult
      exact ⟨hafter, rfl⟩
    | ok a =>
      rw [runFrom_bind_of_ok answer f hcourse]
      intro before x after e hsplit hfailed
      rcases split_append hsplit with ⟨later, hfirst⟩ | ⟨earlier, -, hsecond⟩
      · cases (hp before x later e hfirst hfailed).2
      · exact hf a t earlier x after e hsecond hfailed

end Failures

/-! ### What a program can ask -/

/-- Every request that a program can come to, whatever it is answered, has a property. -/
def Every (P : Request → Prop) : Program Request Answer α → Prop
  | .done _ => True
  | .ask request next => P request ∧ ∀ reply, (next reply).Every P

theorem Every.mono {P P' : Request → Prop} {p : Program Request Answer α} (h : p.Every P)
    (hP : ∀ request, P request → P' request) : p.Every P' := by
  induction p with
  | done a => exact True.intro
  | ask request next ih => exact ⟨hP request h.1, fun reply => ih reply (h.2 reply)⟩

/-- A composed program asks what its parts ask. -/
theorem every_bind {P : Request → Prop} {p : Program Request Answer α}
    {f : α → Program Request Answer β} (hp : p.Every P) (hf : ∀ a, (f a).Every P) :
    (p >>= f).Every P := by
  induction p with
  | done a => exact hf a
  | ask request next ih => exact ⟨hp.1, fun reply => ih reply (hp.2 reply)⟩

/-- A part that may fail, and what follows if it does not. -/
theorem every_run_bind {P : Request → Prop} {p : ExceptT ε (Program Request Answer) α}
    {f : α → ExceptT ε (Program Request Answer) β} (hp : Every P p.run)
    (hf : ∀ a, Every P (f a).run) : Every P (p >>= f).run := by
  rw [ExceptT.run_bind]
  apply every_bind hp
  intro result
  cases result with
  | ok a => exact hf a
  | error e => exact True.intro

/-- What a program asks on its course has the property. -/
theorem Every.of_mem {P : Request → Prop} {p : Program Request Answer α} (h : p.Every P) {s : σ}
    {x : Exchange Request Answer} (hx : x ∈ (p.runFrom answer s).exchanges) : P x.request := by
  induction p generalizing s with
  | done a => simp at hx
  | ask request next ih =>
    rw [runFrom, Course.exchanges_after, List.singleton_append, List.mem_cons] at hx
    rcases hx with rfl | hx
    · exact h.1
    · exact ih _ (h.2 _) hx

/-- What nothing asked on its course changes is as it was after a program. -/
theorem observe_final {τ : Type} (observe : σ → τ) {p : Program Request Answer α} {s : σ}
    (h : ∀ x ∈ (p.runFrom answer s).exchanges, ∀ s,
      observe ((answer x.request).run s).2 = observe s) :
    observe (p.runFrom answer s).final = observe s := by
  induction p generalizing s with
  | done a => rfl
  | ask request next ih =>
    rw [runFrom, Course.exchanges_after, List.singleton_append] at h
    rw [runFrom, Course.final_after, ih _ fun x hx => h x (List.mem_cons_of_mem _ hx)]
    exact h _ List.mem_cons_self s

end Program

end SchemaEvolution
