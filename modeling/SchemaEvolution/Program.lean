/-!
# Programs

A program asks requests one after the other and goes on with each answer. It is data: it can be run
against anything that answers the requests, and be stepped one request at a time. Running a
composed program is running its parts (`run_bind`).
-/

namespace SchemaEvolution

/-- A computation that asks requests, each of which has answers of its own type. -/
inductive Program (Request : Type) (Answer : Request → Type) (α : Type) where
  | done (result : α)
  | ask (request : Request) (next : Answer request → Program Request Answer α)

namespace Program

variable {Request : Type} {Answer : Request → Type} {α β γ : Type}

/-- Goes on with the result of a program. -/
def bind (p : Program Request Answer α) (f : α → Program Request Answer β) :
    Program Request Answer β :=
  match p with
  | .done a => f a
  | .ask request next => .ask request fun answer => (next answer).bind f

/-- Programs compose one after the other. -/
instance : Monad (Program Request Answer) where
  pure := .done
  bind := Program.bind

/-- Asks one request. -/
def perform (request : Request) : Program Request Answer (Answer request) := .ask request .done

/-- Runs a program, with a way to answer each request. -/
def run {m : Type → Type} [Monad m] (answer : (request : Request) → m (Answer request)) :
    Program Request Answer α → m α
  | .done a => pure a
  | .ask request next => answer request >>= fun reply => (next reply).run answer

@[simp] theorem pure_eq (a : α) : (pure a : Program Request Answer α) = .done a := rfl

@[simp] theorem done_bind (a : α) (f : α → Program Request Answer β) : (done a >>= f) = f a := rfl

@[simp] theorem ask_bind (request : Request) (next : Answer request → Program Request Answer α)
    (f : α → Program Request Answer β) :
    (ask request next >>= f) = ask request fun answer => next answer >>= f := rfl

theorem bind_done (p : Program Request Answer α) : p >>= done = p := by
  induction p with
  | done a => rfl
  | ask request next ih => simp only [ask_bind, ih]

theorem bind_assoc (p : Program Request Answer α) (f : α → Program Request Answer β)
    (g : β → Program Request Answer γ) : p >>= f >>= g = p >>= fun a => f a >>= g := by
  induction p with
  | done a => rfl
  | ask request next ih => simp only [ask_bind, ih]

instance : LawfulMonad (Program Request Answer) :=
  LawfulMonad.mk' _ bind_done (fun _ _ => rfl) bind_assoc

/-- Running a composed program is running its parts. -/
theorem run_bind {m : Type → Type} [Monad m] [LawfulMonad m]
    (answer : (request : Request) → m (Answer request)) (p : Program Request Answer α)
    (f : α → Program Request Answer β) :
    (p >>= f).run answer = p.run answer >>= fun a => (f a).run answer := by
  induction p with
  | done a => simp [run]
  | ask request next ih => simp [run, ih]

end Program

end SchemaEvolution
