import SchemaEvolution.Proofs.Program.Run

/-!
# Programs that recount

A program whose requests are answered by other programs can be told as one of these (`Program.run`).
`recount` does that and keeps, besides the result, which requests were answered by what: what it
gives is the result and the exchanges of the program's own course (`runFrom_recount`).
-/

namespace SchemaEvolution.Program

variable {Request : Type} {Answer : Request → Type} {Call : Type} {Reply : Call → Type}
  {α β σ : Type}

/-- A program as told by the programs that answer its requests, with its exchanges. -/
def recount (answers : (request : Request) → Program Call Reply (Answer request)) :
    Program Request Answer α → Program Call Reply (α × List (Exchange Request Answer))
  | .done a => .done (a, [])
  | .ask request next => do
    let reply ← answers request
    let (a, exchanges) ← (next reply).recount answers
    pure (a, ⟨request, reply⟩ :: exchanges)

variable (answers : (request : Request) → Program Call Reply (Answer request))

/-- Without its exchanges, a program that recounts is the program as it is told. -/
theorem map_recount (p : Program Request Answer α) :
    Prod.fst <$> p.recount answers = p.run answers := by
  induction p with
  | done a => rfl
  | ask request next ih =>
    rw [recount, run, map_bind]
    refine congrArg _ (funext fun reply => ?_)
    rw [map_bind, ← ih reply, map_eq_pure_bind]
    rfl

/-- A composed program recounts its parts, one after the other. -/
theorem recount_bind (p : Program Request Answer α) (f : α → Program Request Answer β) :
    (p >>= f).recount answers = p.recount answers >>= fun first =>
      (fun second => (second.1, first.2 ++ second.2)) <$> (f first.1).recount answers := by
  induction p with
  | done a => exact (id_map _).symm
  | ask request next ih =>
    rw [ask_bind, recount, recount, bind_assoc]
    refine congrArg _ (funext fun reply => ?_)
    rw [ih reply, bind_assoc, bind_assoc]
    refine congrArg _ (funext fun first => ?_)
    rw [bind_map_left, pure_bind, map_eq_pure_bind]
    rfl

/-- What a program recounts is the result of its course and the exchanges. -/
theorem runFrom_recount (reply : (call : Call) → StateM σ (Reply call))
    (p : Program Request Answer α) (s : σ) :
    let course := p.runFrom (fun request => (answers request).run reply) s
    ∃ calls, (p.recount answers).runFrom reply s =
      ⟨(course.result, course.exchanges), course.final, calls⟩ := by
  induction p generalizing s with
  | done a => exact ⟨[], rfl⟩
  | ask request next ih =>
    have hanswer := run_eq_runFrom reply (answers request) s
    obtain ⟨calls, hrest⟩ := ih ((answers request).runFrom reply s).result
      ((answers request).runFrom reply s).final
    refine ⟨((answers request).runFrom reply s).exchanges ++ calls, ?_⟩
    rw [recount, runFrom_bind, runFrom_bind, hrest, runFrom, hanswer]
    simp

end SchemaEvolution.Program
