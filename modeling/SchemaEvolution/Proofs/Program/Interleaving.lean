import SchemaEvolution.Proofs.Program.Recount

/-!
# Programs by turns

Two programs that share a state take turns, one request at a time and in any order. What one of
them observes of the state the other may leave alone; then the course of the first is one of its
own, amid changes that it does not observe (`Interleaves.runFrom_amid`).
-/

namespace SchemaEvolution.Program

variable {Request : Type} {Answer : Request → Type} {σ α β γ τ : Type}

section Turns

variable (answer : (request : Request) → StateM σ (Answer request))

/-- Two programs run by turns from a state, give a result each, and leave a state. Each request is
answered from the state that the one before it left, whichever program asked it. -/
inductive Interleaves : Program Request Answer α → Program Request Answer β → σ → α → β → σ → Prop
  | done (a : α) (b : β) (s : σ) : Interleaves (.done a) (.done b) s a b s
  | left {request : Request} {next : Answer request → Program Request Answer α}
      {other : Program Request Answer β} {s t : σ} {a : α} {b : β} :
    Interleaves (next ((answer request).run s).1) other ((answer request).run s).2 a b t →
    Interleaves (.ask request next) other s a b t
  | right {request : Request} {next : Answer request → Program Request Answer β}
      {other : Program Request Answer α} {s t : σ} {a : α} {b : β} :
    Interleaves other (next ((answer request).run s).1) ((answer request).run s).2 a b t →
    Interleaves other (.ask request next) s a b t

/-- The turns that a schedule gives, if it goes to the end of both programs: the first program has
its turn where the schedule says so, and the second where not. -/
def scheduled : Program Request Answer α → Program Request Answer β → σ → List Bool →
    Option (α × β × σ)
  | .done a, .done b, s, [] => some (a, b, s)
  | .ask request next, other, s, true :: schedule =>
    let reply := (answer request).run s
    (next reply.1).scheduled other reply.2 schedule
  | other, .ask request next, s, false :: schedule =>
    let reply := (answer request).run s
    other.scheduled (next reply.1) reply.2 schedule
  | _, _, _, _ => none

/-- From every state in which the condition `I` holds, each request of the program keeps it and
changes the state as `R` allows, whatever has happened between the requests as long as `I` holds
again. The result is one of `Q`. -/
def Guarantees (I : σ → Prop) (R : σ → σ → Prop) (Q : α → Prop) : Program Request Answer α → Prop
  | .done a => Q a
  | .ask request next => ∀ s, I s →
    I ((answer request).run s).2 ∧ R s ((answer request).run s).2 ∧
      (next ((answer request).run s).1).Guarantees I R Q

/-- The state in which a request is answered: the next of some states that others leave, if nothing
that is observed has changed. -/
def resumed [DecidableEq τ] (view : σ → τ) (s : σ) (others : List σ) : σ :=
  match others.head? with
  | some s' => if view s' = view s then s' else s
  | none => s

/-- Answers requests amid changes that are not observed: before each of them the state becomes the
next that others leave. -/
def amid [DecidableEq τ] (view : σ → τ) (request : Request) :
    StateM (σ × List σ) (Answer request) := fun (s, others) =>
  let reply := (answer request).run (resumed view s others)
  (reply.1, (reply.2, others.tail))

end Turns

variable {answer : (request : Request) → StateM σ (Answer request)}

/-! ### Turns -/

/-- Turns are the same from either side. -/
theorem Interleaves.symm {p : Program Request Answer α} {q : Program Request Answer β} {s t : σ}
    {a : α} {b : β} (h : Interleaves answer p q s a b t) : Interleaves answer q p s b a t := by
  induction h with
  | done a b s => exact .done b a s
  | left _ ih => exact .right ih
  | right _ ih => exact .left ih

variable (answer) in
/-- However far two programs have come, they come to an end. -/
theorem exists_interleaves (p : Program Request Answer α) (q : Program Request Answer β) (s : σ) :
    ∃ a b t, Interleaves answer p q s a b t := by
  induction p generalizing s with
  | ask request next ih =>
    obtain ⟨a, b, t, h⟩ := ih ((answer request).run s).1 ((answer request).run s).2
    exact ⟨a, b, t, .left h⟩
  | done a =>
    induction q generalizing s with
    | done b => exact ⟨a, b, s, .done a b s⟩
    | ask request next ih =>
      obtain ⟨a, b, t, h⟩ := ih ((answer request).run s).1 ((answer request).run s).2
      exact ⟨a, b, t, .right h⟩

/-- What a schedule gives are turns. -/
theorem interleaves_of_scheduled {p : Program Request Answer α} {q : Program Request Answer β}
    {s t : σ} {a : α} {b : β} {schedule : List Bool}
    (h : scheduled answer p q s schedule = some (a, b, t)) : Interleaves answer p q s a b t := by
  fun_induction scheduled answer p q s schedule with
  | case1 a b s =>
    cases h
    exact .done _ _ _
  | case2 request next other s schedule reply ih => exact .left (ih h)
  | case3 other request next s schedule reply ih => exact .right (ih h)
  | case4 => cases h

variable (answer) in
/-- What is checked of the turns of a schedule holds of turns. -/
theorem exists_of_scheduled (p : Program Request Answer α) (q : Program Request Answer β) (s : σ)
    (schedule : List Bool) (check : α × β × σ → Bool)
    (h : (scheduled answer p q s schedule).any check = true) :
    ∃ a b t, Interleaves answer p q s a b t ∧ check (a, b, t) = true := by
  obtain ⟨⟨a, b, t⟩, hturns, hcheck⟩ := (Option.any_eq_true _ _).mp h
  exact ⟨a, b, t, interleaves_of_scheduled hturns, hcheck⟩

/-- Programs whose results are mapped take the turns of the programs themselves. -/
theorem Interleaves.of_map {p : Program Request Answer α} {q : Program Request Answer β}
    {f : α → γ} {g : β → τ} {s t : σ} {a : γ} {b : τ}
    (h : Interleaves answer (f <$> p) (g <$> q) s a b t) :
    ∃ a' b', f a' = a ∧ g b' = b ∧ Interleaves answer p q s a' b' t := by
  generalize hp : f <$> p = p' at h
  generalize hq : g <$> q = q' at h
  induction h generalizing p q with
  | done a b s =>
    cases p with
    | done a' =>
      cases q with
      | done b' =>
        cases hp
        cases hq
        exact ⟨a', b', rfl, rfl, .done a' b' s⟩
      | ask request next => cases hq
    | ask request next => cases hp
  | left _ ih =>
    cases p with
    | done a' => cases hp
    | ask request next =>
      cases hp
      obtain ⟨a', b', ha, hb, h⟩ := ih rfl hq
      exact ⟨a', b', ha, hb, .left h⟩
  | right _ ih =>
    cases q with
    | done b' => cases hq
    | ask request next =>
      cases hq
      obtain ⟨a', b', ha, hb, h⟩ := ih hp rfl
      exact ⟨a', b', ha, hb, .right h⟩

/-! ### Guarantees -/

variable {I : σ → Prop} {R R' : σ → σ → Prop} {Q : α → Prop}

/-- A program guarantees less of its result. -/
theorem Guarantees.mono {Q' : α → Prop} {p : Program Request Answer α}
    (h : p.Guarantees answer I R Q) (hQ : ∀ a, Q a → Q' a) : p.Guarantees answer I R Q' := by
  induction p with
  | done a => exact hQ a h
  | ask request next ih =>
    intro s hs
    obtain ⟨hkeeps, hchanges, hrest⟩ := h s hs
    exact ⟨hkeeps, hchanges, ih _ hrest⟩

/-- A composed program guarantees what its parts do. -/
theorem guarantees_bind {Q' : β → Prop} {p : Program Request Answer α}
    {f : α → Program Request Answer β} (hp : p.Guarantees answer I R Q)
    (hf : ∀ a, Q a → (f a).Guarantees answer I R Q') : (p >>= f).Guarantees answer I R Q' := by
  induction p with
  | done a => exact hf a hp
  | ask request next ih =>
    intro s hs
    obtain ⟨hkeeps, hchanges, hrest⟩ := hp s hs
    exact ⟨hkeeps, hchanges, ih _ hrest⟩

theorem guarantees_map {Q' : β → Prop} {p : Program Request Answer α} {f : α → β}
    (hp : p.Guarantees answer I R Q) (hf : ∀ a, Q a → Q' (f a)) :
    (f <$> p).Guarantees answer I R Q' := by
  rw [map_eq_pure_bind]
  exact guarantees_bind hp hf

/-- A program guarantees what each request does that it can come to. -/
theorem Every.guarantees {p : Program Request Answer α}
    (h : p.Every fun request => ∀ s, I s →
      I ((answer request).run s).2 ∧ R s ((answer request).run s).2) :
    p.Guarantees answer I R fun _ => True := by
  induction p with
  | done a => exact True.intro
  | ask request next ih =>
    intro s hs
    obtain ⟨hkeeps, hchanges⟩ := h.1 s hs
    exact ⟨hkeeps, hchanges, ih _ (h.2 _)⟩

/-- A result that is one of `Q` whatever others do is one by turns. -/
theorem Interleaves.result_of_guarantees {p : Program Request Answer α}
    {q : Program Request Answer β} {s t : σ} {a : α} {b : β} (h : Interleaves answer p q s a b t)
    (hp : p.Guarantees answer (fun _ => True) (fun _ _ => True) Q) : Q a := by
  induction h with
  | done a b s => exact hp
  | left _ ih => exact ih (hp _ trivial).2.2
  | right _ ih => exact ih hp

/-- So it is alone. -/
theorem Guarantees.result_runFrom {p : Program Request Answer α}
    (hp : p.Guarantees answer (fun _ => True) (fun _ _ => True) Q) (s : σ) :
    Q (p.runFrom answer s).result := by
  induction p generalizing s with
  | done a => exact hp
  | ask request next ih => exact ih _ (hp s trivial).2.2 _

section Recount

variable {Call : Type} {Reply : Call → Type} {reply : (call : Call) → StateM σ (Reply call)}
  {answers : (request : Request) → Program Call Reply (Answer request)}

/-- A program that recounts guarantees what the answer to its first request and its rest do. -/
theorem guarantees_recount_ask {request : Request}
    {next : Answer request → Program Request Answer α}
    (hfirst : (answers request).Guarantees reply I R fun _ => True)
    (hrest : ∀ a, ((next a).recount answers).Guarantees reply I R fun _ => True) :
    ((ask request next).recount answers).Guarantees reply I R fun _ => True :=
  guarantees_bind hfirst fun a _ => guarantees_bind (hrest a) fun _ _ => True.intro

theorem guarantees_recount_bind {p : Program Request Answer α} {f : α → Program Request Answer β}
    (hp : (p.recount answers).Guarantees reply I R fun _ => True)
    (hf : ∀ a, ((f a).recount answers).Guarantees reply I R fun _ => True) :
    ((p >>= f).recount answers).Guarantees reply I R fun _ => True := by
  rw [recount_bind]
  exact guarantees_bind hp fun first _ => guarantees_map (hf first.1) fun _ _ => True.intro

/-- What the answers to the requests that a program can come to are guaranteed to be, its exchanges
are. -/
theorem Every.guarantees_exchanges {own : Request → Prop} {P : Exchange Request Answer → Prop}
    {p : Program Request Answer α} (hp : p.Every own)
    (h : ∀ request, own request → (answers request).Guarantees reply I R fun a => P ⟨request, a⟩) :
    (p.recount answers).Guarantees reply I R fun x => ∀ exchange ∈ x.2, P exchange := by
  induction p with
  | done a => exact fun exchange hmem => nomatch hmem
  | ask request next ih =>
    refine guarantees_bind (h request hp.1) fun a ha => guarantees_bind (ih a (hp.2 a)) ?_
    exact fun rest hrest => List.forall_mem_cons.mpr ⟨ha, hrest⟩

end Recount

/-- What both programs leave alone is as it was when they end. -/
theorem Interleaves.observe_eq {p : Program Request Answer α} {q : Program Request Answer β}
    {s t : σ} {a : α} {b : β} {Q' : β → Prop} (h : Interleaves answer p q s a b t) (hs : I s)
    (hp : p.Guarantees answer I R Q) (hq : q.Guarantees answer I R' Q') (observe : σ → τ)
    (hR : ∀ s s', R s s' → observe s' = observe s)
    (hR' : ∀ s s', R' s s' → observe s' = observe s) : observe t = observe s := by
  induction h with
  | done a b s => rfl
  | left _ ih =>
    obtain ⟨hkeeps, hchanges, hrest⟩ := hp _ hs
    rw [ih hkeeps hrest hq, hR _ _ hchanges]
  | right _ ih =>
    obtain ⟨hkeeps, hchanges, hrest⟩ := hq _ hs
    rw [ih hkeeps hp hrest, hR' _ _ hchanges]

/-! ### Courses amid others -/

variable [DecidableEq τ] {view : σ → τ}

theorem view_resumed (view : σ → τ) (s : σ) (others : List σ) :
    view (resumed view s others) = view s := by
  rw [resumed]
  split
  · split
    · assumption
    · rfl
  · rfl

theorem resumed_cons {s s' : σ} (h : view s' = view s) (others : List σ) :
    resumed view s (s' :: others) = s' := if_pos h

theorem run_amid (request : Request) (s : σ) (others : List σ) :
    (amid answer view request).run (s, others) =
      (((answer request).run (resumed view s others)).1,
        ((answer request).run (resumed view s others)).2, others.tail) := rfl

/-- The turns of the first program are a course of its own amid the changes of the second, if these
are not observed. `s₀` is the state that the first program left when it last had its turn. -/
theorem Interleaves.runFrom_amid {p : Program Request Answer α} {q : Program Request Answer β}
    {s t : σ} {a : α} {b : β} {Q' : β → Prop} (h : Interleaves answer p q s a b t) (hs : I s)
    (hp : p.Guarantees answer I R Q) (hq : q.Guarantees answer I R' Q')
    (hview : ∀ s s', R' s s' → view s' = view s) {s₀ : σ} (hs₀ : view s = view s₀) :
    ∃ others t₀ rest exchanges,
      p.runFrom (amid answer view) (s₀, others) = ⟨a, (t₀, rest), exchanges⟩ ∧
      view t = view t₀ := by
  induction h generalizing s₀ with
  | done a b s => exact ⟨[], s₀, [], [], rfl, hs₀⟩
  | @left request next other s t a b _ ih =>
    obtain ⟨hkeeps, -, hrest⟩ := hp s hs
    obtain ⟨others, t₀, rest, exchanges, hcourse, ht⟩ := ih hkeeps hrest hq rfl
    have hanswer : (amid answer view request).run (s₀, s :: others) =
        (((answer request).run s).1, ((answer request).run s).2, others) := by
      rw [run_amid, resumed_cons hs₀, List.tail_cons]
    refine ⟨s :: others, t₀, rest, ⟨request, ((answer request).run s).1⟩ :: exchanges, ?_, ht⟩
    rw [runFrom, hanswer, hcourse]
    rfl
  | @right request next other s t a b _ ih =>
    obtain ⟨hkeeps, hchanges, hrest⟩ := hq s hs
    exact ih hkeeps hp hrest ((hview _ _ hchanges).trans hs₀)

end SchemaEvolution.Program
