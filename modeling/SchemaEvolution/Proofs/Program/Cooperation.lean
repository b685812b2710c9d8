import Mathlib.Order.Defs.Unbundled
import SchemaEvolution.Proofs.Program.Interleaving

/-!
# Programs that rely on each other

What a program does by turns may depend on what another does to the state in between. A program
cooperates if, as long as changes by others are those that it relies on, its own are those that it
guarantees and it ends as it should. Two programs, each of which guarantees what the other relies
on, may take turns in any order (`Interleaves.cooperate`).

Changes are those of worlds. A world has a state, and may know of the past what its state does not
tell.
-/

namespace SchemaEvolution.Program

variable {Request : Type} {Answer : Request → Type} {σ ω α β : Type}

section Worlds

variable (answer : (request : Request) → StateM σ (Answer request)) (state : ω → σ)
  (relied guaranteed : ω → ω → Prop)

/-- From a world on, each request of the program is one of the guaranteed changes, whatever changes
of those relied on come before it, and the result and the world in the end are some of `Q`. -/
def Cooperates (Q : α → ω → Prop) : Program Request Answer α → ω → Prop
  | .done a, w => Q a w
  | .ask request next, w => ∀ w', relied w w' → ∃ w'',
    state w'' = ((answer request).run (state w')).2 ∧ guaranteed w' w'' ∧
      (next ((answer request).run (state w')).1).Cooperates Q w''

end Worlds

variable {answer : (request : Request) → StateM σ (Answer request)} {state : ω → σ}
  {relied guaranteed : ω → ω → Prop} {Q : α → ω → Prop} {w : ω}

/-- A program that cooperates ends in less. -/
theorem Cooperates.mono {Q' : α → ω → Prop} {p : Program Request Answer α}
    (h : p.Cooperates answer state relied guaranteed Q w) (hQ : ∀ a w', Q a w' → Q' a w') :
    p.Cooperates answer state relied guaranteed Q' w := by
  induction p generalizing w with
  | done a => exact hQ a w h
  | ask request next ih =>
    intro w' hw'
    obtain ⟨w'', hstate, hchange, hrest⟩ := h w' hw'
    exact ⟨w'', hstate, hchange, ih _ hrest⟩

/-- A composed program cooperates when its parts do. -/
theorem cooperates_bind {Q' : β → ω → Prop} {p : Program Request Answer α}
    {f : α → Program Request Answer β} (hp : p.Cooperates answer state relied guaranteed Q w)
    (hf : ∀ a w', Q a w' → (f a).Cooperates answer state relied guaranteed Q' w') :
    (p >>= f).Cooperates answer state relied guaranteed Q' w := by
  induction p generalizing w with
  | done a => exact hf a w hp
  | ask request next ih =>
    intro w' hw'
    obtain ⟨w'', hstate, hchange, hrest⟩ := hp w' hw'
    exact ⟨w'', hstate, hchange, ih _ hrest⟩

/-- A program whose requests are all guaranteed changes to worlds that meet a condition cooperates,
if no change that is relied on breaks the condition. -/
theorem Every.cooperates {I : ω → Prop} {p : Program Request Answer α}
    (h : p.Every fun request => ∀ w, I w → ∃ w', state w' = ((answer request).run (state w)).2 ∧
      guaranteed w w' ∧ I w')
    (hrelied : ∀ w w', relied w w' → I w → I w') (hw : I w) :
    p.Cooperates answer state relied guaranteed (fun _ => I) w := by
  induction p generalizing w with
  | done a => exact hw
  | ask request next ih =>
    intro w' hw'
    obtain ⟨w'', hstate, hchange, hkeeps⟩ := h.1 w' (hrelied w w' hw' hw)
    exact ⟨w'', hstate, hchange, ih _ (h.2 _) hkeeps⟩

/-- Programs that guarantee what the other relies on end as they should, by turns in whatever order.
Each last left a world of its own, from which the other has come to the present one. -/
theorem Interleaves.cooperate {R R' : ω → ω → Prop} [IsPreorder ω R] [IsPreorder ω R']
    {Q' : β → ω → Prop} {p : Program Request Answer α} {q : Program Request Answer β} {s t : σ}
    {a : α} {b : β} {w₁ w₂ : ω} (h : Interleaves answer p q s a b t) (hw : state w = s)
    (hp : p.Cooperates answer state R' R Q w₁) (hq : q.Cooperates answer state R R' Q' w₂)
    (hw₁ : R' w₁ w) (hw₂ : R w₂ w) (hQ : ∀ a w w', Q a w → R' w w' → Q a w')
    (hQ' : ∀ b w w', Q' b w → R w w' → Q' b w') : ∃ w', state w' = t ∧ Q a w' ∧ Q' b w' := by
  induction h generalizing w w₁ w₂ with
  | done a b s => exact ⟨w, hw, hQ a w₁ w hp hw₁, hQ' b w₂ w hq hw₂⟩
  | left _ ih =>
    obtain ⟨w', hstate, hchange, hrest⟩ := hp w hw₁
    rw [hw] at hstate hrest
    exact ih hstate hrest hq (refl_of R' w') (trans_of R hw₂ hchange)
  | right _ ih =>
    obtain ⟨w', hstate, hchange, hrest⟩ := hq w hw₂
    rw [hw] at hstate hrest
    exact ih hstate hp hrest (trans_of R' hw₁ hchange) (refl_of R w')

end SchemaEvolution.Program
