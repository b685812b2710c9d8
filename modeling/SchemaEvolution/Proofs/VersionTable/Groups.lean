import SchemaEvolution.Proofs.Program.Interleaving
import SchemaEvolution.Proofs.VersionTable.Upkeep

/-!
# Groups that share a version table

A version table holds the rows of all groups. For the versions of one group only its own rows matter
(`KeptBy.ofGroup`), even while others change the rest (`KeptBy.amid`); and the actions of a group
leave the rows of the others alone.
-/

namespace SchemaEvolution

variable {σ α β : Type}

/-- A backend amid changes that are not observed. -/
def Backend.amid {τ : Type} [DecidableEq τ] (backend : Backend σ) (view : σ → τ) :
    Backend (σ × List σ) :=
  ⟨Program.amid backend.answer view⟩

theorem Backend.run_amid {τ : Type} [DecidableEq τ] {backend : Backend σ} {view : σ → τ}
    {call : Call} {reply : Except BackendError call.Answer} {s s' : σ} {others : List σ}
    (h : (backend.answer call).run (Program.resumed view s others) = (reply, s')) :
    ((backend.amid view).answer call).run (s, others) = (reply, (s', others.tail)) := by
  refine (Program.run_amid call s others).trans ?_
  rw [h]

namespace VersionTable

/-- The rows of a group, if the table exists. -/
def ofGroup (group : String) (rows : σ → Option Rows) (s : σ) : Option Rows :=
  (rows s).map fun present => present.filter fun row => row.2 = group

/-- The rows of all other groups, if the table exists. -/
def ofOthers (group : String) (rows : σ → Option Rows) (s : σ) : Option Rows :=
  (rows s).map fun present => present.filter fun row => row.2 ≠ group

variable {t : VersionTable} {c : Client} {backend : Backend σ} {rows : σ → Option Rows}

theorem ofGroup_of_some {group : String} {s : σ} {present : Rows} (h : rows s = some present) :
    ofGroup group rows s = some (present.filter fun row => row.2 = group) := by
  rw [ofGroup, h, Option.map_some]

theorem ofOthers_of_some {group : String} {s : σ} {present : Rows} (h : rows s = some present) :
    ofOthers group rows s = some (present.filter fun row => row.2 ≠ group) := by
  rw [ofOthers, h, Option.map_some]

/-- What leaves the rows of the other groups alone leaves those of each of them alone. -/
theorem ofGroup_congr {group other : String} {s s' : σ}
    (h : ofOthers group rows s' = ofOthers group rows s) (hne : other ≠ group) :
    ofGroup other rows s' = ofGroup other rows s := by
  have hof (s : σ) : ofGroup other rows s =
      (ofOthers group rows s).map fun present => present.filter fun row => row.2 = other := by
    rw [ofGroup, ofOthers, Option.map_map]
    refine congrArg (Option.map · (rows s)) (funext fun present => ?_)
    rw [Function.comp_apply, Multiset.filter_filter]
    refine Multiset.filter_congr fun row _ => ⟨fun h => ⟨h, h ▸ hne⟩, And.left⟩
  rw [hof, hof, h]

private theorem ofGroup_recording {group : String} {s : σ} {version : Int64} {present : Rows}
    (h : rows s = some ((version, group) ::ₘ present)) :
    ofGroup group rows s =
      some ((version, group) ::ₘ present.filter fun row => row.2 = group) := by
  rw [ofGroup_of_some h]
  exact congrArg some (Multiset.filter_cons_of_pos present rfl)

/-- For the versions of a group, a backend that keeps the table keeps one of the group's rows. -/
theorem KeptBy.ofGroup (h : t.KeptBy c backend rows) :
    t.KeptBy c backend (ofGroup t.group rows) where
  probed s := by
    obtain ⟨answer, s', hanswer, hrows, hpositive⟩ := h.probed s
    refine ⟨answer, s', hanswer, by rw [VersionTable.ofGroup, VersionTable.ofGroup, hrows], ?_⟩
    rw [hpositive, VersionTable.ofGroup, Option.isSome_map]
  created := by
    obtain ⟨sql, hsql, hcreate⟩ := h.created
    refine ⟨sql, hsql, fun s hnone => ?_⟩
    obtain ⟨n, s', hanswer, hrows⟩ := hcreate s (Option.map_eq_none_iff.mp hnone)
    exact ⟨n, s', hanswer, by rw [ofGroup_of_some hrows, Multiset.filter_zero]⟩
  read := by
    obtain ⟨built, hbuilt, hread⟩ := h.read
    refine ⟨built, hbuilt, fun s own hown => ?_⟩
    obtain ⟨present, hpresent, rfl⟩ := Option.map_eq_some_iff.mp hown
    obtain ⟨answer, s', hanswer, hrows, hread⟩ := hread s present hpresent
    refine ⟨answer, s', hanswer, ofGroup_of_some hrows, ?_⟩
    rw [hread, Multiset.filter_filter]
    simp
  recorded version s own hown := by
    obtain ⟨present, hpresent, rfl⟩ := Option.map_eq_some_iff.mp hown
    obtain ⟨n, s', hanswer, hrows⟩ := h.recorded version s present hpresent
    exact ⟨n, s', hanswer, ofGroup_recording hrows⟩
  forgotten version := by
    obtain ⟨condition, hcondition, hdelete⟩ := h.forgotten version
    refine ⟨condition, hcondition, fun s own hown => ?_⟩
    obtain ⟨present, hpresent, rfl⟩ := Option.map_eq_some_iff.mp hown
    obtain ⟨n, s', hanswer, hrows⟩ := hdelete s present hpresent
    exact ⟨n, s', hanswer, by rw [ofGroup_of_some hrows, Multiset.filter_comm]⟩

/-- A table is kept amid changes that leave its rows alone. -/
theorem KeptBy.amid (h : t.KeptBy c backend rows) :
    t.KeptBy c (backend.amid rows) fun s => rows s.1 where
  probed := by
    rintro ⟨s, others⟩
    obtain ⟨answer, s', hanswer, hrows, hpositive⟩ := h.probed (Program.resumed rows s others)
    rw [Program.view_resumed rows] at hrows hpositive
    exact ⟨answer, _, Backend.run_amid hanswer, hrows, hpositive⟩
  created := by
    obtain ⟨sql, hsql, hcreate⟩ := h.created
    refine ⟨sql, hsql, ?_⟩
    rintro ⟨s, others⟩ hnone
    obtain ⟨n, s', hanswer, hrows⟩ := hcreate _ ((Program.view_resumed rows s others).trans hnone)
    exact ⟨n, _, Backend.run_amid hanswer, hrows⟩
  read := by
    obtain ⟨built, hbuilt, hread⟩ := h.read
    refine ⟨built, hbuilt, ?_⟩
    rintro ⟨s, others⟩ present hpresent
    obtain ⟨answer, s', hanswer, hrows, hread⟩ :=
      hread _ present ((Program.view_resumed rows s others).trans hpresent)
    exact ⟨answer, _, Backend.run_amid hanswer, hrows, hread⟩
  recorded version := by
    rintro ⟨s, others⟩ present hpresent
    obtain ⟨n, s', hanswer, hrows⟩ :=
      h.recorded version _ present ((Program.view_resumed rows s others).trans hpresent)
    exact ⟨n, _, Backend.run_amid hanswer, hrows⟩
  forgotten version := by
    obtain ⟨condition, hcondition, hdelete⟩ := h.forgotten version
    refine ⟨condition, hcondition, ?_⟩
    rintro ⟨s, others⟩ present hpresent
    obtain ⟨n, s', hanswer, hrows⟩ :=
      hdelete _ present ((Program.view_resumed rows s others).trans hpresent)
    exact ⟨n, _, Backend.run_amid hanswer, hrows⟩

end VersionTable

open VersionTable (Rows ofGroup ofOthers)

/-! ### Staying within a group -/

section Within

variable (backend : Backend σ) (rows : σ → Option Rows) (group : String)

/-- While the table exists, each call of the session leaves it there and leaves the rows of the
other groups alone, whatever happens between the calls. The result is one of `Q`. -/
def Session.StaysWithin (Q : α → Prop) (session : Session α) : Prop :=
  session.Guarantees backend.answer (fun s => (rows s).isSome = true)
    (fun s s' => ofOthers group rows s' = ofOthers group rows s) Q

/-- An action stays within a group, and its result, if it is no failure, is one of `Q`. -/
def Action.StaysWithin (Q : α → Prop) (action : Action α) : Prop :=
  Session.StaysWithin backend rows group (fun result => ∀ a, result = .ok a → Q a) action.run

end Within

variable {backend : Backend σ} {rows : σ → Option Rows} {group : String}

namespace Action.StaysWithin

variable {Q : α → Prop}

theorem ofPure {a : α} (h : Q a) :
    Action.StaysWithin backend rows group Q (pure a) := by
  intro b hb
  cases hb
  exact h

/-- An action goes on within the group after a part that does not fail. -/
theorem bind {Q' : β → Prop} {p : Action α} {f : α → Action β}
    (hp : p.StaysWithin backend rows group Q)
    (hf : ∀ a, Q a → (f a).StaysWithin backend rows group Q') :
    Action.StaysWithin backend rows group Q' (p >>= f) := by
  rw [Action.StaysWithin, ExceptT.run_bind]
  apply Program.guarantees_bind hp
  intro result hresult
  cases result with
  | error e => exact nofun
  | ok a => exact hf a (hresult a rfl)

/-- A call that succeeds on a table that exists, and changes no rows of other groups. -/
theorem ofCall {call : Call} {Q : call.Answer → Prop}
    (h : ∀ s present, rows s = some present → ∃ answer s' present',
      (backend.answer call).run s = (.ok answer, s') ∧ rows s' = some present' ∧
      (present'.filter fun row => row.2 ≠ group) = (present.filter fun row => row.2 ≠ group) ∧
      Q answer) : (Action.call call).StaysWithin backend rows group Q := by
  intro s hs
  obtain ⟨present, hpresent⟩ := Option.isSome_iff_exists.mp hs
  obtain ⟨answer, s', present', hanswer, hrows, hothers, hQ⟩ := h s present hpresent
  rw [hanswer]
  refine ⟨Option.isSome_iff_exists.mpr ⟨present', hrows⟩, ?_, fun a ha => ?_⟩
  · change ofOthers group rows s' = ofOthers group rows s
    rw [VersionTable.ofOthers_of_some hrows, VersionTable.ofOthers_of_some hpresent, hothers]
  · cases ha
    exact hQ

end Action.StaysWithin

namespace VersionTable.KeptBy

variable {t : VersionTable} {c : Client}

private theorem others_recording (version : Int64) (present : Rows) :
    (((version, group) ::ₘ present).filter fun row => row.2 ≠ group) =
      present.filter fun row => row.2 ≠ group :=
  Multiset.filter_cons_of_neg present fun h => h rfl

private theorem others_deletion (version : Int64) (present : Rows) :
    ((present.filter (· ≠ (version, group))).filter fun row => row.2 ≠ group) =
      present.filter fun row => row.2 ≠ group := by
  rw [Multiset.filter_filter]
  apply Multiset.filter_congr
  rintro row -
  exact ⟨And.left, fun h => ⟨h, fun he => h (congrArg Prod.snd he)⟩⟩

/-- Asking finds the table. -/
theorem isPresent_staysWithin (h : t.KeptBy c backend rows) :
    (t.isPresent c).StaysWithin backend rows t.group (· = true) := by
  rw [isPresent, Client.tableExists]
  refine .bind (.ofCall (Q := fun answer : Value => answer.isPositive = true)
    fun s present hpresent => ?_) fun answer hpositive => .ofPure hpositive
  obtain ⟨answer, s', hanswer, hrows, hpositive⟩ := h.probed s
  rw [hpresent] at hrows hpositive
  exact ⟨answer, s', present, hanswer, hrows, rfl, hpositive⟩

theorem applied_staysWithin (h : t.KeptBy c backend rows) :
    (t.applied c).StaysWithin backend rows t.group fun _ => True := by
  obtain ⟨built, hbuilt, hread⟩ := h.read
  rw [applied_eq hbuilt]
  refine .bind h.isPresent_staysWithin fun present hpresent => ?_
  rw [hpresent]
  refine .bind (.ofCall (Q := fun _ => True) fun s present hpresent => ?_) fun _ _ =>
    .ofPure trivial
  obtain ⟨answer, s', hanswer, hrows, -⟩ := hread s present hpresent
  exact ⟨answer, s', present, hanswer, hrows, rfl, trivial⟩

theorem current_staysWithin (h : t.KeptBy c backend rows) :
    (t.current c).StaysWithin backend rows t.group fun _ => True :=
  .bind h.applied_staysWithin fun _ _ => .ofPure trivial

/-- Ensuring creates nothing, since the table exists. -/
theorem ensure_staysWithin (h : t.KeptBy c backend rows) :
    (t.ensure c).StaysWithin backend rows t.group fun _ => True := by
  refine .bind h.isPresent_staysWithin fun present hpresent => ?_
  rw [hpresent]
  exact .ofPure trivial

theorem record_staysWithin (h : t.KeptBy c backend rows) (version : Int64) :
    (t.record c version).StaysWithin backend rows t.group fun _ => True := by
  rw [record_eq]
  refine .bind (.ofCall (Q := fun _ => True) fun s present hpresent => ?_) fun _ _ =>
    .ofPure trivial
  obtain ⟨n, s', hanswer, hrows⟩ := h.recorded version s present hpresent
  exact ⟨n, s', _, hanswer, hrows, others_recording version present, trivial⟩

theorem forget_staysWithin (h : t.KeptBy c backend rows) (version : Int64) :
    (t.forget c version).StaysWithin backend rows t.group fun _ => True := by
  obtain ⟨condition, hcondition, hdelete⟩ := h.forgotten version
  rw [forget_eq hcondition]
  refine .bind (.ofCall (Q := fun _ => True) fun s present hpresent => ?_) fun _ _ =>
    .ofPure trivial
  obtain ⟨n, s', hanswer, hrows⟩ := hdelete s present hpresent
  exact ⟨n, s', _, hanswer, hrows, others_deletion version present, trivial⟩

end VersionTable.KeptBy

end SchemaEvolution
