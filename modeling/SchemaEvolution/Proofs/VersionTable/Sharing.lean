import SchemaEvolution.Proofs.Program.Cooperation
import SchemaEvolution.Proofs.VersionTable.Groups

/-!
# Groups that share a missing version table

Two groups work on one database whose version table need not exist yet. Either of them may create
it, and only the first to do so succeeds. Each changes no rows but its own, and the table is there
to stay. So an action of a group that relies on this of the other does what it does alone, except
that making sure that the table exists fails for a strict client where the other group has created
it since it was asked for (`ensure_cooperates`).
-/

namespace SchemaEvolution

open VersionTable (Rows recordedIn ofGroup)

variable {σ α β : Type}

namespace VersionTable

/-- A database with or without a version table. If it exists, a group has created it. -/
structure World (rows : σ → Option Rows) where
  state : σ
  creator : Option String
  consistent : (rows state).isSome = creator.isSome

namespace World

variable {rows : σ → Option Rows}

/-- The rows of a group. -/
def own (group : String) (w : World rows) : Rows := recordedIn (ofGroup group rows) w.state

/-- A change that a group makes. The rows of the others stay as they are. The table is created at
most once, by the group if by this change, and then stays. -/
structure ChangeBy (group : String) (w w' : World rows) : Prop where
  others : ∀ other, other ≠ group → w'.own other = w.own other
  lasts : ∀ g, w.creator = some g → w'.creator = some g
  created : ∀ g, w'.creator = some g → w.creator = some g ∨ g = group

instance (group : String) : IsPreorder (World rows) (ChangeBy group) where
  refl w := ⟨fun _ _ => rfl, fun _ => id, fun _ => .inl⟩
  trans w w' w'' h h' := by
    refine ⟨fun other hne => (h'.others other hne).trans (h.others other hne),
      fun g hg => h'.lasts g (h.lasts g hg), fun g hg => ?_⟩
    rcases h'.created g hg with hg | hg
    · exact h.created g hg
    · exact .inr hg

variable {group other : String} {w w' : World rows}

/-- A table that exists stays. -/
theorem ChangeBy.isSome (h : ChangeBy group w w') (hw : w.creator.isSome = true) :
    w'.creator.isSome = true := by
  obtain ⟨g, hg⟩ := Option.isSome_iff_exists.mp hw
  rw [h.lasts g hg, Option.isSome_some]

/-- A table that does not exist did not. -/
theorem ChangeBy.eq_none (h : ChangeBy group w w') (hw' : w'.creator = none) :
    w.creator = none := by
  rw [← Option.not_isSome_iff_eq_none]
  intro hw
  have hexists := h.isSome hw
  rw [hw'] at hexists
  cases hexists

/-- A table that a change creates is created by its group. -/
theorem ChangeBy.eq_some (h : ChangeBy group w w') (hw : w.creator = none)
    (hw' : w'.creator.isSome = true) : w'.creator = some group := by
  obtain ⟨g, hg⟩ := Option.isSome_iff_exists.mp hw'
  rcases h.created g hg with hbefore | rfl
  · rw [hw] at hbefore
    cases hbefore
  · exact hg

/-! ### What one request changes -/

theorem exists_rows (h : w.creator.isSome = true) : ∃ present, rows w.state = some present := by
  rw [← Option.isSome_iff_exists, w.consistent]
  exact h

theorem rows_eq_none (h : w.creator = none) : rows w.state = none := by
  rw [← Option.not_isSome_iff_eq_none, w.consistent, h]
  exact Bool.false_ne_true

theorem own_of_some {present : Rows} (h : rows w.state = some present) (group : String) :
    w.own group = present.filter fun row => row.2 = group := by
  rw [own, recordedIn_of_some (ofGroup_of_some h)]

theorem own_of_none (h : rows w.state = none) (group : String) : w.own group = 0 := by
  rw [own, recordedIn, ofGroup, h, Option.map_none, Option.getD_none]

/-- A request that changes no row is a change by any group. -/
theorem exists_unchanged {s' : σ} (w : World rows) (h : rows s' = rows w.state) :
    ∃ w' : World rows, w'.state = s' ∧ w'.creator = w.creator ∧ w'.own = w.own ∧
      ∀ group, ChangeBy group w w' := by
  let w' : World rows := ⟨s', w.creator, by rw [h]; exact w.consistent⟩
  have hown : w'.own = w.own := by
    funext g
    exact recordedIn_congr (congrArg (Option.map _) h)
  refine ⟨w', rfl, rfl, hown, fun group => ?_⟩
  exact ⟨fun g _ => congrFun hown g, fun _ => id, fun _ => .inl⟩

/-- Creating the table is a change by the group that does so, and adds no rows. -/
theorem exists_created {s' : σ} (hw : w.creator = none) (h : rows s' = some 0) (group : String) :
    ∃ w' : World rows, w'.state = s' ∧ w'.creator = some group ∧ w'.own = w.own ∧
      ChangeBy group w w' := by
  let w' : World rows := ⟨s', some group, by rw [h]; rfl⟩
  have hown : w'.own = w.own := by
    funext g
    rw [own_of_none (rows_eq_none hw), own_of_some (w := w') h, Multiset.filter_zero]
  refine ⟨w', rfl, rfl, hown, fun g _ => congrFun hown g, fun g hg => ?_, fun g hg => ?_⟩
  · rw [hw] at hg
    cases hg
  · exact .inr (Option.some.inj hg).symm

/-- Adding a row of a group is a change by it. -/
theorem exists_recorded {s' : σ} {present : Rows} {version : Int64}
    (hw : rows w.state = some present) (h : rows s' = some ((version, group) ::ₘ present)) :
    ∃ w' : World rows, w'.state = s' ∧ w'.creator = w.creator ∧
      w'.own group = (version, group) ::ₘ w.own group ∧ ChangeBy group w w' := by
  have hexists : (rows s').isSome = w.creator.isSome := by
    rw [← w.consistent, hw, h]
    rfl
  let w' : World rows := ⟨s', w.creator, hexists⟩
  refine ⟨w', rfl, rfl, ?_, fun g hne => ?_, fun _ => id, fun _ => .inl⟩
  · rw [own_of_some hw, own_of_some (w := w') h]
    exact Multiset.filter_cons_of_pos present rfl
  · rw [own_of_some hw, own_of_some (w := w') h]
    exact Multiset.filter_cons_of_neg present fun he => hne he.symm

end World

end VersionTable

open VersionTable (World)
open VersionTable.World (ChangeBy)

/-! ### Actions beside another group -/

section Cooperating

variable (backend : Backend σ) {rows : σ → Option Rows} (group other : String)

/-- The action makes changes by a group, beside changes by another group. -/
def Action.Cooperates (Q : Except Error α → World rows → Prop) (action : Action α)
    (w : World rows) : Prop :=
  Program.Cooperates backend.answer World.state (ChangeBy other) (ChangeBy group) Q action.run w

end Cooperating

variable {backend : Backend σ} {rows : σ → Option Rows} {group other : String} {w : World rows}

namespace Action.Cooperates

variable {Q : Except Error α → World rows → Prop}

theorem ofPure {a : α} (h : Q (.ok a) w) :
    Action.Cooperates backend group other Q (pure a) w := h

/-- An action goes on after a part that does not fail. -/
theorem bind {Q' : Except Error β → World rows → Prop} {p : Action α} {f : α → Action β}
    (hp : p.Cooperates backend group other Q w)
    (herror : ∀ e w', Q (.error e) w' → Q' (.error e) w')
    (hok : ∀ a w', Q (.ok a) w' → (f a).Cooperates backend group other Q' w') :
    Action.Cooperates backend group other Q' (p >>= f) w := by
  rw [Action.Cooperates, ExceptT.run_bind]
  apply Program.cooperates_bind hp
  intro result w' hresult
  cases result with
  | error e => exact herror e w' hresult
  | ok a => exact hok a w' hresult

/-- An action goes on after a call that succeeds. -/
theorem call {c : Call} {f : c.Answer → Action α}
    (h : ∀ w', ChangeBy other w w' → ∃ answer w'',
      (backend.answer c).run w'.state = (.ok answer, w''.state) ∧ ChangeBy group w' w'' ∧
        (f answer).Cooperates backend group other Q w'') :
    Action.Cooperates backend group other Q (Action.call c >>= f) w := by
  rw [Action.Cooperates, ExceptT.run_bind]
  intro w' hw'
  obtain ⟨answer, w'', hanswer, hchange, hrest⟩ := h w' hw'
  rw [hanswer]
  exact ⟨w'', rfl, hchange, hrest⟩

end Action.Cooperates

namespace VersionTable

variable {t : VersionTable} {c : Client}

/-- How making sure that the table exists ends, beside another group: it exists, or there was none,
the other group has created it, and a strict client reports that it could not. -/
inductive Ensured (t : VersionTable) (c : Client) (other : String) (w : World rows) :
    Except Error Unit → World rows → Prop
  | there {w' : World rows} (present : w'.creator.isSome = true)
      (own : w'.own t.group = w.own t.group) : Ensured t c other w (.ok ()) w'
  | outrun {w' : World rows} {sql : String} {cause : BackendError}
      (strict : c.config.strict = true) (missing : w.creator = none)
      (creation : c.dialect.createTable (t.shape c) = .ok [sql])
      (kind : cause.kind = .alreadyExists) (creator : w'.creator = some other)
      (own : w'.own t.group = w.own t.group) :
    Ensured t c other w (.error (.execution sql [] cause)) w'

namespace Ensured

variable {result : Except Error Unit} {w' w'' : World rows}

/-- Changes by the other group may come before. -/
theorem behind (h : Ensured t c other w' result w'') (hw : ChangeBy other w w')
    (hne : t.group ≠ other) : Ensured t c other w result w'' := by
  have hown := hw.others t.group hne
  cases h with
  | there present own => exact .there present (own.trans hown)
  | outrun strict missing creation kind creator own =>
    exact .outrun strict (hw.eq_none missing) creation kind creator (own.trans hown)

/-- Changes by the other group may follow. -/
theorem before (h : Ensured t c other w result w') (hw : ChangeBy other w' w'')
    (hne : t.group ≠ other) : Ensured t c other w result w'' := by
  have hown := hw.others t.group hne
  cases h with
  | there present own => exact .there (hw.isSome present) (hown.trans own)
  | outrun strict missing creation kind creator own =>
    exact .outrun strict missing creation kind (hw.lasts other creator) (hown.trans own)

end Ensured

namespace KeptBy

/-- Asking tells whether the table exists. -/
theorem isPresent_cooperates (h : t.KeptBy c backend rows) (group : String) (w : World rows) :
    (t.isPresent c).Cooperates backend group other
      (fun result w' => result = .ok w'.creator.isSome ∧ ChangeBy other w w') w := by
  rw [isPresent, Client.tableExists]
  refine .call fun w₁ hw₁ => ?_
  obtain ⟨answer, s', hanswer, hrows, hpositive⟩ := h.probed w₁.state
  obtain ⟨w₂, rfl, hcreator, -, hchange⟩ := w₁.exists_unchanged hrows
  refine ⟨answer, w₂, hanswer, hchange group, .ofPure ⟨?_, trans_of _ hw₁ (hchange other)⟩⟩
  rw [hpositive, w₁.consistent, hcreator]

/-- While no row is the group's, no version is read. -/
theorem applied_cooperates (h : t.KeptBy c backend rows) (hne : t.group ≠ other)
    (hown : w.own t.group = 0) :
    (t.applied c).Cooperates backend t.group other
      (fun result w' => result = .ok [] ∧ ChangeBy other w w') w := by
  obtain ⟨built, hbuilt, hread⟩ := h.read
  rw [applied_eq hbuilt]
  refine .bind (h.isPresent_cooperates t.group w) nofun fun present w₁ ⟨hpresent, hw₁⟩ => ?_
  cases present with
  | false => exact .ofPure ⟨rfl, hw₁⟩
  | true =>
    refine .call fun w₂ hw₂ => ?_
    have hchange := trans_of _ hw₁ hw₂
    obtain ⟨remembered, hremembered⟩ :=
      World.exists_rows (hw₂.isSome (Except.ok.inj hpresent).symm)
    obtain ⟨answer, s', hanswer, hrows, hread⟩ := hread w₂.state remembered hremembered
    obtain ⟨w₃, rfl, -, -, hkeeps⟩ := w₂.exists_unchanged (hrows.trans hremembered.symm)
    rw [← World.own_of_some hremembered, hchange.others _ hne, hown, Multiset.map_zero] at hread
    refine ⟨answer, w₃, hanswer, hkeeps _, .ofPure ⟨?_, trans_of _ hchange (hkeeps other)⟩⟩
    rw [versionsOf, (Multiset.coe_eq_zero _).mp hread]
    rfl

/-- Creating a table that was missing creates it, unless the other group has done so. -/
theorem create_cooperates (h : t.KeptBy c backend rows) (refuses : t.RefusesAgain c backend rows)
    (hne : t.group ≠ other) (hmissing : w.creator = none) :
    (t.create c).Cooperates backend t.group other (Ensured t c other w) w := by
  obtain ⟨sql, hsql, hcreate⟩ := h.created
  rw [Action.Cooperates, create_eq hsql]
  intro w₁ hw₁
  by_cases hexists : w₁.creator.isSome = true
  · -- The other group was faster.
    obtain ⟨cause, s', hanswer, hkind, hrows⟩ :=
      refuses sql hsql w₁.state (w₁.consistent.trans hexists)
    obtain ⟨w₂, rfl, hcreator, hown, hchange⟩ := w₁.exists_unchanged hrows
    have hown' : w₂.own t.group = w.own t.group :=
      (congrFun hown _).trans (hw₁.others _ hne)
    have hby : w₂.creator = some other := hcreator.trans (hw₁.eq_some hmissing hexists)
    rw [hanswer]
    refine ⟨w₂, rfl, hchange _, ?_⟩
    change Ensured t c other w (refused c sql cause) w₂
    cases hstrict : c.config.strict with
    | true =>
      rw [refused, hstrict]
      exact .outrun hstrict hmissing hsql hkind hby hown'
    | false =>
      rw [refused, hstrict, hkind]
      exact .there (by rw [hby]; rfl) hown'
  · have hnone := Option.not_isSome_iff_eq_none.mp hexists
    obtain ⟨n, s', hanswer, hrows⟩ := hcreate w₁.state (World.rows_eq_none hnone)
    obtain ⟨w₂, rfl, hcreator, hown, hchange⟩ := World.exists_created hnone hrows t.group
    rw [hanswer]
    refine ⟨w₂, rfl, hchange, .there (by rw [hcreator]; rfl) ?_⟩
    exact (congrFun hown _).trans (hw₁.others _ hne)

/-- Making sure that the table exists fails at most where the other group was faster. -/
theorem ensure_cooperates (h : t.KeptBy c backend rows) (refuses : t.RefusesAgain c backend rows)
    (hne : t.group ≠ other) (w : World rows) :
    (t.ensure c).Cooperates backend t.group other (Ensured t c other w) w := by
  refine .bind (h.isPresent_cooperates t.group w) nofun fun present w₁ ⟨hpresent, hw₁⟩ => ?_
  have hexists := (Except.ok.inj hpresent).symm
  cases present with
  | true => exact .ofPure (.there hexists (hw₁.others _ hne))
  | false =>
    have hmissing := Option.not_isSome_iff_eq_none.mp (hexists ▸ Bool.false_ne_true)
    apply (h.create_cooperates refuses hne hmissing).mono
    exact fun result w' hensured => hensured.behind hw₁ hne

/-- Recording adds the row of the version. -/
theorem record_cooperates (h : t.KeptBy c backend rows) (hne : t.group ≠ other) (version : Int64)
    (hexists : w.creator.isSome = true) :
    (t.record c version).Cooperates backend t.group other (fun result w' => result = .ok () ∧
      w'.creator.isSome = true ∧ w'.own t.group = (version, t.group) ::ₘ w.own t.group) w := by
  rw [record_eq]
  refine .call fun w₁ hw₁ => ?_
  obtain ⟨present, hpresent⟩ := World.exists_rows (hw₁.isSome hexists)
  obtain ⟨n, s', hanswer, hrows⟩ := h.recorded version w₁.state present hpresent
  obtain ⟨w₂, rfl, hcreator, hown, hchange⟩ := World.exists_recorded hpresent hrows
  refine ⟨n, w₂, hanswer, hchange, .ofPure ⟨rfl, ?_, ?_⟩⟩
  · rw [hcreator]
    exact hw₁.isSome hexists
  · rw [hown, hw₁.others _ hne]

end KeptBy

end VersionTable

end SchemaEvolution
