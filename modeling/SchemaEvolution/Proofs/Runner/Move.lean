import SchemaEvolution.Proofs.VersionTable.Upkeep

/-!
# Moves and the rows they leave

What the moves of a group do to the rows of the version table. A move fits the rows when it takes a
recorded version down or a version that is not recorded up. Moves of distinct versions that each fit
the rows at the start fit one after the other, and what they leave can be read off them.
-/

namespace SchemaEvolution.Move

open VersionTable (Rows)

/-- A version going up. -/
def up (version : Int64) : Move := ⟨.up, version⟩

/-- A version going down. -/
def down (version : Int64) : Move := ⟨.down, version⟩

variable (group : String)

/-- The row that a move records or forgets. -/
def row (m : Move) : Int64 × String := (m.version, group)

/-- The rows after a move: going up records the version, going down forgets it. -/
def effect (present : Rows) (m : Move) : Rows :=
  match m.phase with
  | .up => m.row group ::ₘ present
  | .down => present.filter (· ≠ m.row group)

/-- The rows after some moves. -/
def effects (present : Rows) (moves : List Move) : Rows := moves.foldl (effect group) present

/-- What goes down is recorded, and what goes up is not. -/
def Fits (present : Rows) (m : Move) : Prop := m.phase = .down ↔ m.row group ∈ present

/-- Each of some moves fits the rows that those before it leave. -/
def FitInTurn : Rows → List Move → Prop
  | _, [] => True
  | present, m :: rest => m.Fits group present ∧ FitInTurn (m.effect group present) rest

variable {group}

@[simp] theorem effects_nil (present : Rows) : effects group present [] = present := rfl

@[simp] theorem effects_cons (present : Rows) (m : Move) (rest : List Move) :
    effects group present (m :: rest) = effects group (m.effect group present) rest := rfl

/-- After a move its row is there when it went up. -/
theorem row_mem_effect {present : Rows} {m : Move} :
    m.row group ∈ m.effect group present ↔ m.phase = .up := by
  rw [effect]
  cases hphase : m.phase with
  | up => simp
  | down => simp

/-- A move does nothing to other rows. -/
theorem count_effect {present : Rows} {m : Move} {row : Int64 × String} (h : row ≠ m.row group) :
    (m.effect group present).count row = present.count row := by
  rw [effect]
  cases m.phase with
  | up => exact Multiset.count_cons_of_ne h _
  | down => exact Multiset.count_filter_of_pos h

theorem mem_effect {present : Rows} {m : Move} {row : Int64 × String} (h : row ≠ m.row group) :
    row ∈ m.effect group present ↔ row ∈ present := by
  rw [← Multiset.count_pos, count_effect h, Multiset.count_pos]

/-- A move that fits makes no row twice. -/
theorem nodup_effect {present : Rows} {m : Move} (h : present.Nodup)
    (hfits : m.Fits group present) : (m.effect group present).Nodup := by
  rw [effect]
  cases hphase : m.phase with
  | up =>
    apply Multiset.nodup_cons.mpr
    refine ⟨fun hrow => ?_, h⟩
    rw [hfits.mpr hrow] at hphase
    cases hphase
  | down => exact h.filter _

/-- Moves of a group do nothing to the rows of other groups. -/
theorem count_effects {present : Rows} {moves : List Move} {row : Int64 × String}
    (h : row.2 ≠ group) : (effects group present moves).count row = present.count row := by
  induction moves generalizing present with
  | nil => rfl
  | cons m rest ih =>
    have hne : row ≠ m.row group := fun he => h (congrArg Prod.snd he)
    rw [effects_cons, ih, count_effect hne]

private theorem row_ne {m : Move} {v : Int64} (h : v ≠ m.version) : (v, group) ≠ m.row group :=
  fun he => h (congrArg Prod.fst he)

/-- Moves of distinct versions leave recorded what went up, and what was recorded and did not go
down. -/
theorem mem_effects {present : Rows} {moves : List Move} (h : (moves.map (·.version)).Nodup)
    (v : Int64) :
    (v, group) ∈ effects group present moves ↔
      up v ∈ moves ∨ ((v, group) ∈ present ∧ down v ∉ moves) := by
  induction moves generalizing present with
  | nil => simp
  | cons m rest ih =>
    obtain ⟨hfresh, hrest⟩ := List.nodup_cons.mp h
    rw [effects_cons, ih hrest]
    by_cases hv : v = m.version
    · subst hv
      have hup : up m.version ∉ rest := fun hm => hfresh (List.mem_map.mpr ⟨_, hm, rfl⟩)
      have hdown : down m.version ∉ rest := fun hm => hfresh (List.mem_map.mpr ⟨_, hm, rfl⟩)
      have heffect : (m.version, group) ∈ m.effect group present ↔ m.phase = .up := row_mem_effect
      rw [heffect]
      obtain ⟨phase, version⟩ := m
      cases phase with
      | up => simp_all [up, down]
      | down => simp_all [up, down]
    · have hup : up v ≠ m := fun he => hv (congrArg version he)
      have hdown : down v ≠ m := fun he => hv (congrArg version he)
      simp [mem_effect (row_ne hv), hup, hdown]

/-- Moves of distinct versions that each fit the rows at the start fit in turn. -/
theorem fitInTurn_of_fits {present : Rows} {moves : List Move}
    (hdistinct : (moves.map (·.version)).Nodup) (hfits : ∀ m ∈ moves, m.Fits group present) :
    FitInTurn group present moves := by
  induction moves generalizing present with
  | nil => trivial
  | cons m rest ih =>
    obtain ⟨hfresh, hrest⟩ := List.nodup_cons.mp hdistinct
    refine ⟨hfits m (by simp), ih hrest ?_⟩
    intro other hother
    have hne : other.version ≠ m.version := by
      intro he
      exact hfresh (List.mem_map.mpr ⟨other, hother, he⟩)
    rw [Fits, row, mem_effect (row_ne hne)]
    exact hfits other (List.mem_cons_of_mem _ hother)

/-- The first of some moves that fit in turn fit in turn. -/
theorem FitInTurn.of_append {present : Rows} {done rest : List Move}
    (h : FitInTurn group present (done ++ rest)) : FitInTurn group present done := by
  induction done generalizing present with
  | nil => trivial
  | cons m done ih => exact ⟨h.1, ih h.2⟩

end SchemaEvolution.Move
