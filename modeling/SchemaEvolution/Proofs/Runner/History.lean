import Mathlib.Data.List.Chain
import Mathlib.Data.Set.Basic
import SchemaEvolution.Proofs.Runner.Pace
import SchemaEvolution.Proofs.Runner.Idle

/-!
# Histories of a version table

Several runners call, in any order and as often as they like, over one version table that is kept
and that no migration touches. The moves that they complete make up a history, and the rows are
those that the history accounts for (`Tracks`): every move keeps this up, so every call does, and so
it holds whatever was called before.
-/

namespace SchemaEvolution

open Procedure (completed)
open VersionTable (Rows recordedIn)

/-- The moves that were completed, each with its group, in order. -/
abbrev History : Type := List (String × Move)

/-- The phases that a version of a group has gone through, in order. -/
def History.phases (history : History) (row : Int64 × String) : List Phase :=
  (history.filter fun entry => entry.2.row entry.1 = row).map fun entry => entry.2.phase

/-- Up and down by turns, and up first. -/
def Alternate (phases : List Phase) : Prop :=
  phases.head? ≠ some .down ∧ phases.IsChain (· ≠ ·)

/-- The history accounts for the rows: no row is there twice, versions went up and down by turns,
and a row is there when the last move of its version was up. -/
structure Tracks (history : History) (present : Rows) : Prop where
  nodup : present.Nodup
  alternate : ∀ row, Alternate (history.phases row)
  mem_iff : ∀ row, row ∈ present ↔ (history.phases row).getLast? = some .up

/-! ### Turns -/

/-- After up comes down, and otherwise up. -/
theorem Alternate.append {phases : List Phase} {phase : Phase} (h : Alternate phases)
    (hnext : phase = .down ↔ phases.getLast? = some .up) : Alternate (phases ++ [phase]) := by
  obtain ⟨hhead, hchain⟩ := h
  constructor
  · cases phases with
    | nil =>
      intro hdown
      have hlast := hnext.mp (Option.some.inj hdown)
      cases hlast
    | cons first rest => exact hhead
  · apply List.isChain_append.mpr
    refine ⟨hchain, List.isChain_singleton phase, ?_⟩
    intro last hlast next hsame
    cases Option.mem_some.mp hsame
    rintro rfl
    rw [Option.mem_def.mp hlast] at hnext
    cases last with
    | up => cases hnext.mpr rfl
    | down => cases hnext.mp rfl

/-! ### What moves do to what a history accounts for -/

namespace History

variable {history : History} {group : String} {m : Move} {row : Int64 × String}

theorem phases_append_self :
    phases (history ++ [(group, m)]) (m.row group) = phases history (m.row group) ++ [m.phase] := by
  simp [phases]

theorem phases_append_of_ne (h : row ≠ m.row group) :
    phases (history ++ [(group, m)]) row = phases history row := by
  simp [phases, Ne.symm h]

end History

namespace Tracks

variable {history : History} {present : Rows} {group : String}

/-- A table without rows has no history. -/
theorem empty : Tracks [] 0 where
  nodup := Multiset.nodup_zero
  alternate _ := ⟨nofun, List.isChain_nil⟩
  mem_iff _ := by simp [History.phases]

/-- A move that fits is accounted for. -/
theorem move (h : Tracks history present) {m : Move} (hfits : m.Fits group present) :
    Tracks (history ++ [(group, m)]) (m.effect group present) where
  nodup := Move.nodup_effect h.nodup hfits
  alternate row := by
    by_cases hrow : row = m.row group
    · subst hrow
      rw [History.phases_append_self]
      apply (h.alternate _).append
      rw [← h.mem_iff]
      exact hfits
    · rw [History.phases_append_of_ne hrow]
      exact h.alternate row
  mem_iff row := by
    by_cases hrow : row = m.row group
    · subst hrow
      rw [Move.row_mem_effect, History.phases_append_self, List.getLast?_concat, Option.some_inj]
    · rw [Move.mem_effect hrow, History.phases_append_of_ne hrow]
      exact h.mem_iff row

/-- Moves that fit one after the other are accounted for. -/
theorem moves (h : Tracks history present) {moves : List Move}
    (hfits : Move.FitInTurn group present moves) :
    Tracks (history ++ moves.map fun m => (group, m)) (Move.effects group present moves) := by
  induction moves generalizing history present with
  | nil => simpa using h
  | cons m rest ih =>
    have hrest := ih (h.move hfits.1) hfits.2
    rw [List.append_assoc] at hrest
    exact hrest

/-- A course that keeps pace is accounted for by the moves that it completes. -/
theorem course {σ α : Type} {rows : σ → Option Rows} {s : σ}
    {course : Course Step Step.Answer σ (Except MigrationError α)}
    (h : Tracks history (recordedIn rows s)) (hpace : KeepsPace rows group s course) :
    Tracks (history ++ (completed course.exchanges).map fun m => (group, m))
      (recordedIn rows course.final) := by
  rw [hpace.left]
  exact h.moves hpace.fits

end Tracks

/-! ### Calls of several runners -/

variable {σ : Type}

/-- The states of a database that runners come to by calls, in any order, from a version table
without rows, each with the history of the moves that the calls completed. -/
inductive Reachable (runners : Set Runner) (backend : Backend σ) (rows : σ → Option Rows) :
    σ → History → Prop where
  | start {s : σ} (empty : recordedIn rows s = 0) : Reachable runners backend rows s []
  | call {s : σ} {history : History} (before : Reachable runners backend rows s history)
      {r : Runner} (called : r ∈ runners) (command : Command) :
      Reachable runners backend rows ((command.procedure r).runFrom backend s).final
        (history ++ (completed ((command.procedure r).runFrom backend s).exchanges).map
          fun m => (r.versions.group, m))

variable {runners : Set Runner} {backend : Backend σ} {rows : σ → Option Rows}

/-- What runners come to is accounted for by what they completed. -/
theorem tracks_of_reachable (proper : ∀ r ∈ runners, r.Proper)
    (kept : ∀ r ∈ runners, r.versions.KeptBy r.client backend rows)
    (spares : ∀ r ∈ runners, r.Spares backend rows) {s : σ} {history : History}
    (h : Reachable runners backend rows s history) : Tracks history (recordedIn rows s) := by
  induction h with
  | start empty =>
    rw [empty]
    exact Tracks.empty
  | @call s history before r called command ih =>
    exact ih.course (Runner.keepsPace_procedure (proper r called) (kept r called)
      (spares r called) command s)

/-- A call leaves the rows of other groups. -/
theorem filter_group_of_keepsPace {α : Type} {group : String} {s : σ}
    {course : Course Step Step.Answer σ (Except MigrationError α)}
    (h : KeepsPace rows group s course) :
    (recordedIn rows course.final).filter (·.2 ≠ group) =
      (recordedIn rows s).filter (·.2 ≠ group) := by
  apply Multiset.ext.mpr
  intro row
  rw [Multiset.count_filter, Multiset.count_filter]
  by_cases hrow : row.2 ≠ group
  · rw [if_pos hrow, if_pos hrow, h.left, Move.count_effects hrow]
  · rw [if_neg hrow, if_neg hrow]

/-- Runners that were built, with any groups and migrations, call in any order over one version
table that is kept and that the migrations leave alone, at first without rows. Whatever they come
to: no row is there twice, each version of each group went up and down by turns, its row is there
when it went up last, and a call leaves the rows of other groups. -/
theorem rows_track_history
    (built : ∀ r ∈ runners, ∃ client versions migrations,
      Runner.ofMigrations client versions migrations = .ok r)
    (kept : ∀ r ∈ runners, r.versions.KeptBy r.client backend rows)
    (spares : ∀ r ∈ runners, r.Spares backend rows) {s : σ} {history : History}
    (h : Reachable runners backend rows s history) :
    (recordedIn rows s).Nodup ∧
    (∀ row, Alternate (history.phases row)) ∧
    (∀ row, row ∈ recordedIn rows s ↔ (history.phases row).getLast? = some .up) ∧
    ∀ r ∈ runners, ∀ command : Command,
      (recordedIn rows ((command.procedure r).runFrom backend s).final).filter
          (·.2 ≠ r.versions.group) =
        (recordedIn rows s).filter (·.2 ≠ r.versions.group) := by
  have proper : ∀ r ∈ runners, r.Proper := by
    intro r hr
    obtain ⟨client, versions, migrations, hbuilt⟩ := built r hr
    exact Runner.proper_of_ofMigrations hbuilt
  have htracks := tracks_of_reachable proper kept spares h
  refine ⟨htracks.nodup, htracks.alternate, htracks.mem_iff, ?_⟩
  intro r hr command
  exact filter_group_of_keepsPace
    (Runner.keepsPace_procedure (proper r hr) (kept r hr) (spares r hr) command s)

/-- Two groups with a version in common share a table: both go up to it, and one of them back. -/
theorem rows_track_history_of_two_groups :
    Runner.ofMigrations .sqlite { group := "a" } [.idle "a" 1] = .ok (.idle "a" [1]) ∧
    Runner.ofMigrations .sqlite { group := "b" } [.idle "b" 2, .idle "b" 1] =
      .ok (.idle "b" [1, 2]) ∧
    ∃ s, Reachable {.idle "a" [1], .idle "b" [1, 2]} Runner.keeper VersionTable.Memory.rows s
        [("a", .up 1), ("b", .up 1), ("a", .down 1)] ∧
      (recordedIn VersionTable.Memory.rows s).Nodup ∧
      (1, "b") ∈ recordedIn VersionTable.Memory.rows s ∧
      (1, "a") ∉ recordedIn VersionTable.Memory.rows s := by
  have hfirst : Runner.ofMigrations .sqlite { group := "a" } [.idle "a" 1] =
      .ok (.idle "a" [1]) := rfl
  have hsecond : Runner.ofMigrations .sqlite { group := "b" } [.idle "b" 2, .idle "b" 1] =
      .ok (.idle "b" [1, 2]) := rfl
  have hstart : Reachable {.idle "a" [1], .idle "b" [1, 2]} Runner.keeper
      VersionTable.Memory.rows none [] := .start rfl
  obtain ⟨s, history, hcalls, rfl⟩ : ∃ s history, Reachable {.idle "a" [1], .idle "b" [1, 2]}
      Runner.keeper VersionTable.Memory.rows s history ∧
        history = [("a", .up 1), ("b", .up 1), ("a", .down 1)] :=
    ⟨_, _, ((hstart.call (Set.mem_insert _ _) .migrateUp).call (Set.mem_insert_of_mem _ rfl)
      (.migrateTo 1)).call (Set.mem_insert _ _) (.rollback 1), by decide +kernel⟩
  have h := rows_track_history ?built ?kept ?spares hcalls
  · refine ⟨hfirst, hsecond, s, hcalls, h.1, (h.2.2.1 _).mpr (by decide), fun hrow => ?_⟩
    exact absurd ((h.2.2.1 _).mp hrow) (by decide)
  case built =>
    rintro r (rfl | rfl)
    · exact ⟨_, _, _, hfirst⟩
    · exact ⟨_, _, _, hsecond⟩
  case kept => rintro r (rfl | rfl) <;> exact Runner.keptBy_idle _ _
  case spares => rintro r (rfl | rfl) <;> exact Runner.spares_idle _ _ _ _

end SchemaEvolution
