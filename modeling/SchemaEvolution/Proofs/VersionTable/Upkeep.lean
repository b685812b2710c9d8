import Mathlib.Data.Multiset.Filter
import SchemaEvolution.Proofs.Migration.Ascending
import SchemaEvolution.Proofs.VersionTable.Statements

/-!
# Version tables that are kept

A backend keeps a version table when it carries the statements on it out and never fails one. The
actions on a kept table then succeed: reading gives the versions of the group and changes no row,
recording adds one row, and forgetting takes away the rows of one version.
-/

namespace SchemaEvolution

namespace VersionTable

/-- The rows of a version table, a version and a group each, in no order. -/
abbrev Rows : Type := Multiset (Int64 × String)

variable {σ : Type}

/-- The backend keeps the table for a client. `rows` reads off a state which rows the table has, if
it exists. The statements, as the client's dialect writes them, succeed and do what they say; what
else the state holds is not restricted. -/
structure KeptBy (t : VersionTable) (c : Client) (backend : Backend σ)
    (rows : σ → Option Rows) : Prop where
  /-- Asking tells whether the table exists. -/
  probed : ∀ s, ∃ answer s', (backend.answer (t.probe c)).run s = (.ok answer, s') ∧
    rows s' = rows s ∧ answer.isPositive = (rows s).isSome
  /-- One statement creates the table, without rows. -/
  created : ∃ sql, c.dialect.createTable (t.shape c) = .ok [sql] ∧
    ∀ s, rows s = none → ∃ n s', (backend.answer (.execute sql [])).run s = (.ok n, s') ∧
      rows s' = some 0
  /-- Reading gives the versions of the group, in any order. -/
  read : ∃ built, (t.selection c).build c.dialect = .ok built ∧
    ∀ s present, rows s = some present →
      ∃ answer s', (backend.answer (reading built)).run s = (.ok answer, s') ∧
        rows s' = some present ∧
        (answer.rows : Multiset (List Value)) =
          (present.filter fun row => row.2 = t.group).map fun row => [.int row.1]
  /-- Recording adds a row. -/
  recorded : ∀ version s present, rows s = some present →
    ∃ n s', (backend.answer (t.recording c version)).run s = (.ok n, s') ∧
      rows s' = some ((version, t.group) ::ₘ present)
  /-- Forgetting deletes the rows of a version. -/
  forgotten : ∀ version, ∃ condition,
    c.dialect.whereClause (t.rowFilter version) 0 = .ok condition ∧
    ∀ s present, rows s = some present →
      ∃ n s', (backend.answer (t.deletion c condition)).run s = (.ok n, s') ∧
        rows s' = some (present.filter (· ≠ (version, t.group)))

/-- The statement that creates the table is refused where it exists, and changes no row. -/
def RefusesAgain (t : VersionTable) (c : Client) (backend : Backend σ) (rows : σ → Option Rows) :
    Prop :=
  ∀ sql, c.dialect.createTable (t.shape c) = .ok [sql] → ∀ s, (rows s).isSome = true →
    ∃ cause s', (backend.answer (.execute sql [])).run s = (.error cause, s') ∧
      cause.kind = .alreadyExists ∧ rows s' = rows s

/-- The rows in a state; a table that does not exist has none. -/
def recordedIn (rows : σ → Option Rows) (s : σ) : Rows := (rows s).getD 0

/-- The versions are those that some rows hold of a group, in ascending order. -/
structure Lists (present : Rows) (group : String) (versions : List Int64) : Prop where
  ascending : Ascending versions
  mem_iff : ∀ v, v ∈ versions ↔ (v, group) ∈ present

variable {t : VersionTable} {c : Client} {backend : Backend σ} {rows : σ → Option Rows}

theorem recordedIn_of_some {s : σ} {present : Rows} (h : rows s = some present) :
    recordedIn rows s = present := by
  rw [recordedIn, h, Option.getD_some]

theorem recordedIn_congr {s s' : σ} (h : rows s' = rows s) :
    recordedIn rows s' = recordedIn rows s := by
  rw [recordedIn, recordedIn, h]

/-- A table with a row exists. -/
theorem rows_eq_some_of_mem {s : σ} {row : Int64 × String} (h : row ∈ recordedIn rows s) :
    rows s = some (recordedIn rows s) := by
  cases hrows : rows s with
  | none => simp [recordedIn, hrows] at h
  | some present => rw [recordedIn_of_some hrows]

private theorem mem_versionsOf_of_rows {answer : ResultSet} {present : Rows} {group : String}
    (h : (answer.rows : Multiset (List Value)) =
      (present.filter fun row => row.2 = group).map fun row => [.int row.1]) (v : Int64) :
    v ∈ versionsOf answer ↔ (v, group) ∈ present := by
  rw [mem_versionsOf]
  constructor
  · rintro ⟨row, hrow, hv⟩
    have hmem : row ∈ (answer.rows : Multiset (List Value)) := Multiset.mem_coe.mpr hrow
    rw [h, Multiset.mem_map] at hmem
    obtain ⟨found, hfound, rfl⟩ := hmem
    obtain ⟨hpresent, hgroup⟩ := Multiset.mem_filter.mp hfound
    cases hv
    subst hgroup
    exact hpresent
  · intro hmem
    have hrow : [Value.int v] ∈ (answer.rows : Multiset (List Value)) := by
      rw [h, Multiset.mem_map]
      exact ⟨(v, group), Multiset.mem_filter.mpr ⟨hmem, rfl⟩, rfl⟩
    exact ⟨_, Multiset.mem_coe.mp hrow, rfl⟩

namespace KeptBy

/-- Reading gives the versions of the group in ascending order, and asks nothing but queries. -/
theorem runFrom_applied (h : t.KeptBy c backend rows) (s : σ) :
    ∃ versions s' exchanges,
      (t.applied c).runFrom backend s = ⟨.ok versions, s', exchanges⟩ ∧
      rows s' = rows s ∧ Lists (recordedIn rows s) t.group versions ∧
      ∀ x ∈ exchanges, x.request.isQuery = true := by
  obtain ⟨answer, s', hprobe, hrows, hpositive⟩ := h.probed s
  cases hpresent : rows s with
  | none =>
    rw [hpresent] at hpositive
    refine ⟨[], s', _, runFrom_applied_of_missing hpositive hprobe, by rw [hrows, hpresent],
      ⟨List.Pairwise.nil, ?_⟩, ?_⟩
    · simp [recordedIn, hpresent]
    · simp [Call.isQuery]
  | some present =>
    rw [hpresent] at hpositive
    obtain ⟨built, hbuilt, hread⟩ := h.read
    obtain ⟨result, s'', hquery, hrows', hresult⟩ := hread s' present (hrows.trans hpresent)
    refine ⟨versionsOf result, s'', _, runFrom_applied_of_ok hpositive hbuilt hprobe hquery,
      hrows', ⟨ascending_versionsOf result, ?_⟩, ?_⟩
    · intro v
      rw [mem_versionsOf_of_rows hresult, recordedIn_of_some hpresent]
    · simp [Call.isQuery]

/-- The greatest version of the group is read with all of them. -/
theorem runFrom_current (h : t.KeptBy c backend rows) (s : σ) :
    ∃ versions s' exchanges,
      (t.current c).runFrom backend s = ⟨.ok (greatest versions), s', exchanges⟩ ∧
      rows s' = rows s ∧ Lists (recordedIn rows s) t.group versions := by
  obtain ⟨versions, s', exchanges, hread, hrows, hlists, -⟩ := h.runFrom_applied s
  refine ⟨versions, s', exchanges, ?_, hrows, hlists⟩
  rw [current, Action.runFrom_bind_of_ok hread, Action.runFrom_pure, Course.after_mk,
    List.append_nil]

/-- Ensuring leaves a table with the rows that there were. -/
theorem runFrom_ensure (h : t.KeptBy c backend rows) (s : σ) :
    ∃ s' exchanges, (t.ensure c).runFrom backend s = ⟨.ok (), s', exchanges⟩ ∧
      rows s' = some (recordedIn rows s) := by
  obtain ⟨answer, s', hprobe, hrows, hpositive⟩ := h.probed s
  cases hpresent : rows s with
  | none =>
    rw [hpresent] at hpositive
    obtain ⟨sql, hsql, hcreate⟩ := h.created
    obtain ⟨n, s'', hexecute, hrows'⟩ := hcreate s' (hrows.trans hpresent)
    refine ⟨s'', [⟨t.probe c, .ok answer⟩, ⟨.execute sql [], .ok n⟩], ?_, ?_⟩
    · rw [runFrom_ensure_of_missing hpositive hprobe, runFrom_create_of_ok hsql hexecute]
      rfl
    · rw [hrows', recordedIn, hpresent, Option.getD_none]
  | some present =>
    rw [hpresent] at hpositive
    refine ⟨s', _, runFrom_ensure_of_present hpositive hprobe, ?_⟩
    rw [hrows, recordedIn, hpresent, Option.getD_some]

/-- Recording adds the row of the version. -/
theorem runFrom_record (h : t.KeptBy c backend rows) (version : Int64) {s : σ} {present : Rows}
    (hpresent : rows s = some present) :
    ∃ s' exchanges, (t.record c version).runFrom backend s = ⟨.ok (), s', exchanges⟩ ∧
      rows s' = some ((version, t.group) ::ₘ present) := by
  obtain ⟨n, s', hexecute, hrows⟩ := h.recorded version s present hpresent
  exact ⟨s', _, runFrom_record_of_ok hexecute, hrows⟩

/-- Forgetting takes the rows of the version away. -/
theorem runFrom_forget (h : t.KeptBy c backend rows) (version : Int64) {s : σ} {present : Rows}
    (hpresent : rows s = some present) :
    ∃ s' exchanges, (t.forget c version).runFrom backend s = ⟨.ok (), s', exchanges⟩ ∧
      rows s' = some (present.filter (· ≠ (version, t.group))) := by
  obtain ⟨condition, hcondition, hdelete⟩ := h.forgotten version
  obtain ⟨n, s', hexecute, hrows⟩ := hdelete s present hpresent
  exact ⟨s', _, runFrom_forget_of_ok hcondition hexecute, hrows⟩

end KeptBy

end VersionTable

end SchemaEvolution
