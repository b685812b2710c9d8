import SchemaEvolution.Proofs.VersionTable.Plain
import SchemaEvolution.Proofs.VersionTable.Upkeep

/-!
# A keeper of version tables

A backend that remembers the rows of one version table and nothing else. It keeps the table for
every group (`keptBy_keeper`), so what is said of kept tables is said of something. It can be made
to refuse to create the table again (`refusesAgain_guard`).
-/

namespace SchemaEvolution.VersionTable

/-- What a keeper remembers: the rows of the table, if it exists. -/
abbrev Memory : Type := Option (List (Int64 × String))

namespace Memory

/-- The rows that are remembered. -/
def rows (s : Memory) : Option Rows := s.map Multiset.ofList

/-- The rows of a group as a query gives them. -/
def read (s : Memory) : List Value → List (List Value)
  | [.text group] => ((s.getD []).filter fun row => row.2 = group).map fun row => [.int row.1]
  | _ => []

/-- What a statement of the given kind makes of the rows with the values that it binds. -/
def write (inserts creates : Bool) (s : Memory) : List Value → Memory
  | [.int version, .text group] =>
    if inserts then s.map ((version, group) :: ·) else s.map (·.filter (· ≠ (version, group)))
  | _ => if creates then some (s.getD []) else s

end Memory

/-- Answers the statements on a version table, whatever the group; others change nothing. -/
def keeper (t : VersionTable) (c : Client) : Backend Memory where
  answer
    | .execute sql parameters => fun s =>
      (.ok 0, s.write (sql = c.dialect.insert (t.address c) ["version", "group"])
        ((c.dialect.createTable (t.shape c)).toOption = some [sql]) (Parameter.values parameters))
    | .query _ parameters => fun s => (.ok ⟨["version"], s.read (Parameter.values parameters)⟩, s)
    | .scalar _ _ => fun s => (.ok (.int (if s.isSome then 1 else 0)), s)
    | .insertReturning _ _ => fun s => (.ok .null, s)
    | .commit => fun s => (.ok (), s)
    | .rollback => fun s => (.ok (), s)
    | .close => fun s => (.ok (), s)

variable {t : VersionTable} {c : Client}

private theorem eq_some_of_rows {s : Memory} {present : Rows} (h : s.rows = some present) :
    ∃ remembered : List (Int64 × String), s = some remembered ∧ present = (remembered : Rows) := by
  obtain ⟨remembered, rfl, rfl⟩ := Option.map_eq_some_iff.mp h
  exact ⟨remembered, rfl, rfl⟩

private theorem run_execute {sql : String} {parameters : List Parameter} {values : List Value}
    (h : Parameter.values parameters = values) (s : Memory) :
    ((t.keeper c).answer (.execute sql parameters)).run s =
      (.ok 0, s.write (sql = c.dialect.insert (t.address c) ["version", "group"])
        ((c.dialect.createTable (t.shape c)).toOption = some [sql]) values) := by
  rw [← h]
  rfl

/-- A keeper keeps its table for every group. -/
theorem keptBy_keeper (plain : c.dialect.Plain) (t : VersionTable) (group : String) :
    { t with group }.KeptBy c (t.keeper c) Memory.rows where
  probed s := by
    refine ⟨.int (if s.isSome then 1 else 0), s, rfl, rfl, ?_⟩
    cases s <;> rfl
  created := by
    obtain ⟨sql, hsql⟩ := exists_creation plain t
    refine ⟨sql, hsql, fun s hrows => ⟨0, some [], ?_, rfl⟩⟩
    have hcreates : (c.dialect.createTable (t.shape c)).toOption = some [sql] := by
      rw [hsql]
      rfl
    cases Option.map_eq_none_iff.mp hrows
    refine (run_execute (values_creation sql) _).trans ?_
    rw [decide_eq_true hcreates]
    rfl
  read := by
    obtain ⟨sql, hsql⟩ := exists_selection plain { t with group }
    refine ⟨_, hsql, fun s present hrows => ⟨_, s, rfl, hrows, ?_⟩⟩
    obtain ⟨remembered, rfl, rfl⟩ := eq_some_of_rows hrows
    rw [Parameter.values_inputs_number]
    simp [Memory.read]
  recorded version s present hrows := by
    obtain ⟨remembered, rfl, rfl⟩ := eq_some_of_rows hrows
    refine ⟨0, some ((version, group) :: remembered), ?_, rfl⟩
    have hinserts : decide (c.dialect.insert ({ t with group }.address c) ["version", "group"] =
        c.dialect.insert (t.address c) ["version", "group"]) = true := decide_eq_true rfl
    refine (run_execute (values_recording plain { t with group } version) _).trans ?_
    rw [Memory.write, hinserts]
    rfl
  forgotten version := by
    obtain ⟨sql, hsql⟩ := exists_condition plain { t with group } version
    refine ⟨_, hsql, fun s present hrows => ?_⟩
    obtain ⟨remembered, rfl, rfl⟩ := eq_some_of_rows hrows
    refine ⟨0, some (remembered.filter (· ≠ (version, group))), ?_, ?_⟩
    · have hdeletes : decide (c.dialect.delete ({ t with group }.address c) ++ (" " ++ sql) =
          c.dialect.insert (t.address c) ["version", "group"]) = false :=
        decide_eq_false (delete_ne_insert plain _ _ _)
      refine (run_execute (Parameter.values_inputs_number _ _ _) _).trans ?_
      rw [Memory.write, hdeletes]
      rfl
    · simp [Memory.rows]

/-! ### Keepers that refuse to create a table again -/

/-- A keeper that refuses to create the table where it exists. -/
def guard (t : VersionTable) (c : Client) : Backend Memory where
  answer
    | .execute sql [] => fun s =>
      if s.isSome && (c.dialect.createTable (t.shape c)).toOption = some [sql] then
        (.error { kind := .alreadyExists, message := "the table exists" }, s)
      else ((t.keeper c).answer (.execute sql [])).run s
    | call => (t.keeper c).answer call

/-- It keeps the table as well. -/
theorem keptBy_guard (plain : c.dialect.Plain) (t : VersionTable) (group : String) :
    { t with group }.KeptBy c (t.guard c) Memory.rows where
  probed := (keptBy_keeper plain t group).probed
  created := by
    obtain ⟨sql, hsql, hcreate⟩ := (keptBy_keeper plain t group).created
    refine ⟨sql, hsql, fun s hrows => ?_⟩
    obtain ⟨n, s', hanswer, hrows'⟩ := hcreate s hrows
    cases Option.map_eq_none_iff.mp hrows
    exact ⟨n, s', hanswer, hrows'⟩
  read := (keptBy_keeper plain t group).read
  recorded version s present hrows := by
    obtain ⟨n, s', hanswer, hrows'⟩ :=
      (keptBy_keeper plain t group).recorded version s present hrows
    refine ⟨n, s', ?_, hrows'⟩
    unfold recording at hanswer ⊢
    rw [plain.nameParameters] at hanswer ⊢
    exact hanswer
  forgotten version := by
    obtain ⟨condition, hcondition, hdelete⟩ := (keptBy_keeper plain t group).forgotten version
    obtain ⟨sql, hsql⟩ := exists_condition plain { t with group } version
    cases hcondition.symm.trans hsql
    exact ⟨_, hsql, hdelete⟩

theorem refusesAgain_guard (t : VersionTable) (c : Client) (group : String) :
    { t with group }.RefusesAgain c (t.guard c) Memory.rows := by
  intro sql hsql s hexists
  have hcreates : (c.dialect.createTable (t.shape c)).toOption = some [sql] :=
    congrArg Except.toOption hsql
  refine ⟨{ kind := .alreadyExists, message := "the table exists" }, s, ?_, rfl, rfl⟩
  refine if_pos (Bool.and_eq_true_iff.mpr ⟨?_, decide_eq_true hcreates⟩)
  exact Option.isSome_map.symm.trans hexists

end SchemaEvolution.VersionTable
