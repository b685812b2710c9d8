import Mathlib.Data.List.Nodup
import Mathlib.Logic.Function.Basic
import SchemaEvolution.Proofs.Sqlite.Complaints
import SchemaEvolution.Proofs.Sqlite.Creations

/-!
# What is in a SQLite database

The tables of a database with the names of their columns, its views and its indexes, each in a
schema. A statement that creates an object is refused when the name is taken, and leaves everything
as it is. What an engine has to do with such statements is `Engine.Keeps`: what it complains of
contains one of the two phrases for the reasons that are listed in `Contents.Refuses`, or because
the statement does.
-/

namespace SchemaEvolution.Sqlite

/-! ### Contents -/

/-- Where an object stands: its schema and its name, as they are compared. -/
abbrev Spot : Type := List Char × List Char

/-- What is in a database apart from what it keeps for itself. The schemas are in the order in which
a name without one is looked up. -/
structure Contents where
  schemas : List (List Char)
  tables : Spot → Option (List String)
  views : Spot → Bool
  indexes : Spot → Bool

namespace Contents

variable (d : Contents)

/-- Whether there is a table or a view. -/
def isRelation (spot : Spot) : Bool := (d.tables spot).isSome || d.views spot

/-- Where a table of some name is created. -/
def place : List String → Option Spot
  | [name] => some (fold "main", fold name)
  | [schema, name] => if fold schema ∈ d.schemas then some (fold schema, fold name) else none
  | _ => none

/-- Where the table or view of some name stands. -/
def find? : List String → Option Spot
  | [name] =>
    (d.schemas.find? fun schema => d.isRelation (schema, fold name)).map fun schema =>
      (schema, fold name)
  | [schema, name] =>
    if d.isRelation (fold schema, fold name) then some (fold schema, fold name) else none
  | _ => none

/-- In which schema an index on a table is created: without one, where the table is temporary, in
the temporary one. -/
def indexSchema (schema : Option String) (table : String) : Option (List Char) :=
  match schema with
  | some schema => if fold schema ∈ d.schemas then some (fold schema) else none
  | none => some (if d.isRelation (fold "temp", fold table) then fold "temp" else fold "main")

/-- The contents with a table that consists of some columns. -/
def withTable (spot : Spot) (columns : List String) : Contents :=
  { d with tables := Function.update d.tables spot (some columns) }

/-- The contents with an index. -/
def withIndex (spot : Spot) : Contents :=
  { d with indexes := Function.update d.indexes spot true }

/-- The contents after a creation, unless it is refused. -/
def create : Creation → Option Contents
  | .table name columns => do
    let spot ← d.place name
    if d.isRelation spot || d.indexes spot || !decide (columns.map fold).Nodup then none
    else some (d.withTable spot columns)
  | .column table name => do
    let spot ← d.find? table
    let columns ← d.tables spot
    if fold name ∈ columns.map fold then none
    else some (d.withTable spot (columns ++ [name]))
  | .index schema name table => do
    let schema ← d.indexSchema schema table
    if (d.tables (schema, fold table)).isNone || d.isRelation (schema, fold name) ||
        d.indexes (schema, fold name) then none
    else some (d.withIndex (schema, fold name))

/-- There is a table of some name, where it would be created. -/
def HasTable (name : List String) : Prop :=
  ∃ spot, d.place name = some spot ∧ (d.tables spot).isSome = true

/-- The table of some name has a column of some name. -/
def HasColumn (table : List String) (name : String) : Prop :=
  ∃ spot columns, d.find? table = some spot ∧ d.tables spot = some columns ∧
    fold name ∈ columns.map fold

/-- There is an index of some name, where it would be created for a table. -/
def HasIndex (schema : Option String) (name table : String) : Prop :=
  ∃ key, d.indexSchema schema table = some key ∧ d.indexes (key, fold name) = true

/-- What a creation creates is there. -/
def Holds : Creation → Prop
  | .table name _ => d.HasTable name
  | .column table name => d.HasColumn table name
  | .index schema name table => d.HasIndex schema name table

variable {d}

@[simp] theorem tables_withTable (spot : Spot) (columns : List String) :
    (d.withTable spot columns).tables spot = some columns := Function.update_self ..

@[simp] theorem place_withTable (spot : Spot) (columns name : List String) :
    (d.withTable spot columns).place name = d.place name := by
  unfold place
  rfl

@[simp] theorem indexes_withIndex (spot : Spot) : (d.withIndex spot).indexes spot = true :=
  Function.update_self ..

@[simp] theorem indexSchema_withIndex (spot : Spot) (schema : Option String) (table : String) :
    (d.withIndex spot).indexSchema schema table = d.indexSchema schema table := rfl

/-- A table that gets other columns stays a table. -/
theorem isRelation_withTable {spot : Spot} (h : d.isRelation spot = true) (columns : List String)
    (other : Spot) : (d.withTable spot columns).isRelation other = d.isRelation other := by
  by_cases hother : other = spot
  · subst hother
    rw [h, isRelation, tables_withTable]
    rfl
  · simp [isRelation, withTable, hother]

/-- A table that gets other columns is found as before. -/
theorem find?_withTable {spot : Spot} (h : d.isRelation spot = true) (columns name : List String) :
    (d.withTable spot columns).find? name = d.find? name := by
  have hschemas : (d.withTable spot columns).schemas = d.schemas := rfl
  unfold find?
  simp only [hschemas, isRelation_withTable h]

/-- What was created is there. -/
theorem holds_of_create {x : Creation} {after : Contents} (h : d.create x = some after) :
    after.Holds x := by
  cases x with
  | table name columns =>
    rw [create, Option.bind_eq_bind, Option.bind_eq_some_iff] at h
    obtain ⟨spot, hspot, hcreated⟩ := h
    obtain ⟨-, hafter⟩ := Option.ite_none_left_eq_some.mp hcreated
    rw [← Option.some.inj hafter]
    exact ⟨spot, by rw [place_withTable, hspot], by rw [tables_withTable]; rfl⟩
  | column table name =>
    rw [create, Option.bind_eq_bind, Option.bind_eq_some_iff] at h
    obtain ⟨spot, hspot, hfound⟩ := h
    rw [Option.bind_eq_bind, Option.bind_eq_some_iff] at hfound
    obtain ⟨columns, hcolumns, hcreated⟩ := hfound
    obtain ⟨-, hafter⟩ := Option.ite_none_left_eq_some.mp hcreated
    have hrelation : d.isRelation spot = true := by simp [isRelation, hcolumns]
    rw [← Option.some.inj hafter]
    refine ⟨spot, _, ?_, tables_withTable spot _, by simp⟩
    rw [find?_withTable hrelation, hspot]
  | index schema name table =>
    rw [create, Option.bind_eq_bind, Option.bind_eq_some_iff] at h
    obtain ⟨key, hkey, hcreated⟩ := h
    obtain ⟨-, hafter⟩ := Option.ite_none_left_eq_some.mp hcreated
    rw [← Option.some.inj hafter]
    exact ⟨key, by rw [indexSchema_withIndex, hkey], indexes_withIndex _⟩

/-! ### Refusals -/

/-- What a database complains of when it refuses a creation. The two phrases are in complaints about
a table, a view or an index of the name, a column that a table would get twice or has already, and
otherwise in none that does not repeat them from the statement. -/
inductive Refuses (d : Contents) (sql : String) : Creation → String → Prop where
  | tableThere {name columns : List String} {spot : Spot} (written : String)
      (hspot : d.place name = some spot) (hthere : (d.tables spot).isSome = true) :
      Refuses d sql (.table name columns) ("table " ++ written ++ " already exists")
  | viewThere {name columns : List String} {spot : Spot} (written : String)
      (hspot : d.place name = some spot) (hthere : d.views spot = true) :
      Refuses d sql (.table name columns) ("view " ++ written ++ " already exists")
  | columnTwice {name columns : List String} (column : String)
      (htwice : ¬(columns.map fold).Nodup) :
      Refuses d sql (.table name columns) ("duplicate column name: " ++ column)
  | columnThere {table : List String} {name : String} (hthere : d.HasColumn table name) :
      Refuses d sql (.column table name) ("duplicate column name: " ++ name)
  | indexThere {schema : Option String} {name table : String} (written : String)
      (hthere : d.HasIndex schema name table) :
      Refuses d sql (.index schema name table) ("index " ++ written ++ " already exists")
  | other {x : Creation} {message : String} (h : Quiet sql → Silent message) :
      Refuses d sql x message

/-- Nothing but what the creation creates can be taken for it: no column twice, and no view of the
name of a table. -/
def Unmistakable (d : Contents) : Creation → Prop
  | .table name columns =>
    (columns.map fold).Nodup ∧ ∀ spot, d.place name = some spot → d.views spot = false
  | .column _ _ | .index _ _ _ => True

/-- Where a complaint about a quiet statement contains one of the phrases, what would be created is
there. -/
theorem Refuses.holds {sql message : String} {x : Creation} (h : d.Refuses sql x message)
    (hquiet : Quiet sql) (hx : d.Unmistakable x) (hphrase : ¬Silent message) : d.Holds x := by
  cases h with
  | tableThere written hspot hthere => exact ⟨_, hspot, hthere⟩
  | viewThere written hspot hthere =>
    rw [hx.2 _ hspot] at hthere
    cases hthere
  | columnTwice column htwice => exact absurd hx.1 htwice
  | columnThere hthere => exact hthere
  | indexThere written hthere => exact hthere
  | other hmessage => exact absurd (hmessage hquiet) hphrase

/-- What may be complained of when a creation is refused. -/
def complaint (d : Contents) : Creation → String
  | .table name columns =>
    if (d.place name).any fun spot => (d.tables spot).isSome then
      "table " ++ ".".intercalate name ++ " already exists"
    else if (d.place name).any d.views then "view " ++ ".".intercalate name ++ " already exists"
    else
      match columns.find? fun column => 1 < (columns.map fold).count (fold column) with
      | some column => "duplicate column name: " ++ column
      | none => "unable to create"
  | .column table name =>
    if ((d.find? table).bind d.tables).any fun columns => fold name ∈ columns.map fold then
      "duplicate column name: " ++ name
    else "unable to add"
  | .index schema name table =>
    if (d.indexSchema schema table).any fun key => d.indexes (key, fold name) then
      "index " ++ name ++ " already exists"
    else "unable to create"

theorem refuses_complaint (sql : String) (x : Creation) : d.Refuses sql x (d.complaint x) := by
  cases x with
  | table name columns =>
    rw [complaint]
    split
    · next hthere =>
      obtain ⟨spot, hspot, htable⟩ := (Option.any_eq_true _ _).mp hthere
      exact .tableThere _ hspot htable
    split
    · next hthere =>
      obtain ⟨spot, hspot, hview⟩ := (Option.any_eq_true _ _).mp hthere
      exact .viewThere _ hspot hview
    split
    · next column hfound =>
      have htwice : 1 < (columns.map fold).count (fold column) := by
        simpa using List.find?_some hfound
      exact .columnTwice column fun hdistinct =>
        htwice.not_ge (List.nodup_iff_count_le_one.mp hdistinct (fold column))
    · exact .other fun _ => by decide
  | column table name =>
    rw [complaint]
    split
    · next hthere =>
      obtain ⟨columns, hcolumns, hname⟩ := (Option.any_eq_true _ _).mp hthere
      obtain ⟨spot, hspot, htable⟩ := Option.bind_eq_some_iff.mp hcolumns
      exact .columnThere ⟨spot, columns, hspot, htable, of_decide_eq_true hname⟩
    · exact .other fun _ => by decide
  | index schema name table =>
    rw [complaint]
    split
    · next hthere => exact .indexThere _ ((Option.any_eq_true _ _).mp hthere)
    · exact .other fun _ => by decide

end Contents

end SchemaEvolution.Sqlite
