import Mathlib.Logic.Function.Basic
import SchemaEvolution.Proofs.VersionTable.Place

/-!
# Whether the version table is there

A database holds tables at places. Making sure that the version table exists is idempotent there, as
long as no catalog stands in its name: the query then asks for the place at which the table is
created. With a catalog it asks for another one, and the table is created a second time.
-/

namespace SchemaEvolution

open Dialect (Supported)

variable {σ ρ : Type}

/-- A database holds tables at places. A query tells whether there is one at the place that it
compares with. A statement creates a table where there is none, or is refused; if this is said to be
for a table that exists, there is one. -/
structure Hosts (k : Supported) (home : Home) (backend : Backend σ)
    (contents : σ → TablePlace → Option ρ) : Prop where
  probed : ∀ sql place, readProbe k home (Text.lexemes k.delimiters sql) = some place →
    ∀ s, ∃ answer s', (backend.answer (.scalar sql [])).run s = (.ok answer, s') ∧
      contents s' = contents s ∧ answer.isPositive = (contents s place).isSome
  created : ∀ sql place, readCreation home (Text.lexemes k.delimiters sql) = some place →
    ∀ s, (∃ n s' table, (backend.answer (.execute sql [])).run s = (.ok n, s') ∧
        contents s place = none ∧
        contents s' = Function.update (contents s) place (some table)) ∨
      ∃ cause s', (backend.answer (.execute sql [])).run s = (.error cause, s') ∧
        contents s' = contents s ∧
        (cause.kind = .alreadyExists → (contents s place).isSome = true)

/-- Tables at places, with their rows. -/
abbrev Tables : Type := TablePlace → Option (List (List Value))

namespace Tables

/-- Creates a table, unless there is one. -/
def create : Option TablePlace → StateM Tables (Except BackendError Nat)
  | some place => fun s =>
    if (s place).isSome then (.error { kind := .alreadyExists, message := "the table exists" }, s)
    else (.ok 0, Function.update s place (some []))
  | none => fun s => (.ok 0, s)

/-- Counts the tables at a place. -/
def count : Option TablePlace → StateM Tables (Except BackendError Value)
  | some place => fun s => (.ok (.int (if (s place).isSome then 1 else 0)), s)
  | none => fun s => (.ok .null, s)

/-- A database that creates and counts tables, and does nothing else. -/
def host (k : Supported) (home : Home) : Backend Tables where
  answer
    | .execute sql _ => create (readCreation home (Text.lexemes k.delimiters sql))
    | .scalar sql _ => count (readProbe k home (Text.lexemes k.delimiters sql))
    | .query _ _ => fun s => (.ok ⟨[], []⟩, s)
    | .insertReturning _ _ => fun s => (.ok .null, s)
    | .commit => fun s => (.ok (), s)
    | .rollback => fun s => (.ok (), s)
    | .close => fun s => (.ok (), s)

/-- It holds what its state says. -/
theorem hosts_host (k : Supported) (home : Home) : Hosts k home (host k home) id where
  probed sql place hplace s := by
    refine ⟨.int (if (s place).isSome then 1 else 0), s, ?_, rfl, ?_⟩
    · change (count (readProbe k home (Text.lexemes k.delimiters sql))).run s = _
      rw [hplace]
      rfl
    · change _ = (s place).isSome
      cases (s place).isSome <;> rfl
  created sql place hplace s := by
    change (∃ n s' table, (create (readCreation home (Text.lexemes k.delimiters sql))).run s = _ ∧
      _) ∨ ∃ cause s', (create (readCreation home (Text.lexemes k.delimiters sql))).run s = _ ∧ _
    rw [hplace]
    by_cases hpresent : (s place).isSome = true
    · exact .inr ⟨_, s, if_pos hpresent, rfl, fun _ => hpresent⟩
    · exact .inl ⟨0, _, [], if_neg hpresent, Option.not_isSome_iff_eq_none.mp hpresent, rfl⟩

end Tables

namespace VersionTable

variable {k : Supported} {home : Home} {t : VersionTable} {c : Client} {backend : Backend σ}
  {contents : σ → TablePlace → Option ρ} {s s' : σ}

/-- The statements on the table mean the one at a place: the one that creates it, the select that
reads its versions, and those that record and forget one. -/
structure Means (t : VersionTable) (k : Supported) (home : Home) (c : Client) (place : TablePlace) :
    Prop where
  creation : ∃ sql, c.dialect.createTable (t.shape c) = .ok [sql] ∧
    readCreation home (Text.lexemes k.delimiters sql) = some place
  selection : ∃ built, (t.selection c).build c.dialect = .ok built ∧
    readRows home (Text.lexemes k.delimiters built.sql) = some place
  recording : ∀ v, readRows home (Text.lexemes k.delimiters (t.recording c v).sql) = some place
  forgetting : ∀ v, ∃ call, t.Forgets c v call ∧
    readRows home (Text.lexemes k.delimiters call.sql) = some place

theorem means_place (hdialect : c.dialect = k.dialect) {place : TablePlace}
    (h : home.place? (TableName.parts (t.address c)) = some place) : t.Means k home c place where
  creation := ⟨_, createTable_shape hdialect, (readCreation_creationText home).trans h⟩
  selection := by
    obtain ⟨sql, hsql⟩ := exists_selection (c := c) (hdialect ▸ k.plain) t
    exact ⟨_, hsql, (readRows_selection home hdialect hsql).trans h⟩
  recording v := (readRows_recording home hdialect v).trans h
  forgetting v := by
    obtain ⟨sql, hsql⟩ := exists_condition (c := c) (hdialect ▸ k.plain) t v
    exact ⟨_, ⟨_, hsql, rfl⟩, (readRows_of_forgets home hdialect ⟨_, hsql, rfl⟩).trans h⟩

/-- Making sure that the table exists creates one only where the query finds none. This succeeds
where there is none at the place of the statements. -/
inductive EnsuresAt (t : VersionTable) (c : Client) (backend : Backend σ)
    (contents : σ → TablePlace → Option ρ) (asked place : TablePlace) (s s' : σ) : Prop where
  | found (answer : Value) (present : (contents s asked).isSome = true)
      (course : (t.ensure c).runFrom backend s = ⟨.ok (), s', [⟨t.probe c, .ok answer⟩]⟩)
      (kept : contents s' = contents s)
  | created (answer : Value) (sql : String) (n : Nat) (table : ρ)
      (missing : contents s asked = none)
      (course : (t.ensure c).runFrom backend s =
        ⟨.ok (), s', [⟨t.probe c, .ok answer⟩, ⟨.execute sql [], .ok n⟩]⟩)
      (absent : contents s place = none)
      (added : contents s' = Function.update (contents s) place (some table))
  | refused (answer : Value) (sql : String) (cause : BackendError)
      (missing : contents s asked = none)
      (course : (t.ensure c).runFrom backend s = ⟨VersionTable.refused c sql cause, s',
        [⟨t.probe c, .ok answer⟩, ⟨.execute sql [], .error cause⟩]⟩)
      (kept : contents s' = contents s)
      (reason : cause.kind = .alreadyExists → (contents s place).isSome = true)

/-- In a database that hosts tables, one of these is what happens. -/
theorem exists_ensuresAt (hosts : Hosts k home backend contents) (hk : k ≠ .sqlite)
    (hdialect : c.dialect = k.dialect) {place : TablePlace}
    (hplace : home.place? (TableName.parts (t.address c)) = some place) (s : σ) :
    ∃ s', t.EnsuresAt c backend contents (home.asked (t.address c)) place s s' := by
  obtain ⟨sql, hsql, hcreates⟩ := (means_place hdialect hplace).creation
  obtain ⟨answer, s₁, hanswer, hkept, hpositive⟩ :=
    hosts.probed _ _ (readProbe_probe home hk hdialect) s
  cases hpresent : (contents s (home.asked (t.address c))).isSome with
  | true =>
    rw [hpresent] at hpositive
    exact ⟨s₁, .found answer hpresent (runFrom_ensure_of_present hpositive hanswer) hkept⟩
  | false =>
    rw [hpresent] at hpositive
    have hmissing := Option.not_isSome_iff_eq_none.mp (Bool.not_eq_true _ ▸ hpresent)
    have hensure := runFrom_ensure_of_missing hpositive hanswer
    rcases hosts.created _ _ hcreates s₁ with
      ⟨n, s₂, table, hrun, habsent, hadded⟩ | ⟨cause, s₂, hrun, hsame, hreason⟩
    · rw [runFrom_create_of_ok hsql hrun] at hensure
      rw [hkept] at habsent hadded
      exact ⟨s₂, .created answer sql n table hmissing hensure habsent hadded⟩
    · rw [runFrom_create_of_refused hsql hrun] at hensure
      rw [hkept] at hsame hreason
      exact ⟨s₂, .refused answer sql cause hmissing hensure hsame hreason⟩

section Again

variable {asked place : TablePlace}

private theorem EnsuresAt.final_eq (h : t.EnsuresAt c backend contents asked place s s') :
    ((t.ensure c).runFrom backend s).final = s' := by
  cases h with
  | found _ _ course _ => rw [course]
  | created _ _ _ _ _ course _ _ => rw [course]
  | refused _ _ _ _ course _ _ => rw [course]

/-- The table is there when it was ensured, if the query asks for the place of the statements. -/
private theorem EnsuresAt.isSome (h : t.EnsuresAt c backend contents place place s s')
    (hok : ((t.ensure c).runFrom backend s).result = .ok ()) :
    (contents s' place).isSome = true := by
  cases h with
  | found answer present course kept => rwa [kept]
  | created answer sql n table missing course absent added => rw [added, Function.update_self]; rfl
  | refused answer sql cause missing course kept reason =>
    rw [course] at hok
    have hpresent := reason (refused_eq_ok hok)
    rw [missing] at hpresent
    cases hpresent

/-- If it asks for another place, where there is none, the table is there and still not found. -/
private theorem EnsuresAt.hidden (h : t.EnsuresAt c backend contents asked place s s')
    (hne : asked ≠ place) (hnone : contents s asked = none)
    (hok : ((t.ensure c).runFrom backend s).result = .ok ()) :
    contents s' asked = none ∧ (contents s' place).isSome = true := by
  cases h with
  | found answer present course kept =>
    rw [hnone] at present
    cases present
  | created answer sql n table missing course absent added =>
    rw [added, Function.update_of_ne hne, Function.update_self]
    exact ⟨hnone, rfl⟩
  | refused answer sql cause missing course kept reason =>
    rw [course] at hok
    rw [kept]
    exact ⟨hnone, reason (refused_eq_ok hok)⟩

end Again

/-- The statements on the version table all mean one table, and the query for its existence asks for
this one exactly if its name has at most two parts. Then a second call to ensure that it exists only
asks, and leaves the database as it is. If there are more parts, the second call does not find the
table and tries to create it again, which is refused. -/
theorem ensure_is_idempotent_without_catalog (hosts : Hosts k home backend contents)
    (hk : k ≠ .sqlite) (hdialect : c.dialect = k.dialect) (t : VersionTable) :
    ∃ asked place, readProbe k home (Text.lexemes k.delimiters (t.probe c).sql) = some asked ∧
      t.Means k home c place ∧
      (asked = place ↔ (TableName.parts (t.address c)).length ≤ 2) ∧
      ∀ s s₁ first, (t.ensure c).runFrom backend s = ⟨.ok (), s₁, first⟩ →
        (asked = place → ∃ answer s₂,
          (t.ensure c).runFrom backend s₁ = ⟨.ok (), s₂, [⟨t.probe c, .ok answer⟩]⟩ ∧
            contents s₂ = contents s₁) ∧
        (asked ≠ place → contents s asked = none → ∃ answer sql cause s₂,
          (t.ensure c).runFrom backend s₁ = ⟨refused c sql cause, s₂,
            [⟨t.probe c, .ok answer⟩, ⟨.execute sql [], .error cause⟩]⟩ ∧
              contents s₂ = contents s₁) := by
  obtain ⟨place, hplace⟩ := home.exists_place?_parts (t.address c)
  have hensures := exists_ensuresAt hosts hk hdialect hplace
  refine ⟨home.asked (t.address c), place, readProbe_probe home hk hdialect,
    means_place hdialect hplace, ?_, ?_⟩
  · rw [← home.place?_parts_iff, hplace, Option.some.injEq, eq_comm]
  · intro s s₁ first hfirst
    obtain ⟨s', hfirstly⟩ := hensures s
    obtain ⟨s₂, hsecondly⟩ := hensures s₁
    have hok : ((t.ensure c).runFrom backend s).result = .ok () := by rw [hfirst]
    obtain rfl : s₁ = s' := by rw [← hfirstly.final_eq, hfirst]
    constructor
    · intro hsame
      rw [hsame] at hfirstly hsecondly
      have hpresent := hfirstly.isSome hok
      cases hsecondly with
      | found answer present course kept => exact ⟨answer, s₂, course, kept⟩
      | created _ _ _ _ missing _ _ _ =>
        rw [missing] at hpresent
        cases hpresent
      | refused _ _ _ missing _ _ _ =>
        rw [missing] at hpresent
        cases hpresent
    · intro hne hnone
      obtain ⟨hmissing, hpresent⟩ := hfirstly.hidden hne hnone hok
      cases hsecondly with
      | found _ present _ _ =>
        rw [hmissing] at present
        cases present
      | created _ _ _ _ _ _ absent _ =>
        rw [absent] at hpresent
        cases hpresent
      | refused answer sql cause _ course kept _ => exact ⟨answer, sql, cause, s₂, course, kept⟩

private theorem eq_of_isOk
    {course : Course Call (fun call => Except BackendError call.Answer) σ (Except Error Unit)}
    (h : course.result.isOk = true) : course = ⟨.ok (), course.final, course.exchanges⟩ := by
  cases course with
  | mk result final exchanges =>
    cases result with
    | ok _ => rfl
    | error e => cases h

/-- In the schema of its client the table is created once. -/
theorem ensure_is_idempotent_in_schema :
    let ensured := (ensure {} ⟨.sqlServer, some "app", {}⟩).runFrom
      (Tables.host .sqlServer ⟨["db"], "dbo"⟩)
    (ensured fun _ => none).exchanges.length = 2 ∧
      ∃ answer, ensured (ensured fun _ => none).final = ⟨.ok (), (ensured fun _ => none).final,
        [⟨probe {} ⟨.sqlServer, some "app", {}⟩, .ok answer⟩]⟩ := by
  intro ensured
  have hcreated : (ensured fun _ => none).exchanges.length = 2 ∧
      (ensured fun _ => none).result.isOk = true := by decide +kernel
  obtain ⟨asked, place, -, -, hsame, hagain⟩ := ensure_is_idempotent_without_catalog
    (Tables.hosts_host .sqlServer ⟨["db"], "dbo"⟩) nofun rfl (c := ⟨.sqlServer, some "app", {}⟩) {}
  obtain ⟨answer, s₂, hsecond, hkept⟩ :=
    (hagain _ _ _ (eq_of_isOk hcreated.2)).1 (hsame.mpr (by decide +kernel))
  refine ⟨hcreated.1, answer, ?_⟩
  rw [id_eq, id_eq] at hkept
  rw [← hkept] at hsecond ⊢
  exact hsecond

/-- With a catalog in its name it is created twice, and the second time this fails. -/
theorem ensure_fails_with_catalog :
    let t : VersionTable := { schema := some "db.app", table := "v" }
    let ensured := (t.ensure ⟨.postgres, none, {}⟩).runFrom
      (Tables.host .postgres ⟨["db"], "public"⟩)
    (ensured fun _ => none).result.isOk = true ∧
      (ensured (ensured fun _ => none).final).result.isOk = false := by
  decide +kernel

end VersionTable

end SchemaEvolution
