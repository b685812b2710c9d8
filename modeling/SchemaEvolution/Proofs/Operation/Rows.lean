import Mathlib.Data.List.Forall2
import Mathlib.Data.Multiset.Filter
import SchemaEvolution.Proofs.Filter.Evaluation
import SchemaEvolution.Proofs.Operation.Inversion

/-!
# Undoing inserts

What operations on the rows of one table make of these. An insert adds a row with the given values,
whatever stands in its other columns, and a delete takes away the rows that its filter is true of.
The inverse of an insert takes away the inserted row and all rows that agree with it, and the
inverses of a list of inserts, the last one first, all rows that agree with one of the inserted ones
(`reverse_insert_leaves`).
-/

namespace SchemaEvolution

/-- An insert of one row: distinct columns, at least one, and a value for each. No value is a double
that is not a number. -/
structure Insertion where
  columns : List String
  values : List Value
  nodup : columns.Nodup
  length_eq : values.length = columns.length
  nonempty : columns ≠ []
  notNaN : ∀ value ∈ values, value.isNaN = false

/-- A value is equal to itself unless it is null or not a number. -/
def Comparison.EqualToItself (holds : Comparison.Test) : Prop :=
  ∀ value : Value, value.isNull = false → value.isNaN = false → holds .equal value value = true

theorem Value.agrees_self {holds : Comparison.Test} (hequal : Comparison.EqualToItself holds)
    {value : Value} (h : value.isNaN = false) : value.agrees holds value = true := by
  cases hnull : value.isNull with
  | true => simp [agrees, hnull]
  | false => simp [agrees, hnull, hequal value hnull h]

namespace Insertion

/-- The operation that inserts the row into a table. -/
def operation (table : String) (i : Insertion) : Operation := .insert table i.columns i.values

/-- A row has the values that are inserted. -/
def Gives (i : Insertion) (row : Row) : Prop := i.columns.map row = i.values

/-- A row agrees with another in all columns that are inserted. -/
def Agree (holds : Comparison.Test) (i : Insertion) (row inserted : Row) : Prop :=
  ∀ column ∈ i.columns, (row column).agrees holds (inserted column) = true

instance (holds : Comparison.Test) (i : Insertion) (row inserted : Row) :
    Decidable (i.Agree holds row inserted) :=
  inferInstanceAs (Decidable (∀ column ∈ i.columns, _))

variable {holds : Comparison.Test} {i : Insertion} {row inserted : Row}

/-- Values under distinct names are found by their names. -/
private theorem map_lookup_zip {columns : List String} {values : List Value}
    (hnodup : columns.Nodup) (hlength : values.length = columns.length) :
    columns.map (fun column => ((columns.zip values).lookup column).getD .null) = values := by
  induction columns generalizing values with
  | nil => exact (List.eq_nil_of_length_eq_zero hlength).symm
  | cons column columns ih =>
    cases values with
    | nil => cases hlength
    | cons value values =>
      obtain ⟨hnot, hnodup⟩ := List.nodup_cons.mp hnodup
      have hrest : columns.map (fun other =>
          ((List.zip (column :: columns) (value :: values)).lookup other).getD .null) = values := by
        refine (List.map_congr_left fun other hother => ?_).trans (ih hnodup (Nat.succ.inj hlength))
        have hne : (other == column) = false := beq_false_of_ne fun h => hnot (h ▸ hother)
        rw [List.zip_cons_cons, List.lookup_cons, hne]
      rw [List.map_cons, hrest]
      simp

/-- There are rows with the values that are inserted. -/
theorem exists_gives (i : Insertion) : ∃ row, i.Gives row :=
  ⟨_, map_lookup_zip i.nodup i.length_eq⟩

theorem exists_forall₂_gives (is : List Insertion) :
    ∃ inserted, List.Forall₂ Gives is inserted := by
  induction is with
  | nil => exact ⟨[], .nil⟩
  | cons i is ih =>
    obtain ⟨row, hrow⟩ := i.exists_gives
    obtain ⟨inserted, hinserted⟩ := ih
    exact ⟨row :: inserted, .cons hrow hinserted⟩

/-- An inserted row agrees with itself. -/
theorem Gives.agree_self (hequal : Comparison.EqualToItself holds) (h : i.Gives row) :
    i.Agree holds row row := by
  intro column hcolumn
  have hvalue : row column ∈ i.values := by
    rw [← h]
    exact List.mem_map_of_mem hcolumn
  exact Value.agrees_self hequal (i.notNaN _ hvalue)

/-- The inverse of an insert deletes what meets the filter for its row. -/
theorem exists_reverse (table : String) (i : Insertion) :
    ∃ filter, Operation.rowFilter i.columns i.values = some filter ∧
      (i.operation table).reverse = some (.delete table (some filter)) := by
  obtain ⟨columns, values, -, hlength, hne, -⟩ := i
  cases columns with
  | nil => exact absurd rfl hne
  | cons column columns =>
    cases values with
    | nil => cases hlength
    | cons value values => exact ⟨_, rfl, rfl⟩

/-- A row meets the filter for an inserted row if and only if it agrees with it. -/
theorem Gives.evaluate_iff (h : i.Gives inserted) {filter : Filter}
    (hfilter : Operation.rowFilter i.columns i.values = some filter) :
    filter.evaluate holds row = some true ↔ i.Agree holds row inserted := by
  have hpairs : i.columns.zip i.values = i.columns.map fun column => (column, inserted column) := by
    rw [← h]
    simpa using List.zip_map' (f := id) (g := inserted) (l := i.columns)
  rw [Filter.evaluate_rowFilter_iff hfilter, hpairs, List.forall_mem_map]
  rfl

end Insertion

namespace Operation

/-- What an operation on the rows of a table makes of them. -/
inductive Turns (holds : Comparison.Test) (table : String) :
    Operation → Multiset Row → Multiset Row → Prop where
  | insert {columns : List String} {values : List Value} {row : Row} (rows : Multiset Row)
      (hrow : columns.map row = values) :
      Turns holds table (.insert table columns values) rows (row ::ₘ rows)
  | delete (filter : Filter) (rows : Multiset Row) :
      Turns holds table (.delete table (some filter)) rows
        (rows.filter fun row => ¬filter.evaluate holds row = some true)
  | deleteAll (rows : Multiset Row) : Turns holds table (.delete table none) rows 0

/-- What operations make of the rows of a table, one after the other. -/
inductive TurnsAll (holds : Comparison.Test) (table : String) :
    List Operation → Multiset Row → Multiset Row → Prop where
  | nil (rows : Multiset Row) : TurnsAll holds table [] rows rows
  | cons {op : Operation} {rest : List Operation} {before between after : Multiset Row}
      (hop : Turns holds table op before between)
      (hrest : TurnsAll holds table rest between after) :
      TurnsAll holds table (op :: rest) before after

section Runs

variable {holds : Comparison.Test} {table : String} {before between after : Multiset Row}

theorem turns_insert_iff {i : Insertion} :
    Turns holds table (i.operation table) before after ↔
      ∃ inserted, i.Gives inserted ∧ after = inserted ::ₘ before := by
  constructor
  · rintro ⟨_, hrow⟩
    exact ⟨_, hrow, rfl⟩
  · rintro ⟨inserted, hgives, rfl⟩
    exact .insert before hgives

theorem turns_delete_iff {filter : Filter} :
    Turns holds table (.delete table (some filter)) before after ↔
      after = before.filter fun row => ¬filter.evaluate holds row = some true := by
  constructor
  · rintro ⟨⟩
    rfl
  · rintro rfl
    exact .delete filter before

theorem turnsAll_nil_iff : TurnsAll holds table [] before after ↔ before = after := by
  constructor
  · rintro ⟨⟩
    rfl
  · rintro rfl
    exact .nil before

theorem turnsAll_cons_iff {op : Operation} {rest : List Operation} :
    TurnsAll holds table (op :: rest) before after ↔
      ∃ between, Turns holds table op before between ∧ TurnsAll holds table rest between after := by
  constructor
  · rintro (_ | ⟨hop, hrest⟩)
    exact ⟨_, hop, hrest⟩
  · rintro ⟨between, hop, hrest⟩
    exact .cons hop hrest

theorem turnsAll_append_iff {first second : List Operation} :
    TurnsAll holds table (first ++ second) before after ↔
      ∃ between, TurnsAll holds table first before between ∧
        TurnsAll holds table second between after := by
  induction first generalizing before with
  | nil => simp [turnsAll_nil_iff]
  | cons op first ih =>
    rw [List.cons_append, turnsAll_cons_iff]
    simp only [ih, turnsAll_cons_iff]
    constructor
    · rintro ⟨u, hop, v, hfirst, hsecond⟩
      exact ⟨v, ⟨u, hop, hfirst⟩, hsecond⟩
    · rintro ⟨v, ⟨u, hop, hfirst⟩, hsecond⟩
      exact ⟨u, hop, v, hfirst, hsecond⟩

/-- The inverse of an insert leaves the rows that do not agree with the inserted one. -/
theorem turns_inverse_iff {i : Insertion} {inserted : Row} (hgives : i.Gives inserted)
    {filter : Filter} (hfilter : rowFilter i.columns i.values = some filter) :
    Turns holds table (.delete table (some filter)) before after ↔
      after = before.filter fun row => ¬i.Agree holds row inserted := by
  have hsame : (before.filter fun row => ¬filter.evaluate holds row = some true) =
      before.filter fun row => ¬i.Agree holds row inserted :=
    Multiset.filter_congr fun row _ => not_congr (hgives.evaluate_iff hfilter)
  rw [turns_delete_iff, hsame]

/-- Inserts add a row each. -/
theorem turnsAll_insertions_iff {is : List Insertion} :
    TurnsAll holds table (is.map (·.operation table)) before after ↔
      ∃ inserted : List Row, List.Forall₂ Insertion.Gives is inserted ∧
        after = (inserted : Multiset Row) + before := by
  induction is generalizing before with
  | nil => simp [turnsAll_nil_iff, eq_comm]
  | cons i is ih =>
    rw [List.map_cons, turnsAll_cons_iff]
    simp only [ih, turns_insert_iff, List.forall₂_cons_left_iff]
    constructor
    · rintro ⟨_, ⟨row, hrow, rfl⟩, inserted, hinserted, rfl⟩
      refine ⟨row :: inserted, ⟨row, inserted, hrow, hinserted, rfl⟩, ?_⟩
      rw [← Multiset.cons_coe, Multiset.add_cons, Multiset.cons_add]
    · rintro ⟨_, ⟨row, inserted, hrow, hinserted, rfl⟩, rfl⟩
      refine ⟨row ::ₘ before, ⟨row, hrow, rfl⟩, inserted, hinserted, ?_⟩
      rw [← Multiset.cons_coe, Multiset.add_cons, Multiset.cons_add]

variable (table) in
/-- The inverses of inserts, the last one first, leave the rows that agree with none of the inserted
ones. -/
theorem turnsAll_undo_iff (hequal : Comparison.EqualToItself holds) {is : List Insertion}
    {inserted : List Row} (hinserted : List.Forall₂ Insertion.Gives is inserted) :
    ∃ undo, reverseAll (is.map (·.operation table)) = some undo ∧ ∀ before after,
      TurnsAll holds table undo ((inserted : Multiset Row) + before) after ↔
        after = before.filter fun row => ∀ p ∈ is.zip inserted, ¬p.1.Agree holds row p.2 := by
  induction hinserted with
  | nil => exact ⟨[], rfl, fun before after => by simp [turnsAll_nil_iff, eq_comm]⟩
  | @cons i row is inserted hrow hinserted ih =>
    obtain ⟨undo, hundo, hleaves⟩ := ih
    obtain ⟨filter, hfilter, hreverse⟩ := i.exists_reverse table
    refine ⟨_, reverseAll_cons_eq_some_iff.mpr ⟨_, _, hreverse, hundo, rfl⟩,
      fun before after => ?_⟩
    have hrows : ((row :: inserted : List Row) : Multiset Row) + before =
        (inserted : Multiset Row) + (row ::ₘ before) := by
      rw [← Multiset.cons_coe, Multiset.add_cons, Multiset.cons_add]
    have hleft : (((row ::ₘ before).filter fun r =>
          ∀ p ∈ is.zip inserted, ¬p.1.Agree holds r p.2).filter fun r => ¬i.Agree holds r row) =
        before.filter fun r => ∀ p ∈ (i :: is).zip (row :: inserted), ¬p.1.Agree holds r p.2 := by
      have hgone : i.Agree holds row row := hrow.agree_self hequal
      rw [Multiset.filter_filter, Multiset.filter_cons_of_neg _ fun h => h.1 hgone]
      refine Multiset.filter_congr fun r _ => ?_
      rw [List.zip_cons_cons, List.forall_mem_cons]
    rw [hrows, turnsAll_append_iff]
    simp only [hleaves, turnsAll_cons_iff, turnsAll_nil_iff, turns_inverse_iff hrow hfilter]
    constructor
    · rintro ⟨_, rfl, _, rfl, rfl⟩
      exact hleft
    · rintro rfl
      exact ⟨_, rfl, _, rfl, hleft⟩

end Runs

variable {holds : Comparison.Test}

/-- An insert adds a row, and its inverse then leaves the rows of before that disagree with the
added one in some inserted column; so it restores the rows if all of them do. Inserts into one table
add a row each, and their inverses, the last one first, leave the rows of before that disagree in
this sense with every added row. -/
theorem reverse_insert_leaves (hequal : Comparison.EqualToItself holds) (table : String) :
    (∀ i : Insertion, ∃ inverse, (i.operation table).reverse = some inverse ∧ ∀ before,
      (∃ between, Turns holds table (i.operation table) before between) ∧
      ∀ between, Turns holds table (i.operation table) before between →
        ∃ inserted, i.Gives inserted ∧ between = inserted ::ₘ before ∧
          (∀ after, Turns holds table inverse between after ↔
            after = before.filter fun row => ¬i.Agree holds row inserted) ∧
          ((∀ row ∈ before, ¬i.Agree holds row inserted) →
            Turns holds table inverse between before)) ∧
    ∀ is : List Insertion, ∃ undo, reverseAll (is.map (·.operation table)) = some undo ∧ ∀ before,
      (∃ between, TurnsAll holds table (is.map (·.operation table)) before between) ∧
      ∀ between, TurnsAll holds table (is.map (·.operation table)) before between →
        ∃ inserted : List Row, List.Forall₂ Insertion.Gives is inserted ∧
          between = (inserted : Multiset Row) + before ∧
          ∀ after, TurnsAll holds table undo between after ↔
            after = before.filter fun row => ∀ p ∈ is.zip inserted, ¬p.1.Agree holds row p.2 := by
  constructor
  · intro i
    obtain ⟨filter, hfilter, hreverse⟩ := i.exists_reverse table
    refine ⟨_, hreverse, fun before => ⟨?_, fun between hturns => ?_⟩⟩
    · obtain ⟨row, hrow⟩ := i.exists_gives
      exact ⟨_, turns_insert_iff.mpr ⟨row, hrow, rfl⟩⟩
    · obtain ⟨inserted, hgives, rfl⟩ := turns_insert_iff.mp hturns
      have hleft (after : Multiset Row) :
          Turns holds table (.delete table (some filter)) (inserted ::ₘ before) after ↔
            after = before.filter fun row => ¬i.Agree holds row inserted := by
        rw [turns_inverse_iff hgives hfilter, Multiset.filter_cons_of_neg]
        exact not_not.mpr (hgives.agree_self hequal)
      refine ⟨inserted, hgives, rfl, hleft, fun hdisagree => ?_⟩
      exact (hleft before).mpr (Multiset.filter_eq_self.mpr hdisagree).symm
  · intro is
    obtain ⟨rows, hrows⟩ := Insertion.exists_forall₂_gives is
    obtain ⟨undo, hundo, -⟩ := turnsAll_undo_iff table hequal hrows
    refine ⟨undo, hundo, fun before => ⟨?_, fun between hturns => ?_⟩⟩
    · exact ⟨_, turnsAll_insertions_iff.mpr ⟨rows, hrows, rfl⟩⟩
    · obtain ⟨inserted, hinserted, rfl⟩ := turnsAll_insertions_iff.mp hturns
      obtain ⟨_, hsame, hleaves⟩ := turnsAll_undo_iff table hequal hinserted
      cases hundo.symm.trans hsame
      exact ⟨inserted, hinserted, rfl, hleaves before⟩

/-- A row with some cells, and nulls elsewhere. -/
private def rowOf (cells : List (String × Value)) : Row := fun column =>
  (cells.lookup column).getD .null

private def bob : Row := rowOf [("name", .text "Bob")]

private def ann (year : Value) : Row := rowOf [("name", .text "Ann"), ("year", year)]

/-- An insert of a name without a year. -/
private def timeless : Insertion :=
  ⟨["name", "year"], [.text "Ann", .null], by decide, rfl, List.cons_ne_nil _ _, by decide⟩

/-- An insert of a name alone. -/
private def nameless : Insertion :=
  ⟨["name"], [.text "Ann"], by decide, rfl, List.cons_ne_nil _ _, by decide⟩

private theorem equalToItself_same : Comparison.EqualToItself fun _ v w => v.same w := by
  intro value _ hnumber
  cases value with
  | float x =>
    have hx : x.isNaN = false := hnumber
    simp [Value.same, Binary64.same, hx]
  | _ => simp [Value.same]

theorem reverse_insert_leaves_guests :
    (∃ inverse, (timeless.operation "guests").reverse = some inverse ∧
      Turns (fun _ v w => v.same w) "guests" inverse
        (ann .null ::ₘ {bob, ann .null, ann (.int 1990)}) {bob, ann (.int 1990)}) ∧
    ∃ undo, reverseAll ([timeless, nameless].map (·.operation "guests")) = some undo ∧
      TurnsAll (fun _ v w => v.same w) "guests" undo
        (ann .null ::ₘ ann (.int 2001) ::ₘ {bob, ann .null, ann (.int 1990)}) {bob} := by
  obtain ⟨hone, hall⟩ := reverse_insert_leaves equalToItself_same "guests"
  constructor
  · obtain ⟨inverse, hinverse, hundone⟩ := hone timeless
    obtain ⟨-, hturns⟩ := hundone {bob, ann .null, ann (.int 1990)}
    obtain ⟨inserted, -, hbetween, hleaves, -⟩ :=
      hturns (ann .null ::ₘ {bob, ann .null, ann (.int 1990)}) (.insert _ rfl)
    rw [← (Multiset.cons_inj_left _).mp hbetween] at hleaves
    exact ⟨inverse, hinverse, (hleaves _).mpr rfl⟩
  · obtain ⟨undo, hundo, hundone⟩ := hall [timeless, nameless]
    obtain ⟨-, hturns⟩ := hundone {bob, ann .null, ann (.int 1990)}
    obtain ⟨inserted, hinserted, -, hleaves⟩ := hturns
      (ann (.int 2001) ::ₘ ann .null ::ₘ {bob, ann .null, ann (.int 1990)})
      (.cons (.insert _ rfl) (.cons (.insert _ rfl) (.nil _)))
    cases hinserted with
    | @cons _ first _ _ hfirst hrest =>
      cases hrest with
      | @cons _ second _ _ hsecond hrest =>
        cases hrest
        have hname : first "name" = .text "Ann" ∧ first "year" = .null := by
          simpa [Insertion.Gives, timeless] using hfirst
        have hother : second "name" = .text "Ann" := by
          simpa [Insertion.Gives, nameless] using hsecond
        have hapart (row : Row) :
            (∀ p ∈ [timeless, nameless].zip [first, second],
              ¬p.1.Agree (fun _ v w => v.same w) row p.2) ↔
                (row "name").agrees (fun _ v w => v.same w) (.text "Ann") = false := by
          simp only [Insertion.Agree, timeless, nameless, List.zip_cons_cons, List.zip_nil_right,
            List.forall_mem_cons, List.not_mem_nil, false_implies, implies_true, and_true, hname,
            hother, not_and_or, Bool.not_eq_true]
          exact ⟨And.right, fun h => ⟨.inl h, h⟩⟩
        rw [Multiset.cons_swap]
        refine ⟨undo, hundo, (hleaves _).mpr ?_⟩
        rw [Multiset.filter_congr fun row _ => hapart row]
        rfl

end Operation

end SchemaEvolution
