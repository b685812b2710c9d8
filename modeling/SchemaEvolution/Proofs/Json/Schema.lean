import SchemaEvolution.Json.Schema
import SchemaEvolution.Proofs.Json.Record

/-!
# Schemas and filters in JSON are read back

Values, columns, tables, foreign keys and filters that hold no double are written as JSON from which
they are read back, however doubles are written.
-/

namespace SchemaEvolution

open Json

variable (float : Binary64 → Json)

namespace Value

/-- Whether a value is a double. -/
def isDouble : Value → Bool
  | .float _ => true
  | _ => false

theorem faithful {v : Value} (h : v.isDouble = false) : Faithful ofJson (v.toJson float) v := by
  cases v with
  | null => exact ⟨.str _, fun _ => rfl⟩
  | bool b => exact faithful_tagged_map (faithful_bool b) fun _ => rfl
  | int n => exact faithful_tagged_map (faithful_int64 n) fun _ => rfl
  | float x => cases h
  | text s => exact faithful_tagged_map (faithful_text s) fun _ => rfl
  | blob bytes =>
    exact faithful_tagged_map (Json.faithful_list fun b _ => faithful_byte b) fun _ => rfl

theorem faithful_list {values : List Value} (h : values.any isDouble = false) :
    Faithful (list? ofJson) (.list (toJson float) values) values :=
  Json.faithful_list fun v hv => faithful float (eq_false_of_ne_true (List.any_eq_false.mp h v hv))

end Value

namespace DefaultValue

/-- Whether a default is a double. -/
def isDouble : DefaultValue → Bool
  | .float _ => true
  | _ => false

theorem faithful {d : DefaultValue} (h : d.isDouble = false) :
    Faithful ofJson (d.toJson float) d := by
  cases d with
  | null => exact ⟨.str _, fun _ => rfl⟩
  | bool b => exact faithful_tagged_map (faithful_bool b) fun _ => rfl
  | integer n => exact faithful_tagged_map (faithful_int64 n) fun _ => rfl
  | float x => cases h
  | string s => exact faithful_tagged_map (faithful_text s) fun _ => rfl
  | expression s => exact faithful_tagged_map (faithful_text s) fun _ => rfl

end DefaultValue

theorem ColumnType.faithful (t : ColumnType) : Faithful ColumnType.ofJson (.text t.name) t :=
  faithful_name (by cases t <;> decide)

theorem DeleteAction.faithful (a : DeleteAction) : Faithful DeleteAction.ofJson (.text a.name) a :=
  faithful_name (by cases a <;> decide)

theorem Comparison.faithful (c : Comparison) : Faithful Comparison.ofJson (.text c.name) c :=
  faithful_name (by cases c <;> decide)

namespace Column

/-- Whether the default of a column is a double. -/
def hasDouble (c : Column) : Bool := c.default.any DefaultValue.isDouble

theorem faithful {c : Column} (h : c.hasDouble = false) : Faithful ofJson (c.toJson float) c := by
  have htype := ColumnType.faithful c.type
  have hdefault := faithful_option (x := c.default)
    (fun d hd => DefaultValue.faithful float (eq_false_of_mem h hd)) fun d => by cases d <;> nofun
  have hsize := faithful_option (x := c.size) (fun n _ => faithful_uint32 n) nofun
  have hprecision := faithful_option (x := c.precision) (fun n _ => faithful_byte n) nofun
  have hscale := faithful_option (x := c.scale) (fun n _ => faithful_byte n) nofun
  have hcomment := faithful_maybe c.comment
  refine faithful_record (fun _ _ => rfl) rfl (by decide) ?_ fun depth hdepth => ?_
  · simp [htype.isWritten, hdefault.isWritten, hsize.isWritten, hprecision.isWritten,
      hscale.isWritten, hcomment.isWritten]
  · simp only [List.forall_mem_cons] at hdepth
    simp [hdepth, htype.reads, hdefault.reads, hsize.value, hprecision.value, hscale.value,
      hcomment.value]

end Column

namespace Table

/-- Whether the default of some column is a double. -/
def hasDouble (t : Table) : Bool := t.columns.any Column.hasDouble

theorem faithful {t : Table} (h : t.hasDouble = false) : Faithful ofJson (t.toJson float) t := by
  have hcolumns := faithful_list fun c hc =>
    Column.faithful float (eq_false_of_ne_true (List.any_eq_false.mp h c hc))
  refine faithful_record (fun _ _ => rfl) rfl (by decide) ?_ fun depth hdepth => ?_
  · simp [hcolumns.isWritten]
  · simp only [List.forall_mem_cons] at hdepth
    simp [hdepth, hcolumns.reads]

end Table

theorem ForeignKey.faithful (k : ForeignKey) : Faithful ForeignKey.ofJson k.toJson k := by
  have haction := DeleteAction.faithful k.onDelete
  refine faithful_record (fun _ _ => rfl) rfl (by decide) ?_ fun depth hdepth => ?_
  · simp
  · simp only [List.forall_mem_cons] at hdepth
    simp [hdepth, haction.reads]

namespace Filter

/-- Whether a filter compares with a double. -/
def hasDouble : Filter → Bool
  | .compare _ _ value => value.isDouble
  | .between _ low high => low.isDouble || high.isDouble
  | .oneOf _ values _ => values.any Value.isDouble
  | .and left right => left.hasDouble || right.hasDouble
  | .or left right => left.hasDouble || right.hasDouble
  | .not inner => inner.hasDouble

theorem faithful_compare {column : String} {comparison : Comparison} {value : Value}
    (h : value.isDouble = false) :
    Faithful ofJson ((compare column comparison value).toJson float)
      (compare column comparison value) := by
  have hcomparison := Comparison.faithful comparison
  have hvalue := Value.faithful float h
  have hcontent : Faithful compareOfJson (record
      [("column", text column), ("op", text comparison.name), ("value", value.toJson float)])
      (compare column comparison value) := by
    refine faithful_record (fun _ _ => rfl) rfl (by decide) ?_ fun depth hdepth => ?_
    · simp [hvalue.isWritten]
    · simp only [List.forall_mem_cons] at hdepth
      simp [hdepth, hcomparison.reads, hvalue.reads]
  exact faithful_tagged hcontent fun _ hread => hread

theorem faithful_between {column : String} {low high : Value} (hlow : low.isDouble = false)
    (hhigh : high.isDouble = false) :
    Faithful ofJson ((between column low high).toJson float) (between column low high) := by
  have hlow := Value.faithful float hlow
  have hhigh := Value.faithful float hhigh
  have hcontent : Faithful betweenOfJson (record
      [("column", text column), ("low", low.toJson float), ("high", high.toJson float)])
      (between column low high) := by
    refine faithful_record (fun _ _ => rfl) rfl (by decide) ?_ fun depth hdepth => ?_
    · simp [hlow.isWritten, hhigh.isWritten]
    · simp only [List.forall_mem_cons] at hdepth
      simp [hdepth, hlow.reads, hhigh.reads]
  exact faithful_tagged hcontent fun _ hread => hread

theorem faithful_oneOf {column : String} {values : List Value} {negated : Bool}
    (h : values.any Value.isDouble = false) :
    Faithful ofJson ((oneOf column values negated).toJson float) (oneOf column values negated) := by
  have hvalues := Value.faithful_list float h
  have hcontent : Faithful oneOfOfJson (record
      [("column", text column), ("values", .list (Value.toJson float) values),
       ("negated", .bool negated)]) (oneOf column values negated) := by
    refine faithful_record (fun _ _ => rfl) rfl (by decide) ?_ fun depth hdepth => ?_
    · simp [hvalues.isWritten]
    · simp only [List.forall_mem_cons] at hdepth
      simp [hdepth, hvalues.reads]
  exact faithful_tagged hcontent fun _ hread => hread

/-- Two filters in a list are read back together. -/
theorem faithful_pair {left right : Filter} {f : Filter → Filter → Filter}
    (hleft : Faithful ofJson (left.toJson float) left)
    (hright : Faithful ofJson (right.toJson float) right) :
    Faithful (ofJson.pair f) (.arr [left.toJson float, right.toJson float]) (f left right) := by
  constructor
  · refine .arr fun item hitem => ?_
    simp only [List.mem_cons, List.not_mem_nil, or_false] at hitem
    rcases hitem with rfl | rfl
    · exact hleft.isWritten
    · exact hright.isWritten
  · intro depth hdepth
    obtain ⟨inner, rfl, hinside⟩ := exists_of_nesting_arr hdepth
    simp only [List.forall_mem_cons] at hinside
    simp [ofJson.pair, hinside, hleft.reads, hright.reads]

theorem faithful {f : Filter} (h : f.hasDouble = false) : Faithful ofJson (f.toJson float) f := by
  induction f with
  | compare column comparison value => exact faithful_compare float h
  | between column low high =>
    obtain ⟨hlow, hhigh⟩ := Bool.or_eq_false_iff.mp h
    exact faithful_between float hlow hhigh
  | oneOf column values negated => exact faithful_oneOf float h
  | and left right ihleft ihright =>
    obtain ⟨hleft, hright⟩ := Bool.or_eq_false_iff.mp h
    exact faithful_tagged (faithful_pair float (ihleft hleft) (ihright hright)) fun _ hread => hread
  | or left right ihleft ihright =>
    obtain ⟨hleft, hright⟩ := Bool.or_eq_false_iff.mp h
    exact faithful_tagged (faithful_pair float (ihleft hleft) (ihright hright)) fun _ hread => hread
  | not inner ih => exact faithful_tagged_map (ih h) fun _ => rfl

end Filter

end SchemaEvolution
