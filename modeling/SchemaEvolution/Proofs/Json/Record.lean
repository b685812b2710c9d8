import SchemaEvolution.Json.Decode
import SchemaEvolution.Proofs.Json.Text
import SchemaEvolution.Proofs.Lists
import SchemaEvolution.Proofs.Number.Integer

/-!
# Records in JSON are read back

How deeply a value nests (`nesting`), and what it takes for a value to be written as JSON and read
back (`Faithful`): texts, numbers, lists, what may be absent, alternatives and records.
-/

namespace SchemaEvolution.Json

/-! ### Nesting -/

mutual

/-- How many levels of lists and objects a value nests. -/
def nesting : Json → Nat
  | .arr items => nestingOfItems items + 1
  | .obj fields => nestingOfFields fields + 1
  | _ => 0

/-- How deeply the items of a list nest. -/
def nestingOfItems : List Json → Nat
  | [] => 0
  | item :: items => max (nesting item) (nestingOfItems items)

/-- How deeply the values of an object nest. -/
def nestingOfFields : List (Option String × Json) → Nat
  | [] => 0
  | (_, value) :: fields => max (nesting value) (nestingOfFields fields)

end

theorem nestingOfItems_le {items : List Json} {depth : Nat} :
    nestingOfItems items ≤ depth ↔ ∀ item ∈ items, item.nesting ≤ depth := by
  induction items with
  | nil => simp [nestingOfItems]
  | cons item items ih => rw [nestingOfItems, Nat.max_le, ih, List.forall_mem_cons]

theorem nestingOfFields_le {fields : List (Option String × Json)} {depth : Nat} :
    nestingOfFields fields ≤ depth ↔ ∀ field ∈ fields, field.2.nesting ≤ depth := by
  induction fields with
  | nil => simp [nestingOfFields]
  | cons field fields ih => rw [nestingOfFields, Nat.max_le, ih, List.forall_mem_cons]

/-- What a list takes of the levels, and what is left to its items. -/
theorem exists_of_nesting_arr {items : List Json} {depth : Nat}
    (h : (arr items).nesting ≤ depth) :
    ∃ inner, depth = inner + 1 ∧ ∀ item ∈ items, item.nesting ≤ inner := by
  rw [nesting] at h
  obtain ⟨inner, rfl⟩ := Nat.exists_eq_add_of_le' (Nat.le_of_add_left_le h)
  exact ⟨inner, rfl, nestingOfItems_le.mp (Nat.le_of_add_le_add_right h)⟩

theorem exists_of_nesting_record {fields : List (String × Json)} {depth : Nat}
    (h : (record fields).nesting ≤ depth) :
    ∃ inner, depth = inner + 1 ∧ ∀ field ∈ fields, field.2.nesting ≤ inner := by
  rw [record, nesting] at h
  obtain ⟨inner, rfl⟩ := Nat.exists_eq_add_of_le' (Nat.le_of_add_left_le h)
  have hfields := nestingOfFields_le.mp (Nat.le_of_add_le_add_right h)
  exact ⟨inner, rfl, fun field hfield => hfields _ (List.mem_map_of_mem hfield)⟩

/-! ### What is read back -/

/-- JSON that is written for a value, and from which a reader gets it if it may go deep enough. -/
structure Faithful {α : Type} (read : Reader α) (j : Json) (a : α) : Prop where
  isWritten : j.IsWritten
  reads : ∀ {depth}, j.nesting ≤ depth → read depth j = some a

/-- What does not nest is read at any depth. -/
theorem Faithful.value {α : Type} {f : Json → Option α} {j : Json} {a : α}
    (h : Faithful (fun _ => f) j a) : f j = some a :=
  h.reads (Nat.le_refl _)

theorem isWritten_int (n : Int) : (int n).IsWritten := by
  refine .num ⟨?_, nofun, nofun⟩
  by_cases hzero : n.natAbs = 0
  · exact .inl (by simp [hzero])
  · exact .inr ⟨⟨Nat.toDigits_ne_nil, fun c hc => Number.isDigit_of_mem_toDigits hc⟩,
      Number.head?_toDigits_ne_zero hzero⟩

theorem int?_int {n : Int} (hlow : -0x8000000000000000 ≤ n) (hhigh : n < Number.wordCount) :
    (int n).int? = some n := by
  have hvalue := Number.digitsValue_toDigits n.natAbs
  have hbound : Number.wordCount = 0x10000000000000000 := rfl
  have hread : (int n).int? =
      if n < 0 then
        if n.natAbs = 0 || 0x8000000000000000 < n.natAbs then none else some (-(n.natAbs : Int))
      else if Number.wordCount ≤ n.natAbs then none else some (n.natAbs : Int) := by
    simp [int, int?, Literal.toInt?, Literal.isIntegral, hvalue]
  rw [hread]
  by_cases hnegative : n < 0
  · have habs : -(n.natAbs : Int) = n := by omega
    rw [if_pos hnegative, if_neg, habs]
    simp only [Bool.or_eq_true, decide_eq_true_eq]
    omega
  · have habs : (n.natAbs : Int) = n := by omega
    rw [if_neg hnegative, if_neg (by omega), habs]

@[simp] theorem isWritten_text (s : String) : (text s).IsWritten := .str _

@[simp] theorem isWritten_bool (b : Bool) : (Json.bool b).IsWritten := .bool b

@[simp] theorem string?_text (s : String) : string? (text s) = some s := rfl

@[simp] theorem bool?_bool (b : Bool) : bool? (.bool b) = some b := rfl

@[simp] theorem required_some {α : Type} (f : Json → Option α) (j : Json) :
    required f (some j) = f j := rfl

@[simp] theorem optional_some {α : Type} (f : Json → Option α) (j : Json) :
    Json.optional f (some j) = option? f j := rfl

theorem faithful_text (s : String) : Faithful (fun _ => string?) (.text s) s :=
  ⟨isWritten_text s, fun _ => rfl⟩

theorem faithful_bool (b : Bool) : Faithful (fun _ => bool?) (.bool b) b :=
  ⟨isWritten_bool b, fun _ => rfl⟩

theorem faithful_int64 (n : Int64) : Faithful (fun _ => int64?) (.int64 n) n := by
  refine ⟨isWritten_int _, fun _ => ?_⟩
  have hlow : -0x8000000000000000 ≤ n.toInt := n.le_toInt
  have hhigh : n.toInt < 0x8000000000000000 := n.toInt_lt
  have hread : (int64 n).int? = some n.toInt :=
    int?_int hlow (Int.lt_trans hhigh (by decide))
  rw [int64?, hread]
  exact Number.toInt64?_eq_some_iff.mpr rfl

theorem natBelow?_nat {bound n : Nat} (h : n < bound) (hbound : bound ≤ Number.wordCount) :
    natBelow? bound (nat n) = some n := by
  have hread : (nat n).int? = some (n : Int) :=
    int?_int (by omega) (Int.ofNat_lt.mpr (Nat.lt_of_lt_of_le h hbound))
  rw [natBelow?, hread]
  exact if_pos h

theorem faithful_byte (n : UInt8) : Faithful (fun _ => byte?) (.nat n.toNat) n := by
  refine ⟨isWritten_int _, fun _ => ?_⟩
  rw [byte?, natBelow?_nat n.toNat_lt (by decide), Option.map_some, UInt8.ofNat_toNat]

theorem faithful_uint32 (n : UInt32) : Faithful (fun _ => uint32?) (.nat n.toNat) n := by
  refine ⟨isWritten_int _, fun _ => ?_⟩
  rw [uint32?, natBelow?_nat n.toNat_lt (by decide), Option.map_some, UInt32.ofNat_toNat]

section

variable {α : Type} {read : Reader α} {f : α → Json}

theorem faithful_list {items : List α} (h : ∀ a ∈ items, Faithful read (f a) a) :
    Faithful (list? read) (.list f items) items := by
  constructor
  · refine .arr fun item hitem => ?_
    obtain ⟨a, ha, rfl⟩ := List.mem_map.mp hitem
    exact (h a ha).isWritten
  · intro depth hdepth
    obtain ⟨inner, rfl, hinside⟩ := exists_of_nesting_arr hdepth
    have hread := mapM_map_eq_some fun a ha => (h a ha).reads (hinside _ (List.mem_map_of_mem ha))
    exact hread.trans (by simp)

/-- What may be absent, if nothing is written as null. -/
theorem faithful_option {x : Option α} (h : ∀ a ∈ x, Faithful read (f a) a)
    (hnull : ∀ a, f a ≠ .null) : Faithful (fun depth => option? (read depth)) (.option f x) x := by
  cases x with
  | none => exact ⟨.null, fun _ => rfl⟩
  | some a =>
    refine ⟨(h a rfl).isWritten, fun hdepth => ?_⟩
    have hread := (h a rfl).reads hdepth
    simp only [option, option?]
    split
    · next heq => exact absurd heq (hnull a)
    · rw [hread]
      rfl

theorem faithful_maybe (s : Option String) :
    Faithful (fun _ => option? string?) (.option text s) s :=
  faithful_option (fun s _ => faithful_text s) fun _ => nofun

theorem eq_false_of_mem {x : Option α} {p : α → Bool} (h : x.any p = false) {a : α} (ha : a ∈ x) :
    p a = false := by
  simpa [Option.mem_def.mp ha] using h

/-- An alternative without content. -/
theorem faithful_name {alternatives : List (String × α)} {name : String} {a : α}
    (h : alternatives.lookup name = some a) : Faithful (unit? alternatives) (.text name) a :=
  ⟨.str _, fun _ => h⟩

end

/-! ### Records -/

theorem isWritten_record {fields : List (String × Json)}
    (h : ∀ field ∈ fields, field.2.IsWritten) : (record fields).IsWritten := by
  refine .obj fun field hfield => ?_
  obtain ⟨original, horiginal, rfl⟩ := List.mem_map.mp hfield
  exact h original horiginal

theorem valuesOf_eq_nil {fields : List (String × Json)} {name : String}
    (h : name ∉ fields.map Prod.fst) :
    valuesOf name (fields.map fun (key, value) => (some key, value)) = [] := by
  rw [valuesOf, List.filter_eq_nil_iff.mpr, List.map_nil]
  rintro _ hfield hkey
  obtain ⟨field, hmem, rfl⟩ := List.mem_map.mp hfield
  obtain rfl : field.1 = name := Option.some.inj (eq_of_beq hkey)
  exact h (List.mem_map_of_mem hmem)

/-- A record gives one value for each of its fields. -/
theorem valuesOf_record {fields : List (String × Json)} (hnodup : (fields.map Prod.fst).Nodup)
    {field : String × Json} (hfield : field ∈ fields) :
    valuesOf field.1 (fields.map fun (key, value) => (some key, value)) = [field.2] := by
  induction fields with
  | nil => cases hfield
  | cons first fields ih =>
    obtain ⟨hfirst, hrest⟩ := List.nodup_cons.mp hnodup
    rcases List.mem_cons.mp hfield with rfl | hmem
    · have hnone := valuesOf_eq_nil hfirst
      simp only [valuesOf] at hnone
      simp [valuesOf, hnone]
    · have hother : first.1 ≠ field.1 := fun heq => hfirst (heq ▸ List.mem_map_of_mem hmem)
      have hone := ih hrest hmem
      simp only [valuesOf] at hone
      simp [valuesOf, hother, hone]

/-- A record is read field by field. -/
theorem record?_record {names : List String} {fields : List (String × Json)}
    (hnames : fields.map Prod.fst = names) (hnodup : names.Nodup) (depth : Nat) :
    record? names (depth + 1) (record fields) =
      some (depth, fields.map fun field => some field.2) := by
  subst hnames
  have hkeys : (fields.map fun (key, value) => (some key, value)).any (·.1.isNone) = false := by
    simp
  rw [record, record?, fieldValues, hkeys, if_neg Bool.false_ne_true, mapM_map_eq_some]
  · rfl
  · intro field hfield
    rw [valuesOf_record hnodup hfield]

/-- A record is written if its fields are. What is made of the values that it gives for them is read
from it. -/
theorem faithful_record {α : Type} {read : Reader α} {names : List String}
    {make : Nat × List (Option Json) → Option α} {fields : List (String × Json)} {a : α}
    (hread : ∀ depth j, read depth j = (record? names depth j).bind make)
    (hnames : fields.map Prod.fst = names) (hnodup : names.Nodup)
    (hwritten : ∀ field ∈ fields, field.2.IsWritten)
    (hmake : ∀ depth, (∀ field ∈ fields, field.2.nesting ≤ depth) →
      make (depth, fields.map fun field => some field.2) = some a) :
    Faithful read (record fields) a := by
  refine ⟨isWritten_record hwritten, fun hdepth => ?_⟩
  obtain ⟨inner, rfl, hinside⟩ := exists_of_nesting_record hdepth
  rw [hread, record?_record hnames hnodup, Option.bind_some]
  exact hmake inner hinside

/-- An alternative is read as its content is. -/
theorem faithful_tagged {α β : Type} {read : Reader β} {content : Reader α} {name : String}
    {j : Json} {a : α} {b : β} (h : Faithful content j a)
    (hread : ∀ depth, content depth j = some a → read (depth + 1) (tagged name j) = some b) :
    Faithful read (tagged name j) b := by
  refine ⟨isWritten_record (by simpa using h.isWritten), fun hdepth => ?_⟩
  obtain ⟨inner, rfl, hinside⟩ := exists_of_nesting_record hdepth
  exact hread inner (h.reads (hinside (name, j) List.mem_cons_self))

theorem faithful_tagged_map {α β : Type} {read : Reader β} {content : Reader α} {name : String}
    {j : Json} {a : α} {f : α → β} (h : Faithful content j a)
    (hread : ∀ depth, read (depth + 1) (tagged name j) = (content depth j).map f) :
    Faithful read (tagged name j) (f a) :=
  faithful_tagged h fun depth hcontent => by rw [hread, hcontent, Option.map_some]

end SchemaEvolution.Json
