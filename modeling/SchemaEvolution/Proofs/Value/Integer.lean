import Mathlib.Data.List.TakeWhile
import SchemaEvolution.Proofs.Lists
import SchemaEvolution.Proofs.Number.Integer
import SchemaEvolution.Proofs.Number.Rational
import SchemaEvolution.Value

/-!
# Values as integers

What integer a value denotes, and that a value is read as the integer that it denotes if this one
fits 64 bits. What does not fit is not read, except from a double: that is read as the nearest
integer of 64 bits (`integer_is_denoted_or_nearest`).
-/

namespace SchemaEvolution

namespace Text

/-! ### White space around a text -/

theorem isBlank_eq_false {c : Char} (hlow : 0x20 < c.toNat) (hhigh : c.toNat < 0x85) :
    isBlank c = false := by
  simp [isBlank, inRanges, blankRanges]
  omega

/-- White space is taken off both ends of a text, and nothing else. -/
theorem exists_trim (text : List Char) : ∃ before after, text = before ++ trim text ++ after ∧
    (∀ c ∈ before, isBlank c = true) ∧ ∀ c ∈ after, isBlank c = true := by
  refine ⟨text.takeWhile isBlank, ((text.dropWhile isBlank).reverse.takeWhile isBlank).reverse,
    ?_, fun c hc => List.mem_takeWhile_imp hc,
    fun c hc => List.mem_takeWhile_imp (List.mem_reverse.mp hc)⟩
  rw [trim, List.append_assoc, ← List.reverse_append, List.takeWhile_append_dropWhile,
    List.reverse_reverse, List.takeWhile_append_dropWhile]

/-- A text without white space is what is left of it between white space. -/
theorem trim_append {before core after : List Char} (hne : core ≠ [])
    (hbefore : ∀ c ∈ before, isBlank c = true) (hafter : ∀ c ∈ after, isBlank c = true)
    (hcore : ∀ c ∈ core, isBlank c = false) : trim (before ++ core ++ after) = core := by
  have hhead {run rest : List Char} (hrun : run ≠ []) (h : ∀ c ∈ run, isBlank c = false) :
      ∀ c ∈ (run ++ rest).head?, isBlank c = false := by
    obtain ⟨d, tail, rfl⟩ := List.exists_cons_of_ne_nil hrun
    exact fun c hc => h c (List.mem_of_mem_head? hc)
  rw [trim, List.append_assoc, dropWhile_run hbefore (hhead hne hcore), List.reverse_append,
    dropWhile_run, List.reverse_reverse]
  · simpa using hafter
  · rw [← List.append_nil core.reverse]
    exact hhead (List.reverse_ne_nil_iff.mpr hne) fun c hc => hcore c (List.mem_reverse.mp hc)

end Text

namespace Number

/-- A text that writes an integer has characters, and none of them is white space. -/
theorem Writes.isBlank_eq_false {text : List Char} {k : Int} (h : Writes text k) :
    text ≠ [] ∧ ∀ c ∈ text, Text.isBlank c = false := by
  have hdigit {digits : List Char} (hall : ∀ c ∈ digits, c.isDigit = true) :
      ∀ c ∈ digits, Text.isBlank c = false := by
    intro c hc
    obtain ⟨hlow, hhigh⟩ := Char.isDigit_iff_toNat.mp (hall c hc)
    exact Text.isBlank_eq_false (Nat.lt_of_lt_of_le (by decide) hlow)
      (Nat.lt_of_le_of_lt hhigh (by decide))
  cases h with
  | unsigned hne hall => exact ⟨hne, hdigit hall⟩
  | plus hne hall =>
    exact ⟨List.cons_ne_nil _ _, List.forall_mem_cons.mpr ⟨by decide, hdigit hall⟩⟩
  | minus hne hall =>
    exact ⟨List.cons_ne_nil _ _, List.forall_mem_cons.mpr ⟨by decide, hdigit hall⟩⟩

end Number

namespace Value

/-- The integer that a value denotes: that of a truth value or of an integer, the rational number
that a double stores if it is whole, and the number that is written in a text, white space at the
ends apart. -/
inductive Denotes : Value → Int → Prop
  | bool (b : Bool) : Denotes (.bool b) (if b then 1 else 0)
  | int (n : Int64) : Denotes (.int n) n.toInt
  | float {x : Binary64} {k : Int} (finite : x.exponentField < 0x7FF) (stored : x.toRat = k) :
    Denotes (.float x) k
  | text {s : String} {before numeral after : List Char} {k : Int}
    (split : s.toList = before ++ numeral ++ after)
    (blank_before : ∀ c ∈ before, Text.isBlank c = true)
    (blank_after : ∀ c ∈ after, Text.isBlank c = true) (writes : Number.Writes numeral k) :
    Denotes (.text s) k

/-- The value is a double that stores an integer, and the nearest one of 64 bits is another one. -/
inductive Exceeds : Value → Int64 → Prop
  | below {x : Binary64} {k : Int} (denotes : Denotes (.float x) k)
    (lt : k < -9223372036854775808) : Exceeds (.float x) Int64.minValue
  | above {x : Binary64} {k : Int} (denotes : Denotes (.float x) k)
    (lt : 9223372036854775807 < k) : Exceeds (.float x) Int64.maxValue

variable {v : Value} {n : Int64} {k : Int}

/-! ### Each kind of value -/

theorem denotes_int_iff {m : Int64} : (Value.int m).Denotes k ↔ m.toInt = k := by
  constructor
  · intro h
    cases h with
    | int => rfl
  · rintro rfl
    exact .int m

theorem denotes_bool_iff {b : Bool} : (Value.bool b).Denotes k ↔ (if b then 1 else 0) = k := by
  constructor
  · intro h
    cases h with
    | bool => rfl
  · rintro rfl
    exact .bool b

theorem denotes_text_iff {s : String} :
    (Value.text s).Denotes k ↔ Number.Writes (Text.trim s.toList) k := by
  constructor
  · intro h
    cases h with
    | text hsplit hbefore hafter hwrites =>
      obtain ⟨hne, hblank⟩ := hwrites.isBlank_eq_false
      rwa [hsplit, Text.trim_append hne hbefore hafter hblank]
  · intro h
    obtain ⟨before, after, hsplit, hbefore, hafter⟩ := Text.exists_trim s.toList
    exact .text hsplit hbefore hafter h

theorem denotes_float_iff {x : Binary64} : (Value.float x).Denotes k ↔ x.toInt? = some k := by
  rw [Binary64.toInt?_eq_some_iff]
  constructor
  · intro h
    cases h with
    | float hfinite hstored => exact ⟨hfinite, hstored⟩
  · rintro ⟨hfinite, hstored⟩
    exact .float hfinite hstored

theorem clamp_of_lt (h : k < -9223372036854775808) : clamp k = Int64.minValue := if_pos h

theorem clamp_of_gt (h : 9223372036854775807 < k) : clamp k = Int64.maxValue := by
  rw [clamp, if_neg (by omega), if_pos h]

theorem toInt_clamp (hlow : -9223372036854775808 ≤ k) (hhigh : k ≤ 9223372036854775807) :
    (clamp k).toInt = k := by
  rw [clamp, if_neg (by omega), if_neg (by omega)]
  exact Int64.toInt_ofInt_of_le hlow (Int.lt_add_one_of_le hhigh)

theorem clamp_toInt (n : Int64) : clamp n.toInt = n :=
  Int64.toInt_inj.mp (toInt_clamp n.le_toInt (Int.le_of_lt_add_one n.toInt_lt))

/-- A double is read as the integer that it stores, or as the nearest one of 64 bits. -/
theorem toInt?_float_eq_some_iff {x : Binary64} : (Value.float x).toInt? = some n ↔
    (Value.float x).Denotes n.toInt ∨ (Value.float x).Exceeds n := by
  rw [toInt?, Option.map_eq_some_iff]
  constructor
  · rintro ⟨k, hk, rfl⟩
    have hdenotes := denotes_float_iff.mpr hk
    by_cases hlow : k < -9223372036854775808
    · rw [clamp_of_lt hlow]
      exact .inr (.below hdenotes hlow)
    · by_cases hhigh : 9223372036854775807 < k
      · rw [clamp_of_gt hhigh]
        exact .inr (.above hdenotes hhigh)
      · rw [toInt_clamp (Int.not_lt.mp hlow) (Int.not_lt.mp hhigh)]
        exact .inl hdenotes
  · rintro (hdenotes | hexceeds)
    · exact ⟨n.toInt, denotes_float_iff.mp hdenotes, clamp_toInt n⟩
    · cases hexceeds with
      | below hdenotes hlt => exact ⟨_, denotes_float_iff.mp hdenotes, clamp_of_lt hlt⟩
      | above hdenotes hlt => exact ⟨_, denotes_float_iff.mp hdenotes, clamp_of_gt hlt⟩

/-- What is no double is read as the integer that it denotes, if this fits. -/
theorem toInt?_eq_some_iff_denotes (h : ∀ x, v ≠ .float x) :
    v.toInt? = some n ↔ v.Denotes n.toInt := by
  cases v with
  | null | blob => exact ⟨nofun, nofun⟩
  | bool b =>
    rw [toInt?, Option.some.injEq, denotes_bool_iff, ← Int64.toInt_inj]
    cases b <;> rfl
  | int m => rw [toInt?, Option.some.injEq, denotes_int_iff, Int64.toInt_inj]
  | float x => exact absurd rfl (h x)
  | text s => rw [toInt?, Number.readInt64_eq_some_iff, denotes_text_iff]

/-- A value is read as an integer that it denotes, or as the nearest one of 64 bits. -/
theorem toInt?_eq_some_iff : v.toInt? = some n ↔ v.Denotes n.toInt ∨ v.Exceeds n := by
  by_cases hfloat : ∃ x, v = .float x
  · obtain ⟨x, rfl⟩ := hfloat
    exact toInt?_float_eq_some_iff
  · have hno : ∀ x, v ≠ .float x := not_exists.mp hfloat
    rw [toInt?_eq_some_iff_denotes hno]
    constructor
    · exact .inl
    · rintro (hdenotes | hexceeds)
      · exact hdenotes
      · cases hexceeds <;> exact absurd rfl (hno _)

/-- A value is read as the integer that it denotes, if this is one of 64 bits, and a double that
stores another integer is read as the nearest one of 64 bits. Nothing else is read: no value that
denotes no integer, and no text whose integer does not fit. -/
theorem integer_is_denoted_or_nearest (v : Value) :
    (∀ n, v.toInt? = some n ↔ v.Denotes n.toInt ∨ v.Exceeds n) ∧
    (v.toInt? = none ↔ ∀ k, v.Denotes k →
      (k < -9223372036854775808 ∨ 9223372036854775807 < k) ∧ ∀ x, v ≠ .float x) := by
  refine ⟨fun n => toInt?_eq_some_iff, ?_⟩
  constructor
  · intro hnone k hdenotes
    constructor
    · by_contra hfits
      obtain ⟨n, -, rfl⟩ := Number.exists_toInt64? (k := k) (by omega) (by omega)
      cases hnone.symm.trans (toInt?_eq_some_iff.mpr (.inl hdenotes))
    · rintro x rfl
      rw [toInt?, denotes_float_iff.mp hdenotes] at hnone
      cases hnone
  · intro h
    rw [Option.eq_none_iff_forall_ne_some]
    intro n hsome
    rcases toInt?_eq_some_iff.mp hsome with hdenotes | hexceeds
    · have hlow := Int64.le_toInt n
      have hhigh := Int64.toInt_lt n
      have := (h _ hdenotes).1
      omega
    · cases hexceeds with
      | below hdenotes => exact (h _ hdenotes).2 _ rfl
      | above hdenotes => exact (h _ hdenotes).2 _ rfl

/-- The least integer of 64 bits in a text with leading zeros and wide spaces around it, the integer
behind it, and a double with a fraction. -/
theorem integer_is_denoted_or_nearest_at_limit :
    (Value.text "\u3000-09223372036854775808\u2003").Denotes Int64.minValue.toInt ∧
    (Value.text "-9223372036854775809").toInt? = none ∧
    (∀ k, (Value.text "-9223372036854775809").Denotes k →
      k < -9223372036854775808 ∨ 9223372036854775807 < k) ∧
    ∀ k, ¬ (Value.float ⟨0x400C000000000000⟩).Denotes k := by
  have hread : (Value.text "\u3000-09223372036854775808\u2003").toInt? = some Int64.minValue := by
    decide +kernel
  have hrefused : (Value.text "-9223372036854775809").toInt? = none := by decide +kernel
  have hfraction : (Value.float ⟨0x400C000000000000⟩).toInt? = none := by decide +kernel
  refine ⟨?_, hrefused, ?_, ?_⟩
  · rcases ((integer_is_denoted_or_nearest _).1 _).mp hread with hdenotes | hexceeds
    · exact hdenotes
    · cases hexceeds
  · exact fun k hk => ((integer_is_denoted_or_nearest _).2.mp hrefused k hk).1
  · exact fun k hk => ((integer_is_denoted_or_nearest _).2.mp hfraction k hk).2 _ rfl

/-- Two to the 63 is the integer behind the greatest one of 64 bits. A double stores it exactly, and
is read as the greatest one. -/
theorem integer_of_double_is_lowered :
    (Value.float ⟨0x43E0000000000000⟩).Denotes 9223372036854775808 ∧
    (Value.float ⟨0x43E0000000000000⟩).toInt? = some Int64.maxValue ∧
    ¬ (Value.float ⟨0x43E0000000000000⟩).Denotes Int64.maxValue.toInt := by
  have hstored : Binary64.toInt? ⟨0x43E0000000000000⟩ = some 9223372036854775808 := by
    decide +kernel
  refine ⟨denotes_float_iff.mpr hstored, by decide +kernel, ?_⟩
  rw [denotes_float_iff, hstored]
  decide

end Value

end SchemaEvolution
