import SchemaEvolution.Proofs.Number.Numeral

/-!
# Integers of 64 bits

A 64-bit integer is read exactly from the texts that write it: an optional sign and one or more
digits, whose value is the integer itself (`readInt64_eq_some_iff`). What does not fit is not read.
-/

namespace SchemaEvolution.Number

/-- A text that writes an integer: one or more digits, of which any number may be leading zeros,
with or without a sign. -/
inductive Writes : List Char → Int → Prop
  | unsigned {digits : List Char} (ne_nil : digits ≠ []) (all : ∀ c ∈ digits, c.isDigit = true) :
    Writes digits (digitsValue digits)
  | plus {digits : List Char} (ne_nil : digits ≠ []) (all : ∀ c ∈ digits, c.isDigit = true) :
    Writes ('+' :: digits) (digitsValue digits)
  | minus {digits : List Char} (ne_nil : digits ≠ []) (all : ∀ c ∈ digits, c.isDigit = true) :
    Writes ('-' :: digits) (-digitsValue digits)

/-! ### The range of 64 bits -/

/-- An integer fits exactly if it is that of a 64-bit one. -/
theorem toInt64?_eq_some_iff {k : Int} {n : Int64} : toInt64? k = some n ↔ n.toInt = k := by
  have hlow := Int64.le_toInt n
  have hhigh := Int64.toInt_lt n
  rw [toInt64?]
  constructor
  · intro h
    split at h
    · next hfits =>
      rw [← Option.some.inj h]
      exact Int64.toInt_ofInt_of_le hfits.1 (Int.lt_add_one_of_le hfits.2)
    · cases h
  · rintro rfl
    rw [if_pos ⟨hlow, Int.le_of_lt_add_one hhigh⟩, Int64.ofInt_toInt]

/-- What is in range is that of a 64-bit one. -/
theorem exists_toInt64? {k : Int} (hlow : -9223372036854775808 ≤ k)
    (hhigh : k ≤ 9223372036854775807) : ∃ n : Int64, toInt64? k = some n ∧ n.toInt = k :=
  ⟨_, if_pos ⟨hlow, hhigh⟩, Int64.toInt_ofInt_of_le hlow (Int.lt_add_one_of_le hhigh)⟩

/-! ### Reading -/

theorem readDigits_eq_some_iff {text : List Char} {n : Nat} :
    readDigits text = some n ↔
      text ≠ [] ∧ (∀ c ∈ text, c.isDigit = true) ∧ digitsValue text = n := by
  have hread : (text.isEmpty || !text.all Char.isDigit) = false ↔
      text ≠ [] ∧ ∀ c ∈ text, c.isDigit = true := by
    simp
  rw [readDigits, ← and_assoc, ← hread]
  cases text.isEmpty || !text.all Char.isDigit <;> simp

/-- What does not start with a sign is read as digits. -/
theorem readSigned_of_isDigit {text : List Char} (h : ∀ c ∈ text.head?, c.isDigit = true) :
    readSigned text = (readDigits text).map Int.ofNat := by
  unfold readSigned
  split
  · cases h '-' rfl
  · cases h '+' rfl
  · rfl

theorem readSigned_minus (digits : List Char) :
    readSigned ('-' :: digits) = (readDigits digits).map fun n : Nat => -(n : Int) := by
  rw [readSigned]
  cases readDigits digits <;> rfl

/-- An integer is read from the texts that write it, and from no others. -/
theorem readSigned_eq_some_iff {text : List Char} {k : Int} :
    readSigned text = some k ↔ Writes text k := by
  constructor
  · intro h
    fun_cases readSigned text
    · next digits =>
      rw [readSigned_minus] at h
      obtain ⟨n, hn, rfl⟩ := Option.map_eq_some_iff.mp h
      obtain ⟨hne, hall, rfl⟩ := readDigits_eq_some_iff.mp hn
      exact .minus hne hall
    · next digits =>
      rw [readSigned] at h
      obtain ⟨n, hn, rfl⟩ := Option.map_eq_some_iff.mp h
      obtain ⟨hne, hall, rfl⟩ := readDigits_eq_some_iff.mp hn
      exact .plus hne hall
    · next hminus hplus =>
      rw [readSigned.eq_3 _ hminus hplus] at h
      obtain ⟨n, hn, rfl⟩ := Option.map_eq_some_iff.mp h
      obtain ⟨hne, hall, rfl⟩ := readDigits_eq_some_iff.mp hn
      exact .unsigned hne hall
  · intro h
    cases h with
    | unsigned hne hall =>
      rw [readSigned_of_isDigit fun c hc => hall c (List.mem_of_mem_head? hc),
        readDigits_eq_some_iff.mpr ⟨hne, hall, rfl⟩]
      rfl
    | plus hne hall =>
      rw [readSigned, readDigits_eq_some_iff.mpr ⟨hne, hall, rfl⟩]
      rfl
    | minus hne hall =>
      rw [readSigned_minus, readDigits_eq_some_iff.mpr ⟨hne, hall, rfl⟩]
      rfl

/-- A 64-bit integer is read from the texts that write it, and from no others. -/
theorem readInt64_eq_some_iff {text : List Char} {n : Int64} :
    readInt64 text = some n ↔ Writes text n.toInt := by
  rw [readInt64, Option.bind_eq_bind, Option.bind_eq_some_iff]
  constructor
  · rintro ⟨k, hk, hn⟩
    rw [toInt64?_eq_some_iff.mp hn]
    exact readSigned_eq_some_iff.mp hk
  · intro h
    exact ⟨n.toInt, readSigned_eq_some_iff.mpr h, toInt64?_eq_some_iff.mpr rfl⟩

/-- Digits without a sign are read as the number that they write. -/
theorem readInt64_digits {digits : List Char} {n : Int64}
    (hdigits : ∀ c ∈ digits, c.isDigit = true) :
    readInt64 digits = some n ↔ digits ≠ [] ∧ (digitsValue digits : Int) = n.toInt := by
  rw [readInt64_eq_some_iff]
  generalize n.toInt = k
  constructor
  · intro h
    cases h with
    | unsigned hne _ => exact ⟨hne, rfl⟩
    | plus => cases hdigits '+' List.mem_cons_self
    | minus => cases hdigits '-' List.mem_cons_self
  · rintro ⟨hne, rfl⟩
    exact .unsigned hne hdigits

end SchemaEvolution.Number
