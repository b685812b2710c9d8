import Mathlib.Data.List.TakeWhile
import SchemaEvolution.Migration.Version
import SchemaEvolution.Proofs.Lists
import SchemaEvolution.Proofs.Number.Integer

/-!
# Versions in names

A name has a version exactly if digits follow its underscores, and the number that these write, as
many as there are in a row, fits 64 bits. The version is this number, whatever comes behind the
digits (`parseVersion_reads_leading_number`).
-/

namespace SchemaEvolution

open Number (digitsValue)

variable {name : String} {digits : List Char}

/-- The name is underscores, a run of digits, and what does not go on with a digit. -/
structure LedBy (name : String) (digits : List Char) : Prop where
  exists_split : ∃ underscores rest,
    name.toList = List.replicate underscores '_' ++ (digits ++ rest) ∧
      ∀ c ∈ rest.head?, c.isDigit = false
  ne_nil : digits ≠ []
  isDigit : ∀ c ∈ digits, c.isDigit = true

/-- The digits that lead a text, as the piece of it up to the byte where the first character starts
that is none. A position of a text is one where a character starts, or its end. -/
def leadingDigits (text : String) : String :=
  match text.find? (fun c : Char => !c.isDigit) with
  | some stop => (text.sliceTo stop).copy
  | none => text

theorem toList_leadingDigits (text : String) :
    (leadingDigits text).toList = text.toList.takeWhile Char.isDigit := by
  rw [leadingDigits]
  split
  · next stop hstop =>
    obtain ⟨digits, c, rest, hsplits, hc, hdigits⟩ :=
      String.find?_bool_eq_some_iff_splits.mp hstop
    rw [stop.splits.eq_left hsplits, hsplits.eq_append, String.toList_append, takeWhile_run]
    · intro d hd
      simpa using hdigits d hd
    · intro d hd
      simp at hd
      simpa [hd] using hc
  · next hnone =>
    rw [String.find?_eq_find?_toSlice, Option.map_eq_none_iff,
      String.Slice.find?_eq_none_iff] at hnone
    have hall : ∀ c ∈ text.toList, c.isDigit = true := by simpa using hnone
    exact (List.takeWhile_eq_self_iff.mpr hall).symm

/-- The digits that lead a name are those behind all of its underscores. -/
theorem ledBy_iff : LedBy name digits ↔
    digits ≠ [] ∧ (name.toList.dropWhile (· == '_')).takeWhile Char.isDigit = digits := by
  constructor
  · rintro ⟨⟨underscores, rest, hsplit, hrest⟩, hne, hdigits⟩
    refine ⟨hne, ?_⟩
    have hunderscores : ∀ c ∈ List.replicate underscores '_', (c == '_') = true := by simp
    have hfirst : ∀ c ∈ (digits ++ rest).head?, (c == '_') = false := by
      intro c hc
      have hdigit : c.isDigit = true := by
        obtain ⟨d, tail, rfl⟩ := List.exists_cons_of_ne_nil hne
        exact hdigits c (List.mem_of_mem_head? hc)
      exact beq_false_of_ne fun h => by simp [h] at hdigit
    rw [hsplit, dropWhile_run hunderscores hfirst, takeWhile_run hdigits hrest]
  · rintro ⟨hne, rfl⟩
    have hunderscores : name.toList.takeWhile (· == '_') =
        List.replicate (name.toList.takeWhile (· == '_')).length '_' :=
      List.eq_replicate_of_mem fun c hc => by simpa using List.mem_takeWhile_imp hc
    refine ⟨⟨(name.toList.takeWhile (· == '_')).length,
      (name.toList.dropWhile (· == '_')).dropWhile Char.isDigit, ?_, ?_⟩, hne, ?_⟩
    · rw [← hunderscores, List.takeWhile_append_dropWhile, List.takeWhile_append_dropWhile]
    · intro c hc
      have hnot := List.head?_dropWhile_not Char.isDigit (name.toList.dropWhile (· == '_'))
      rwa [Option.mem_def.mp hc] at hnot
    · exact fun c hc => List.mem_takeWhile_imp hc

/-- The run of digits of a name is a number or nothing. -/
theorem parseVersion_eq_some_iff {n : Int64} : parseVersion name = some n ↔
    ∃ digits, LedBy name digits ∧ (digitsValue digits : Int) = n.toInt := by
  have hrun : ∀ c ∈ (name.toList.dropWhile (· == '_')).takeWhile Char.isDigit, c.isDigit = true :=
    fun c hc => List.mem_takeWhile_imp hc
  rw [parseVersion, Number.readInt64_digits hrun]
  constructor
  · rintro ⟨hne, hvalue⟩
    exact ⟨_, ledBy_iff.mpr ⟨hne, rfl⟩, hvalue⟩
  · rintro ⟨digits, hled, hvalue⟩
    obtain ⟨hne, rfl⟩ := ledBy_iff.mp hled
    exact ⟨hne, hvalue⟩

/-- Underscores, zeros, a numeral and what does not go on with a digit lead with the numeral. -/
theorem ledBy_written (underscores zeros n : Nat) {rest : String}
    (hrest : ∀ c ∈ rest.toList.head?, c.isDigit = false) :
    LedBy (String.ofList (List.replicate underscores '_' ++ List.replicate zeros '0') ++
      toString n ++ rest) (List.replicate zeros '0' ++ Nat.toDigits 10 n) where
  exists_split := by
    refine ⟨underscores, rest.toList, ?_, hrest⟩
    simp
  ne_nil := by simp [Nat.toDigits_ne_nil]
  isDigit := by
    intro c hc
    rcases List.mem_append.mp hc with hzero | hdigit
    · rw [List.eq_of_mem_replicate hzero]
      rfl
    · exact Number.isDigit_of_mem_toDigits hdigit

/-- A number that fits is read from every name that it leads, in any of the ways to write it. -/
theorem parseVersion_written (underscores zeros : Nat) {n : Nat} (hn : n ≤ 9223372036854775807)
    {rest : String} (hrest : ∀ c ∈ rest.toList.head?, c.isDigit = false) :
    parseVersion (String.ofList (List.replicate underscores '_' ++ List.replicate zeros '0') ++
      toString n ++ rest) = some (Int64.ofNat n) := by
  refine parseVersion_eq_some_iff.mpr ⟨_, ledBy_written underscores zeros n hrest, ?_⟩
  rw [Number.digitsValue_zeros_append, Number.digitsValue_toDigits,
    Int64.toInt_ofNat_of_lt (Nat.lt_succ_of_le hn)]

/-- A name has a version exactly if a run of digits follows its underscores and writes a number that
fits 64 bits; the version is this number, so it is not negative. All the digits up to the first
other character are read, and this is where a character starts. A number that fits is the version
of every name that it leads, with any underscores and zeros in front. -/
theorem parseVersion_reads_leading_number (name : String) :
    (∀ n : Int64, parseVersion name = some n ↔
      ∃ digits, LedBy name digits ∧ (digitsValue digits : Int) = n.toInt) ∧
    (parseVersion name = none ↔
      ∀ digits, LedBy name digits → 9223372036854775807 < digitsValue digits) ∧
    (∀ n : Int64, parseVersion name = some n → 0 ≤ n.toInt) ∧
    parseVersion name = Number.readInt64
      (leadingDigits (String.ofList (name.toList.dropWhile (· == '_')))).toList ∧
    ∀ (underscores zeros n : Nat) (rest : String), n ≤ 9223372036854775807 →
      (∀ c ∈ rest.toList.head?, c.isDigit = false) →
      name = String.ofList (List.replicate underscores '_' ++ List.replicate zeros '0') ++
        toString n ++ rest →
      parseVersion name = some (Int64.ofNat n) := by
  refine ⟨fun n => parseVersion_eq_some_iff, ?_, ?_, ?_, ?_⟩
  · constructor
    · intro hnone digits hled
      by_contra hle
      obtain ⟨n, -, hvalue⟩ :=
        Number.exists_toInt64? (k := digitsValue digits) (by omega) (by omega)
      have hsome := parseVersion_eq_some_iff.mpr ⟨digits, hled, hvalue.symm⟩
      cases hnone.symm.trans hsome
    · intro hlarge
      rw [Option.eq_none_iff_forall_ne_some]
      intro n hsome
      obtain ⟨digits, hled, hvalue⟩ := parseVersion_eq_some_iff.mp hsome
      have hfits := Int64.toInt_lt n
      have := hlarge digits hled
      omega
  · intro n hsome
    obtain ⟨digits, -, hvalue⟩ := parseVersion_eq_some_iff.mp hsome
    rw [← hvalue]
    exact Int.natCast_nonneg _
  · rw [toList_leadingDigits, String.toList_ofList, parseVersion]
  · rintro underscores zeros n rest hn hrest rfl
    exact parseVersion_written underscores zeros hn hrest

/-- The greatest number, with a letter of two bytes behind it, and the next one. -/
theorem parseVersion_reads_leading_number_at_limit :
    (9223372036854775807 ≤ 9223372036854775807 ∧ (∀ c ∈ "é8".toList.head?, c.isDigit = false) ∧
      parseVersion "_009223372036854775807é8" = some Int64.maxValue ∧
      0 ≤ Int64.maxValue.toInt) ∧
    parseVersion "_9223372036854775808" = none ∧
    ∀ digits, LedBy "_9223372036854775808" digits → 9223372036854775807 < digitsValue digits := by
  have hrest : ∀ c ∈ "é8".toList.head?, c.isDigit = false := by simp
  have hread : parseVersion "_009223372036854775807é8" = some Int64.maxValue :=
    (parseVersion_reads_leading_number _).2.2.2.2 1 2 9223372036854775807 "é8" (by decide) hrest
      (by decide +kernel)
  have hnone : parseVersion "_9223372036854775808" = none := by decide +kernel
  refine ⟨⟨by decide, hrest, hread, ?_⟩, hnone, ?_⟩
  · exact (parseVersion_reads_leading_number _).2.2.1 _ hread
  · exact (parseVersion_reads_leading_number _).2.1.mp hnone

end SchemaEvolution
