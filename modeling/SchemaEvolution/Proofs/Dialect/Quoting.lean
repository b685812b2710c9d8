import SchemaEvolution.Proofs.Dialect.Supported
import SchemaEvolution.Proofs.TableName
import SchemaEvolution.Proofs.Text.Quoted
import SchemaEvolution.Sqlite.Function.Text

/-!
# Quoting

What a dialect quotes is read back, wherever it stands, as long as the text that follows does not
go on with the closing delimiter (`quoting_is_lossless`).
-/

namespace SchemaEvolution

open Text (Delimiters readQuoted readParts)
open Sqlite.Function (unhexed)

/-! ### Bytes -/

namespace Number

private theorem hexDigit_digit : ∀ n < 16,
    Json.hexDigit (if n < 10 then Char.ofNat (48 + n) else Char.ofNat (55 + n)) = some n := by
  decide

/-- The two digits of a byte are those of its halves. -/
theorem hexByte_eq (byte : UInt8) : ∃ high low, hexByte byte = [high, low] ∧
    Json.hexDigit high = some (byte.toNat / 16) ∧ Json.hexDigit low = some (byte.toNat % 16) := by
  have hbyte := byte.toNat_lt
  exact ⟨_, _, rfl, hexDigit_digit _ (by omega), hexDigit_digit _ (by omega)⟩

theorem not_mem_hexByte {c : Char} (h : Json.hexDigit c = none) (byte : UInt8) :
    c ∉ hexByte byte := by
  obtain ⟨high, low, hdigits, hhigh, hlow⟩ := hexByte_eq byte
  rw [hdigits]
  simp only [List.mem_cons, List.not_mem_nil, or_false]
  rintro (rfl | rfl)
  · cases h.symm.trans hhigh
  · cases h.symm.trans hlow

/-- The digits of some bytes stand for these bytes. -/
theorem unhexed_flatMap_hexByte (bytes : List UInt8) :
    unhexed [] (bytes.flatMap hexByte) = some bytes := by
  induction bytes with
  | nil => rfl
  | cons byte bytes ih =>
    obtain ⟨high, low, hdigits, hhigh, hlow⟩ := hexByte_eq byte
    have hbyte : UInt8.ofNat (16 * (byte.toNat / 16) + byte.toNat % 16) = byte := by
      rw [Nat.div_add_mod, UInt8.ofNat_toNat]
    simp [hdigits, unhexed, hhigh, hlow, ih, hbyte]

end Number

/-- Reads a literal of bytes: the bytes, and what follows them. -/
def Value.readBlob (text : String) : Option (List UInt8 × String) :=
  (readQuoted "X" '\x27' '\x27' text).bind fun p =>
    (unhexed [] p.1.toList).map fun bytes => (bytes, p.2)

theorem Value.literal_blob (bytes : List UInt8) :
    (Value.blob bytes).literal =
      "X" ++ Text.quote '\x27' '\x27' (String.ofList (bytes.flatMap Number.hexByte)) := by
  have hmark : '\x27' ∉ bytes.flatMap Number.hexByte := by
    rw [List.mem_flatMap]
    rintro ⟨byte, -, hmem⟩
    exact Number.not_mem_hexByte (by decide) byte hmem
  apply String.toList_inj.mp
  simp [Value.literal, Text.quote, Text.double_eq_self hmark]

/-- A literal of bytes is read back. -/
theorem Value.readBlob_literal_eq_some_iff (bytes : List UInt8) (r : String) :
    readBlob ((Value.blob bytes).literal ++ r) = some (bytes, r) ↔ r.toList.head? ≠ some '\x27' := by
  rw [readBlob, literal_blob]
  constructor
  · intro hread
    obtain ⟨p, hp, hbytes⟩ := Option.bind_eq_some_iff.mp hread
    obtain ⟨read, -, hpair⟩ := Option.map_eq_some_iff.mp hbytes
    have hrest : p.2 = r := congrArg Prod.snd hpair
    subst hrest
    exact (Text.readQuoted_quote_eq_some_iff.mp hp).2
  · intro hhead
    rw [Text.readQuoted_quote_eq_some_iff.mpr ⟨rfl, hhead⟩]
    simp [Number.unhexed_flatMap_hexByte]

/-! ### Dialects -/

/-- What stands in front of the quotes of a literal. -/
def Text.Delimiters.literalMark : Delimiters → String
  | .quotes => ""
  | .brackets => "N"

namespace Dialect

/-- The dialect writes identifiers between these delimiters, and literals as dialects with these
delimiters do. -/
structure QuotesBy (d : Dialect) (k : Delimiters) : Prop where
  identifier : ∀ name, d.quoteIdentifier name = k.quote name
  table : ∀ name, d.quoteTable name = quoteParts k.quote name
  literal : ∀ text, d.quoteLiteral text = k.literalMark ++ Text.quote '\x27' '\x27' text

/-- A dialect that says nothing of quoting quotes by quotes. -/
theorem quotesBy_quotes (name : String) (placeholder : Nat → String) (typeName : Column → String)
    (tableExists : String → String) :
    QuotesBy { name, placeholder, typeName, tableExists } .quotes where
  identifier _ := rfl
  table _ := rfl
  literal _ := String.empty_append.symm

theorem Supported.quotesBy (k : Supported) : k.dialect.QuotesBy k.delimiters where
  identifier _ := by cases k <;> rfl
  table _ := by cases k <;> rfl
  literal _ := by
    cases k with
    | sqlite => exact String.empty_append.symm
    | postgres => exact String.empty_append.symm
    | sqlServer => rfl

/-- Identifiers, literals of texts and of bytes, and the parts of a table name are read back exactly,
with what follows them, if and only if that does not go on with the closing delimiter; behind a table
name it may not go on with a dot either. -/
theorem quoting_is_lossless {d : Dialect} {k : Delimiters} (hd : d.QuotesBy k) (s r : String)
    (bytes : List UInt8) :
    (readQuoted "" k.opening k.closing (d.quoteIdentifier s ++ r) = some (s, r) ↔
      r.toList.head? ≠ some k.closing) ∧
    (readQuoted k.literalMark '\x27' '\x27' (d.quoteLiteral s ++ r) = some (s, r) ↔
      r.toList.head? ≠ some '\x27') ∧
    (readQuoted "" '\x27' '\x27' ((DefaultValue.string s).literal ++ r) = some (s, r) ↔
      r.toList.head? ≠ some '\x27') ∧
    (readQuoted "" '\x27' '\x27' ((Value.text s).literal ++ r) = some (s, r) ↔
      r.toList.head? ≠ some '\x27') ∧
    (Value.readBlob ((Value.blob bytes).literal ++ r) = some (bytes, r) ↔
      r.toList.head? ≠ some '\x27') ∧
    (readParts k (d.quoteTable s ++ r).toList = some (TableName.parts s, r.toList) ↔
      r.toList.head? ≠ some k.closing ∧ r.toList.head? ≠ some '.') ∧
    ".".intercalate (TableName.parts s) = s ∧ ∀ part ∈ TableName.parts s, '.' ∉ part.toList := by
  have hliteral : readQuoted k.literalMark '\x27' '\x27' (d.quoteLiteral s ++ r) = some (s, r) ↔
      r.toList.head? ≠ some '\x27' := by
    rw [hd.literal, Text.readQuoted_quote_eq_some_iff, eq_self, true_and]
  have htable : readParts k (d.quoteTable s ++ r).toList = some (TableName.parts s, r.toList) ↔
      r.toList.head? ≠ some k.closing ∧ r.toList.head? ≠ some '.' := by
    rw [hd.table, String.toList_append]
    exact Text.readParts_dotted_eq_some_iff (TableName.parts_ne_nil s)
  have hparts : ∀ part ∈ TableName.parts s, '.' ∉ part.toList := by
    intro part hpart
    obtain ⟨text, htext, rfl⟩ := List.mem_map.mp hpart
    rw [String.toList_ofList]
    exact Text.not_mem_of_mem_splitEvery htext
  rw [hd.identifier]
  exact ⟨Text.readQuoted_eq_some_iff, hliteral, Text.readQuoted_eq_some_iff,
    Text.readQuoted_eq_some_iff, Value.readBlob_literal_eq_some_iff bytes r, htable,
    TableName.intercalate_parts s, hparts⟩

/-- Texts of closing delimiters only, and a table name with an empty part. One more delimiter behind
them is read as part of the text. -/
theorem quoting_is_lossless_of_delimiters :
    readQuoted "" '[' ']' "[]]]]] INT" = some ("]]", " INT") ∧
    readQuoted "" '[' ']' "[]]]]]]" ≠ some ("]]", "]") ∧
    readQuoted "N" '\x27' '\x27' "N\x27\x27\x27\x27, 1" = some ("\x27", ", 1") ∧
    readParts .brackets "[a].[].[]]] (".toList = some (["a", "", "]"], " (".toList) ∧
    readQuoted "" '"' '"' "\"\"\"\"," = some ("\"", ",") ∧
    Value.readBlob "X\x2700FF\x27)" = some ([0, 255], ")") := by
  have hserver := quoting_is_lossless (Supported.quotesBy .sqlServer)
  have hdefault := quoting_is_lossless (quotesBy_quotes "" toString (·.name) id)
  refine ⟨(hserver "]]" " INT" []).1.mpr (by decide), ?_, ?_, ?_, ?_, ?_⟩
  · exact mt (hserver "]]" "]" []).1.mp (by decide)
  · exact (hserver "\x27" ", 1" []).2.1.mpr (by decide)
  · exact (hserver "a..]" " (" []).2.2.2.2.2.1.mpr (by decide)
  · exact (hdefault "\"" "," []).1.mpr (by decide)
  · exact (hdefault "" ")" [0, 255]).2.2.2.2.1.mpr (by decide)

end Dialect

end SchemaEvolution
