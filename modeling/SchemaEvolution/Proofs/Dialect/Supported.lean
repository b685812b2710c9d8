import SchemaEvolution.Proofs.Dialect.Plain
import SchemaEvolution.Proofs.Text.Lexeme

/-!
# The dialects that there are

What the three dialects have in common: identifiers stand between delimiters of one of two kinds,
and a placeholder is a mark with a number. Here the pieces that statements are made of are read:
names, column references, numerals and placeholders.
-/

namespace SchemaEvolution

open Text (Delimiters Lexeme Reads)

/-- The dialects that there are. -/
inductive Dialect.Supported where
  | sqlite
  | postgres
  | sqlServer
  deriving DecidableEq, Repr

namespace Dialect.Supported

/-- The dialect. -/
def dialect : Supported → Dialect
  | sqlite => Dialect.sqlite
  | postgres => Dialect.postgres
  | sqlServer => Dialect.sqlServer

/-- What its identifiers stand between. -/
def delimiters : Supported → Delimiters
  | sqlite => .quotes
  | postgres => .quotes
  | sqlServer => .brackets

/-- What its placeholders start with. -/
def mark : Supported → String
  | sqlite => "?"
  | postgres => "$"
  | sqlServer => "@par"

/-- The number of its first placeholder. -/
def firstNumber : Supported → Nat
  | sqlite => 1
  | postgres => 1
  | sqlServer => 0

variable (k : Supported)

theorem plain : k.dialect.Plain := by
  cases k
  · exact plain_sqlite
  · exact plain_postgres
  · exact plain_sqlServer

theorem quoteIdentifier_eq : k.dialect.quoteIdentifier = k.delimiters.quote := by
  cases k <;> rfl

theorem quoteTable_eq : k.dialect.quoteTable = quoteParts k.delimiters.quote := by
  cases k <;> rfl

theorem quoteColumn_eq : k.dialect.quoteColumn = quoteReference k.delimiters.quote := by
  cases k <;> rfl

theorem placeholder_eq (index : Nat) :
    k.dialect.placeholder index = k.mark ++ toString (index + k.firstNumber) := by
  cases k <;> rfl

theorem parameterName_eq (index : Nat) :
    k.dialect.parameterName index = "par" ++ toString index := by
  cases k <;> rfl

end Dialect.Supported

/-! ### Pieces of statements -/

/-- The lexemes of a table name: its parts between dots. -/
def TableName.lexemes (name : String) : List Lexeme :=
  [.symbol '.'].intercalate ((parts name).map fun part => [.identifier part])

/-- The lexeme of a part of a column reference. A star is none of the identifiers. -/
def partLexeme (part : String) : Lexeme := if part = "*" then .symbol '*' else .identifier part

/-- The lexemes of a column reference: its parts between dots. -/
def referenceLexemes (column : String) : List Lexeme :=
  [.symbol '.'].intercalate ((TableName.parts column).map fun part => [partLexeme part])

/-- A column reference that is no expression: no parenthesis and no space in it. -/
def PlainReference (column : String) : Prop := ∀ c ∈ column.toList, c ≠ '(' ∧ c ≠ ' '

namespace Text.Reads

variable {d : Delimiters}

theorem dot : Reads d false "." [.symbol '.'] := by
  apply of_scan
  cases d <;> rfl

theorem comma : Reads d false ", " [.symbol ','] := by
  apply of_scan
  cases d <;> rfl

theorem star : Reads d false "*" [.symbol '*'] := by
  apply of_scan
  cases d <;> rfl

/-- A table name. -/
theorem table (name : String) : Reads d true (quoteParts d.quote name) (TableName.lexemes name) :=
  intercalate dot rfl _ fun part _ => identifier part

/-- A column reference. -/
theorem reference {column : String} (h : PlainReference column) :
    Reads d true (quoteReference d.quote column) (referenceLexemes column) := by
  have hpart (part : String) : Reads d true (if part == "*" then part else d.quote part)
      [partLexeme part] := by
    by_cases hstar : part = "*"
    · subst hstar
      exact star.weaken
    · have hbeq : (part == "*") = false := beq_false_of_ne hstar
      rw [hbeq, partLexeme, if_neg hstar]
      exact identifier part
  by_cases hstar : column = "*"
  · subst hstar
    exact star.weaken
  · have hexpression :
        (column == "*" || column.toList.any fun c => c = '(' || c = ' ') = false := by
      rw [Bool.or_eq_false_iff]
      refine ⟨beq_false_of_ne hstar, List.any_eq_false.mpr fun c hc => ?_⟩
      simpa using h c hc
    rw [quoteReference, hexpression]
    exact intercalate dot rfl _ fun part _ => hpart part

/-- Items between commas. -/
theorem commaList {ι : Type} {write : ι → String} {lexemes : ι → List Lexeme} (items : List ι)
    (hitems : ∀ i ∈ items, Reads d true (write i) (lexemes i)) :
    Reads d true (SchemaEvolution.commaList (items.map write))
      ([.symbol ','].intercalate (items.map lexemes)) :=
  intercalate comma rfl items hitems

/-- Numerals are made of digits. -/
theorem isDigit_of_mem_toString {n : Nat} {c : Char} (h : c ∈ (toString n).toList) :
    c.isDigit = true := by
  have hdigits : (toString n).toList = Nat.toDigits 10 n := by simp
  rw [hdigits] at h
  exact Nat.isDigit_of_mem_toDigits (by decide) (by decide) h

private theorem contains_of_mem_toString {n : Nat} {c : Char} (h : c ∈ (toString n).toList) :
    Run.word.contains c = true := by
  simp [Run.contains, Char.isAlphanum, isDigit_of_mem_toString h]

private theorem toString_toList_ne_nil (n : Nat) : (toString n).toList ≠ [] := by
  have hdigits : (toString n).toList = Nat.toDigits 10 n := by simp
  rw [hdigits]
  exact Nat.toDigits_ne_nil

/-- A numeral. -/
theorem numeral (n : Nat) : Reads d true (toString n) [.word (toString n)] :=
  word (toString_toList_ne_nil n) fun _ hc => contains_of_mem_toString hc

/-- A placeholder. -/
theorem placeholder (k : Dialect.Supported) (index : Nat) :
    Reads d true (k.dialect.placeholder index) [.word (k.dialect.placeholder index)] := by
  rw [k.placeholder_eq]
  apply word
  · rw [String.toList_append]
    exact List.append_ne_nil_of_right_ne_nil _ (toString_toList_ne_nil _)
  · intro c hc
    rw [String.toList_append, List.mem_append] at hc
    rcases hc with hc | hc
    · have hmark : k.mark.toList.all (Run.word.contains ·) = true := by cases k <;> decide
      exact List.all_eq_true.mp hmark c hc
    · exact contains_of_mem_toString hc

end Text.Reads

end SchemaEvolution
