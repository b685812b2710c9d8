import SchemaEvolution.Proofs.Dialect.Supported
import SchemaEvolution.Proofs.Filter.LockStep

/-!
# The lexemes of a condition

A filter whose columns are no expressions is written as a phrase of lexemes (`reads_template`). Its
columns and operands are lexemes of their own, whatever the columns are called, so nothing in a
name is taken for a keyword, for a placeholder or for an end of the name.
-/

namespace SchemaEvolution

open Text (Lexeme Reads leads)

/-- The lexeme of the operator that writes a comparison. -/
def Comparison.lexeme : Comparison → Lexeme
  | .like => .word "LIKE"
  | comparison => .operator comparison.operator

namespace Filter

open Fragment

/-- The columns that a filter refers to. -/
def columns : Filter → List String
  | .compare column _ _ => [column]
  | .between column _ _ => [column]
  | .oneOf column _ _ => [column]
  | .and left right => left.columns ++ right.columns
  | .or left right => left.columns ++ right.columns
  | .not inner => inner.columns

/-- No column of the filter is an expression. -/
def Plain (filter : Filter) : Prop := ∀ column ∈ filter.columns, PlainReference column

/-- The word of an operand: the next placeholder, or the null literal. -/
def operandWord (placeholder : Nat → String) (start : Nat) (value : Value) : String :=
  fill placeholder start (operandTemplate value)

/-- Null is written out. -/
theorem operandWord_null (placeholder : Nat → String) (start : Nat) :
    operandWord placeholder start .null = "NULL" := by
  simp [operandWord, operandTemplate, Value.isNull, fill]

/-- Any other operand is a placeholder. -/
theorem operandWord_of_not_null (placeholder : Nat → String) (start : Nat) {value : Value}
    (h : value.isNull = false) : operandWord placeholder start value = placeholder start := by
  simp [operandWord, operandTemplate, h, fill]

/-- The words of operands, one after the other. -/
def operandWords (placeholder : Nat → String) (start : Nat) (values : List Value) : List String :=
  fillEach placeholder start (values.map operandTemplate)

theorem operandWords_cons (placeholder : Nat → String) (start : Nat) (value : Value)
    (values : List Value) :
    operandWords placeholder start (value :: values) = operandWord placeholder start value ::
      operandWords placeholder (start + holes (operandTemplate value)) values := rfl

/-- The lexemes of a filter whose placeholders start at `start`. -/
def phrase (placeholder : Nat → String) : Filter → Nat → List Lexeme
  | .compare column .equal .null, _ => referenceLexemes column ++ [.word "IS", .word "NULL"]
  | .compare column .notEqual .null, _ =>
    referenceLexemes column ++ [.word "IS", .word "NOT", .word "NULL"]
  | .compare column comparison value, start =>
    referenceLexemes column ++ [comparison.lexeme, .word (operandWord placeholder start value)]
  | .between column low high, start =>
    referenceLexemes column ++ [.word "BETWEEN", .word (operandWord placeholder start low),
      .word "AND", .word (operandWord placeholder (start + holes (operandTemplate low)) high)]
  | .oneOf _ [] negated, _ => [.word "1", .operator "=", .word (if negated then "1" else "0")]
  | .oneOf column (value :: values) negated, start =>
    referenceLexemes column ++ (if negated then [.word "NOT", .word "IN"] else [.word "IN"]) ++
      .symbol '(' :: ([.symbol ','].intercalate
        ((operandWords placeholder start (value :: values)).map fun w => [.word w]) ++
        [.symbol ')'])
  | .and left right, start =>
    .symbol '(' :: (left.phrase placeholder start ++ .symbol ')' :: .word "AND" :: .symbol '(' ::
      (right.phrase placeholder (start + left.operands.length) ++ [.symbol ')']))
  | .or left right, start =>
    .symbol '(' :: (left.phrase placeholder start ++ .symbol ')' :: .word "OR" :: .symbol '(' ::
      (right.phrase placeholder (start + left.operands.length) ++ [.symbol ')']))
  | .not inner, start =>
    .word "NOT" :: .symbol '(' :: (inner.phrase placeholder start ++ [.symbol ')'])

variable (k : Dialect.Supported) (start : Nat)

/-- An operand is read as one word. -/
theorem reads_operandWord (value : Value) :
    Reads k.delimiters true (operandWord k.dialect.placeholder start value)
      [.word (operandWord k.dialect.placeholder start value)] := by
  cases value with
  | null =>
    rw [operandWord_null]
    exact Reads.word (by decide) (List.all_eq_true.mp (by decide))
  | _ =>
    rw [operandWord_of_not_null _ _ rfl]
    exact Reads.placeholder k start

/-- Operands between commas are read as words between commas. -/
theorem reads_operandWords (values : List Value) :
    Reads k.delimiters true (commaList (operandWords k.dialect.placeholder start values))
      ([.symbol ','].intercalate
        ((operandWords k.dialect.placeholder start values).map fun w => [.word w])) := by
  have hwords : ∀ w ∈ operandWords k.dialect.placeholder start values,
      Reads k.delimiters true w [.word w] := by
    induction values generalizing start with
    | nil => nofun
    | cons value values ih =>
      intro w hw
      rcases List.mem_cons.mp hw with rfl | hw
      · exact reads_operandWord k start value
      · exact ih _ w hw
  rw [← List.map_id (operandWords k.dialect.placeholder start values), List.map_map]
  exact Reads.commaList _ hwords

/-- A comparison is read as a column, an operator and an operand. -/
private theorem reads_compare {column : String} (hcolumn : PlainReference column)
    (comparison : Comparison) (value : Value) :
    Reads k.delimiters true
      (quoteReference k.delimiters.quote column ++ " " ++ comparison.operator ++ " " ++
        operandWord k.dialect.placeholder start value)
      (referenceLexemes column ++
        [comparison.lexeme, .word (operandWord k.dialect.placeholder start value)]) := by
  have hoperator : Reads k.delimiters false (" " ++ comparison.operator ++ " ")
      [comparison.lexeme] := by
    apply Reads.of_scan
    cases k <;> cases comparison <;> rfl
  have hread := ((Reads.reference hcolumn).append hoperator (by cases comparison <;> rfl)).append
    (reads_operandWord k start value) rfl
  simpa [String.append_assoc] using hread

private theorem reads_close : Reads k.delimiters true ")" [.symbol ')'] :=
  Reads.weaken (Reads.of_scan (by cases k <;> rfl))

/-- Two conditions in parentheses with a keyword between them. -/
private theorem reads_joined {keyword : Lexeme} {middle left right : String}
    {readLeft readRight : List Lexeme}
    (hmiddle : Reads k.delimiters false middle [.symbol ')', keyword, .symbol '('])
    (hlead : leads middle.toList = true) (hleft : Reads k.delimiters true left readLeft)
    (hright : Reads k.delimiters true right readRight) :
    Reads k.delimiters true ("(" ++ (left ++ (middle ++ (right ++ ")"))))
      (.symbol '(' :: (readLeft ++ .symbol ')' :: keyword :: .symbol '(' ::
        (readRight ++ [.symbol ')']))) := by
  have hopen : Reads k.delimiters false "(" [.symbol '('] := Reads.of_scan (by cases k <;> rfl)
  have hread := (((hopen.append hleft rfl).append hmiddle hlead).append hright rfl).append
    (reads_close k) rfl
  simpa [String.append_assoc] using hread

/-- The lexemes of a filter, wherever it stands. -/
theorem reads_template {filter : Filter} (h : filter.Plain) :
    Reads k.delimiters true
      (fill k.dialect.placeholder start (filter.template (quoteReference k.delimiters.quote)))
      (filter.phrase k.dialect.placeholder start) := by
  induction filter generalizing start with
  | compare column comparison value =>
    have hcolumn := Reads.reference (d := k.delimiters) (h column (List.mem_singleton.mpr rfl))
    have hcompare := reads_compare k start (h column (List.mem_singleton.mpr rfl)) comparison value
    cases value with
    | null =>
      cases comparison with
      | equal =>
        have hnull : Reads k.delimiters true " IS NULL" [.word "IS", .word "NULL"] :=
          Reads.of_lexemes (by cases k <;> rfl) (by cases k <;> rfl)
        simpa [template, fill, phrase] using hcolumn.append hnull rfl
      | notEqual =>
        have hnull : Reads k.delimiters true " IS NOT NULL"
            [.word "IS", .word "NOT", .word "NULL"] :=
          Reads.of_lexemes (by cases k <;> rfl) (by cases k <;> rfl)
        simpa [template, fill, phrase] using hcolumn.append hnull rfl
      | _ => exact hcompare
    | _ => cases comparison <;> exact hcompare
  | between column low high =>
    have hcolumn := Reads.reference (d := k.delimiters) (h column (List.mem_singleton.mpr rfl))
    have hbetween : Reads k.delimiters false " BETWEEN " [.word "BETWEEN"] :=
      Reads.of_scan (by cases k <;> rfl)
    have hand : Reads k.delimiters false " AND " [.word "AND"] :=
      Reads.of_scan (by cases k <;> rfl)
    have hlow := (hcolumn.append hbetween rfl).append (reads_operandWord k start low) rfl
    have hhigh := (hlow.append hand rfl).append
      (reads_operandWord k (start + holes (operandTemplate low)) high) rfl
    simpa [template, fill, fill_append, phrase, operandWord, String.append_assoc] using hhigh
  | oneOf column values negated =>
    cases values with
    | nil =>
      have hempty : Reads k.delimiters true (if negated then "1 = 1" else "1 = 0")
          [.word "1", .operator "=", .word (if negated then "1" else "0")] :=
        Reads.of_lexemes (by cases k <;> cases negated <;> rfl)
          (by cases k <;> cases negated <;> rfl)
      simpa [template, fill, phrase] using hempty
    | cons value values =>
      have hcolumn := Reads.reference (d := k.delimiters) (h column (List.mem_singleton.mpr rfl))
      have hin : Reads k.delimiters false (if negated then " NOT IN (" else " IN (")
          ((if negated then [.word "NOT", .word "IN"] else [.word "IN"]) ++ [.symbol '(']) :=
        Reads.of_scan (by cases k <;> cases negated <;> rfl)
      have hitems := reads_operandWords k start (value :: values)
      have hread := ((hcolumn.append hin (by cases negated <;> rfl)).append hitems rfl).append
        (reads_close k) rfl
      simpa [template, fill, fill_append, fill_commaSeparated, phrase, commaList, operandWords,
        String.append_assoc] using hread
  | and left right ihLeft ihRight =>
    have hleft := ihLeft start fun column hcolumn => h column (List.mem_append_left _ hcolumn)
    have hright := ihRight (start + left.operands.length)
      fun column hcolumn => h column (List.mem_append_right _ hcolumn)
    have hmiddle : Reads k.delimiters false ") AND (" [.symbol ')', .word "AND", .symbol '('] :=
      Reads.of_scan (by cases k <;> rfl)
    simpa [template, fill, fill_append, holes_template, phrase] using
      reads_joined k hmiddle rfl hleft hright
  | or left right ihLeft ihRight =>
    have hleft := ihLeft start fun column hcolumn => h column (List.mem_append_left _ hcolumn)
    have hright := ihRight (start + left.operands.length)
      fun column hcolumn => h column (List.mem_append_right _ hcolumn)
    have hmiddle : Reads k.delimiters false ") OR (" [.symbol ')', .word "OR", .symbol '('] :=
      Reads.of_scan (by cases k <;> rfl)
    simpa [template, fill, fill_append, holes_template, phrase] using
      reads_joined k hmiddle rfl hleft hright
  | not inner ih =>
    have hnot : Reads k.delimiters false "NOT (" [.word "NOT", .symbol '('] :=
      Reads.of_scan (by cases k <;> rfl)
    have hread := (hnot.append (ih start h) rfl).append (reads_close k) rfl
    simpa [template, fill, fill_append, phrase, String.append_assoc] using hread

end Filter

end SchemaEvolution
