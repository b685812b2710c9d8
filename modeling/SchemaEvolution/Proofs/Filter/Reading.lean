import SchemaEvolution.Proofs.Filter.Phrase
import SchemaEvolution.Proofs.Number.Numeral
import SchemaEvolution.Proofs.TableName

/-!
# Reading conditions back

A reader of conditions: negation binds more tightly than `AND`, and `AND` more tightly than `OR`,
operands of one connective are grouped to the left, and the `AND` of a range belongs to the range. A
placeholder stands for the value of the parameter with its number. What a filter is written as is
read back as the filter.
-/

namespace SchemaEvolution

open Text (Lexeme)
open Fragment (holes)

namespace Filter

/-- The comparison that an operator writes. -/
def comparison? (operator : Lexeme) : Option Comparison :=
  (Comparison.names.map Prod.snd).find? fun comparison => comparison.lexeme = operator

/-- A part of a column reference. -/
def readPart : Lexeme → Option String
  | .identifier s => some s
  | .symbol '*' => some "*"
  | _ => none

/-- The parts of a column reference between their dots. -/
def readParts : List Lexeme → Option (List String × List Lexeme)
  | part :: .symbol '.' :: rest => do
    let name ← readPart part
    let (names, rest) ← readParts rest
    some (name :: names, rest)
  | part :: rest => (readPart part).map fun name => ([name], rest)
  | [] => none

section Operands

variable (values : String → Option Value)

/-- An operand: the null literal or a placeholder. -/
def readOperand (word : String) : Option Value :=
  if word = "NULL" then some .null else values word

/-- Operands between commas, up to a closing parenthesis. -/
def readOperands : List Lexeme → Option (List Value × List Lexeme)
  | .word w :: .symbol ',' :: rest => do
    let value ← readOperand values w
    let (others, rest) ← readOperands rest
    some (value :: others, rest)
  | .word w :: .symbol ')' :: rest => (readOperand values w).map fun value => ([value], rest)
  | _ => none

/-- What is said of a column. -/
def readAbout (column : String) : List Lexeme → Option (Filter × List Lexeme)
  | .word "IS" :: .word "NULL" :: rest => some (isNull column, rest)
  | .word "IS" :: .word "NOT" :: .word "NULL" :: rest => some (isNotNull column, rest)
  | .word "BETWEEN" :: .word low :: .word "AND" :: .word high :: rest => do
    let low ← readOperand values low
    let high ← readOperand values high
    some (.between column low high, rest)
  | .word "IN" :: .symbol '(' :: rest => do
    let (items, rest) ← readOperands values rest
    some (.oneOf column items false, rest)
  | .word "NOT" :: .word "IN" :: .symbol '(' :: rest => do
    let (items, rest) ← readOperands values rest
    some (.oneOf column items true, rest)
  | operator :: .word w :: rest => do
    let comparison ← comparison? operator
    let value ← readOperand values w
    some (.compare column comparison value, rest)
  | _ => none

/-- A predicate without connectives. Membership in an empty list does not say of which column. -/
def readPredicate : List Lexeme → Option (Filter × List Lexeme)
  | .word "1" :: .operator "=" :: .word "0" :: rest => some (.oneOf "" [] false, rest)
  | .word "1" :: .operator "=" :: .word "1" :: rest => some (.oneOf "" [] true, rest)
  | lexemes => do
    let (names, rest) ← readParts lexemes
    readAbout values (".".intercalate names) rest

end Operands

/-- Goes on with operands that follow a keyword, and joins each to what stands left of it. -/
def readMore (keyword : String) (join : Filter → Filter → Filter)
    (operand : List Lexeme → Option (Filter × List Lexeme)) :
    Nat → Filter → List Lexeme → Option (Filter × List Lexeme)
  | steps + 1, left, .word w :: rest =>
    if w = keyword then do
      let (right, rest) ← operand rest
      readMore keyword join operand steps (join left right) rest
    else some (left, .word w :: rest)
  | _, left, rest => some (left, rest)

/-- One or more operands with a keyword between them. -/
def readChain (keyword : String) (join : Filter → Filter → Filter)
    (operand : List Lexeme → Option (Filter × List Lexeme)) (lexemes : List Lexeme) :
    Option (Filter × List Lexeme) := do
  let (first, rest) ← operand lexemes
  readMore keyword join operand rest.length first rest

/-- A chain of alternatives, each of which is a chain of conditions. -/
def readAlternatives (operand : List Lexeme → Option (Filter × List Lexeme)) :
    List Lexeme → Option (Filter × List Lexeme) :=
  readChain "OR" .or (readChain "AND" .and operand)

/-- A predicate, a negation or a condition in parentheses, nested up to some depth. -/
def readNested (values : String → Option Value) : Nat → List Lexeme → Option (Filter × List Lexeme)
  | 0, _ => none
  | depth + 1, .word "NOT" :: rest => do
    let (inner, rest) ← readNested values depth rest
    some (.not inner, rest)
  | depth + 1, .symbol '(' :: rest => do
    match ← readAlternatives (readNested values depth) rest with
    | (inner, .symbol ')' :: rest) => some (inner, rest)
    | _ => none
  | _ + 1, lexemes => readPredicate values lexemes

/-- The value of the parameter that a placeholder names by its number. -/
def placeholderValue (k : Dialect.Supported) (parameters : List InParameter) (word : String) :
    Option Value := do
  let digits ← k.mark.toList.isPrefixOf? word.toList
  let number ← Number.readDigits digits
  let parameter ← parameters.find? fun p => p.index + k.firstNumber = number
  some parameter.value

/-- The filter of a condition, from its text and its parameters. -/
def readCondition (k : Dialect.Supported) (sql : String) (parameters : List InParameter) :
    Option Filter :=
  match Text.lexemes k.delimiters sql with
  | .word "WHERE" :: rest => do
    -- no condition is nested more deeply than it has lexemes
    match ← readAlternatives (readNested (placeholderValue k parameters) rest.length) rest with
    | (filter, []) => some filter
    | _ => none
  | _ => none

/-- The filter without the columns that are asked for membership in an empty list. -/
def recoverable : Filter → Filter
  | .oneOf _ [] negated => .oneOf "" [] negated
  | .and left right => .and left.recoverable right.recoverable
  | .or left right => .or left.recoverable right.recoverable
  | .not inner => .not inner.recoverable
  | filter => filter

/-! ### Placeholders and their values -/

/-- Placeholders from `start` on stand for some values. -/
def Binds (values : String → Option Value) (placeholder : Nat → String) (start : Nat)
    (bound : List Value) : Prop :=
  ∀ i value, bound[i]? = some value → values (placeholder (start + i)) = some value

section Binds

variable {values : String → Option Value} {placeholder : Nat → String} {start : Nat}

theorem Binds.append_left {first second : List Value}
    (h : Binds values placeholder start (first ++ second)) :
    Binds values placeholder start first := by
  intro i value hi
  have hlt : i < first.length := (List.getElem?_eq_some_iff.mp hi).1
  exact h i value (by rw [List.getElem?_append_left hlt, hi])

theorem Binds.append_right {first second : List Value}
    (h : Binds values placeholder start (first ++ second)) :
    Binds values placeholder (start + first.length) second := by
  intro i value hi
  rw [Nat.add_assoc]
  apply h
  rw [List.getElem?_append_right (Nat.le_add_right _ _), Nat.add_sub_cancel_left, hi]

/-- The operands behind the first one take the placeholders behind its own. -/
theorem Binds.cons {value : Value} {others : List Value}
    (h : Binds values placeholder start ((value :: others).filter (!·.isNull))) :
    Binds values placeholder start ([value].filter (!·.isNull)) ∧
      Binds values placeholder (start + holes (operandTemplate value))
        (others.filter (!·.isNull)) := by
  have hsplit : (value :: others).filter (!·.isNull) =
      [value].filter (!·.isNull) ++ others.filter (!·.isNull) := List.filter_append [value] others
  rw [hsplit] at h
  rw [holes_operandTemplate]
  exact ⟨h.append_left, h.append_right⟩

/-- An operand is read back as its value. -/
theorem readOperand_operandWord (hnull : ∀ index, placeholder index ≠ "NULL") {value : Value}
    (h : Binds values placeholder start ([value].filter (!·.isNull))) :
    readOperand values (operandWord placeholder start value) = some value := by
  cases value with
  | null =>
    rw [operandWord_null, readOperand, if_pos rfl]
  | _ =>
    rw [operandWord_of_not_null _ _ rfl, readOperand, if_neg (hnull start)]
    exact h 0 _ rfl

/-- Operands in parentheses are read back as their values. -/
theorem readOperands_operandWords (hnull : ∀ index, placeholder index ≠ "NULL") (value : Value)
    (others : List Value) (rest : List Lexeme)
    (h : Binds values placeholder start ((value :: others).filter (!·.isNull))) :
    readOperands values ([.symbol ','].intercalate
        ((operandWords placeholder start (value :: others)).map fun w => [.word w]) ++
        .symbol ')' :: rest) = some (value :: others, rest) := by
  induction others generalizing value start with
  | nil =>
    have hword : operandWords placeholder start [value] = [operandWord placeholder start value] :=
      rfl
    have hvalue := readOperand_operandWord hnull h
    simp [hword, readOperands, hvalue]
  | cons next others ih =>
    have hvalue := readOperand_operandWord hnull h.cons.1
    have hread := ih next h.cons.2
    rw [operandWords_cons] at hread ⊢
    rw [operandWords_cons, List.map_cons, List.map_cons, List.intercalate_cons_cons,
      ← List.map_cons (f := fun w => [Lexeme.word w])]
    simp only [List.cons_append, List.nil_append, readOperands, hvalue, hread]
    rfl

end Binds

/-! ### Columns -/

theorem readPart_partLexeme (part : String) : readPart (partLexeme part) = some part := by
  by_cases hstar : part = "*"
  · subst hstar
    rfl
  · rw [partLexeme, if_neg hstar]
    rfl

/-- Parts with dots between them are read back, unless a dot follows them. -/
theorem readParts_intercalate {write : String → Lexeme}
    (hwrite : ∀ part, readPart (write part) = some part) {parts : List String} (hne : parts ≠ [])
    {rest : List Lexeme} (hrest : rest.head? ≠ some (.symbol '.')) :
    readParts ([.symbol '.'].intercalate (parts.map fun part => [write part]) ++ rest) =
      some (parts, rest) := by
  induction parts with
  | nil => exact absurd rfl hne
  | cons part parts ih =>
    cases parts with
    | nil =>
      cases rest with
      | nil => simp [readParts, hwrite]
      | cons next rest =>
        have hnext : next ≠ .symbol '.' := by simpa using hrest
        simp [readParts, hwrite, hnext]
    | cons second parts =>
      have hread := ih (List.cons_ne_nil _ _)
      rw [List.map_cons] at hread
      rw [List.map_cons, List.map_cons, List.intercalate_cons_cons]
      simp only [List.cons_append, List.nil_append, readParts, hwrite, hread]
      rfl

/-- A column reference is read back, unless a dot follows it. -/
theorem readParts_referenceLexemes (column : String) {rest : List Lexeme}
    (hrest : rest.head? ≠ some (.symbol '.')) :
    readParts (referenceLexemes column ++ rest) = some (TableName.parts column, rest) :=
  readParts_intercalate readPart_partLexeme (TableName.parts_ne_nil column) hrest

/-- A column reference starts with a part of its own. -/
theorem referenceLexemes_eq_cons (column : String) :
    ∃ part lexemes, referenceLexemes column = partLexeme part :: lexemes := by
  rw [referenceLexemes]
  cases hparts : TableName.parts column with
  | nil => exact absurd hparts (TableName.parts_ne_nil column)
  | cons part parts => cases parts <;> exact ⟨part, _, rfl⟩

/-! ### Conditions -/

section Chain

variable {keyword : String} {join : Filter → Filter → Filter}
  {operand : List Lexeme → Option (Filter × List Lexeme)}

/-- A chain ends where its keyword does not follow. -/
theorem readMore_of_head_ne {rest : List Lexeme} (h : rest.head? ≠ some (.word keyword))
    (steps : Nat) (left : Filter) :
    readMore keyword join operand steps left rest = some (left, rest) := by
  unfold readMore
  split
  · next w rest =>
    have hw : w ≠ keyword := by simpa using h
    rw [if_neg hw]
  · rfl

/-- A chain of one operand. -/
theorem readChain_one {lexemes rest : List Lexeme} {filter : Filter}
    (hread : operand lexemes = some (filter, rest)) (h : rest.head? ≠ some (.word keyword)) :
    readChain keyword join operand lexemes = some (filter, rest) := by
  simp [readChain, hread, readMore_of_head_ne h]

/-- A chain of two operands. -/
theorem readChain_two {lexemes middle rest : List Lexeme} {left right : Filter}
    (hleft : operand lexemes = some (left, .word keyword :: middle))
    (hright : operand middle = some (right, rest)) (h : rest.head? ≠ some (.word keyword)) :
    readChain keyword join operand lexemes = some (join left right, rest) := by
  simp [readChain, hleft, readMore, hright, readMore_of_head_ne h]

end Chain

section Reading

variable {k : Dialect.Supported} {values : String → Option Value}

/-- No placeholder is the null literal. -/
theorem placeholder_ne_null (k : Dialect.Supported) (index : Nat) :
    k.dialect.placeholder index ≠ "NULL" := by
  rw [k.placeholder_eq]
  intro h
  have hchars := congrArg (fun s => s.toList.head?) h
  cases k <;> simp [String.toList_append, Dialect.Supported.mark] at hchars

/-- What stands behind a condition: nothing that would make it part of a larger one. -/
def Ends (rest : List Lexeme) : Prop :=
  rest.head? ≠ some (.word "AND") ∧ rest.head? ≠ some (.word "OR")

theorem ends_parenthesis (rest : List Lexeme) : Ends (.symbol ')' :: rest) := by
  simp [Ends]

/-- A condition without connectives, wherever conditions stand. -/
theorem readAlternatives_of_readNested {depth : Nat} {lexemes rest : List Lexeme} {filter : Filter}
    (hread : readNested values depth lexemes = some (filter, rest)) (hrest : Ends rest) :
    readAlternatives (readNested values depth) lexemes = some (filter, rest) :=
  readChain_one (readChain_one hread hrest.1) hrest.2

/-- A condition in parentheses. -/
theorem readNested_parenthesised {depth : Nat} {lexemes rest : List Lexeme} {filter : Filter}
    (hread : readAlternatives (readNested values depth) (lexemes ++ .symbol ')' :: rest) =
      some (filter, .symbol ')' :: rest)) :
    readNested values (depth + 1) (.symbol '(' :: (lexemes ++ .symbol ')' :: rest)) =
      some (filter, rest) := by
  simp [readNested, hread]

/-- What is said of a column. -/
theorem readNested_reference {column : String} {next : Lexeme} {rest rest' : List Lexeme}
    {filter : Filter} (hnext : next ≠ .symbol '.') (depth : Nat)
    (hread : readAbout values column (next :: rest) = some (filter, rest')) :
    readNested values (depth + 1) (referenceLexemes column ++ next :: rest) =
      some (filter, rest') := by
  have hparts := @readParts_referenceLexemes column (next :: rest) (by simpa using hnext)
  obtain ⟨part, lexemes, hlexemes⟩ := referenceLexemes_eq_cons column
  have hpredicate : readNested values (depth + 1) (referenceLexemes column ++ next :: rest) =
      (readParts (referenceLexemes column ++ next :: rest)).bind fun (names, rest) =>
        readAbout values (".".intercalate names) rest := by
    rw [hlexemes, partLexeme]
    by_cases hstar : part = "*"
    · rw [if_pos hstar]
      rfl
    · rw [if_neg hstar]
      rfl
  rw [hpredicate, hparts]
  simpa [TableName.intercalate_parts] using hread

/-- A condition has a lexeme. -/
theorem length_phrase_pos (placeholder : Nat → String) (filter : Filter) (start : Nat) :
    0 < (filter.phrase placeholder start).length := by
  fun_cases phrase <;> simp only [List.length_append, List.length_cons] <;> omega

/-- A comparison is read back. -/
theorem readNested_compare {column : String} {comparison : Comparison} {value : Value} {start : Nat}
    (h : Binds values k.dialect.placeholder start (compare column comparison value).operands)
    (depth : Nat) (rest : List Lexeme) :
    readNested values (depth + 1)
        ((compare column comparison value).phrase k.dialect.placeholder start ++ rest) =
      some (compare column comparison value, rest) := by
  have hvalue := readOperand_operandWord (placeholder_ne_null k) h
  have hcomparison : comparison? comparison.lexeme = some comparison := by
    cases comparison <;> rfl
  have habout : readAbout values column (comparison.lexeme ::
      .word (operandWord k.dialect.placeholder start value) :: rest) =
        some (compare column comparison value, rest) := by
    cases comparison <;> simp_all [readAbout, Comparison.lexeme]
  have hcompare := readNested_reference (by cases comparison <;> simp [Comparison.lexeme]) depth
    habout
  cases value with
  | null =>
    cases comparison with
    | equal =>
      rw [phrase, List.append_assoc]
      apply readNested_reference
      · simp
      · rfl
    | notEqual =>
      rw [phrase, List.append_assoc]
      apply readNested_reference
      · simp
      · rfl
    | _ => simpa [phrase] using hcompare
  | _ => cases comparison <;> simpa [phrase] using hcompare

/-- A range is read back. -/
theorem readNested_between {column : String} {low high : Value} {start : Nat}
    (h : Binds values k.dialect.placeholder start (between column low high).operands)
    (depth : Nat) (rest : List Lexeme) :
    readNested values (depth + 1)
        ((between column low high).phrase k.dialect.placeholder start ++ rest) =
      some (between column low high, rest) := by
  have hoperands := Binds.cons h
  have hlow := readOperand_operandWord (placeholder_ne_null k) hoperands.1
  have hhigh := readOperand_operandWord (placeholder_ne_null k) hoperands.2
  rw [phrase, List.append_assoc]
  apply readNested_reference
  · simp
  · simp [readAbout, hlow, hhigh]

/-- Membership is read back; in an empty list, without the column. -/
theorem readNested_oneOf {column : String} {items : List Value} {negated : Bool} {start : Nat}
    (h : Binds values k.dialect.placeholder start (oneOf column items negated).operands)
    (depth : Nat) (rest : List Lexeme) :
    readNested values (depth + 1)
        ((oneOf column items negated).phrase k.dialect.placeholder start ++ rest) =
      some ((oneOf column items negated).recoverable, rest) := by
  cases items with
  | nil => cases negated <;> rfl
  | cons value others =>
    have hitems := readOperands_operandWords (placeholder_ne_null k) value others rest h
    cases negated <;> simp only [phrase, List.append_assoc] <;> apply readNested_reference
    · simp
    · simp [readAbout, hitems, recoverable]
    · simp
    · simp [readAbout, hitems, recoverable]

private theorem exists_depth {filter : Filter} {start depth : Nat}
    (h : (filter.phrase k.dialect.placeholder start).length ≤ depth) : ∃ d, depth = d + 1 := by
  have hpositive := length_phrase_pos k.dialect.placeholder filter start
  exact ⟨depth - 1, by omega⟩

/-- A filter is read back wherever it stands, if the depth is at least the number of lexemes. -/
theorem readAlternatives_phrase {filter : Filter} {start depth : Nat} {rest : List Lexeme}
    (h : Binds values k.dialect.placeholder start filter.operands)
    (hdepth : (filter.phrase k.dialect.placeholder start).length ≤ depth) (hrest : Ends rest) :
    readAlternatives (readNested values depth) (filter.phrase k.dialect.placeholder start ++ rest) =
      some (filter.recoverable, rest) := by
  induction filter generalizing start depth rest with
  | compare column comparison value =>
    obtain ⟨depth, rfl⟩ := exists_depth hdepth
    exact readAlternatives_of_readNested (readNested_compare h depth rest) hrest
  | between column low high =>
    obtain ⟨depth, rfl⟩ := exists_depth hdepth
    exact readAlternatives_of_readNested (readNested_between h depth rest) hrest
  | oneOf column values negated =>
    obtain ⟨depth, rfl⟩ := exists_depth hdepth
    exact readAlternatives_of_readNested (readNested_oneOf h depth rest) hrest
  | and left right ihLeft ihRight =>
    obtain ⟨depth, rfl⟩ := exists_depth hdepth
    obtain ⟨hdeepLeft, hdeepRight⟩ : (left.phrase k.dialect.placeholder start).length ≤ depth ∧
        (right.phrase k.dialect.placeholder (start + left.operands.length)).length ≤ depth := by
      simp only [phrase, List.length_cons, List.length_append] at hdepth
      omega
    have hleft (rest : List Lexeme) := readNested_parenthesised
      (ihLeft h.append_left hdeepLeft (ends_parenthesis rest))
    have hright := readNested_parenthesised
      (ihRight h.append_right hdeepRight (ends_parenthesis rest))
    simpa [phrase, recoverable, readAlternatives] using
      readChain_one (readChain_two (hleft _) hright hrest.1) hrest.2
  | or left right ihLeft ihRight =>
    obtain ⟨depth, rfl⟩ := exists_depth hdepth
    obtain ⟨hdeepLeft, hdeepRight⟩ : (left.phrase k.dialect.placeholder start).length ≤ depth ∧
        (right.phrase k.dialect.placeholder (start + left.operands.length)).length ≤ depth := by
      simp only [phrase, List.length_cons, List.length_append] at hdepth
      omega
    have hleft (rest : List Lexeme) := readNested_parenthesised
      (ihLeft h.append_left hdeepLeft (ends_parenthesis rest))
    have hright := readNested_parenthesised
      (ihRight h.append_right hdeepRight (ends_parenthesis rest))
    have hor (rest : List Lexeme) : (Lexeme.word "OR" :: rest).head? ≠ some (.word "AND") := by simp
    simpa [phrase, recoverable, readAlternatives] using
      readChain_two (readChain_one (hleft _) (hor _)) (readChain_one hright hrest.1) hrest.2
  | not inner ih =>
    obtain ⟨depth, rfl⟩ := exists_depth hdepth
    obtain ⟨deeper, rfl⟩ : ∃ d, depth = d + 1 := by
      simp only [phrase, List.length_cons, List.length_append] at hdepth
      exact ⟨depth - 1, by omega⟩
    have hdeep : (inner.phrase k.dialect.placeholder start).length ≤ deeper := by
      simp only [phrase, List.length_cons, List.length_append] at hdepth
      omega
    have hinner := readNested_parenthesised (ih h hdeep (ends_parenthesis rest))
    apply readAlternatives_of_readNested _ hrest
    simp [phrase, recoverable, readNested, hinner]

end Reading

/-- A parameter is found by its number. -/
private theorem find_number (name : Nat → String) {start i : Nat} {bound : List Value}
    {value : Value} (h : bound[i]? = some value) :
    (InParameter.number name start bound).find? (fun p => p.index = start + i) =
      some ⟨name (start + i), start + i, value⟩ := by
  induction bound generalizing start i with
  | nil => cases h
  | cons first bound ih =>
    have hnumber : InParameter.number name start (first :: bound) =
        ⟨name start, start, first⟩ :: InParameter.number name (start + 1) bound := by
      simp [InParameter.number, List.mapIdx_cons, Nat.add_assoc, Nat.add_comm 1]
    rw [hnumber, List.find?_cons]
    cases i with
    | zero =>
      have hvalue : first = value := by simpa using h
      simp [hvalue]
    | succ i =>
      have hnext := @ih (start + 1) i (by simpa using h)
      simpa [Nat.add_assoc, Nat.add_comm 1] using hnext

/-- Numbered parameters are what their placeholders stand for. -/
theorem binds_number (k : Dialect.Supported) (name : Nat → String) (start : Nat)
    (bound : List Value) :
    Binds (placeholderValue k (InParameter.number name start bound)) k.dialect.placeholder start
      bound := by
  intro i value hi
  have hmark : k.mark.toList.isPrefixOf? (k.dialect.placeholder (start + i)).toList =
      some (Nat.toDigits 10 (start + i + k.firstNumber)) := by
    have hdigits (n : Nat) : (toString n).toList = Nat.toDigits 10 n := by simp
    rw [k.placeholder_eq, String.toList_append, hdigits]
    cases k <;> rfl
  simp [placeholderValue, hmark, Number.readDigits_toDigits, find_number name hi]

/-- The text and the parameters of a condition determine its filter, but for the columns that are
asked for membership in an empty list: one reader gives the filter back, wherever the placeholders
start. -/
theorem whereClause_determines_filter (k : Dialect.Supported) :
    (∀ (filter : Filter) (offset : Nat), filter.Plain → ∃ clause,
      k.dialect.whereClause filter offset = .ok clause ∧
      readCondition k clause.sql clause.parameters = some filter.recoverable) ∧
    ∀ (first second : Filter) (m n : Nat), first.Plain → second.Plain →
      k.dialect.whereClause first m = k.dialect.whereClause second n →
      first.recoverable = second.recoverable := by
  have hread (filter : Filter) (offset : Nat) (hplain : filter.Plain) : ∃ clause,
      k.dialect.whereClause filter offset = .ok clause ∧
      readCondition k clause.sql clause.parameters = some filter.recoverable := by
    have hclause : k.dialect.whereClause filter offset =
        .ok ⟨"WHERE " ++ Fragment.fill k.dialect.placeholder offset
            (filter.template (quoteReference k.delimiters.quote)),
          InParameter.number k.dialect.parameterName offset filter.operands⟩ := by
      rw [k.plain.whereClause, ← k.quoteColumn_eq]
      exact compile_eq _ _ _ _ _
    have hwhere : Text.Reads k.delimiters false "WHERE " [.word "WHERE"] :=
      Text.Reads.of_scan (by cases k <;> rfl)
    have hlexemes := (hwhere.append (reads_template k offset hplain) rfl).lexemes_eq
    have hends : Ends [] := by simp [Ends]
    have halternatives := readAlternatives_phrase
      (binds_number k k.dialect.parameterName offset filter.operands) Nat.le.refl hends
    rw [List.append_nil] at halternatives
    exact ⟨_, hclause, by simp [readCondition, hlexemes, halternatives]⟩
  refine ⟨hread, fun first second m n hfirst hsecond heq => ?_⟩
  obtain ⟨clause, hclause, hdecoded⟩ := hread first m hfirst
  obtain ⟨clause', hclause', hdecoded'⟩ := hread second n hsecond
  rw [heq, hclause'] at hclause
  cases hclause
  exact Option.some.inj (hdecoded.symm.trans hdecoded')

/-- A range and a list with a null, nested and with a name that contains a quote and a placeholder,
are read back; of an empty list any column may be asked. -/
theorem whereClause_determines_nested_filter :
    (∃ clause,
      Dialect.sqlServer.whereClause (.and (.not (.between "a.b]?1" .null (.int 2)))
        (.oneOf "c" [.text "@par3", .null] true)) 3 = .ok clause ∧
      readCondition .sqlServer clause.sql clause.parameters =
        some (.and (.not (.between "a.b]?1" .null (.int 2)))
          (.oneOf "c" [.text "@par3", .null] true))) ∧
    Dialect.sqlServer.whereClause (.oneOf "a" [] false) 0 =
        Dialect.sqlServer.whereClause (.oneOf "b" [] false) 1 ∧
      (oneOf "a" [] false).recoverable = (oneOf "b" [] false).recoverable := by
  have hsame : Dialect.sqlServer.whereClause (.oneOf "a" [] false) 0 =
      Dialect.sqlServer.whereClause (.oneOf "b" [] false) 1 := by
    rw [Dialect.plain_sqlServer.whereClause]
    simp [compile_eq, template, operands, InParameter.number, Fragment.fill]
  refine ⟨(whereClause_determines_filter .sqlServer).1 _ 3 ?_, hsame,
    (whereClause_determines_filter .sqlServer).2 _ _ 0 1 ?_ ?_ hsame⟩
  all_goals simp [Plain, columns, PlainReference]

end Filter

end SchemaEvolution
