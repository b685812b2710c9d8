import SchemaEvolution.Proofs.Select.Phrase

/-!
# The placeholders of statements

Which placeholders a statement shows to a reader that takes names and literals as they are quoted.
Names show none, whatever they look like, so the statements on rows show those of their values and
then those of their condition.
-/

namespace SchemaEvolution

open Text (Delimiters Lexeme Reads leads scan)

namespace Text

/-- The characters that mark placeholders. -/
def isMark (c : Char) : Bool := c == '?' || c == '$' || c == '@'

/-- The placeholder that a lexeme is: a word with a mark in it. -/
def Lexeme.placeholder? : Lexeme → Option String
  | .word w => if w.toList.any isMark then some w else none
  | _ => none

/-- The placeholders among some lexemes, in order. -/
def placeholdersOf (read : List Lexeme) : List String := read.filterMap Lexeme.placeholder?

/-- The placeholders of a statement, in order. -/
def placeholders (d : Delimiters) (sql : String) : List String := placeholdersOf (lexemes d sql)

@[simp] theorem placeholdersOf_nil : placeholdersOf [] = [] := rfl

@[simp] theorem placeholdersOf_append (first second : List Lexeme) :
    placeholdersOf (first ++ second) = placeholdersOf first ++ placeholdersOf second :=
  List.filterMap_append

@[simp] theorem placeholdersOf_identifier (s : String) (read : List Lexeme) :
    placeholdersOf (.identifier s :: read) = placeholdersOf read := rfl

@[simp] theorem placeholdersOf_symbol (c : Char) (read : List Lexeme) :
    placeholdersOf (.symbol c :: read) = placeholdersOf read := rfl

@[simp] theorem placeholdersOf_operator (s : String) (read : List Lexeme) :
    placeholdersOf (.operator s :: read) = placeholdersOf read := rfl

theorem placeholdersOf_word (w : String) (read : List Lexeme) :
    placeholdersOf (.word w :: read) =
      (if w.toList.any isMark then [w] else []) ++ placeholdersOf read := by
  by_cases hmark : w.toList.any isMark = true
  · simp [placeholdersOf, Lexeme.placeholder?, hmark]
  · simp [placeholdersOf, Lexeme.placeholder?, hmark]

/-- Symbols between some lexemes show no placeholders. -/
theorem placeholdersOf_intercalate (c : Char) (items : List (List Lexeme)) :
    placeholdersOf ([.symbol c].intercalate items) = items.flatMap placeholdersOf := by
  induction items with
  | nil => rfl
  | cons item items ih =>
    cases items with
    | nil => simp
    | cons next items => simpa [List.intercalate_cons_cons] using ih

/-- Whether words have no open end and show no placeholder, whatever identifiers stand between. -/
def isFixed (text : String) : Bool :=
  [Delimiters.quotes, .brackets].all fun d =>
    (scan d .between text.toList).2 = .between ∧ placeholdersOf (scan d .between text.toList).1 = []

/-- Wherever it stands, a text shows some placeholders; one that is open has to be stopped. -/
def Shows (d : Delimiters) (isOpen : Bool) (text : String) (shown : List String) : Prop :=
  ∃ read, Reads d isOpen text read ∧ placeholdersOf read = shown

namespace Shows

variable {d : Delimiters} {isOpen isOpen' : Bool} {text text' : String}
  {shown shown' : List String}

theorem placeholders_eq (h : Shows d isOpen text shown) : placeholders d text = shown := by
  obtain ⟨read, hread, hshown⟩ := h
  rw [placeholders, hread.lexemes_eq, hshown]

theorem append (h : Shows d isOpen text shown) (h' : Shows d isOpen' text' shown')
    (hlead : (!isOpen || leads text'.toList) = true) :
    Shows d isOpen' (text ++ text') (shown ++ shown') := by
  obtain ⟨read, hread, rfl⟩ := h
  obtain ⟨read', hread', rfl⟩ := h'
  exact ⟨read ++ read', hread.append hread' hlead, placeholdersOf_append _ _⟩

/-- A text without open ends and without placeholders, by reading it. -/
theorem of_scan (h : (scan d .between text.toList).2 = .between)
    (hshown : placeholdersOf (scan d .between text.toList).1 = []) : Shows d false text [] :=
  ⟨_, Reads.of_scan (Prod.ext rfl h), hshown⟩

/-- Words without open ends and without placeholders, between which identifiers of any kind may
stand. -/
theorem of_isFixed (h : isFixed text = true) : Shows d false text [] := by
  have hd : (scan d .between text.toList).2 = .between ∧
      placeholdersOf (scan d .between text.toList).1 = [] := by
    have hall := List.all_eq_true.mp h d (by cases d <;> simp)
    exact of_decide_eq_true hall
  exact of_scan hd.1 hd.2

/-- A text without placeholders in which nothing is left unclosed, by reading it. -/
theorem of_lexemes (h : (scan d .between text.toList).2.isClosed = true)
    (hshown : placeholders d text = []) : Shows d true text [] :=
  ⟨_, Reads.of_lexemes rfl h, hshown⟩

theorem identifier (s : String) : Shows d true (d.quote s) [] := ⟨_, Reads.identifier s, rfl⟩

theorem table (name : String) : Shows d true (quoteParts d.quote name) [] := by
  refine ⟨_, Reads.table name, ?_⟩
  simp [TableName.lexemes, placeholdersOf_intercalate]

/-- Identifiers between commas. -/
theorem identifiers (names : List String) : Shows d true (commaList (names.map d.quote)) [] := by
  refine ⟨_, Reads.commaList names fun name _ => Reads.identifier name, ?_⟩
  simp [placeholdersOf_intercalate]

end Shows

/-- Digits are no marks. -/
theorem placeholdersOf_numeral (n : Nat) : placeholdersOf [.word (toString n)] = [] := by
  have hmarks : (toString n).toList.any isMark = false := by
    rw [List.any_eq_false]
    intro c hc hmark
    have hdigit := Reads.isDigit_of_mem_toString hc
    simp only [isMark, Bool.or_eq_true, beq_iff_eq, or_assoc] at hmark
    rcases hmark with rfl | rfl | rfl <;> cases hdigit
  rw [placeholdersOf_word, hmarks]
  rfl

theorem placeholdersOf_referenceLexemes (column : String) :
    placeholdersOf (referenceLexemes column) = [] := by
  have hpart (part : String) : placeholdersOf [partLexeme part] = [] := by
    by_cases hstar : part = "*" <;> simp [partLexeme, hstar]
  simp [referenceLexemes, placeholdersOf_intercalate, hpart]

end Text

open Text (Shows placeholdersOf)

variable (k : Dialect.Supported)

theorem Dialect.Supported.placeholdersOf_placeholder (index : Nat) :
    placeholdersOf [.word (k.dialect.placeholder index)] = [k.dialect.placeholder index] := by
  have hmark : (k.dialect.placeholder index).toList.any Text.isMark = true := by
    have hmark : k.mark.toList.any Text.isMark = true := by cases k <;> rfl
    rw [k.placeholder_eq, String.toList_append, List.any_append, hmark, Bool.true_or]
  simp [Text.placeholdersOf_word, hmark]

/-- Placeholders between commas. -/
theorem Dialect.Supported.shows_placeholders (n : Nat) :
    Shows k.delimiters true (commaList ((List.range n).map k.dialect.placeholder))
      ((List.range n).map k.dialect.placeholder) := by
  refine ⟨_, Text.Reads.commaList _ fun i _ => Text.Reads.placeholder k i, ?_⟩
  simp only [Text.placeholdersOf_intercalate, List.flatMap_map, k.placeholdersOf_placeholder]
  exact List.map_eq_flatMap.symm

namespace Filter

/-- An operand that is bound shows its placeholder. -/
theorem placeholdersOf_operandWord (start : Nat) (value : Value) :
    placeholdersOf [.word (operandWord k.dialect.placeholder start value)] =
      (List.range' start ([value].filter (!·.isNull)).length).map k.dialect.placeholder := by
  cases value with
  | null =>
    rw [operandWord_null]
    rfl
  | _ =>
    rw [operandWord_of_not_null _ _ rfl, k.placeholdersOf_placeholder]
    rfl

/-- The placeholders of two parts follow each other. -/
private theorem map_range'_add (start m n : Nat) :
    (List.range' start (m + n)).map k.dialect.placeholder =
      (List.range' start m).map k.dialect.placeholder ++
        (List.range' (start + m) n).map k.dialect.placeholder := by
  rw [← List.range'_append_1, List.map_append]

/-- Operands one after the other show their placeholders, in order. -/
theorem placeholdersOf_operandWords (start : Nat) (values : List Value) :
    placeholdersOf ([.symbol ','].intercalate
        ((operandWords k.dialect.placeholder start values).map fun w => [.word w])) =
      (List.range' start (values.filter (!·.isNull)).length).map k.dialect.placeholder := by
  rw [Text.placeholdersOf_intercalate, List.flatMap_map]
  induction values generalizing start with
  | nil => rfl
  | cons value values ih =>
    have hsplit : (value :: values).filter (!·.isNull) =
        [value].filter (!·.isNull) ++ values.filter (!·.isNull) := List.filter_append [value] values
    rw [operandWords_cons, List.flatMap_cons, ih, placeholdersOf_operandWord, hsplit,
      List.length_append, map_range'_add, holes_operandTemplate]

/-- The operands of a filter show its placeholders, in order. -/
theorem placeholdersOf_phrase (filter : Filter) (start : Nat) :
    placeholdersOf (filter.phrase k.dialect.placeholder start) =
      (List.range' start filter.operands.length).map k.dialect.placeholder := by
  induction filter generalizing start with
  | compare column comparison value =>
    have hcompare : placeholdersOf (referenceLexemes column ++
        [comparison.lexeme, .word (operandWord k.dialect.placeholder start value)]) =
          (List.range' start (compare column comparison value).operands.length).map
            k.dialect.placeholder := by
      rw [operands, ← placeholdersOf_operandWord, Text.placeholdersOf_append,
        Text.placeholdersOf_referenceLexemes]
      cases comparison <;> rfl
    cases value with
    | null =>
      cases comparison with
      | equal =>
        rw [phrase, Text.placeholdersOf_append, Text.placeholdersOf_referenceLexemes]
        rfl
      | notEqual =>
        rw [phrase, Text.placeholdersOf_append, Text.placeholdersOf_referenceLexemes]
        rfl
      | _ => exact hcompare
    | _ => cases comparison <;> exact hcompare
  | between column low high =>
    have hoperands : (between column low high).operands =
        [low].filter (!·.isNull) ++ [high].filter (!·.isNull) := List.filter_append [low] [high]
    rw [hoperands, List.length_append, map_range'_add, ← placeholdersOf_operandWord,
      ← holes_operandTemplate, ← placeholdersOf_operandWord, ← Text.placeholdersOf_append, phrase,
      Text.placeholdersOf_append, Text.placeholdersOf_referenceLexemes]
    rfl
  | oneOf column values negated =>
    cases values with
    | nil => cases negated <;> rfl
    | cons value values =>
      have hkeywords : placeholdersOf
          (if negated then [.word "NOT", .word "IN"] else [.word "IN"]) = [] := by
        cases negated <;> rfl
      rw [phrase, Text.placeholdersOf_append, Text.placeholdersOf_append,
        Text.placeholdersOf_symbol, Text.placeholdersOf_append,
        Text.placeholdersOf_referenceLexemes, placeholdersOf_operandWords, hkeywords, operands]
      exact List.append_nil _
  | and left right ihLeft ihRight =>
    rw [operands, List.length_append, map_range'_add, ← ihLeft, ← ihRight]
    simp [phrase, Text.placeholdersOf_word, Text.isMark]
  | or left right ihLeft ihRight =>
    rw [operands, List.length_append, map_range'_add, ← ihLeft, ← ihRight]
    simp [phrase, Text.placeholdersOf_word, Text.isMark]
  | not inner ih =>
    rw [operands, ← ih]
    simp [phrase, Text.placeholdersOf_word, Text.isMark]

end Filter

/-! ### Statements on rows -/

namespace Dialect.Supported

/-- A condition shows the placeholders of its operands. -/
theorem shows_conditionText {filter : Filter} (h : filter.Plain) (start : Nat) :
    Shows k.delimiters true (k.conditionText filter start)
      ((List.range' start filter.operands.length).map k.dialect.placeholder) :=
  ⟨_, k.reads_conditionText h start, Filter.placeholdersOf_phrase k filter start⟩

/-- What follows a statement shows the placeholders of its operands. -/
theorem shows_following {filter : Option Filter} (h : ∀ f ∈ filter, f.Plain) (start : Nat)
    {text : String} {shown : List String} (htext : Shows k.delimiters true text shown) :
    Shows k.delimiters true
      (text ++ following (filter.map fun f => k.conditionText f start))
      (shown ++
        (List.range' start (Filter.operandsOf filter).length).map k.dialect.placeholder) := by
  cases filter with
  | none => simpa [following, Filter.operandsOf] using htext
  | some filter =>
    have hspace : Shows k.delimiters false " " [] := Shows.of_isFixed (by decide)
    have hcondition := (htext.append hspace rfl).append
      (k.shows_conditionText (h filter rfl) start) rfl
    simpa [following, Filter.operandsOf, String.append_assoc] using hcondition

/-- An insert shows one placeholder for each of its columns. What stands before the values may be
anything that shows none. -/
theorem shows_insertStatement {middle : String}
    (hmiddle : ∀ {text : String}, Shows k.delimiters true text [] →
      Shows k.delimiters true (text ++ middle) []) (table : String) (columns : List String) :
    Shows k.delimiters true
      (insertStatement k.dialect.quoteIdentifier k.dialect.quoteTable k.dialect.placeholder middle
        table columns) ((List.range columns.length).map k.dialect.placeholder) := by
  have hinto : Shows k.delimiters false "INSERT INTO " [] := Shows.of_isFixed (by decide)
  have htable := hinto.append (Shows.table table) rfl
  rw [insertStatement, k.quoteIdentifier_eq, k.quoteTable_eq]
  cases columns with
  | nil =>
    have hdefaults : Shows k.delimiters true " DEFAULT VALUES" [] :=
      Shows.of_lexemes (by cases k <;> rfl) (by cases k <;> rfl)
    exact (hmiddle htable).append hdefaults rfl
  | cons column columns =>
    have hopen : Shows k.delimiters false " (" [] := Shows.of_isFixed (by decide)
    have hclose : Shows k.delimiters true ")" [] :=
      Shows.of_lexemes (by cases k <;> rfl) (by cases k <;> rfl)
    have hvalues : Shows k.delimiters false " VALUES (" [] := Shows.of_isFixed (by decide)
    have hcolumns := ((htable.append hopen rfl).append
      (Shows.identifiers (column :: columns)) rfl).append hclose rfl
    have hshows := (((hmiddle hcolumns).append hvalues rfl).append
      (k.shows_placeholders (column :: columns).length) rfl).append hclose rfl
    simpa using hshows

theorem shows_insert (table : String) (columns : List String) :
    Shows k.delimiters true (k.dialect.insert table columns)
      ((List.range columns.length).map k.dialect.placeholder) := by
  rw [k.plain.insert]
  exact k.shows_insertStatement (by simp) table columns

theorem shows_insertReturning (table : String) (columns : List String) (column : String)
    (out : OutParameter) : ∃ sql, k.dialect.insertReturning table columns column out = .ok sql ∧
      Shows k.delimiters true sql ((List.range columns.length).map k.dialect.placeholder) := by
  have hreturning : Shows k.delimiters false " RETURNING " [] := Shows.of_isFixed (by decide)
  have hinserted : Shows k.delimiters false " OUTPUT INSERTED." [] := Shows.of_isFixed (by decide)
  have hcolumn : Shows k.delimiters true (k.dialect.quoteIdentifier column) [] := by
    rw [k.quoteIdentifier_eq]
    exact Shows.identifier column
  have hrow : Shows k.delimiters true
      (insertStatement k.dialect.quoteIdentifier k.dialect.quoteTable k.dialect.placeholder ""
        table columns ++ " RETURNING " ++ k.dialect.quoteIdentifier column)
      ((List.range columns.length).map k.dialect.placeholder) := by
    simpa using ((k.shows_insertStatement (by simp) table columns).append hreturning rfl).append
      hcolumn rfl
  have houtput := k.shows_insertStatement
    (fun h => by simpa [String.append_assoc] using (h.append hinserted rfl).append hcolumn rfl)
    table columns
  cases k with
  | sqlite => exact ⟨_, rfl, hrow⟩
  | postgres => exact ⟨_, rfl, hrow⟩
  | sqlServer => exact ⟨_, rfl, houtput⟩

theorem shows_update (table : String) (columns : List String) :
    Shows k.delimiters true (k.dialect.update table columns)
      ((List.range columns.length).map k.dialect.placeholder) := by
  have hupdate : Shows k.delimiters false "UPDATE " [] := Shows.of_isFixed (by decide)
  have hset : Shows k.delimiters false " SET " [] := Shows.of_isFixed (by decide)
  have hequals : Text.Reads k.delimiters false " = " [.operator "="] :=
    Text.Reads.of_scan (by cases k <;> rfl)
  have hpairs (quote : String → String) :
      (columns.mapIdx fun i column => quote column ++ " = " ++ k.dialect.placeholder i) =
        columns.zipIdx.map fun p => quote p.1 ++ " = " ++ k.dialect.placeholder p.2 :=
    List.mapIdx_eq_zipIdx_map
  have hwritten : k.dialect.update table columns = "UPDATE " ++ k.dialect.quoteTable table ++
      " SET " ++ commaList (columns.mapIdx fun i column =>
        k.dialect.quoteIdentifier column ++ " = " ++ k.dialect.placeholder i) := by
    cases k <;> rfl
  have hassigned : Shows k.delimiters true
      (commaList (columns.zipIdx.map fun p =>
        k.delimiters.quote p.1 ++ " = " ++ k.dialect.placeholder p.2))
      ((List.range columns.length).map k.dialect.placeholder) := by
    refine ⟨_, Text.Reads.commaList _ fun p _ => ((Text.Reads.identifier p.1).append
      hequals rfl).append (Text.Reads.placeholder k p.2) rfl, ?_⟩
    have hassignment (p : String × Nat) : placeholdersOf ([.identifier p.1] ++ [.operator "="] ++
        [.word (k.dialect.placeholder p.2)]) = [k.dialect.placeholder p.2] :=
      k.placeholdersOf_placeholder p.2
    rw [Text.placeholdersOf_intercalate, List.flatMap_map]
    simp only [hassignment]
    rw [← List.map_eq_flatMap, ← Function.comp_def, ← List.map_map, List.zipIdx_map_snd,
      List.range_eq_range']
  rw [hwritten, k.quoteTable_eq, k.quoteIdentifier_eq, hpairs]
  exact ((hupdate.append (Shows.table table) rfl).append hset rfl).append hassigned rfl

theorem shows_delete (table : String) : Shows k.delimiters true (k.dialect.delete table) [] := by
  have hdelete : Shows k.delimiters false "DELETE FROM " [] := Shows.of_isFixed (by decide)
  rw [k.plain.delete, k.quoteTable_eq]
  exact hdelete.append (Shows.table table) rfl

theorem shows_count (table : String) : Shows k.delimiters true (k.dialect.count table) [] := by
  have hcount : Shows k.delimiters false "SELECT COUNT(*) FROM " [] := Shows.of_isFixed (by decide)
  have hwritten :
      k.dialect.count table = "SELECT COUNT(*) FROM " ++ k.dialect.quoteTable table := by
    cases k <;> rfl
  rw [hwritten, k.quoteTable_eq]
  exact hcount.append (Shows.table table) rfl

theorem shows_hasRow {filter : Option Filter} (h : ∀ f ∈ filter, f.Plain) (table : String) :
    Shows k.delimiters true
      (k.dialect.hasRow table (filter.map fun f => k.conditionText f 0))
      ((List.range (Filter.operandsOf filter).length).map k.dialect.placeholder) := by
  have hexists : Shows k.delimiters false "SELECT CASE WHEN EXISTS (SELECT 1 FROM " [] :=
    Shows.of_isFixed (by decide)
  have hend : Shows k.delimiters true ") THEN 1 ELSE 0 END" [] :=
    Shows.of_lexemes (by cases k <;> rfl) (by cases k <;> rfl)
  have hwritten (condition : Option String) : k.dialect.hasRow table condition =
      "SELECT CASE WHEN EXISTS (SELECT 1 FROM " ++ k.dialect.quoteTable table ++
        following condition ++ ") THEN 1 ELSE 0 END" := by
    cases k <;> cases condition <;> rfl
  have hrows := k.shows_following h 0 (hexists.append (Shows.table table) rfl)
  rw [hwritten, k.quoteTable_eq, List.range_eq_range']
  simpa using hrows.append hend rfl

/-! ### Selects -/

private theorem placeholdersOf_paging (ordered : Bool) (skip take : Option UInt64) :
    placeholdersOf (Select.pagingLexemes k ordered skip take) = [] := by
  have hword (w : String) (n : Nat) (rest : List Lexeme) (hw : w.toList.any Text.isMark = false) :
      placeholdersOf (.word w :: .word (toString n) :: rest) = placeholdersOf rest := by
    have hnumeral : placeholdersOf (.word (toString n) :: rest) = placeholdersOf rest :=
      (Text.placeholdersOf_append [.word (toString n)] rest).trans
        (by rw [Text.placeholdersOf_numeral, List.nil_append])
    rw [Text.placeholdersOf_word, hw, hnumeral]
    rfl
  cases k <;> cases skip <;> cases take <;> cases ordered <;>
    simp [Select.pagingLexemes, Select.numbered, Select.unsortedLexemes, hword,
      Text.placeholdersOf_word, Text.isMark, -Nat.toString_eq_repr]

/-- A select shows the placeholders of its condition. -/
theorem placeholdersOf_select (query : Select) :
    placeholdersOf (query.phrase k) =
      (List.range (Filter.operandsOf query.filter).length).map k.dialect.placeholder := by
  have hprojection : placeholdersOf (Select.projectionLexemes query.columns) = [] := by
    rw [Select.projectionLexemes]
    split <;> simp [Text.placeholdersOf_intercalate, Text.placeholdersOf_referenceLexemes]
  have htables : placeholdersOf (Select.tableLexemes query.tables) = [] := by
    simp [Select.tableLexemes, TableName.lexemes, Text.placeholdersOf_intercalate]
  have hsorting : placeholdersOf (Select.sortLexemes query.sortedBy) = [] := by
    have hterm (term : SortTerm) : placeholdersOf term.lexemes = [] := by
      rw [SortTerm.lexemes, Text.placeholdersOf_append, Text.placeholdersOf_referenceLexemes]
      cases term.direction <;> rfl
    rw [Select.sortLexemes]
    split <;> simp [Text.placeholdersOf_word, Text.placeholdersOf_intercalate, hterm, Text.isMark]
  have hcondition : placeholdersOf (Select.conditionLexemes k query.filter) =
      (List.range (Filter.operandsOf query.filter).length).map k.dialect.placeholder := by
    cases query.filter with
    | none => rfl
    | some filter =>
      rw [List.range_eq_range']
      exact Filter.placeholdersOf_phrase k filter 0
  simp [Select.phrase, Text.placeholdersOf_word, hprojection, htables, hsorting, hcondition,
    k.placeholdersOf_paging, Text.isMark]

theorem shows_select {query : Select} (h : query.Plain) :
    Shows k.delimiters true
      (k.dialect.select query (query.filter.map fun f => k.conditionText f 0))
      ((List.range (Filter.operandsOf query.filter).length).map k.dialect.placeholder) :=
  ⟨_, k.reads_select h, k.placeholdersOf_select query⟩

end Dialect.Supported

end SchemaEvolution
