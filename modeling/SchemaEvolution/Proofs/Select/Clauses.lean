import SchemaEvolution.Proofs.Select.Phrase

/-!
# The clauses of a select

The keywords that start the clauses of a select, apart from what stands in parentheses. Names,
conditions and sort columns add none of them, so every clause occurs at most once, and in one order.
-/

namespace SchemaEvolution

open Text (Lexeme)

namespace Text

/-- The keywords that start clauses, in the order in which the clauses stand. -/
def clauseOrder : List String := ["FROM", "WHERE", "ORDER", "LIMIT", "OFFSET", "FETCH"]

/-- The keywords of clauses among some lexemes, in front of which `depth` parentheses are open. Those
in parentheses do not count. -/
def clausesFrom : Nat → List Lexeme → List String
  | _, [] => []
  | depth, .symbol '(' :: rest => clausesFrom (depth + 1) rest
  | depth, .symbol ')' :: rest => clausesFrom (depth - 1) rest
  | depth, .word w :: rest =>
    if depth = 0 ∧ w ∈ clauseOrder then w :: clausesFrom depth rest else clausesFrom depth rest
  | depth, _ :: rest => clausesFrom depth rest

/-- The clauses of a statement, by their keywords. -/
def clauses (d : Delimiters) (sql : String) : List String := clausesFrom 0 (lexemes d sql)

/-- Lexemes that start no clause, and close the parentheses that they open. -/
def StartsNoClause (read : List Lexeme) : Prop :=
  ∀ depth rest, clausesFrom depth (read ++ rest) = clausesFrom depth rest

/-- A lexeme that is neither a parenthesis nor the keyword of a clause. -/
def Lexeme.isOrdinary : Lexeme → Bool
  | .symbol c => c ≠ '(' ∧ c ≠ ')'
  | .word w => w ∉ clauseOrder
  | _ => true

namespace StartsNoClause

variable {read read' : List Lexeme}

theorem nil : StartsNoClause [] := fun _ _ => rfl

/-- There are no clauses in them. -/
theorem clausesFrom_eq_nil (h : StartsNoClause read) (depth : Nat) :
    clausesFrom depth read = [] := by
  simpa [clausesFrom] using h depth []

theorem append (h : StartsNoClause read) (h' : StartsNoClause read') :
    StartsNoClause (read ++ read') := by
  intro depth rest
  rw [List.append_assoc, h, h']

theorem singleton {l : Lexeme} (h : l.isOrdinary = true) : StartsNoClause [l] := by
  intro depth rest
  cases l with
  | symbol c =>
    have hc : c ≠ '(' ∧ c ≠ ')' := by simpa [Lexeme.isOrdinary] using h
    simp [clausesFrom, hc]
  | word w =>
    have hw : w ∉ clauseOrder := by simpa [Lexeme.isOrdinary] using h
    simp [clausesFrom, hw]
  | _ => rfl

theorem cons {l : Lexeme} (hl : l.isOrdinary = true) (h : StartsNoClause read) :
    StartsNoClause (l :: read) :=
  (singleton hl).append h

theorem of_isOrdinary (h : ∀ l ∈ read, l.isOrdinary = true) : StartsNoClause read := by
  induction read with
  | nil => exact nil
  | cons l read ih =>
    exact cons (h l List.mem_cons_self) (ih fun l' hl' => h l' (List.mem_cons_of_mem _ hl'))

/-- What stands in parentheses does not count. -/
theorem parenthesised (h : StartsNoClause read) :
    StartsNoClause (.symbol '(' :: (read ++ [.symbol ')'])) := by
  intro depth rest
  rw [List.cons_append, List.append_assoc, clausesFrom, h]
  simp [clausesFrom]

/-- Items with a separator between them. -/
theorem intercalate {ι : Type} {separator : Lexeme} (hseparator : separator.isOrdinary = true)
    {write : ι → List Lexeme} {items : List ι} (h : ∀ i ∈ items, StartsNoClause (write i)) :
    StartsNoClause ([separator].intercalate (items.map write)) := by
  induction items with
  | nil => exact nil
  | cons i items ih =>
    have hi := h i List.mem_cons_self
    have hothers := ih fun j hj => h j (List.mem_cons_of_mem _ hj)
    cases items with
    | nil => simpa using hi
    | cons j items =>
      rw [List.map_cons, List.map_cons, List.intercalate_cons_cons, ← List.map_cons,
        List.append_assoc]
      exact hi.append (cons hseparator hothers)

end StartsNoClause

/-- Keywords of clauses start with capital letters. -/
theorem not_mem_clauseOrder {w : String} {c : Char} (h : w.toList.head? = some c)
    (hc : c.isUpper = false) : w ∉ clauseOrder := by
  intro hw
  have hupper : ∀ keyword ∈ clauseOrder, (keyword.toList.head?.all Char.isUpper) = true := by
    decide
  have hhead := hupper w hw
  rw [h, Option.all_some, hc] at hhead
  cases hhead

end Text

open Text (StartsNoClause clausesFrom clauseOrder)

/-! ### What starts no clause -/

private theorem startsNoClause_table (name : String) : StartsNoClause (TableName.lexemes name) :=
  StartsNoClause.intercalate rfl fun _ _ => StartsNoClause.singleton rfl

private theorem startsNoClause_reference (column : String) :
    StartsNoClause (referenceLexemes column) := by
  apply StartsNoClause.intercalate rfl
  intro part _
  apply StartsNoClause.singleton
  unfold partLexeme
  split <;> rfl

private theorem isOrdinary_numeral (n : Nat) : (Lexeme.word (toString n)).isOrdinary = true := by
  cases hdigits : (toString n).toList with
  | nil => simp at hdigits
  | cons c digits =>
    have hdigit : c.isDigit = true :=
      Text.Reads.isDigit_of_mem_toString (hdigits ▸ List.mem_cons_self)
    have hupper : c.isUpper = false := by
      rw [Bool.eq_false_iff]
      intro hupper
      obtain ⟨hlow, -⟩ : 65 ≤ c.val ∧ c.val ≤ 90 := of_decide_eq_true hupper
      have hhigh : c.val ≤ 57 := of_decide_eq_true (Bool.and_eq_true_iff.mp hdigit).2
      exact absurd (UInt32.le_trans hlow hhigh) (by decide)
    have hhead : (toString n).toList.head? = some c := by rw [hdigits, List.head?_cons]
    exact decide_eq_true (Text.not_mem_clauseOrder hhead hupper)

namespace Filter

variable (k : Dialect.Supported)

private theorem isOrdinary_operandWord (start : Nat) (value : Value) :
    (Lexeme.word (operandWord k.dialect.placeholder start value)).isOrdinary = true := by
  have hplaceholder : k.dialect.placeholder start ∉ clauseOrder := by
    rw [k.placeholder_eq]
    cases k <;> exact Text.not_mem_clauseOrder (by rw [String.toList_append]; rfl) rfl
  cases value with
  | null =>
    rw [operandWord_null]
    decide
  | _ =>
    rw [operandWord_of_not_null _ _ rfl]
    simpa [Lexeme.isOrdinary] using hplaceholder

private theorem startsNoClause_operandWords (start : Nat) (values : List Value) :
    StartsNoClause ([.symbol ','].intercalate
      ((operandWords k.dialect.placeholder start values).map fun w => [.word w])) := by
  apply StartsNoClause.intercalate rfl
  intro w hw
  apply StartsNoClause.singleton
  induction values generalizing start with
  | nil => nomatch hw
  | cons value values ih =>
    rcases List.mem_cons.mp hw with rfl | hw
    · exact isOrdinary_operandWord k start value
    · exact ih _ hw

/-- Two conditions in parentheses with a keyword between them. -/
private theorem startsNoClause_joined {keyword : Lexeme} {left right : List Lexeme}
    (hkeyword : keyword.isOrdinary = true) (hleft : StartsNoClause left)
    (hright : StartsNoClause right) :
    StartsNoClause (.symbol '(' :: (left ++ .symbol ')' :: keyword :: .symbol '(' ::
      (right ++ [.symbol ')']))) := by
  simpa using hleft.parenthesised.append (hright.parenthesised.cons hkeyword)

/-- The keywords of a condition are none of those that start clauses. -/
theorem startsNoClause_phrase (filter : Filter) (start : Nat) :
    StartsNoClause (filter.phrase k.dialect.placeholder start) := by
  induction filter generalizing start with
  | compare column comparison value =>
    have hcolumn := startsNoClause_reference column
    have hcompare : StartsNoClause (referenceLexemes column ++
        [comparison.lexeme, .word (operandWord k.dialect.placeholder start value)]) :=
      hcolumn.append ((StartsNoClause.singleton (isOrdinary_operandWord k start value)).cons
        (by cases comparison <;> decide))
    cases value with
    | null =>
      cases comparison with
      | equal => exact hcolumn.append (StartsNoClause.of_isOrdinary (by decide))
      | notEqual => exact hcolumn.append (StartsNoClause.of_isOrdinary (by decide))
      | _ => exact hcompare
    | _ => cases comparison <;> exact hcompare
  | between column low high =>
    have hlow := isOrdinary_operandWord k start low
    have hhigh := isOrdinary_operandWord k (start + Fragment.holes (operandTemplate low)) high
    exact (startsNoClause_reference column).append
      (.cons (by decide) (.cons hlow (.cons (by decide) (.singleton hhigh))))
  | oneOf column values negated =>
    cases values with
    | nil =>
      have hempty : ∀ l ∈ [Lexeme.word "1", .operator "=", .word (if negated then "1" else "0")],
          l.isOrdinary = true := by
        cases negated <;> decide
      exact StartsNoClause.of_isOrdinary hempty
    | cons value values =>
      have hin : StartsNoClause (if negated then [.word "NOT", .word "IN"] else [.word "IN"]) := by
        cases negated <;> exact StartsNoClause.of_isOrdinary (by decide)
      exact ((startsNoClause_reference column).append hin).append
        (startsNoClause_operandWords k start (value :: values)).parenthesised
  | and left right ihLeft ihRight =>
    exact startsNoClause_joined (by decide) (ihLeft _) (ihRight _)
  | or left right ihLeft ihRight =>
    exact startsNoClause_joined (by decide) (ihLeft _) (ihRight _)
  | not inner ih => exact (ih start).parenthesised.cons (by decide)

end Filter

private theorem startsNoClause_sortTerms (terms : List SortTerm) :
    StartsNoClause ([.symbol ','].intercalate (terms.map SortTerm.lexemes)) := by
  apply StartsNoClause.intercalate rfl
  intro term _
  apply (startsNoClause_reference term.column).append (StartsNoClause.singleton _)
  cases term.direction <;> decide

/-! ### The clauses of a select -/

namespace Select

variable (k : Dialect.Supported) (query : Select)

/-- Whether only some of the rows are asked for. -/
def isPaged : Bool := query.skip.isSome || query.take.isSome

/-- The keywords of paging. -/
def pagingClauses : Dialect.Supported → List String
  | .sqlite =>
    (if query.isPaged then ["LIMIT"] else []) ++ if query.skip.isSome then ["OFFSET"] else []
  | .postgres =>
    (if query.take.isSome then ["LIMIT"] else []) ++ if query.skip.isSome then ["OFFSET"] else []
  | .sqlServer =>
    (if query.isPaged then ["OFFSET"] else []) ++ if query.take.isSome then ["FETCH"] else []

/-- Whether the rows are sorted by nothing in particular. Only SQL Server has to sort in order to
page. -/
def sortsByNothing : Bool := k = .sqlServer && query.isPaged && query.sortedBy.isEmpty

/-- The clauses of a select, by their keywords. -/
def clauses : List String :=
  "FROM" :: ((if query.filter.isSome then ["WHERE"] else []) ++
    ((if query.sortedBy ≠ [] ∨ query.sortsByNothing k then ["ORDER"] else []) ++
      query.pagingClauses k))

/-- No clause occurs twice, and they stand in one order. -/
theorem clauses_sublist : (query.clauses k).Sublist clauseOrder := by
  have hclause (keyword : String) (condition : Prop) [Decidable condition] :
      (if condition then [keyword] else []).Sublist [keyword] := by
    split
    · exact List.Sublist.refl _
    · exact List.nil_sublist _
  have hpaging : (query.pagingClauses k).Sublist ["LIMIT", "OFFSET", "FETCH"] := by
    have hlimit := (hclause "LIMIT" (query.isPaged = true)).append
      (hclause "OFFSET" (query.skip.isSome = true))
    have htaken := (hclause "LIMIT" (query.take.isSome = true)).append
      (hclause "OFFSET" (query.skip.isSome = true))
    have hrows := (hclause "OFFSET" (query.isPaged = true)).append
      (hclause "FETCH" (query.take.isSome = true))
    cases k with
    | sqlite => exact hlimit.trans (by decide)
    | postgres => exact htaken.trans (by decide)
    | sqlServer => exact hrows.trans (by decide)
  exact List.Sublist.cons_cons _ ((hclause "WHERE" _).append ((hclause "ORDER" _).append hpaging))

/-- Paging requires sorting on SQL Server. -/
theorem count_order_sqlServer (h : query.isPaged = true) :
    (query.clauses .sqlServer).count "ORDER" = 1 := by
  have hsorted : query.sortedBy ≠ [] ∨ query.sortsByNothing .sqlServer = true := by
    cases hterms : query.sortedBy <;> simp [sortsByNothing, h, hterms]
  rw [clauses, if_pos hsorted, pagingClauses, if_pos h]
  split <;> split <;> rfl

/-- A keyword with a number, in front of other lexemes. -/
private theorem clausesFrom_numbered {keyword : String} (h : keyword ∈ clauseOrder)
    (number : Option UInt64) (rest : List Lexeme) :
    clausesFrom 0 (numbered keyword number ++ rest) =
      (if number.isSome then [keyword] else []) ++ clausesFrom 0 rest := by
  cases number with
  | none => rfl
  | some n =>
    have hnumeral := StartsNoClause.singleton (isOrdinary_numeral n.toNat) 0 rest
    rw [List.singleton_append] at hnumeral
    rw [numbered, List.cons_append, List.singleton_append, clausesFrom, if_pos ⟨rfl, h⟩, hnumeral]
    rfl

/-- A keyword with a number, behind all other lexemes. -/
private theorem clausesFrom_numbered_last {keyword : String} (h : keyword ∈ clauseOrder)
    (number : Option UInt64) :
    clausesFrom 0 (numbered keyword number) = if number.isSome then [keyword] else [] := by
  simpa [clausesFrom] using clausesFrom_numbered h number []

private theorem clausesFrom_limits (skip take : Option UInt64) :
    clausesFrom 0 (numbered "LIMIT" take ++ numbered "OFFSET" skip) =
      (if take.isSome then ["LIMIT"] else []) ++ if skip.isSome then ["OFFSET"] else [] := by
  rw [clausesFrom_numbered (by decide), clausesFrom_numbered_last (by decide)]

private theorem clausesFrom_rows (skip : UInt64) (take : Option UInt64) :
    clausesFrom 0 (numbered "OFFSET" (some skip) ++ .word "ROWS" ::
        match take with
        | some n => .word "FETCH" :: (numbered "NEXT" (some n) ++ [.word "ROWS", .word "ONLY"])
        | none => []) =
      "OFFSET" :: if take.isSome then ["FETCH"] else [] := by
  have hrows (rest : List Lexeme) : clausesFrom 0 (.word "ROWS" :: rest) = clausesFrom 0 rest :=
    StartsNoClause.singleton (l := .word "ROWS") (by decide) 0 rest
  have hoffset : "OFFSET" ∈ clauseOrder := by decide
  rw [clausesFrom_numbered hoffset, hrows]
  cases take with
  | none => rfl
  | some n =>
    have hnumber : StartsNoClause (numbered "NEXT" (some n)) :=
      .cons (by decide) (.singleton (isOrdinary_numeral n.toNat))
    have honly : StartsNoClause [.word "ROWS", .word "ONLY"] := .of_isOrdinary (by decide)
    have hfetch := (hnumber.append honly).clausesFrom_eq_nil 0
    simp [clausesFrom, hfetch, clauseOrder]

private theorem clausesFrom_unsorted (ordered : Bool) (rest : List Lexeme) :
    clausesFrom 0 ((if ordered then [] else unsortedLexemes) ++ rest) =
      (if ordered then [] else ["ORDER"]) ++ clausesFrom 0 rest := by
  have hnothing : StartsNoClause [.word "SELECT", .word "NULL"] := .of_isOrdinary (by decide)
  cases ordered with
  | true => rfl
  | false =>
    have hlist := (hnothing.parenthesised.cons (l := .word "BY") (by decide)) 0 rest
    simp only [unsortedLexemes, Bool.false_eq_true, if_false, List.cons_append,
      List.nil_append] at hlist ⊢
    rw [clausesFrom, if_pos (by decide), hlist]

/-- The clauses of paging: sorting by nothing in particular, if there is need of it, and what says
which of the rows are asked for. -/
private theorem clausesFrom_paging :
    clausesFrom 0 (pagingLexemes k (!query.sortedBy.isEmpty) query.skip query.take) =
      (if query.sortsByNothing k then ["ORDER"] else []) ++ query.pagingClauses k := by
  obtain ⟨tables, columns, filter, sortedBy, skip, take⟩ := query
  have hlimits := clausesFrom_limits skip take
  have hrows := clausesFrom_unsorted (!sortedBy.isEmpty) (numbered "OFFSET" (some (skip.getD 0)) ++
    .word "ROWS" :: match take with
      | some n => .word "FETCH" :: (numbered "NEXT" (some n) ++ [.word "ROWS", .word "ONLY"])
      | none => [])
  rw [clausesFrom_rows] at hrows
  cases k with
  | sqlite =>
    cases skip with
    | none => simpa [pagingLexemes, pagingClauses, isPaged, sortsByNothing] using hlimits
    | some m =>
      cases take with
      | none =>
        -- all rows are asked for, by a number that stands for none
        have hunlimited : StartsNoClause [.symbol '-', .word "1"] := .of_isOrdinary (by decide)
        have hoffset := hunlimited 0 (numbered "OFFSET" (some m))
        rw [clausesFrom_numbered_last (by decide)] at hoffset
        exact congrArg ("LIMIT" :: ·) hoffset
      | some n => simpa [pagingLexemes, pagingClauses, isPaged, sortsByNothing] using hlimits
  | postgres => simpa [pagingLexemes, pagingClauses, isPaged, sortsByNothing] using hlimits
  | sqlServer =>
    cases skip with
    | none =>
      cases take with
      | none => rfl
      | some n => simpa [pagingLexemes, pagingClauses, isPaged, sortsByNothing] using hrows
    | some m =>
      cases take <;> simpa [pagingLexemes, pagingClauses, isPaged, sortsByNothing] using hrows

private theorem startsNoClause_projection (columns : List String) :
    StartsNoClause (projectionLexemes columns) := by
  rw [projectionLexemes]
  split
  · exact .singleton rfl
  · exact .intercalate rfl fun column _ => startsNoClause_reference column

private theorem clausesFrom_condition (filter : Option Filter) (rest : List Lexeme) :
    clausesFrom 0 (conditionLexemes k filter ++ rest) =
      (if filter.isSome then ["WHERE"] else []) ++ clausesFrom 0 rest := by
  cases filter with
  | none => rfl
  | some filter =>
    rw [conditionLexemes, List.cons_append, clausesFrom, if_pos (by decide),
      Filter.startsNoClause_phrase k filter 0]
    rfl

private theorem clausesFrom_sorting (terms : List SortTerm) (rest : List Lexeme) :
    clausesFrom 0 (sortLexemes terms ++ rest) =
      (if terms.isEmpty then [] else ["ORDER"]) ++ clausesFrom 0 rest := by
  rw [sortLexemes]
  split
  · rfl
  · have hterms := (startsNoClause_sortTerms terms).cons (l := .word "BY") (by decide)
    rw [List.cons_append, clausesFrom, if_pos (by decide), hterms]
    rfl

/-- The clauses of a select are those that it asks for, whatever its names are. -/
theorem clausesFrom_phrase : clausesFrom 0 (query.phrase k) = query.clauses k := by
  have htables : StartsNoClause (tableLexemes query.tables) :=
    .intercalate rfl fun name _ => startsNoClause_table name
  have hselect := (startsNoClause_projection query.columns).cons (l := .word "SELECT") (by decide)
  rw [phrase, ← List.cons_append, hselect, clausesFrom, if_pos (by decide), htables,
    clausesFrom_condition, clausesFrom_sorting, clausesFrom_paging, clauses]
  cases hterms : query.sortedBy <;> simp [sortsByNothing, hterms]

end Select

end SchemaEvolution
