import SchemaEvolution.Proofs.Dialect.Supported
import SchemaEvolution.Proofs.Lists
import SchemaEvolution.Proofs.Postgres.Layout

/-!
# Reading statements that change a layout

The change that a statement of PostgreSQL's data definition language denotes. The parts of a name
stand between dots, and columns, constraints and alterations between the commas that stand in no
parentheses. Types, defaults and definitions of constraints are kept as they are written.
-/

namespace SchemaEvolution.Layout

open Text (Lexeme)

/-- The parts of a name between their dots, and what follows the name. -/
def readName : List Lexeme → List String × List Lexeme
  | .identifier part :: .symbol '.' :: rest => (part :: (readName rest).1, (readName rest).2)
  | .identifier part :: rest => ([part], rest)
  | rest => ([], rest)

/-- Identifiers with dots between them. -/
def dotted (parts : List String) : List Lexeme :=
  [.symbol '.'].intercalate (parts.map fun part => [.identifier part])

theorem dotted_cons_cons (part next : String) (parts : List String) :
    dotted (part :: next :: parts) =
      .identifier part :: .symbol '.' :: dotted (next :: parts) := by
  simp [dotted]

/-- Another part behind a name. -/
theorem dotted_append_singleton {parts : List String} (hne : parts ≠ []) (last : String) :
    dotted (parts ++ [last]) = dotted parts ++ [.symbol '.', .identifier last] := by
  induction parts with
  | nil => exact absurd rfl hne
  | cons part parts ih =>
    cases parts with
    | nil => rfl
    | cons next parts =>
      rw [List.cons_append, List.cons_append, dotted_cons_cons, ← List.cons_append,
        ih (List.cons_ne_nil _ _), dotted_cons_cons]
      rfl

/-- A name ends where no dot follows. -/
theorem readName_dotted {parts : List String} (hne : parts ≠ []) {rest : List Lexeme}
    (hrest : rest.head? ≠ some (.symbol '.')) :
    readName (dotted parts ++ rest) = (parts, rest) := by
  induction parts with
  | nil => exact absurd rfl hne
  | cons part parts ih =>
    cases parts with
    | nil =>
      have hsingle : dotted [part] ++ rest = .identifier part :: rest := rfl
      rw [hsingle]
      unfold readName
      split
      · next heq =>
        cases heq
        exact absurd rfl hrest
      · next heq =>
        cases heq
        rfl
      · next hno => exact absurd rfl (hno part rest)
    | cons next parts =>
      rw [dotted_cons_cons, List.cons_append, List.cons_append, readName,
        ih (List.cons_ne_nil _ _)]

/-! ### Items between commas -/

/-- How many parentheses are open behind a lexeme. -/
def openBehind (depth : Nat) (lexeme : Lexeme) : Nat :=
  if lexeme = .symbol '(' then depth + 1
  else if lexeme = .symbol ')' then depth - 1
  else depth

/-- The items between the commas that stand in no parentheses. -/
def itemsOf : Nat → List Lexeme → List (List Lexeme)
  | _, [] => [[]]
  | depth, lexeme :: rest =>
    if depth = 0 ∧ lexeme = .symbol ',' then [] :: itemsOf 0 rest
    else
      match itemsOf (openBehind depth lexeme) rest with
      | [] => [[lexeme]]
      | item :: items => (lexeme :: item) :: items

/-- Whether lexemes close all parentheses and leave a symbol nowhere outside them. -/
def isWhole (stop : Char) : Nat → List Lexeme → Bool
  | depth, [] => depth = 0
  | depth, lexeme :: rest =>
    !(depth = 0 ∧ lexeme = .symbol stop) && isWhole stop (openBehind depth lexeme) rest

/-- Whole lexemes belong to one item. -/
theorem itemsOf_append {depth : Nat} {item : List Lexeme} (h : isWhole ',' depth item = true)
    {rest first : List Lexeme} {others : List (List Lexeme)}
    (hrest : itemsOf 0 rest = first :: others) :
    itemsOf depth (item ++ rest) = (item ++ first) :: others := by
  induction item generalizing depth with
  | nil =>
    have hdepth : depth = 0 := of_decide_eq_true h
    rw [hdepth]
    exact hrest
  | cons lexeme item ih =>
    rw [isWhole, Bool.and_eq_true_iff] at h
    have hcomma : ¬(depth = 0 ∧ lexeme = .symbol ',') :=
      of_decide_eq_false ((Bool.not_eq_true' _).mp h.1)
    rw [List.cons_append, itemsOf, if_neg hcomma, ih h.2]
    rfl

/-- Items between commas are read as they were put together. -/
theorem itemsOf_intercalate {items : List (List Lexeme)} (hne : items ≠ [])
    (hwhole : ∀ item ∈ items, isWhole ',' 0 item = true) :
    itemsOf 0 ([.symbol ','].intercalate items) = items := by
  induction items with
  | nil => exact absurd rfl hne
  | cons item items ih =>
    have hitem : isWhole ',' 0 item = true := hwhole item List.mem_cons_self
    cases items with
    | nil =>
      have hread : itemsOf 0 (item ++ []) = [item ++ []] := itemsOf_append hitem rfl
      simpa using hread
    | cons next items =>
      have hrest := ih (List.cons_ne_nil _ _) fun i hi => hwhole i (List.mem_cons_of_mem _ hi)
      have hcomma : itemsOf 0 (.symbol ',' :: [.symbol ','].intercalate (next :: items)) =
          [] :: next :: items := by
        rw [itemsOf, if_pos ⟨rfl, rfl⟩, hrest]
      have hread := itemsOf_append hitem hcomma
      rw [List.append_nil] at hread
      simpa using hread

/-- Whole lexemes may follow each other. -/
theorem isWhole_append {stop : Char} {depth : Nat} {first second : List Lexeme}
    (hfirst : isWhole stop depth first = true) (hsecond : isWhole stop 0 second = true) :
    isWhole stop depth (first ++ second) = true := by
  induction first generalizing depth with
  | nil =>
    have hdepth : depth = 0 := of_decide_eq_true hfirst
    rw [hdepth]
    exact hsecond
  | cons lexeme first ih =>
    rw [isWhole, Bool.and_eq_true_iff] at hfirst
    rw [List.cons_append, isWhole, hfirst.1, ih hfirst.2, Bool.and_self]

/-- Items between commas are whole if each of them is. -/
theorem isWhole_intercalate {stop : Char} (hstop : stop ≠ ',') {items : List (List Lexeme)}
    (hitems : ∀ item ∈ items, isWhole stop 0 item = true) :
    isWhole stop 0 ([.symbol ','].intercalate items) = true := by
  induction items with
  | nil => rfl
  | cons item items ih =>
    have hitem := hitems item List.mem_cons_self
    have hrest := ih fun i hi => hitems i (List.mem_cons_of_mem _ hi)
    have hcomma : isWhole stop 0 [.symbol ','] = true := by
      simp [isWhole, openBehind, hstop.symm]
    cases items with
    | nil => simpa using hitem
    | cons next items =>
      rw [List.intercalate_cons_cons]
      exact isWhole_append (isWhole_append hitem hcomma) hrest

/-- Lexemes without parentheses, and without the symbol or within parentheses, change nothing. -/
theorem isWhole_plain_append {stop : Char} {depth : Nat} {plain : List Lexeme}
    (hplain : ∀ l ∈ plain, l ≠ .symbol '(' ∧ l ≠ .symbol ')')
    (hstop : depth = 0 → .symbol stop ∉ plain) (rest : List Lexeme) :
    isWhole stop depth (plain ++ rest) = isWhole stop depth rest := by
  induction plain with
  | nil => rfl
  | cons lexeme plain ih =>
    obtain ⟨hopening, hclosing⟩ := hplain lexeme List.mem_cons_self
    have hstays : openBehind depth lexeme = depth := by
      rw [openBehind, if_neg hopening, if_neg hclosing]
    have hnot : ¬(depth = 0 ∧ lexeme = .symbol stop) := by
      rintro ⟨hdepth, rfl⟩
      exact hstop hdepth List.mem_cons_self
    rw [List.cons_append, isWhole, hstays, decide_eq_false hnot, Bool.not_false, Bool.true_and]
    exact ih (fun l hl => hplain l (List.mem_cons_of_mem _ hl))
      fun hdepth hmem => hstop hdepth (List.mem_cons_of_mem _ hmem)

/-! ### Columns and constraints -/

/-- The words that end a type and a default. -/
def isOption (lexeme : Lexeme) : Bool :=
  [Lexeme.word "NOT", .word "DEFAULT", .word "PRIMARY", .word "UNIQUE"].contains lexeme

/-- Whether nulls are taken, and what follows. -/
def readNullable : List Lexeme → Bool × List Lexeme
  | .word "NOT" :: .word "NULL" :: rest => (false, rest)
  | rest => (true, rest)

/-- The default, if there is one, and what follows. -/
def readDefault : List Lexeme → Option (List Lexeme) × List Lexeme
  | .word "DEFAULT" :: rest =>
    (some (rest.takeWhile (!isOption ·)), rest.dropWhile (!isOption ·))
  | rest => (none, rest)

/-- The definition of a column. -/
def readColumn : List Lexeme → Option Column
  | .identifier name :: rest =>
    let (nullable, options) := readNullable (rest.dropWhile (!isOption ·))
    let (default, declared) := readDefault options
    some ⟨name, rest.takeWhile (!isOption ·), nullable, default, declared, none⟩
  | _ => none

/-- What a table is made of: a column, or a constraint with its definition. -/
inductive Item where
  | column (column : Column)
  | constraint (name : String) (definition : List Lexeme)
  deriving DecidableEq, Repr

namespace Item

/-- The column that an item is, if it is one. -/
def column? : Item → Option Column
  | column c => some c
  | constraint _ _ => none

/-- The constraint that an item is, if it is one. -/
def constraint? : Item → Option (String × List Lexeme)
  | column _ => none
  | constraint name definition => some (name, definition)

end Item

/-- A column or a constraint. -/
def readItem : List Lexeme → Option Item
  | .word "CONSTRAINT" :: .identifier name :: definition => some (.constraint name definition)
  | definition => (readColumn definition).map .column

/-- The table that is created under a name. -/
def readTable (name : List String) : List Lexeme → Option Change
  | .symbol '(' :: body =>
    if body.getLast? = some (.symbol ')') then do
      let items ← (itemsOf 0 body.dropLast).mapM readItem
      some (.createTable name (items.filterMap Item.column?) (items.filterMap Item.constraint?))
    else none
  | _ => none

/-! ### Alterations and comments -/

/-- What a column is given. -/
def readTrait : List Lexeme → Option Trait
  | .word "TYPE" :: written => some (.type written)
  | [.word "SET", .word "NOT", .word "NULL"] => some (.nullable false)
  | [.word "DROP", .word "NOT", .word "NULL"] => some (.nullable true)
  | .word "SET" :: .word "DEFAULT" :: written => some (.default (some written))
  | [.word "DROP", .word "DEFAULT"] => some (.default none)
  | _ => none

/-- One part of an alteration. -/
def readAlteration : List Lexeme → Option (String × Trait)
  | .word "ALTER" :: .word "COLUMN" :: .identifier name :: rest =>
    (readTrait rest).map fun trait => (name, trait)
  | _ => none

/-- What is done to a table. -/
def readTableChange : List Lexeme → Option TableChange
  | .word "ADD" :: .word "COLUMN" :: definition => (readColumn definition).map .addColumn
  | .word "ADD" :: .word "CONSTRAINT" :: .identifier name :: definition =>
    some (.addConstraint name definition)
  | [.word "DROP", .word "COLUMN", .identifier name] => some (.dropColumn name)
  | [.word "DROP", .word "CONSTRAINT", .identifier name] => some (.dropConstraint name)
  | [.word "RENAME", .word "COLUMN", .identifier name, .word "TO", .identifier newName] =>
    some (.renameColumn name newName)
  | alterations => ((itemsOf 0 alterations).mapM readAlteration).map .alterColumns

/-- What is done to a table of some name, which may be to rename it. -/
def readAltered (name : List String) : List Lexeme → Option Change
  | [.word "RENAME", .word "TO", .identifier newName] => some (.renameTable name newName)
  | rest => (readTableChange rest).map (.changeTable name)

/-- The comment that is set, or that there is none. -/
def readComment : List Lexeme → Option (Option String)
  | [.word "IS", .literal text] => some (some text)
  | [.word "IS", .word "NULL"] => some none
  | _ => none

/-- A statement about a table, by its first word. -/
def readTableStatement (verb : String) (name : List String) (rest : List Lexeme) : Option Change :=
  if verb = "CREATE" then readTable name rest
  else if verb = "ALTER" then readAltered name rest
  else if verb = "DROP" ∧ rest = [] then some (.dropTable name)
  else none

/-- The change that a statement denotes. -/
def readStatement : List Lexeme → Option Change
  | .word "COMMENT" :: .word "ON" :: .word "TABLE" :: rest =>
    (readComment (readName rest).2).map fun text => .changeTable (readName rest).1 (.comment text)
  | .word "COMMENT" :: .word "ON" :: .word "COLUMN" :: rest => do
    let column ← (readName rest).1.getLast?
    let text ← readComment (readName rest).2
    some (.changeTable (readName rest).1.dropLast (.commentColumn column text))
  | .word "CREATE" :: .word "INDEX" :: .identifier name :: .word "ON" :: rest =>
    some (.createIndex name (readName rest).1 (readName rest).2)
  | .word "DROP" :: .word "INDEX" :: rest =>
    if (readName rest).2 = [] then some (.dropIndex (readName rest).1) else none
  | .word verb :: .word "TABLE" :: rest =>
    readTableStatement verb (readName rest).1 (readName rest).2
  | _ => none

/-- The change that the text of a statement denotes. -/
def changeOf (sql : String) : Option Change := readStatement (Text.lexemes .quotes sql)

end SchemaEvolution.Layout
