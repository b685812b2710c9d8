import SchemaEvolution.Proofs.Dialect.Supported
import SchemaEvolution.Proofs.Postgres.Reader
import SchemaEvolution.Proofs.Text.Characters

/-!
# Reading definitions of columns

The type and the default of a column are read as they are written, unless the default is an
expression: there anything can stand. In every dialect a definition is read as the column that it is
written for (`Legible.readColumn_eq`, `reads_defined`).
-/

namespace SchemaEvolution

open Text (Delimiters Lexeme Reads ReadsBehind)

/-- The default is a value and no expression. -/
def DefaultValue.isValue : DefaultValue → Bool
  | .expression _ => false
  | _ => true

/-- The column has no default, or one that is a value. -/
def Column.defaultIsValue (column : Column) : Bool := column.default.all (·.isValue)

theorem Column.isValue_of_mem {column : Column} (h : column.defaultIsValue = true) :
    ∀ value ∈ column.default, value.isValue = true := by
  intro value hvalue
  rw [defaultIsValue, Option.mem_def.mp hvalue] at h
  exact h

namespace Layout

variable {d : Delimiters}

/-! ### Texts that hide nothing -/

/-- Lexemes among which there is no option and no comma outside of parentheses. -/
structure Bare (read : List Lexeme) : Prop where
  noOption : ∀ l ∈ read, isOption l = false
  whole : isWhole ',' 0 read = true
  balanced : isWhole ')' 0 read = true

theorem Bare.append {first second : List Lexeme} (hfirst : Bare first) (hsecond : Bare second) :
    Bare (first ++ second) where
  noOption l hl := (List.mem_append.mp hl).elim (hfirst.noOption l) (hsecond.noOption l)
  whole := isWhole_append hfirst.whole hsecond.whole
  balanced := isWhole_append hfirst.balanced hsecond.balanced

/-- A text that is read as its lexemes wherever it stands, and whose lexemes are bare. -/
structure Written (d : Delimiters) (text : String) : Prop where
  reads : Reads d true text (Text.lexemes d text)
  bare : Bare (Text.lexemes d text)

/-- Characters that delimit nothing, and of which there is one in each option. -/
def isInert (c : Char) : Bool :=
  !(List.contains ['(', ')', ',', '"', '[', '\x27', 'T', 'D', 'P', 'U'] c)

theorem Written.of_reads {text : String} {read : List Lexeme} (h : Reads d true text read)
    (hbare : Bare read) : Written d text := by
  have hread : Text.lexemes d text = read := h.lexemes_eq
  rw [← hread] at h hbare
  exact ⟨h, hbare⟩

/-- A text of inert characters. -/
theorem Written.of_isInert {text : String} (h : ∀ c ∈ text.toList, isInert c = true) :
    Written d text := by
  have habsent {l : Lexeme} (hl : l ∈ Text.lexemes d text) {c : Char}
      (hc : c ∈ l.characters) (hnot : isInert c = false) : False := by
    have hinert := h c (Text.mem_of_mem_lexemes hl hc)
    rw [hnot] at hinert
    cases hinert
  have hwhole (stop : Char) (hstop : isInert stop = false) :
      isWhole stop 0 (Text.lexemes d text) = true := by
    rw [← List.append_nil (Text.lexemes d text), isWhole_plain_append]
    · rfl
    · intro l hl
      constructor <;> rintro rfl <;> exact habsent hl List.mem_cons_self (by decide)
    · intro _ hmem
      exact habsent hmem List.mem_cons_self hstop
  refine ⟨Reads.of_plain fun c hc => ?_, ⟨fun l hl => ?_, hwhole _ rfl, hwhole _ rfl⟩⟩
  · constructor
    · rintro rfl
      cases d <;> cases h _ hc
    · rintro rfl
      cases h _ hc
  · rw [Bool.eq_false_iff]
    intro hoption
    have hmem : l = .word "NOT" ∨ l = .word "DEFAULT" ∨ l = .word "PRIMARY" ∨
        l = .word "UNIQUE" := by
      simpa [isOption] using hoption
    rcases hmem with rfl | rfl | rfl | rfl
    · exact @habsent _ hl 'T' (by decide) (by decide)
    · exact @habsent _ hl 'D' (by decide) (by decide)
    · exact @habsent _ hl 'P' (by decide) (by decide)
    · exact @habsent _ hl 'U' (by decide) (by decide)

/-- A text that stands for itself. -/
private theorem Written.of_scan {text : String}
    (h : ((Text.scan d .between text.toList).2.isClosed &&
      (Text.lexemes d text).all (!isOption ·) && isWhole ',' 0 (Text.lexemes d text) &&
        isWhole ')' 0 (Text.lexemes d text)) = true) : Written d text := by
  rw [Bool.and_eq_true_iff, Bool.and_eq_true_iff, Bool.and_eq_true_iff] at h
  obtain ⟨⟨⟨hclosed, hoption⟩, hwhole⟩, hbalanced⟩ := h
  exact ⟨Reads.of_lexemes rfl hclosed, fun l hl => by simpa using List.all_eq_true.mp hoption l hl,
    hwhole, hbalanced⟩

/-! ### Numerals -/

private theorem isInert_of_isDigit {c : Char} (h : c.isDigit = true) : isInert c = true := by
  rw [isInert, Bool.not_eq_true', ← Bool.not_eq_true, List.contains_iff_mem]
  intro hmem
  simp only [List.mem_cons, List.not_mem_nil, or_false] at hmem
  rcases hmem with rfl | rfl | rfl | rfl | rfl | rfl | rfl | rfl | rfl | rfl <;> cases h

theorem isOption_toString (n : Nat) : isOption (.word (toString n)) = false := by
  rw [Bool.eq_false_iff]
  intro hoption
  have hmem : toString n = "NOT" ∨ toString n = "DEFAULT" ∨ toString n = "PRIMARY" ∨
      toString n = "UNIQUE" := by
    simpa [isOption] using hoption
  have hletter {s : String} {c : Char} (hc : c ∈ s.toList) (hnot : c.isDigit = false) :
      toString n ≠ s := by
    rintro rfl
    rw [Reads.isDigit_of_mem_toString hc] at hnot
    cases hnot
  rcases hmem with h | h | h | h
  · exact @hletter _ 'N' (by decide) (by decide) h
  · exact @hletter _ 'D' (by decide) (by decide) h
  · exact @hletter _ 'P' (by decide) (by decide) h
  · exact @hletter _ 'U' (by decide) (by decide) h

/-! ### Types -/

private theorem closing : Reads d true ")" [.symbol ')'] :=
  Reads.weaken (Reads.of_scan (by cases d <;> rfl))

/-- A type with a length. -/
private theorem written_sized {keyword opening : String}
    (hopening : Reads d false opening [.word keyword, .symbol '('])
    (hkeyword : isOption (.word keyword) = false) (size : Nat) :
    Written d (opening ++ toString size ++ ")") := by
  apply Written.of_reads ((hopening.append (Reads.numeral size) rfl).append closing rfl)
  refine ⟨fun l hl => ?_, by simp [isWhole, openBehind], by simp [isWhole, openBehind]⟩
  simp only [List.mem_append, List.mem_cons, List.not_mem_nil, or_false] at hl
  rcases hl with ((rfl | rfl) | rfl) | rfl
  · exact hkeyword
  · rfl
  · exact isOption_toString size
  · rfl

/-- A type with a precision and a scale. -/
private theorem written_scaled {keyword opening : String}
    (hopening : Reads d false opening [.word keyword, .symbol '('])
    (hkeyword : isOption (.word keyword) = false) (precision scale : Nat) :
    Written d (opening ++ toString precision ++ ", " ++ toString scale ++ ")") := by
  apply Written.of_reads ((((hopening.append (Reads.numeral precision) rfl).append Reads.comma
    rfl).append (Reads.numeral scale) rfl).append closing rfl)
  refine ⟨fun l hl => ?_, by simp [isWhole, openBehind], by simp [isWhole, openBehind]⟩
  simp only [List.mem_append, List.mem_cons, List.not_mem_nil, or_false] at hl
  rcases hl with ((((rfl | rfl) | rfl) | rfl) | rfl) | rfl
  · exact hkeyword
  · rfl
  · exact isOption_toString precision
  · rfl
  · exact isOption_toString scale
  · rfl

section Types

open Dialect

variable (k : Supported) (column : SchemaEvolution.Column)

private theorem written_sqliteType : Written .quotes (Sqlite.typeName column) := by
  unfold Sqlite.typeName
  cases column.type with
  | string => exact written_sized (Reads.of_scan rfl) rfl _
  | fixedString => exact written_sized (Reads.of_scan rfl) rfl _
  | decimal => exact written_scaled (Reads.of_scan rfl) rfl _ _
  | _ => exact Written.of_scan (by dsimp only; decide)

private theorem written_postgresType : Written .quotes (Postgres.typeName column) := by
  unfold Postgres.typeName
  cases column.type with
  | string => exact written_sized (Reads.of_scan rfl) rfl _
  | fixedString => exact written_sized (Reads.of_scan rfl) rfl _
  | decimal => exact written_scaled (Reads.of_scan rfl) rfl _ _
  | _ => exact Written.of_scan (by dsimp only; decide)

private theorem written_sqlServerType : Written .brackets (SqlServer.typeName column) := by
  unfold SqlServer.typeName
  cases column.type with
  | string => exact written_sized (Reads.of_scan rfl) rfl _
  | fixedString => exact written_sized (Reads.of_scan rfl) rfl _
  | decimal => exact written_scaled (Reads.of_scan rfl) rfl _ _
  | binary =>
    cases column.size with
    | some size => exact written_sized (Reads.of_scan rfl) rfl _
    | none => exact Written.of_scan (by dsimp only; decide)
  | _ => exact Written.of_scan (by dsimp only; decide)

theorem written_typeName : Written k.delimiters (k.dialect.typeName column) := by
  cases k with
  | sqlite => exact written_sqliteType column
  | postgres => exact written_postgresType column
  | sqlServer => exact written_sqlServerType column

/-- A type, with what numbers the column. -/
theorem written_columnType : Written k.delimiters (k.dialect.columnType column) := by
  cases k with
  | sqlite => exact written_sqliteType column
  | postgres =>
    change Written .quotes (Postgres.columnType column)
    unfold Postgres.columnType
    split
    · split <;> exact Written.of_scan (by decide)
    · exact written_postgresType column
  | sqlServer =>
    change Written .brackets (SqlServer.columnType column)
    have htype := written_sqlServerType column
    unfold SqlServer.columnType
    split
    · have hidentity : ReadsBehind .brackets " IDENTITY(1,1)" [.word "IDENTITY", .symbol '(',
          .word "1", .symbol ',', .word "1", .symbol ')'] := ReadsBehind.of_lexemes rfl rfl rfl
      exact Written.of_reads (hidentity htype.reads)
        (htype.bare.append ⟨by decide, by decide, by decide⟩)
    · exact htype

end Types

/-! ### Defaults -/

private theorem isInert_layout (d : Binary64.Decimal) : ∀ c ∈ d.layout, isInert c = true := by
  have hzero : isInert '0' = true := by decide
  have hdigits : ∀ c ∈ Nat.toDigits 10 d.digits, isInert c = true := fun c hc =>
    isInert_of_isDigit (Nat.isDigit_of_mem_toDigits (by decide) (by decide) hc)
  have hpadded (n : Nat) : ∀ c ∈ List.replicate n '0' ++ Nat.toDigits 10 d.digits,
      isInert c = true := by
    intro c hc
    rcases List.mem_append.mp hc with hc | hc
    · rwa [List.eq_of_mem_replicate hc]
    · exact hdigits c hc
  intro c hc
  rw [Binary64.Decimal.layout] at hc
  split at hc
  · rcases List.mem_append.mp hc with hc | hc
    · exact hdigits c hc
    · rwa [List.eq_of_mem_replicate hc]
  · dsimp only at hc
    split at hc
    · exact hpadded _ c (List.mem_of_mem_take hc)
    · rcases List.mem_append.mp hc with hc | hc
      · exact hpadded _ c (List.mem_of_mem_take hc)
      · rcases List.mem_cons.mp hc with rfl | hc
        · decide
        · have hfraction := (List.dropWhile_sublist _).subset (List.mem_reverse.mp hc)
          exact hpadded _ c (List.mem_of_mem_drop (List.mem_reverse.mp hfraction))

private theorem isInert_text (x : Binary64) : ∀ c ∈ x.text.toList, isInert c = true := by
  rw [Binary64.text]
  split
  · exact List.all_eq_true.mp (by decide)
  · have hbody : ∀ c ∈ (if x.isInfinite then "inf".toList
        else if x.magnitude = 0 then ['0'] else x.shortest.layout), isInert c = true := by
      split
      · exact List.all_eq_true.mp (by decide)
      · split
        · exact List.all_eq_true.mp (by decide)
        · exact isInert_layout _
    intro c hc
    rw [String.toList_ofList] at hc
    split at hc
    · rcases List.mem_cons.mp hc with rfl | hc
      · decide
      · exact hbody c hc
    · exact hbody c hc

/-- The lexemes of a default. PostgreSQL writes truth values in words. -/
def defaultValueLexemes (k : Dialect.Supported) : DefaultValue → List Lexeme
  | .null => [.word "NULL"]
  | .bool b =>
    [.word (if k = .postgres then (if b then "TRUE" else "FALSE") else if b then "1" else "0")]
  | .integer n =>
    match n.toInt with
    | .ofNat m => [.word (toString m)]
    | .negSucc m => [.symbol '-', .word (toString (m + 1))]
  | .float x => Text.lexemes k.delimiters x.text
  | .string s => [.literal s]
  | .expression sql => Text.lexemes k.delimiters sql

section Defaults

variable (k : Dialect.Supported)

private theorem bare_numeral (n : Nat) : Bare [.word (toString n)] where
  noOption l hl := by rw [List.mem_singleton.mp hl, isOption_toString]
  whole := by simp [isWhole, openBehind]
  balanced := by simp [isWhole, openBehind]

private theorem reads_integer (n : Int64) :
    Reads d true (toString n.toInt) (defaultValueLexemes k (.integer n)) ∧
      Bare (defaultValueLexemes k (.integer n)) := by
  rw [defaultValueLexemes]
  cases n.toInt with
  | ofNat m => exact ⟨Reads.numeral m, bare_numeral m⟩
  | negSucc m =>
    have hminus : Reads d false "-" [.symbol '-'] := Reads.of_scan (by cases d <;> rfl)
    have hbare : Bare [.symbol '-'] := ⟨by decide, by decide, by decide⟩
    exact ⟨hminus.append (Reads.numeral (m + 1)) rfl, hbare.append (bare_numeral (m + 1))⟩

private theorem renderDefault_eq (value : DefaultValue) (hbool : ∀ b, value ≠ .bool b) :
    k.dialect.renderDefault value = value.literal := by
  cases k with
  | postgres =>
    cases value with
    | bool b => exact absurd rfl (hbool b)
    | _ => rfl
  | _ => rfl

/-- A default that is no expression is read as its lexemes. -/
theorem reads_default {value : DefaultValue} (h : value.isValue = true) :
    Reads k.delimiters true (k.dialect.renderDefault value) (defaultValueLexemes k value) ∧
      Bare (defaultValueLexemes k value) := by
  cases value with
  | null =>
    rw [renderDefault_eq k .null nofun]
    cases k <;> exact ⟨Reads.of_lexemes rfl rfl, by decide, by decide, by decide⟩
  | bool b =>
    cases k <;> cases b <;> exact ⟨Reads.of_lexemes rfl rfl, by decide, by decide, by decide⟩
  | integer n =>
    rw [renderDefault_eq k (.integer n) nofun]
    exact reads_integer k n
  | float x =>
    rw [renderDefault_eq k (.float x) nofun]
    have hwritten : Written k.delimiters x.text := Written.of_isInert (isInert_text x)
    exact ⟨hwritten.reads, hwritten.bare⟩
  | string s =>
    rw [renderDefault_eq k (.string s) nofun]
    exact ⟨Reads.literal s, by simp [defaultValueLexemes, isOption], rfl, rfl⟩
  | expression sql => cases h

/-- The lexemes of any default. -/
theorem lexemes_default (value : DefaultValue) :
    Text.lexemes k.delimiters (k.dialect.renderDefault value) = defaultValueLexemes k value := by
  cases value with
  | expression sql =>
    rw [renderDefault_eq k (.expression sql) nofun, DefaultValue.literal, defaultValueLexemes]
  | _ => exact (reads_default k rfl).1.lexemes_eq

theorem written_default {value : DefaultValue} (h : value.isValue = true) :
    Written k.delimiters (k.dialect.renderDefault value) :=
  Written.of_reads (reads_default k h).1 (reads_default k h).2

end Defaults

/-! ### Definitions -/

namespace Column

/-- Whether nulls are taken, as lexemes. -/
def nullableLexemes (column : Column) : List Lexeme :=
  if column.nullable then [] else [.word "NOT", .word "NULL"]

/-- The default, as lexemes. -/
def defaultLexemes (column : Column) : List Lexeme :=
  match column.default with
  | some written => .word "DEFAULT" :: written
  | none => []

/-- The lexemes of the definition of a column. -/
def lexemes (column : Column) : List Lexeme :=
  .identifier column.name ::
    (column.type ++ (column.nullableLexemes ++ (column.defaultLexemes ++ column.declared)))

end Column

/-- Nothing, or lexemes that start with an option. -/
def startsOption (rest : List Lexeme) : Bool := rest.head?.all isOption

/-- Bare lexemes reach up to the next option. -/
private theorem span_bare {read rest : List Lexeme} (h : Bare read)
    (hrest : startsOption rest = true) :
    (read ++ rest).takeWhile (!isOption ·) = read ∧
      (read ++ rest).dropWhile (!isOption ·) = rest := by
  have hread : ∀ l ∈ read, (!isOption l) = true := by
    intro l hl
    rw [h.noOption l hl, Bool.not_false]
  have hstops : ∀ l ∈ rest.head?, (!isOption l) = false := by
    intro l hl
    rw [startsOption, Option.mem_def.mp hl] at hrest
    rw [show isOption l = true from hrest, Bool.not_true]
  exact ⟨takeWhile_run hread hstops, dropWhile_run hread hstops⟩

/-- What is declared with a column apart from its type, its nullability and its default, as the
primary key with what stands behind that, or not. -/
def declaredWith (behindKey : List Lexeme) (asKey unique : Bool) : List Lexeme :=
  (if asKey then .word "PRIMARY" :: .word "KEY" :: behindKey else []) ++
    (if unique then [.word "UNIQUE"] else [])

namespace Column

/-- The column is read from its lexemes. -/
structure Legible (column : Column) : Prop where
  type : Bare column.type
  default : ∀ written, column.default = some written → Bare written
  declared : ∃ behindKey asKey unique, Bare behindKey ∧
    column.declared = declaredWith behindKey asKey unique
  comment : column.comment = none

namespace Legible

variable {column : Column} (h : column.Legible)

include h

/-- What is declared starts with an option, and with none that comes before. -/
private theorem declared_head : ∀ l ∈ column.declared.head?,
    l = .word "PRIMARY" ∨ l = .word "UNIQUE" := by
  obtain ⟨behindKey, asKey, unique, -, hdeclared⟩ := h.declared
  rw [hdeclared]
  cases asKey <;> cases unique <;> simp [declaredWith]

private theorem startsOption_declared : startsOption column.declared = true := by
  have hhead := h.declared_head
  rw [startsOption]
  cases hdeclared : column.declared.head? with
  | none => rfl
  | some l => rcases hhead l hdeclared with rfl | rfl <;> rfl

private theorem readDefault_eq : readDefault (column.defaultLexemes ++ column.declared) =
    (column.default, column.declared) := by
  cases hdefault : column.default with
  | some written =>
    obtain ⟨htake, hdrop⟩ := span_bare (h.default written hdefault) h.startsOption_declared
    rw [defaultLexemes, hdefault, List.cons_append, readDefault, htake, hdrop]
  | none =>
    have hhead := h.declared_head
    rw [defaultLexemes, hdefault, List.nil_append]
    unfold readDefault
    split
    · next heq => simp [heq] at hhead
    · rfl

private theorem readNullable_eq :
    readNullable (column.nullableLexemes ++ (column.defaultLexemes ++ column.declared)) =
      (column.nullable, column.defaultLexemes ++ column.declared) := by
  cases hnullable : column.nullable with
  | false => simp [nullableLexemes, hnullable, readNullable]
  | true =>
    rw [nullableLexemes, hnullable, defaultLexemes]
    cases column.default with
    | some written => simp [readNullable]
    | none =>
      have hhead := h.declared_head
      simp only [if_true, List.nil_append]
      unfold readNullable
      split
      · next heq => simp [heq] at hhead
      · rfl

private theorem startsOption_rest :
    startsOption (column.nullableLexemes ++ (column.defaultLexemes ++ column.declared)) = true := by
  rw [nullableLexemes, defaultLexemes]
  cases column.nullable with
  | false => rfl
  | true =>
    cases column.default with
    | some written => rfl
    | none => exact h.startsOption_declared

theorem readColumn_eq : readColumn column.lexemes = some column := by
  obtain ⟨htake, hdrop⟩ := span_bare h.type h.startsOption_rest
  rw [lexemes, readColumn, htake, hdrop, h.readNullable_eq]
  dsimp only
  rw [h.readDefault_eq, ← h.comment]

/-- A definition leaves nothing open, and neither a comma nor a closing parenthesis outside of its
parentheses. -/
theorem isWhole_eq : isWhole ',' 0 column.lexemes = true ∧ isWhole ')' 0 column.lexemes = true := by
  obtain ⟨behindKey, asKey, unique, hbehind, hdeclared⟩ := h.declared
  have hwhole (stop : Char) (hbare : ∀ read, Bare read → isWhole stop 0 read = true) :
      isWhole stop 0 column.lexemes = true := by
    have hkey : isWhole stop 0 (if asKey then .word "PRIMARY" :: .word "KEY" :: behindKey else []) =
        true := by
      split
      · simpa [isWhole, openBehind] using hbare behindKey hbehind
      · rfl
    have hunique : isWhole stop 0 (if unique then [.word "UNIQUE"] else []) = true := by
      split <;> simp [isWhole, openBehind]
    have hdefault : isWhole stop 0 column.defaultLexemes = true := by
      rw [defaultLexemes]
      split
      · next written hwritten =>
        simpa [isWhole, openBehind] using hbare written (h.default written hwritten)
      · rfl
    have hnullable : isWhole stop 0 column.nullableLexemes = true := by
      rw [nullableLexemes]
      split <;> simp [isWhole, openBehind]
    have hrest := isWhole_append hnullable (isWhole_append hdefault (isWhole_append hkey hunique))
    rw [lexemes, hdeclared, declaredWith]
    simpa [isWhole, openBehind] using isWhole_append (hbare column.type h.type) hrest
  exact ⟨hwhole ',' fun _ hread => hread.whole, hwhole ')' fun _ hread => hread.balanced⟩

end Legible

/-! ### The definitions of a dialect -/

/-- What stands behind the keywords of the key. Only SQLite numbers a key there. -/
def behindKey (k : Dialect.Supported) (column : SchemaEvolution.Column) : List Lexeme :=
  if k = .sqlite ∧ column.autoIncrement then [.word "AUTOINCREMENT"] else []

/-- The column that a definition is written for in a dialect, as the primary key or not. -/
def defined (k : Dialect.Supported) (column : SchemaEvolution.Column) (asKey : Bool) : Column where
  name := column.name
  type := Text.lexemes k.delimiters (k.dialect.columnType column)
  nullable := column.nullable
  default := column.default.map (defaultValueLexemes k)
  declared := declaredWith (behindKey k column) asKey (column.unique && !column.primaryKey)
  comment := none

variable (k : Dialect.Supported) {column : SchemaEvolution.Column} (asKey : Bool)

theorem bare_behindKey : Bare (behindKey k column) := by
  unfold behindKey
  split <;> exact ⟨by decide, by decide, by decide⟩

/-- A column is legible when its default is no expression. -/
theorem legible_defined (hvalue : ∀ value ∈ column.default, value.isValue = true) :
    (defined k column asKey).Legible where
  type := (written_columnType k column).bare
  default written hwritten := by
    obtain ⟨value, hdefault, rfl⟩ := Option.map_eq_some_iff.mp hwritten
    exact (reads_default k (hvalue value hdefault)).2
  declared := ⟨_, _, _, bare_behindKey k, rfl⟩
  comment := rfl

private theorem behind_default (hvalue : ∀ value ∈ column.default, value.isValue = true) :
    ReadsBehind k.delimiters
      (match column.default with
        | some value => " DEFAULT " ++ k.dialect.renderDefault value
        | none => "") (defined k column asKey).defaultLexemes := by
  rw [defaultLexemes, defined]
  cases hdefault : column.default with
  | none => exact ReadsBehind.empty
  | some value =>
    have hword : Reads k.delimiters false " DEFAULT " [.word "DEFAULT"] :=
      Reads.of_scan (by cases k <;> rfl)
    exact ReadsBehind.append hword rfl (reads_default k (hvalue value hdefault)).1

private theorem behind_key (column : SchemaEvolution.Column) : ReadsBehind k.delimiters
    (if asKey then k.dialect.inlinePrimaryKey column else "")
    (if asKey then .word "PRIMARY" :: .word "KEY" :: behindKey k column else []) := by
  cases asKey with
  | false => exact ReadsBehind.empty
  | true =>
    cases k with
    | sqlite =>
      rw [behindKey]
      change ReadsBehind .quotes
        (if column.autoIncrement then " PRIMARY KEY AUTOINCREMENT" else " PRIMARY KEY") _
      cases column.autoIncrement <;> exact ReadsBehind.of_lexemes rfl rfl rfl
    | postgres =>
      change ReadsBehind .quotes " PRIMARY KEY" [.word "PRIMARY", .word "KEY"]
      exact ReadsBehind.of_lexemes rfl rfl rfl
    | sqlServer =>
      change ReadsBehind .brackets " PRIMARY KEY" [.word "PRIMARY", .word "KEY"]
      exact ReadsBehind.of_lexemes rfl rfl rfl

/-- The definition of a column, wherever it stands. -/
theorem reads_defined (hvalue : ∀ value ∈ column.default, value.isValue = true) :
    Reads k.delimiters true (k.dialect.columnDefinition column asKey)
      (defined k column asKey).lexemes := by
  have hdefinition : k.dialect.columnDefinition column asKey =
      k.delimiters.quote column.name ++ " " ++ k.dialect.columnType column ++
        (if column.nullable then "" else " NOT NULL") ++
        (match column.default with
          | some value => " DEFAULT " ++ k.dialect.renderDefault value
          | none => "") ++
        (if asKey then k.dialect.inlinePrimaryKey column else "") ++
        (if column.unique && !column.primaryKey then " UNIQUE" else "") := by
    rw [← k.quoteIdentifier_eq]
    cases k <;> rfl
  have hblank : Reads k.delimiters false " " [] := Reads.of_scan (by cases k <;> rfl)
  have hnullable : ReadsBehind k.delimiters (if column.nullable then "" else " NOT NULL")
      (defined k column asKey).nullableLexemes := by
    rw [nullableLexemes, defined]
    cases column.nullable with
    | true => exact ReadsBehind.empty
    | false => exact ReadsBehind.of_lexemes (by cases k <;> rfl) (by cases k <;> rfl) rfl
  have hunique : ReadsBehind k.delimiters
      (if column.unique && !column.primaryKey then " UNIQUE" else "")
      (if column.unique && !column.primaryKey then [.word "UNIQUE"] else []) := by
    cases column.unique && !column.primaryKey with
    | true => exact ReadsBehind.of_lexemes (by cases k <;> rfl) (by cases k <;> rfl) rfl
    | false => exact ReadsBehind.empty
  have htype := ((Reads.identifier column.name).append hblank rfl).append
    (written_columnType k column).reads rfl
  have hread := hunique (behind_key k asKey column (behind_default k asKey hvalue (hnullable htype)))
  rw [hdefinition]
  simpa [lexemes, defined, declaredWith] using hread

end Column

end Layout

end SchemaEvolution
