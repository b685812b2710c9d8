import SchemaEvolution.Dialect.Basic

/-!
# Lexemes

A statement is read as lexemes, from left to right and one character at a time. What stands between
delimiters is one lexeme, in which a closing delimiter is written twice; blanks separate and are
dropped. `Reads` says what a text is read as wherever it stands, and is closed under putting texts
one after the other (`Reads.append`).
-/

namespace SchemaEvolution.Text

/-- A lexeme of a statement. Placeholders are words, as numerals are. -/
inductive Lexeme where
  | word (s : String)
  | operator (s : String)
  | symbol (c : Char)
  | identifier (s : String)
  | literal (s : String)
  | unclosed
  deriving DecidableEq, Repr

/-- What identifiers stand between. -/
inductive Delimiters where
  | quotes
  | brackets
  deriving DecidableEq, Repr

namespace Delimiters

/-- What opens an identifier. -/
def opening : Delimiters → Char
  | quotes => '"'
  | brackets => '['

/-- What closes an identifier. -/
def closing : Delimiters → Char
  | quotes => '"'
  | brackets => ']'

/-- An identifier between its delimiters. -/
def quote (d : Delimiters) : String → String := Text.quote d.opening d.closing

end Delimiters

/-- What stands between delimiters of its own. -/
inductive Enclosure where
  | identifier
  | literal
  deriving DecidableEq, Repr

namespace Enclosure

/-- What opens it. -/
def opening (d : Delimiters) : Enclosure → Char
  | identifier => d.opening
  | literal => '\x27'

/-- What closes it. -/
def closing (d : Delimiters) : Enclosure → Char
  | identifier => d.closing
  | literal => '\x27'

/-- Its lexeme. -/
def lexeme (read : List Char) : Enclosure → Lexeme
  | identifier => .identifier (String.ofList read)
  | literal => .literal (String.ofList read)

end Enclosure

/-- What goes on as long as characters of one kind follow. -/
inductive Run where
  | word
  | operator
  deriving DecidableEq, Repr

namespace Run

/-- Its characters. Placeholders start with characters of words. -/
def contains (c : Char) : Run → Bool
  | word => c.isAlphanum || c == '_' || c == '?' || c == '$' || c == '@'
  | operator => c == '<' || c == '>' || c == '='

/-- Its lexeme. -/
def lexeme (read : List Char) : Run → Lexeme
  | word => .word (String.ofList read)
  | operator => .operator (String.ofList read)

end Run

/-- Where a reader stands: between lexemes, or with part of one read. Behind a closing delimiter it
has to see whether another one follows. -/
inductive Stand where
  | between
  | within (run : Run) (read : List Char)
  | inside (enclosure : Enclosure) (read : List Char)
  | behind (enclosure : Enclosure) (read : List Char)
  deriving DecidableEq, Repr

/-- The lexeme that ends with the text. -/
def Stand.pending : Stand → List Lexeme
  | .between => []
  | .within run read => [run.lexeme read]
  | .inside _ _ => [.unclosed]
  | .behind enclosure read => [enclosure.lexeme read]

/-- Whether nothing is left open that a delimiter has to close. -/
def Stand.isClosed : Stand → Bool
  | .inside _ _ => false
  | _ => true

/-- Goes on from between two lexemes. -/
def start (d : Delimiters) (c : Char) : List Lexeme × Stand :=
  if c = ' ' ∨ c = '\n' then ([], .between)
  else if Run.word.contains c then ([], .within .word [c])
  else if Run.operator.contains c then ([], .within .operator [c])
  else if c = d.opening then ([], .inside .identifier [])
  else if c = '\x27' then ([], .inside .literal [])
  else ([.symbol c], .between)

/-- Reads one character: the lexemes that it completes, and where the reader then stands. -/
def advance (d : Delimiters) : Stand → Char → List Lexeme × Stand
  | .between, c => start d c
  | .within run read, c =>
    if run.contains c then ([], .within run (read ++ [c]))
    else (run.lexeme read :: (start d c).1, (start d c).2)
  | .inside enclosure read, c =>
    if c = enclosure.closing d then ([], .behind enclosure read)
    else ([], .inside enclosure (read ++ [c]))
  | .behind enclosure read, c =>
    if c = enclosure.closing d then ([], .inside enclosure (read ++ [c]))
    else (enclosure.lexeme read :: (start d c).1, (start d c).2)

/-- The lexemes of what follows a stand. -/
def lexFrom (d : Delimiters) : Stand → List Char → List Lexeme
  | stand, [] => stand.pending
  | stand, c :: rest => (advance d stand c).1 ++ lexFrom d (advance d stand c).2 rest

/-- The lexemes of a text. -/
def lexemes (d : Delimiters) (text : String) : List Lexeme := lexFrom d .between text.toList

/-- The lexemes that a text completes, and where the reader stands behind it. -/
def scan (d : Delimiters) : Stand → List Char → List Lexeme × Stand
  | stand, [] => ([], stand)
  | stand, c :: rest =>
    ((advance d stand c).1 ++ (scan d (advance d stand c).2 rest).1,
      (scan d (advance d stand c).2 rest).2)

theorem lexFrom_append (d : Delimiters) (stand : Stand) (first second : List Char) :
    lexFrom d stand (first ++ second) =
      (scan d stand first).1 ++ lexFrom d (scan d stand first).2 second := by
  induction first generalizing stand with
  | nil => rfl
  | cons c rest ih => simp [lexFrom, scan, ih]

/-! ### What ends a lexeme -/

/-- Characters that end whatever stands in front of them. -/
def isStop (c : Char) : Bool := [' ', '\n', ',', '(', ')', '.'].contains c

/-- Nothing, or a text that ends what stands in front of it. -/
def stops : List Char → Bool
  | [] => true
  | c :: _ => isStop c

/-- A text that ends what stands in front of it. -/
def leads : List Char → Bool
  | [] => false
  | c :: _ => isStop c

theorem stops_append {first second : List Char} (h : leads first = true) :
    stops (first ++ second) = true := by
  cases first with
  | nil => cases h
  | cons c rest => exact h

private theorem advance_of_isStop {d : Delimiters} {c : Char} (h : isStop c = true) :
    (∀ run read, advance d (.within run read) c =
      (run.lexeme read :: (start d c).1, (start d c).2)) ∧
    ∀ enclosure read, advance d (.behind enclosure read) c =
      (enclosure.lexeme read :: (start d c).1, (start d c).2) := by
  have hmem : c ∈ [' ', '\n', ',', '(', ')', '.'] := List.contains_iff_mem.mp h
  simp only [List.mem_cons, List.not_mem_nil, or_false] at hmem
  constructor
  · intro run read
    rcases hmem with rfl | rfl | rfl | rfl | rfl | rfl <;> cases run <;> rfl
  · intro enclosure read
    rcases hmem with rfl | rfl | rfl | rfl | rfl | rfl <;> cases d <;> cases enclosure <;> rfl

/-- A run ends where it is stopped. -/
theorem lexFrom_within_of_stops {d : Delimiters} {run : Run} {read rest : List Char}
    (h : stops rest = true) :
    lexFrom d (.within run read) rest = run.lexeme read :: lexFrom d .between rest := by
  cases rest with
  | nil => rfl
  | cons c rest =>
    rw [lexFrom, (advance_of_isStop h).1]
    rfl

/-- What stood between delimiters ends where it is stopped. -/
theorem lexFrom_behind_of_stops {d : Delimiters} {enclosure : Enclosure} {read rest : List Char}
    (h : stops rest = true) :
    lexFrom d (.behind enclosure read) rest = enclosure.lexeme read :: lexFrom d .between rest := by
  cases rest with
  | nil => rfl
  | cons c rest =>
    rw [lexFrom, (advance_of_isStop h).2]
    rfl

/-- A closing delimiter that is written twice stands for one. -/
theorem scan_inside_double {d : Delimiters} {enclosure : Enclosure} (read text : List Char) :
    scan d (.inside enclosure read)
        (double (enclosure.closing d) text ++ [enclosure.closing d]) =
      ([], .behind enclosure (read ++ text)) := by
  induction text generalizing read with
  | nil => simp [double, scan, advance]
  | cons c text ih =>
    have hread := ih (read ++ [c])
    rw [List.append_assoc, List.singleton_append] at hread
    by_cases hc : c = enclosure.closing d <;>
      simpa [double, hc, scan, advance, Prod.ext_iff] using hread

/-- What stands between delimiters ends where it is stopped. -/
theorem lexFrom_inside_double {d : Delimiters} {enclosure : Enclosure} {rest : List Char}
    (h : stops rest = true) (read text : List Char) :
    lexFrom d (.inside enclosure read)
        (double (enclosure.closing d) text ++ enclosure.closing d :: rest) =
      enclosure.lexeme (read ++ text) :: lexFrom d .between rest := by
  rw [List.append_cons, lexFrom_append, scan_inside_double]
  exact lexFrom_behind_of_stops h

/-! ### Texts one after the other -/

/-- Wherever a text stands, it is read as some lexemes; one that is open has to be stopped. -/
def Reads (d : Delimiters) (isOpen : Bool) (text : String) (read : List Lexeme) : Prop :=
  ∀ rest, (isOpen = true → stops rest = true) →
    lexFrom d .between (text.toList ++ rest) = read ++ lexFrom d .between rest

namespace Reads

variable {d : Delimiters} {isOpen isOpen' : Bool} {text text' : String} {read read' : List Lexeme}

/-- The lexemes of a text that stands alone. -/
theorem lexemes_eq (h : Reads d isOpen text read) : lexemes d text = read := by
  have hread := h [] fun _ => rfl
  rw [List.append_nil] at hread
  rw [lexemes, hread]
  exact List.append_nil read

/-- A text without open ends, by reading it. -/
theorem of_scan (h : scan d .between text.toList = (read, .between)) : Reads d false text read := by
  intro rest _
  rw [lexFrom_append, h]

/-- A text in which nothing is left unclosed, by reading it. -/
theorem of_lexemes (h : lexemes d text = read)
    (hclosed : (scan d .between text.toList).2.isClosed = true) : Reads d true text read := by
  intro rest hrest
  have hread : lexemes d text = (scan d .between text.toList).1 ++
      (scan d .between text.toList).2.pending := by
    rw [lexemes, ← List.append_nil text.toList, lexFrom_append, List.append_nil]
    rfl
  have hpending : lexFrom d (scan d .between text.toList).2 rest =
      (scan d .between text.toList).2.pending ++ lexFrom d .between rest := by
    cases hstand : (scan d .between text.toList).2 with
    | between => rfl
    | within run pending => exact lexFrom_within_of_stops (hrest rfl)
    | inside enclosure pending => rw [hstand] at hclosed; cases hclosed
    | behind enclosure pending => exact lexFrom_behind_of_stops (hrest rfl)
  rw [lexFrom_append, hpending, ← List.append_assoc, ← hread, h]

/-- Behind an open text stands one that stops it. -/
theorem append (h : Reads d isOpen text read) (h' : Reads d isOpen' text' read')
    (hlead : (!isOpen || leads text'.toList) = true) :
    Reads d isOpen' (text ++ text') (read ++ read') := by
  intro rest hrest
  have hfollows : isOpen = true → stops (text'.toList ++ rest) = true := by
    rintro rfl
    exact stops_append hlead
  rw [String.toList_append, List.append_assoc, h _ hfollows, h' rest hrest, List.append_assoc]

theorem weaken (h : Reads d false text read) : Reads d isOpen text read :=
  fun rest _ => h rest nofun

theorem empty : Reads d isOpen "" [] := fun _ _ => rfl

/-- What stands between delimiters is one lexeme. -/
private theorem enclosed (enclosure : Enclosure) (s : String) :
    Reads d true (quote (enclosure.opening d) (enclosure.closing d) s)
      [enclosure.lexeme s.toList] := by
  intro rest hrest
  have hopening : advance d .between (enclosure.opening d) = ([], .inside enclosure []) := by
    cases d <;> cases enclosure <;> rfl
  have hinside := @lexFrom_inside_double d enclosure _ (hrest rfl) [] s.toList
  rw [List.nil_append] at hinside
  rw [quote, String.toList_ofList, List.cons_append, lexFrom, hopening, List.append_assoc]
  exact hinside

/-- An identifier. -/
theorem identifier (s : String) : Reads d true (d.quote s) [.identifier s] := by
  have hread := enclosed (d := d) .identifier s
  rw [Enclosure.lexeme, String.ofList_toList] at hread
  exact hread

/-- A string literal. -/
theorem literal (s : String) : Reads d true (quote '\x27' '\x27' s) [.literal s] := by
  have hread := enclosed (d := d) .literal s
  rw [Enclosure.lexeme, String.ofList_toList] at hread
  exact hread

/-- A string literal of national characters. -/
theorem nationalLiteral (s : String) :
    Reads d true ("N" ++ quote '\x27' '\x27' s) [.word "N", .literal s] := by
  intro rest hrest
  have hnational : advance d .between 'N' = ([], .within .word ['N']) := by cases d <;> rfl
  have hquote : advance d (.within .word ['N']) '\x27' =
      ([.word "N"], .inside .literal []) := by
    cases d <;> rfl
  have hinside := @lexFrom_inside_double d .literal _ (hrest rfl) [] s.toList
  rw [List.nil_append, Enclosure.lexeme, String.ofList_toList] at hinside
  have htext : ("N" ++ quote '\x27' '\x27' s).toList ++ rest =
      'N' :: '\x27' :: (double '\x27' s.toList ++ '\x27' :: rest) := by
    simp [quote]
  rw [htext, lexFrom, hnational, lexFrom, hquote]
  exact congrArg (Lexeme.word "N" :: ·) hinside

/-- A literal ends where anything but a quote follows. -/
theorem nationalLiteral_append {isOpen : Bool} {text : String} {c : Char} {rest : List Char}
    {read : List Lexeme} (s : String) (htext : text.toList = c :: rest) (hc : c ≠ '\x27')
    (h : Reads d isOpen text read) :
    Reads d isOpen ("N" ++ quote '\x27' '\x27' s ++ text) ([.word "N", .literal s] ++ read) := by
  intro after hafter
  have hbehind (behind : List Char) : lexFrom d (.behind .literal s.toList) (c :: behind) =
      .literal s :: lexFrom d .between (c :: behind) := by
    have hclosing : ¬ c = Enclosure.literal.closing d := hc
    rw [lexFrom, advance, if_neg hclosing, Enclosure.lexeme, String.ofList_toList]
    rfl
  have hnational : scan d .between ['N', '\x27'] = ([.word "N"], .inside .literal []) := by
    cases d <;> rfl
  have hread := h after hafter
  rw [htext, List.cons_append] at hread
  have hwhole : ("N" ++ quote '\x27' '\x27' s ++ text).toList ++ after =
      ['N', '\x27'] ++ ((double '\x27' s.toList ++ ['\x27']) ++ (c :: (rest ++ after))) := by
    simp [quote, htext]
  have hliteral := @scan_inside_double d .literal [] s.toList
  rw [hwhole, lexFrom_append, hnational, lexFrom_append]
  rw [Enclosure.closing, List.nil_append] at hliteral
  rw [hliteral, hbehind, hread]
  rfl

private theorem lexFrom_run {run : Run} {rest : List Char} (hrest : stops rest = true)
    (read text : List Char) (htext : ∀ c ∈ text, run.contains c = true) :
    lexFrom d (.within run read) (text ++ rest) =
      run.lexeme (read ++ text) :: lexFrom d .between rest := by
  induction text generalizing read with
  | nil =>
    rw [List.nil_append, List.append_nil]
    exact lexFrom_within_of_stops hrest
  | cons c text ih =>
    have hc : run.contains c = true := htext c List.mem_cons_self
    have hread := ih (read ++ [c]) fun c hc => htext c (List.mem_cons_of_mem _ hc)
    rw [List.append_assoc, List.singleton_append] at hread
    rw [List.cons_append, lexFrom, advance, if_pos hc]
    exact hread

private theorem start_of_contains {run : Run} {c : Char} (h : run.contains c = true) :
    start d c = ([], .within run [c]) := by
  have hblank : ¬(c = ' ' ∨ c = '\n') := by
    rintro (rfl | rfl) <;> cases run <;> cases h
  cases run with
  | word => rw [start, if_neg hblank, if_pos h]
  | operator =>
    have hmem : c = '<' ∨ c = '>' ∨ c = '=' := by simpa [Run.contains, or_assoc] using h
    rcases hmem with rfl | rfl | rfl <;> rfl

/-- Characters of one kind are one lexeme. -/
theorem run {run : Run} {s : String} (hne : s.toList ≠ [])
    (hs : ∀ c ∈ s.toList, run.contains c = true) : Reads d true s [run.lexeme s.toList] := by
  intro rest hrest
  cases htext : s.toList with
  | nil => exact absurd htext hne
  | cons c text =>
    rw [htext] at hs
    have hstart : advance d .between c = ([], .within run [c]) :=
      start_of_contains (hs c List.mem_cons_self)
    have hread := lexFrom_run (d := d) (hrest rfl) [c] text
      fun c hc => hs c (List.mem_cons_of_mem _ hc)
    rw [List.cons_append, lexFrom, hstart]
    exact hread

/-- A word. -/
theorem word {s : String} (hne : s.toList ≠ []) (hs : ∀ c ∈ s.toList, Run.word.contains c = true) :
    Reads d true s [.word s] := by
  have hread := run (d := d) hne hs
  rw [Run.lexeme, String.ofList_toList] at hread
  exact hread

/-- Texts with a separator between them. -/
theorem intercalate {ι : Type} {separator : String} {separators : List Lexeme} {write : ι → String}
    {lexemes : ι → List Lexeme} (hseparator : Reads d false separator separators)
    (hlead : leads separator.toList = true) (items : List ι)
    (hitems : ∀ i ∈ items, Reads d true (write i) (lexemes i)) :
    Reads d true (separator.intercalate (items.map write))
      (separators.intercalate (items.map lexemes)) := by
  induction items with
  | nil => exact empty
  | cons i items ih =>
    have hi : Reads d true (write i) (lexemes i) := hitems i List.mem_cons_self
    have hrest := ih fun j hj => hitems j (List.mem_cons_of_mem _ hj)
    cases items with
    | nil => simpa using hi
    | cons j items =>
      rw [List.map_cons, List.map_cons, List.map_cons, List.map_cons,
        String.intercalate_cons_cons, List.intercalate_cons_cons, ← List.map_cons, ← List.map_cons]
      exact (hi.append hseparator hlead).append hrest rfl

end Reads

/-- Behind any text, a text is read as some lexemes. -/
def ReadsBehind (d : Delimiters) (text : String) (read : List Lexeme) : Prop :=
  ∀ ⦃before : String⦄ ⦃beforeRead : List Lexeme⦄, Reads d true before beforeRead →
    Reads d true (before ++ text) (beforeRead ++ read)

namespace ReadsBehind

variable {d : Delimiters} {text words : String} {read wordsRead : List Lexeme}

theorem empty : ReadsBehind d "" [] := by
  intro before beforeRead h
  rwa [String.append_empty, List.append_nil]

/-- One text behind another. -/
theorem trans {text' : String} {read' : List Lexeme} (h : ReadsBehind d text read)
    (h' : ReadsBehind d text' read') : ReadsBehind d (text ++ text') (read ++ read') := by
  intro before beforeRead hbefore
  rw [← String.append_assoc, ← List.append_assoc]
  exact h' (h hbefore)

/-- Words that are read by themselves. -/
theorem of_lexemes (h : lexemes d text = read)
    (hclosed : (scan d .between text.toList).2.isClosed = true)
    (hlead : leads text.toList = true) : ReadsBehind d text read :=
  fun _ _ hbefore => hbefore.append (Reads.of_lexemes h hclosed) hlead

/-- Words in front of a text. -/
theorem append (hwords : Reads d false words wordsRead) (hlead : leads words.toList = true)
    (h : Reads d true text read) : ReadsBehind d (words ++ text) (wordsRead ++ read) := by
  intro before beforeRead hbefore
  rw [← String.append_assoc, ← List.append_assoc]
  exact (hbefore.append hwords hlead).append h rfl

end ReadsBehind

end SchemaEvolution.Text
