import SchemaEvolution.Proofs.Text.Lexeme

/-!
# The characters of lexemes

Lexemes are made of the characters of the text that they are read from. A text without delimiters
leaves nothing unclosed.
-/

namespace SchemaEvolution.Text

/-- The characters that a lexeme was read from, delimiters apart. -/
def Lexeme.characters : Lexeme → List Char
  | word s => s.toList
  | operator s => s.toList
  | symbol c => [c]
  | identifier s => s.toList
  | literal s => s.toList
  | unclosed => []

/-- The characters of the lexeme that is being read. -/
def Stand.characters : Stand → List Char
  | between => []
  | within _ read => read
  | inside _ read => read
  | behind _ read => read

variable {d : Delimiters}

private theorem characters_start (c : Char) :
    (∀ l ∈ (start d c).1, ∀ x ∈ l.characters, x = c) ∧
      ∀ x ∈ (start d c).2.characters, x = c := by
  unfold start
  repeat' split
  all_goals simp [Lexeme.characters, Stand.characters]

private theorem characters_run (run : Run) (read : List Char) :
    (run.lexeme read).characters = read := by
  cases run <;> simp [Run.lexeme, Lexeme.characters]

private theorem characters_enclosure (enclosure : Enclosure) (read : List Char) :
    (enclosure.lexeme read).characters = read := by
  cases enclosure <;> simp [Enclosure.lexeme, Lexeme.characters]

/-- Reading a character adds no other one. -/
private theorem characters_advance (stand : Stand) (c : Char) :
    (∀ l ∈ (advance d stand c).1, ∀ x ∈ l.characters, x ∈ stand.characters ∨ x = c) ∧
      ∀ x ∈ (advance d stand c).2.characters, x ∈ stand.characters ∨ x = c := by
  have hstart := characters_start (d := d) c
  cases stand with
  | between => exact ⟨fun l hl x hx => .inr (hstart.1 l hl x hx), fun x hx => .inr (hstart.2 x hx)⟩
  | within run read =>
    rw [advance]
    split
    · simp [Stand.characters]
    · refine ⟨fun l hl x hx => ?_, fun x hx => .inr (hstart.2 x hx)⟩
      rcases List.mem_cons.mp hl with rfl | hl
      · exact .inl (by rwa [characters_run] at hx)
      · exact .inr (hstart.1 l hl x hx)
  | inside enclosure read =>
    rw [advance]
    split <;> simp [Stand.characters]
    exact fun x hx => .inl hx
  | behind enclosure read =>
    rw [advance]
    split
    · simp [Stand.characters]
    · refine ⟨fun l hl x hx => ?_, fun x hx => .inr (hstart.2 x hx)⟩
      rcases List.mem_cons.mp hl with rfl | hl
      · exact .inl (by rwa [characters_enclosure] at hx)
      · exact .inr (hstart.1 l hl x hx)

/-- Lexemes are made of what was read before and of the characters that follow. -/
theorem mem_of_mem_lexFrom {stand : Stand} {text : List Char} {l : Lexeme}
    (hl : l ∈ lexFrom d stand text) {x : Char} (hx : x ∈ l.characters) :
    x ∈ stand.characters ∨ x ∈ text := by
  induction text generalizing stand with
  | nil =>
    left
    cases stand with
    | between => cases hl
    | within run read =>
      cases List.mem_singleton.mp hl
      rwa [characters_run] at hx
    | inside enclosure read =>
      cases List.mem_singleton.mp hl
      cases hx
    | behind enclosure read =>
      cases List.mem_singleton.mp hl
      rwa [characters_enclosure] at hx
  | cons c text ih =>
    have hadvance := characters_advance (d := d) stand c
    rcases List.mem_append.mp hl with hl | hl
    · rcases hadvance.1 l hl x hx with hread | rfl
      · exact .inl hread
      · exact .inr List.mem_cons_self
    · rcases ih hl with hread | htext
      · rcases hadvance.2 x hread with hread | rfl
        · exact .inl hread
        · exact .inr List.mem_cons_self
      · exact .inr (List.mem_cons_of_mem _ htext)

/-- The lexemes of a text are made of its characters. -/
theorem mem_of_mem_lexemes {text : String} {l : Lexeme} (hl : l ∈ lexemes d text) {x : Char}
    (hx : x ∈ l.characters) : x ∈ text.toList := by
  rcases mem_of_mem_lexFrom hl hx with hnone | htext
  · cases hnone
  · exact htext

/-- Nothing stands open that a delimiter has to close. -/
private def Stand.isPlain : Stand → Bool
  | .between => true
  | .within _ _ => true
  | _ => false

private theorem isPlain_scan {stand : Stand} {text : List Char} (hstand : stand.isPlain = true)
    (h : ∀ c ∈ text, c ≠ d.opening ∧ c ≠ '\x27') : (scan d stand text).2.isPlain = true := by
  induction text generalizing stand with
  | nil => exact hstand
  | cons c text ih =>
    obtain ⟨hopening, hquote⟩ := h c List.mem_cons_self
    have hstart : (start d c).2.isPlain = true := by
      unfold start
      repeat' split
      all_goals rfl
    have hadvance : (advance d stand c).2.isPlain = true := by
      cases stand with
      | between => exact hstart
      | within run read =>
        rw [advance]
        split
        · rfl
        · exact hstart
      | _ => cases hstand
    exact ih hadvance fun c hc => h c (List.mem_cons_of_mem _ hc)

/-- A text without delimiters is read as its lexemes, wherever it stands. -/
theorem Reads.of_plain {text : String} (h : ∀ c ∈ text.toList, c ≠ d.opening ∧ c ≠ '\x27') :
    Reads d true text (lexemes d text) := by
  apply Reads.of_lexemes rfl
  have hplain : (scan d .between text.toList).2.isPlain = true := isPlain_scan rfl h
  cases hstand : (scan d .between text.toList).2 with
  | inside enclosure read =>
    rw [hstand] at hplain
    cases hplain
  | _ => rfl

end SchemaEvolution.Text
