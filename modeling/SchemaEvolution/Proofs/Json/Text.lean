import SchemaEvolution.Json.Parser
import SchemaEvolution.Json.Printer
import SchemaEvolution.Proofs.Lists
import SchemaEvolution.Proofs.Number.Numeral

/-!
# JSON text is read back

A value written without spaces is read back as it was (`parse_compact`), if its number literals are
such as are written (`IsWritten`). So the text of a value determines it (`compact_injective`).
-/

namespace SchemaEvolution

/-! ### Number literals -/

/-- Digits, at least one. -/
def IsDigits (text : List Char) : Prop := text ≠ [] ∧ ∀ c ∈ text, c.isDigit = true

/-- A number literal of JSON. -/
structure Literal.IsWritten (l : Literal) : Prop where
  whole : l.whole = ['0'] ∨ IsDigits l.whole ∧ l.whole.head? ≠ some '0'
  fraction : ∀ digits ∈ l.fraction, IsDigits digits
  exponent : ∀ power ∈ l.exponent,
    (∀ sign ∈ power.1, sign = '+' ∨ sign = '-') ∧ IsDigits power.2

theorem Literal.IsWritten.head_whole {l : Literal} (h : l.IsWritten) :
    ∃ c tail, l.whole = c :: tail ∧ c.isDigit = true := by
  rcases h.whole with hzero | ⟨⟨hne, hdigits⟩, -⟩
  · exact ⟨'0', [], hzero, rfl⟩
  · obtain ⟨c, tail, hwhole⟩ := List.exists_cons_of_ne_nil hne
    exact ⟨c, tail, hwhole, hdigits c (hwhole ▸ List.mem_cons_self)⟩

namespace Json

/-- A text that is not the rest of a number literal. -/
def EndsNumber (rest : List Char) : Prop :=
  ∀ c ∈ rest.head?, c.isDigit = false ∧ c ≠ '.' ∧ c ≠ 'e' ∧ c ≠ 'E'

theorem someDigits_append {digits rest : List Char} (h : IsDigits digits)
    (hrest : ∀ c ∈ rest.head?, c.isDigit = false) :
    someDigits (digits ++ rest) = some (digits, rest) := by
  simp [someDigits, takeWhile_run h.2 hrest, dropWhile_run h.2 hrest, h.1]

theorem readWhole_append {l : Literal} (h : l.IsWritten) {rest : List Char}
    (hrest : ∀ c ∈ rest.head?, c.isDigit = false) :
    readWhole (l.whole ++ rest) = some (l.whole, rest) := by
  rcases h.whole with hzero | ⟨hdigits, hhead⟩
  · rw [hzero]
    cases rest with
    | nil => rfl
    | cons c rest => simp [readWhole, hrest c rfl]
  · have hsome := someDigits_append hdigits hrest
    obtain ⟨c, digits, hwhole⟩ := List.exists_cons_of_ne_nil hdigits.1
    rw [hwhole] at hhead hsome ⊢
    have hc : c ≠ '0' := by simpa using hhead
    simpa [readWhole, hc] using hsome

/-- What is written of the digits after the point. -/
def fractionText : Option (List Char) → List Char
  | none => []
  | some digits => '.' :: digits

/-- What is written of an exponent. -/
def exponentText : Option (Option Char × List Char) → List Char
  | none => []
  | some (none, digits) => 'e' :: digits
  | some (some sign, digits) => 'e' :: sign :: digits

theorem printLiteral_eq (l : Literal) :
    printLiteral l = (if l.negative then ['-'] else []) ++
      (l.whole ++ (fractionText l.fraction ++ exponentText l.exponent)) := by
  obtain ⟨negative, whole, fraction, exponent⟩ := l
  rcases fraction with _ | digits <;> rcases exponent with _ | ⟨_ | sign, power⟩ <;>
    simp [printLiteral, fractionText, exponentText]

theorem readPower_append {l : Literal} (h : l.IsWritten) {rest : List Char}
    (hrest : EndsNumber rest) :
    readPower (exponentText l.exponent ++ rest) = some (l.exponent, rest) := by
  cases hexponent : l.exponent with
  | none =>
    cases rest with
    | nil => rfl
    | cons c rest =>
      obtain ⟨-, -, he, hE⟩ := hrest c rfl
      simp [exponentText, readPower, he, hE]
  | some power =>
    obtain ⟨hsign, hdigits⟩ := h.exponent power (by rw [hexponent]; rfl)
    have hsome := someDigits_append hdigits fun c hc => (hrest c hc).1
    obtain ⟨_ | sign, digits⟩ := power
    · obtain ⟨c, tail, rfl⟩ := List.exists_cons_of_ne_nil hdigits.1
      have hc : c.isDigit = true := hdigits.2 c List.mem_cons_self
      have hplus : c ≠ '+' := by rintro rfl; cases hc
      have hminus : c ≠ '-' := by rintro rfl; cases hc
      have hread : someDigits (c :: (tail ++ rest)) = some (c :: tail, rest) := hsome
      simp [exponentText, readPower, hplus, hminus, hread]
    · rcases hsign sign rfl with rfl | rfl <;> simp [exponentText, readPower, hsome]

theorem readFraction_append {l : Literal} (h : l.IsWritten) {rest : List Char}
    (hrest : ∀ c ∈ rest.head?, c.isDigit = false ∧ c ≠ '.') :
    readFraction (fractionText l.fraction ++ rest) = some (l.fraction, rest) := by
  cases hfraction : l.fraction with
  | none =>
    cases rest with
    | nil => rfl
    | cons c rest => simp [fractionText, readFraction, (hrest c rfl).2]
  | some digits =>
    have hdigits := h.fraction digits (by rw [hfraction]; rfl)
    have hsome := someDigits_append hdigits fun c hc => (hrest c hc).1
    simp [fractionText, readFraction, hsome]

theorem head_exponentText (power : Option (Option Char × List Char)) {rest : List Char}
    (hrest : EndsNumber rest) :
    ∀ c ∈ (exponentText power ++ rest).head?, c.isDigit = false ∧ c ≠ '.' := by
  intro c hc
  rcases power with _ | ⟨_ | sign, digits⟩
  · exact ⟨(hrest c hc).1, (hrest c hc).2.1⟩
  all_goals
    cases hc
    decide

theorem head_fractionText (fraction : Option (List Char)) {rest : List Char}
    (hrest : ∀ c ∈ rest.head?, c.isDigit = false) :
    ∀ c ∈ (fractionText fraction ++ rest).head?, c.isDigit = false := by
  intro c hc
  cases fraction with
  | none => exact hrest c hc
  | some digits =>
    cases hc
    decide

/-- A literal is read back. -/
theorem readLiteral_print {l : Literal} (h : l.IsWritten) {rest : List Char}
    (hrest : EndsNumber rest) : readLiteral (printLiteral l ++ rest) = some (l, rest) := by
  have hafter := head_exponentText l.exponent hrest
  have hwhole := readWhole_append h (head_fractionText l.fraction fun c hc => (hafter c hc).1)
  have hfraction := readFraction_append h hafter
  have hpower := readPower_append h hrest
  obtain ⟨c, tail, hcons, hdigit⟩ := h.head_whole
  have hc : c ≠ '-' := by rintro rfl; cases hdigit
  simp only [printLiteral_eq, List.append_assoc]
  obtain ⟨negative, whole, fraction, exponent⟩ := l
  cases hcons
  cases negative with
  | true => simp_all [readLiteral]
  | false => simp_all [readLiteral]

/-! ### Strings -/

theorem readUnit_append {text : List Char} {n : Nat} (h : readUnit text = some (n, []))
    (rest : List Char) : readUnit (text ++ rest) = some (n, rest) := by
  rcases text with _ | ⟨a, _ | ⟨b, _ | ⟨c, _ | ⟨d, more⟩⟩⟩⟩
  all_goals try cases h
  simp only [readUnit, Option.bind_eq_bind, Option.bind_eq_some_iff] at h
  obtain ⟨a', ha, b', hb, c', hc, d', hd, hread⟩ := h
  cases hread
  simp [readUnit, ha, hb, hc, hd]

theorem readUnit_hexUnit : ∀ n < 32, readUnit (hexUnit n) = some (n, []) := by decide

/-- What is written of a character is one piece of a string literal. -/
theorem readPiece_escapeChar (c : Char) (rest : List Char) :
    readPiece (escapeChar c ++ rest) = some (.char c, rest) := by
  unfold escapeChar
  split
  case h_8 hquote hbackslash _ _ _ _ _ =>
    split
    · next hcontrol =>
      have hunit := readUnit_append (readUnit_hexUnit c.toNat hcontrol) rest
      have hlow : ¬ 0xDC00 ≤ c.toNat := by omega
      have hhigh : ¬ 0xD800 ≤ c.toNat := by omega
      simp [readPiece, hunit, hlow, hhigh]
    · next hcontrol =>
      rw [List.singleton_append, readPiece.eq_def]
      split <;> simp_all
  all_goals rfl

theorem length_le_length_flatMap_escapeChar (text : List Char) :
    text.length ≤ (text.flatMap escapeChar).length := by
  induction text with
  | nil => exact Nat.zero_le _
  | cons c text ih =>
    have hsome : escapeChar c ≠ [] := by
      intro hnil
      have hread := readPiece_escapeChar c []
      rw [hnil] at hread
      cases hread
    have hlength : 0 < (escapeChar c).length := List.length_pos_iff.mpr hsome
    simp only [List.flatMap_cons, List.length_append, List.length_cons]
    omega

theorem readString_escape (text rest : List Char) {fuel : Nat} (hfuel : text.length < fuel) :
    readString fuel (text.flatMap escapeChar ++ '"' :: rest) = some (some text, rest) := by
  induction text generalizing fuel with
  | nil =>
    obtain ⟨fuel, rfl⟩ := Nat.exists_eq_add_one_of_ne_zero (Nat.ne_of_gt hfuel)
    rfl
  | cons c text ih =>
    obtain ⟨fuel, rfl⟩ := Nat.exists_eq_add_one_of_ne_zero (Nat.ne_of_gt (Nat.zero_lt_of_lt hfuel))
    rw [List.flatMap_cons, List.append_assoc, readString, readPiece_escapeChar]
    simp [ih (Nat.lt_of_succ_lt_succ hfuel)]

/-- A string literal after its opening quote. -/
def stringTail (s : Option String) : List Char := (printString s).tail

theorem printString_eq (s : Option String) : printString s = '"' :: stringTail s := by
  cases s <;> rfl

theorem map_ofList_map_toList (s : Option String) :
    (s.map String.toList).map String.ofList = s := by
  cases s <;> simp

/-- A string literal is read back, and so is the one that denotes no text. -/
theorem readString_stringTail (s : Option String) (rest : List Char) :
    readString ((stringTail s ++ rest).length + 1) (stringTail s ++ rest) =
      some (s.map String.toList, rest) := by
  cases s with
  | none =>
    have htail : stringTail none ++ rest =
        '\\' :: 'u' :: 'd' :: '8' :: '0' :: '0' :: '"' :: rest := rfl
    have hunit : readUnit ('d' :: '8' :: '0' :: '0' :: '"' :: rest) =
        some (0xD800, '"' :: rest) := by
      simp [readUnit, hexDigit]
    simp [htail, readString, readPiece, hunit]
  | some s =>
    have htail : stringTail (some s) ++ rest = s.toList.flatMap escapeChar ++ '"' :: rest :=
      List.append_assoc _ ['"'] rest
    have hlength := length_le_length_flatMap_escapeChar s.toList
    rw [htail]
    apply readString_escape
    simp only [List.length_append, List.length_cons]
    omega

/-! ### Values -/

/-- A value whose number literals are such as are written. -/
inductive IsWritten : Json → Prop
  | null : IsWritten .null
  | bool (b : Bool) : IsWritten (.bool b)
  | num {l : Literal} (h : l.IsWritten) : IsWritten (.num l)
  | str (s : Option String) : IsWritten (.str s)
  | arr {items : List Json} (h : ∀ item ∈ items, IsWritten item) : IsWritten (.arr items)
  | obj {fields : List (Option String × Json)} (h : ∀ field ∈ fields, IsWritten field.2) :
    IsWritten (.obj fields)

/-- What may follow a value: the end, or what goes on with or ends the value around it. -/
def Follows (rest : List Char) : Prop := ∀ c ∈ rest.head?, c = ',' ∨ c = ']' ∨ c = '\x7d'

theorem Follows.endsNumber {rest : List Char} (h : Follows rest) : EndsNumber rest := by
  intro c hc
  rcases h c hc with rfl | rfl | rfl <;> decide

theorem follows_cons {c : Char} (h : c = ',' ∨ c = ']' ∨ c = '\x7d') (rest : List Char) :
    Follows (c :: rest) := by
  intro other hother
  cases hother
  exact h

theorem skipSpace_cons {c : Char} (h : isSpace c = false) (rest : List Char) :
    skipSpace (c :: rest) = c :: rest := by
  simp [skipSpace, h]

/-- A value is read back, whatever follows it. Two steps a character are enough: one for the value
itself and one for its place in a list or an object. -/
def ReadsBack (j : Json) : Prop :=
  ∀ (rest : List Char) (fuel : Nat), Follows rest → 2 * (print j).length ≤ fuel + 1 →
    readValue (fuel + 1) (print j ++ rest) = some (j, rest)

theorem head_printLiteral {l : Literal} (h : l.IsWritten) :
    ∃ c tail, printLiteral l = c :: tail ∧ isSpace c = false ∧ (c = '-' ∨ c.isDigit = true) := by
  obtain ⟨c, tail, hwhole, hdigit⟩ := h.head_whole
  rw [printLiteral_eq, hwhole]
  cases l.negative with
  | true => exact ⟨'-', _, rfl, rfl, .inl rfl⟩
  | false =>
    refine ⟨c, _, rfl, ?_, .inr hdigit⟩
    simp only [isSpace, Bool.or_eq_false_iff, decide_eq_false_iff_not]
    refine ⟨⟨⟨?_, ?_⟩, ?_⟩, ?_⟩ <;>
      (rintro rfl
       cases hdigit)

/-- What is written starts with something else than a blank or the end of a list. -/
theorem head_print {j : Json} (h : j.IsWritten) :
    ∃ c tail, print j = c :: tail ∧ isSpace c = false ∧ c ≠ ']' := by
  cases h with
  | null => exact ⟨'n', _, rfl, rfl, by decide⟩
  | bool b =>
    cases b with
    | true => exact ⟨'t', _, rfl, rfl, by decide⟩
    | false => exact ⟨'f', _, rfl, rfl, by decide⟩
  | num h =>
    obtain ⟨c, tail, hcons, hspace, hc⟩ := head_printLiteral h
    refine ⟨c, tail, hcons, hspace, ?_⟩
    rintro rfl
    rcases hc with hc | hc <;> cases hc
  | str s => exact ⟨'"', _, printString_eq s, rfl, by decide⟩
  | arr h => exact ⟨'[', _, rfl, rfl, by decide⟩
  | obj h => exact ⟨'\x7b', _, rfl, rfl, by decide⟩

theorem head_printItems (item : Json) (items : List Json)
    (h : ∀ other ∈ item :: items, IsWritten other) :
    ∃ c tail, printItems (item :: items) = c :: tail ∧ isSpace c = false ∧ c ≠ ']' := by
  obtain ⟨c, tail, hcons, hc⟩ := head_print (h item List.mem_cons_self)
  cases items with
  | nil => exact ⟨c, tail, hcons, hc⟩
  | cons second items => exact ⟨c, _, congrArg (· ++ _) hcons, hc⟩

theorem head_printFields (field : Option String × Json) (fields : List (Option String × Json)) :
    ∃ tail, printFields (field :: fields) = '"' :: tail := by
  cases fields with
  | nil => exact ⟨_, congrArg (· ++ _) (printString_eq field.1)⟩
  | cons second fields => exact ⟨_, congrArg (· ++ _) (printString_eq field.1)⟩

theorem readValue_num {l : Literal} (h : l.IsWritten) {rest : List Char} (hrest : Follows rest)
    (fuel : Nat) : readValue (fuel + 1) (printLiteral l ++ rest) = some (.num l, rest) := by
  have hread := readLiteral_print h hrest.endsNumber
  obtain ⟨c, tail, hcons, hspace, hc⟩ := head_printLiteral h
  rw [hcons, List.cons_append] at hread ⊢
  rw [readValue, skipSpace_cons hspace]
  split
  case h_7 => rw [hread]; rfl
  all_goals
    next heq =>
      obtain ⟨rfl, -⟩ := List.cons.inj heq
      rcases hc with hc | hc <;> cases hc

theorem readValue_str (s : Option String) (rest : List Char) (fuel : Nat) :
    readValue (fuel + 1) (printString s ++ rest) = some (.str s, rest) := by
  have hread := readString_stringTail s rest
  rw [printString_eq, List.cons_append, readValue, skipSpace_cons rfl]
  simp only [hread, Option.map_some, map_ofList_map_toList]

theorem printItems_cons_cons (item second : Json) (items : List Json) :
    printItems (item :: second :: items) = print item ++ ',' :: printItems (second :: items) := rfl

theorem printFields_cons_cons (field second : Option String × Json)
    (fields : List (Option String × Json)) :
    printFields (field :: second :: fields) =
      printFields [field] ++ ',' :: printFields (second :: fields) := by
  simp [printFields]

theorem readItems_print {items : List Json} (hitems : items ≠ [])
    (h : ∀ item ∈ items, ReadsBack item) (rest : List Char) (fuel : Nat)
    (hfuel : 2 * (printItems items).length ≤ fuel + 1) :
    readItems (fuel + 2) (printItems items ++ ']' :: rest) = some (items, rest) := by
  induction items generalizing fuel with
  | nil => exact absurd rfl hitems
  | cons item items ih =>
    have hitem := h item List.mem_cons_self
    cases items with
    | nil =>
      rw [printItems] at hfuel ⊢
      rw [readItems, hitem _ fuel (follows_cons (.inr (.inl rfl)) rest) hfuel]
      simp only [skipSpace_cons (c := ']') rfl]
    | cons second items =>
      rw [printItems_cons_cons] at hfuel ⊢
      rw [List.append_assoc, List.cons_append]
      simp only [List.length_append, List.length_cons] at hfuel
      obtain ⟨fuel, rfl⟩ : ∃ n, fuel = n + 1 := ⟨fuel - 1, by omega⟩
      rw [readItems, hitem _ _ (follows_cons (.inl rfl) _) (by omega)]
      simp only [skipSpace_cons (c := ',') rfl]
      have hrest := ih nofun (fun item hitem => h item (List.mem_cons_of_mem _ hitem)) fuel
        (by omega)
      rw [hrest]
      rfl

section

variable (key : Option String) {value : Json} (h : value.ReadsBack) (rest : List Char) (fuel : Nat)
  (hfuel : 2 * (print value).length ≤ fuel + 1)

include h hfuel

/-- The last field of an object is read back. -/
theorem readFields_last :
    readFields (fuel + 2) (printFields [(key, value)] ++ '\x7d' :: rest) =
      some ([(key, value)], rest) := by
  rw [printFields, List.append_assoc, List.cons_append, printString_eq, List.cons_append,
    readFields, skipSpace_cons rfl]
  simp only [readString_stringTail, skipSpace_cons (c := ':') rfl, skipSpace_cons (c := '\x7d') rfl,
    h _ fuel (follows_cons (.inr (.inr rfl)) rest) hfuel,
    map_ofList_map_toList]

/-- A field is read back before the others. -/
theorem readFields_more :
    readFields (fuel + 2) (printFields [(key, value)] ++ ',' :: rest) =
      (readFields (fuel + 1) rest).map fun more => ((key, value) :: more.1, more.2) := by
  rw [printFields, List.append_assoc, List.cons_append, printString_eq, List.cons_append,
    readFields, skipSpace_cons rfl]
  simp only [readString_stringTail, skipSpace_cons (c := ':') rfl, skipSpace_cons (c := ',') rfl,
    h _ fuel (follows_cons (.inl rfl) rest) hfuel,
    map_ofList_map_toList]

end

theorem readFields_print {fields : List (Option String × Json)} (hfields : fields ≠ [])
    (h : ∀ field ∈ fields, ReadsBack field.2) (rest : List Char) (fuel : Nat)
    (hfuel : 2 * (printFields fields).length ≤ fuel + 1) :
    readFields (fuel + 2) (printFields fields ++ '\x7d' :: rest) = some (fields, rest) := by
  induction fields generalizing fuel with
  | nil => exact absurd rfl hfields
  | cons field fields ih =>
    obtain ⟨key, value⟩ := field
    have hvalue : value.ReadsBack := h _ List.mem_cons_self
    have hlength : (print value).length < (printFields [(key, value)]).length := by
      simp only [printFields, List.length_append, List.length_cons]
      omega
    cases fields with
    | nil => exact readFields_last key hvalue rest fuel (by omega)
    | cons second fields =>
      rw [printFields_cons_cons] at hfuel ⊢
      rw [List.append_assoc, List.cons_append]
      simp only [List.length_append, List.length_cons] at hfuel
      obtain ⟨fuel, rfl⟩ : ∃ n, fuel = n + 1 := ⟨fuel - 1, by omega⟩
      have hrest := ih nofun (fun field hfield => h field (List.mem_cons_of_mem _ hfield)) fuel
        (by omega)
      rw [readFields_more key hvalue _ _ (by omega), hrest]
      rfl

/-- A list is read back if its items are. -/
theorem readsBack_arr {items : List Json} (hwritten : ∀ item ∈ items, IsWritten item)
    (h : ∀ item ∈ items, ReadsBack item) : (arr items).ReadsBack := by
  intro rest fuel hrest hfuel
  have htext : print (.arr items) ++ rest = '[' :: (printItems items ++ ']' :: rest) := by
    simp [print]
  rw [print, List.length_cons, List.length_append, List.length_singleton] at hfuel
  obtain ⟨fuel, rfl⟩ : ∃ n, fuel = n + 2 := ⟨fuel - 2, by omega⟩
  rw [htext, readValue, skipSpace_cons rfl]
  cases items with
  | nil => rfl
  | cons item others =>
    have hread := readItems_print (List.cons_ne_nil item others) h rest fuel (by omega)
    obtain ⟨c, tail, hcons, hspace, hc⟩ := head_printItems item others hwritten
    rw [hcons, List.cons_append] at hread ⊢
    simp only [skipSpace_cons hspace]
    rw [hread]
    split
    · next heq => exact absurd (List.cons.inj heq).1 hc
    · rfl

/-- An object is read back if the values of its fields are. -/
theorem readsBack_obj {fields : List (Option String × Json)}
    (h : ∀ field ∈ fields, ReadsBack field.2) : (obj fields).ReadsBack := by
  intro rest fuel hrest hfuel
  have htext : print (.obj fields) ++ rest = '\x7b' :: (printFields fields ++ '\x7d' :: rest) := by
    simp [print]
  rw [print, List.length_cons, List.length_append, List.length_singleton] at hfuel
  obtain ⟨fuel, rfl⟩ : ∃ n, fuel = n + 2 := ⟨fuel - 2, by omega⟩
  rw [htext, readValue, skipSpace_cons rfl]
  cases fields with
  | nil => rfl
  | cons field others =>
    have hread := readFields_print (List.cons_ne_nil field others) h rest fuel (by omega)
    obtain ⟨tail, hcons⟩ := head_printFields field others
    rw [hcons, List.cons_append] at hread ⊢
    simp only [skipSpace_cons (c := '"') rfl]
    rw [hread]
    rfl

/-- Every value is read back. -/
theorem readsBack_of_isWritten {j : Json} (h : j.IsWritten) : j.ReadsBack := by
  induction h with
  | null => exact fun _ _ _ _ => rfl
  | bool b => exact fun _ _ _ _ => by cases b <;> rfl
  | num h => exact fun rest fuel hrest _ => readValue_num h hrest fuel
  | str s => exact fun rest fuel _ _ => readValue_str s rest fuel
  | arr h ih => exact readsBack_arr h ih
  | obj h ih => exact readsBack_obj ih

/-- A value written without spaces is read back. -/
theorem parse_compact {j : Json} (h : j.IsWritten) : parse j.compact = some j := by
  have hread := readsBack_of_isWritten h [] (2 * (print j).length + 1) nofun (by omega)
  rw [List.append_nil] at hread
  simp [parse, compact, hread, skipSpace]

/-- Two values that are written alike are the same. -/
theorem compact_injective {j j' : Json} (h : j.IsWritten) (h' : j'.IsWritten)
    (htext : j.compact = j'.compact) : j = j' := by
  have hparsed := parse_compact h
  rw [htext, parse_compact h'] at hparsed
  exact (Option.some.inj hparsed).symm

end Json

end SchemaEvolution
