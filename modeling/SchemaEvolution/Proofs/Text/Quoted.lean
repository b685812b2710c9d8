import SchemaEvolution.Proofs.Text.Lexeme

/-!
# Reading quoted texts

Whatever a text holds, it is read back from between its delimiters, and what follows it is left. The
one thing that may not follow is another closing delimiter, which would be read as part of the text
(`readQuoted_quote_eq_some_iff`). So quoted parts between dots are read back one by one, as long as
neither a closing delimiter nor a dot follows (`readParts_dotted_eq_some_iff`).
-/

namespace SchemaEvolution.Text

/-! ### Scanning -/

variable {q : Char}

theorem scanQuoted_twice (rest : List Char) :
    scanQuoted q (q :: q :: rest) = (scanQuoted q rest).map fun p => (q :: p.1, p.2) := by
  simp [scanQuoted]

theorem scanQuoted_cons_of_ne {c : Char} (hc : c ≠ q) (rest : List Char) :
    scanQuoted q (c :: rest) = (scanQuoted q rest).map fun p => (c :: p.1, p.2) := by
  cases rest <;> simp [scanQuoted, hc]

/-- A closing delimiter that stands alone ends the text. -/
theorem scanQuoted_end {rest : List Char} (h : rest.head? ≠ some q) :
    scanQuoted q (q :: rest) = some ([], rest) := by
  cases rest with
  | nil => simp [scanQuoted]
  | cons c rest =>
    have hc : c ≠ q := by simpa using h
    simp [scanQuoted, hc]

/-- Delimiters that are written twice end nothing. -/
theorem scanQuoted_double (text rest : List Char) :
    scanQuoted q (double q text ++ rest) =
      (scanQuoted q rest).map fun p => (text ++ p.1, p.2) := by
  induction text with
  | nil => simp [double]
  | cons c text ih =>
    by_cases hc : c = q
    · subst hc
      simp [double, scanQuoted_twice, ih, Function.comp_def]
    · simp [double, scanQuoted_cons_of_ne, hc, ih, Function.comp_def]

theorem length_lt_of_scanQuoted {text body rest : List Char}
    (h : scanQuoted q text = some (body, rest)) : rest.length < text.length := by
  fun_induction scanQuoted q text generalizing body with
  | case1 => cases h
  | case2 =>
    cases h
    exact Nat.lt_add_one _
  | case3 after ih =>
    obtain ⟨p, hp, heq⟩ := Option.map_eq_some_iff.mp h
    cases heq
    exact Nat.lt_succ_of_lt (Nat.lt_succ_of_lt (ih hp))
  | case4 =>
    cases h
    exact Nat.lt_add_one _
  | case5 c after hc ih =>
    obtain ⟨p, hp, heq⟩ := Option.map_eq_some_iff.mp h
    cases heq
    exact Nat.lt_succ_of_lt (ih hp)

/-- A quoted body ends where another text follows exactly if that does not go on with the closing
delimiter. Then the body has been read as it was. -/
theorem scanQuoted_body_eq_some_iff {text body rest : List Char} :
    scanQuoted q (double q text ++ q :: rest) = some (body, rest) ↔
      body = text ∧ rest.head? ≠ some q := by
  rw [scanQuoted_double]
  by_cases hhead : rest.head? = some q
  · obtain ⟨more, rfl⟩ := List.head?_eq_some_iff.mp hhead
    suffices h : (scanQuoted q (q :: q :: more)).map (fun p => (text ++ p.1, p.2)) ≠
        some (body, q :: more) by simpa using h
    intro hread
    obtain ⟨p, hp, hpair⟩ := Option.map_eq_some_iff.mp hread
    obtain ⟨p', hp', rfl⟩ := Option.map_eq_some_iff.mp ((scanQuoted_twice more).symm.trans hp)
    have hshort : p'.2.length < more.length := length_lt_of_scanQuoted hp'
    rw [(congrArg Prod.snd hpair : p'.2 = q :: more)] at hshort
    exact absurd hshort (Nat.not_lt.mpr (Nat.le_succ _))
  · simp [scanQuoted_end hhead, hhead, eq_comm]

theorem double_eq_self {text : List Char} (h : q ∉ text) : double q text = text := by
  induction text with
  | nil => rfl
  | cons c text ih =>
    obtain ⟨hc, htext⟩ := not_or.mp (mt List.mem_cons.mpr h)
    rw [double, if_neg (Ne.symm hc), ih htext]

/-! ### Texts between delimiters -/

/-- Reads a quoted text with a mark in front of its opening delimiter: the text, and what follows
it. -/
def readQuoted (mark : String) (opening closing : Char) (text : String) :
    Option (String × String) :=
  if (mark.toList ++ [opening]).isPrefixOf text.toList then
    (scanQuoted closing (text.toList.drop (mark.toList ++ [opening]).length)).map fun p =>
      (String.ofList p.1, String.ofList p.2)
  else none

/-- A quoted text is read back, with what follows it, exactly if that does not go on with the closing
delimiter. -/
theorem readQuoted_quote_eq_some_iff {mark : String} {opening closing : Char} {s body r : String} :
    readQuoted mark opening closing (mark ++ quote opening closing s ++ r) = some (body, r) ↔
      body = s ∧ r.toList.head? ≠ some closing := by
  have htext : (mark ++ quote opening closing s ++ r).toList =
      (mark.toList ++ [opening]) ++ (double closing s.toList ++ closing :: r.toList) := by
    simp [quote]
  have hprefix := List.isPrefixOf_iff_prefix.mpr (List.prefix_append (mark.toList ++ [opening])
    (double closing s.toList ++ closing :: r.toList))
  have hbody : body = s ↔ body.toList = s.toList := String.toList_inj.symm
  rw [readQuoted, htext, if_pos hprefix, List.drop_left, hbody, ← scanQuoted_body_eq_some_iff]
  constructor
  · intro hread
    obtain ⟨p, hscan, hpair⟩ := Option.map_eq_some_iff.mp hread
    cases hpair
    simpa using hscan
  · intro hscan
    simp [hscan]

/-- The same without a mark. -/
theorem readQuoted_eq_some_iff {opening closing : Char} {s r : String} :
    readQuoted "" opening closing (quote opening closing s ++ r) = some (s, r) ↔
      r.toList.head? ≠ some closing := by
  have hread := @readQuoted_quote_eq_some_iff "" opening closing s s r
  rwa [String.empty_append, eq_self, true_and] at hread

/-! ### Parts between dots -/

variable {d : Delimiters}

/-- Reads quoted parts between dots: the parts, and what follows them. -/
def readParts (d : Delimiters) (text : List Char) : Option (List String × List Char) :=
  match text with
  | [] => none
  | c :: body =>
    if c = d.opening then
      match _hpart : scanQuoted d.closing body with
      | none => none
      | some (part, []) => some ([String.ofList part], [])
      | some (part, next :: rest) =>
        if next = '.' then
          (readParts d rest).map fun p => (String.ofList part :: p.1, p.2)
        else some ([String.ofList part], next :: rest)
    else none
termination_by text.length
decreasing_by
  have hlt := length_lt_of_scanQuoted _hpart
  simp only [List.length_cons] at hlt ⊢
  omega

theorem readParts_of_unclosed {body : List Char} (h : scanQuoted d.closing body = none) :
    readParts d (d.opening :: body) = none := by
  rw [readParts, if_pos rfl]
  split
  · rfl
  all_goals
    next hpart => cases h.symm.trans hpart

/-- Without a dot behind it, a part is the last one. -/
theorem readParts_of_last {body part rest : List Char}
    (h : scanQuoted d.closing body = some (part, rest)) (hrest : rest.head? ≠ some '.') :
    readParts d (d.opening :: body) = some ([String.ofList part], rest) := by
  rw [readParts, if_pos rfl]
  split
  · next hpart => cases h.symm.trans hpart
  · next hpart =>
    cases h.symm.trans hpart
    rfl
  · next hpart =>
    cases h.symm.trans hpart
    exact if_neg fun hdot => hrest (congrArg some hdot)

/-- Behind a dot there is another part. -/
theorem readParts_of_dot {body part rest : List Char}
    (h : scanQuoted d.closing body = some (part, '.' :: rest)) :
    readParts d (d.opening :: body) =
      (readParts d rest).map fun p => (String.ofList part :: p.1, p.2) := by
  rw [readParts, if_pos rfl]
  split
  · next hpart => cases h.symm.trans hpart
  · next hpart => cases h.symm.trans hpart
  · next hpart =>
    cases h.symm.trans hpart
    exact if_pos rfl

/-- What was read is the last part, or a part in front of others. -/
theorem readParts_cases {body rest : List Char} {parts : List String}
    (h : readParts d (d.opening :: body) = some (parts, rest)) : ∃ part,
      (scanQuoted d.closing body = some (part, rest) ∧ rest.head? ≠ some '.' ∧
        parts = [String.ofList part]) ∨
      ∃ more others, scanQuoted d.closing body = some (part, '.' :: more) ∧
        readParts d more = some (others, rest) ∧ parts = String.ofList part :: others := by
  cases hscan : scanQuoted d.closing body with
  | none => cases (readParts_of_unclosed hscan).symm.trans h
  | some p =>
    obtain ⟨part, left⟩ := p
    by_cases hdot : left.head? = some '.'
    · obtain ⟨more, rfl⟩ := List.head?_eq_some_iff.mp hdot
      obtain ⟨q, hothers, hpair⟩ := Option.map_eq_some_iff.mp ((readParts_of_dot hscan).symm.trans h)
      cases hpair
      exact ⟨part, .inr ⟨more, q.1, rfl, hothers, rfl⟩⟩
    · cases (readParts_of_last hscan hdot).symm.trans h
      exact ⟨part, .inl ⟨rfl, hdot, rfl⟩⟩

theorem ne_nil_of_readParts {text rest : List Char} {parts : List String}
    (h : readParts d text = some (parts, rest)) : parts ≠ [] := by
  cases text with
  | nil => simp [readParts] at h
  | cons c body =>
    by_cases hc : c = d.opening
    · subst hc
      obtain ⟨part, ⟨-, -, rfl⟩ | ⟨_, others, -, -, rfl⟩⟩ := readParts_cases h
      · exact List.cons_ne_nil _ _
      · exact List.cons_ne_nil _ _
    · simp [readParts, hc] at h

theorem toList_quote_append (part : String) (rest : List Char) :
    (d.quote part).toList ++ rest =
      d.opening :: (double d.closing part.toList ++ d.closing :: rest) := by
  simp [Delimiters.quote, quote]

theorem scanQuoted_part {part rest : List Char} (h : rest.head? ≠ some d.closing) :
    scanQuoted d.closing (double d.closing part ++ d.closing :: rest) = some (part, rest) :=
  scanQuoted_body_eq_some_iff.mpr ⟨rfl, h⟩

/-- One quoted part is read back as the only one. -/
theorem readParts_quote_eq_some_iff {part : String} {rest : List Char} :
    readParts d ((d.quote part).toList ++ rest) = some ([part], rest) ↔
      rest.head? ≠ some d.closing ∧ rest.head? ≠ some '.' := by
  rw [toList_quote_append]
  constructor
  · intro hread
    obtain ⟨first, ⟨hscan, hdot, -⟩ | ⟨_, others, -, hothers, hparts⟩⟩ := readParts_cases hread
    · exact ⟨(scanQuoted_body_eq_some_iff.mp hscan).2, hdot⟩
    · -- Behind the dot more parts would have been read.
      exact absurd (List.cons.inj hparts).2.symm (ne_nil_of_readParts hothers)
  · rintro ⟨hclosing, hdot⟩
    rw [readParts_of_last (scanQuoted_part hclosing) hdot, String.ofList_toList]

/-- A quoted part in front of a dot is read back in front of the others. -/
theorem readParts_quote_dot (part : String) (rest : List Char) :
    readParts d ((d.quote part).toList ++ '.' :: rest) =
      (readParts d rest).map fun p => (part :: p.1, p.2) := by
  have hclosing : ('.' :: rest).head? ≠ some d.closing := by cases d <;> simp [Delimiters.closing]
  rw [toList_quote_append, readParts_of_dot (scanQuoted_part hclosing), String.ofList_toList]

/-- Quoted parts with dots between them are read back one by one. -/
theorem readParts_dotted_eq_some_iff {parts : List String} (hparts : parts ≠ [])
    {rest : List Char} :
    readParts d ((".".intercalate (parts.map d.quote)).toList ++ rest) = some (parts, rest) ↔
      rest.head? ≠ some d.closing ∧ rest.head? ≠ some '.' := by
  induction parts with
  | nil => exact absurd rfl hparts
  | cons part parts ih =>
    cases parts with
    | nil =>
      rw [List.map_cons, List.map_nil, String.intercalate_singleton]
      exact readParts_quote_eq_some_iff
    | cons next parts =>
      have htext : (".".intercalate ((part :: next :: parts).map d.quote)).toList ++ rest =
          (d.quote part).toList ++ '.' ::
            ((".".intercalate ((next :: parts).map d.quote)).toList ++ rest) := by
        simp
      rw [htext, readParts_quote_dot, ← ih (List.cons_ne_nil _ _)]
      constructor
      · intro hread
        obtain ⟨⟨others, after⟩, hothers, hpair⟩ := Option.map_eq_some_iff.mp hread
        cases hpair
        exact hothers
      · intro hread
        rw [hread]
        rfl

end SchemaEvolution.Text
