import Mathlib.Data.List.Infix
import SchemaEvolution.Proofs.Dialect.Supported
import SchemaEvolution.Sqlite.Failure
import SchemaEvolution.Sqlite.Scope

/-!
# What complaints say

A failure counts as one of an object that exists if one of two phrases occurs in its text. The words
around the complaint contain neither, so it is the complaint that decides
(`kind_failure_eq_alreadyExists_iff`).
-/

namespace SchemaEvolution

/-! ### Occurrences -/

theorem Text.occurs_eq_true_iff {part text : List Char} :
    Text.occurs part text = true ↔ part <:+: text := by
  induction text with
  | nil => simp [Text.occurs]
  | cons c rest ih =>
    rw [Text.occurs, Bool.or_eq_true, List.isPrefixOf_iff_prefix, ih, List.infix_cons_iff]

/-- What does not contain an element occurs on one side of it. -/
theorem infix_append_cons_iff {ι : Type} {part before after : List ι} {x : ι} (hx : x ∉ part) :
    part <:+: before ++ x :: after ↔ part <:+: before ∨ part <:+: after := by
  have hnone {rest : List ι} (hrest : ∀ y ∈ rest, y ∈ part) (h : rest <+: x :: after) :
      rest = [] := by
    cases rest with
    | nil => rfl
    | cons y rest =>
      cases (List.cons_prefix_cons.mp h).1
      exact absurd (hrest _ List.mem_cons_self) hx
  constructor
  · intro h
    rcases List.infix_append_iff.mp h with h | h | ⟨first, rest, rfl, hfirst, hrest⟩
    · exact .inl h
    · rcases List.infix_cons_iff.mp h with h | h
      · rw [hnone (fun _ => id) h]
        exact .inl List.nil_infix
      · exact .inr h
    · rw [hnone (fun y => List.mem_append_right first) hrest, List.append_nil]
      exact .inl hfirst.isInfix
  · rintro (h | h)
    · exact List.infix_append_of_infix_left h
    · exact List.infix_append_of_infix_right (List.infix_cons h)

namespace Sqlite

/-! ### The two phrases -/

/-- The phrases by which a failure is told to be one of an object that exists. -/
def existencePhrases : List String := ["already exists", "duplicate column name"]

/-- Neither phrase occurs in a text. -/
def Silent (text : String) : Prop := ∀ phrase ∈ existencePhrases, ¬phrase.toList <:+: text.toList

instance (text : String) : Decidable (Silent text) :=
  inferInstanceAs (Decidable (∀ phrase ∈ existencePhrases, _))

/-- Neither phrase occurs in a text, whatever the case of its letters. -/
def Quiet (text : String) : Prop := Silent (String.ofList (fold text))

instance (text : String) : Decidable (Quiet text) := inferInstanceAs (Decidable (Silent _))

/-- A phrase starts with a letter. -/
private theorem infix_blank_cons_iff {phrase : String} (h : phrase ∈ existencePhrases)
    (text : List Char) : phrase.toList <:+: ' ' :: text ↔ phrase.toList <:+: text := by
  have hstart : ∀ phrase ∈ existencePhrases, ¬phrase.toList.head? = some ' ' ∧ phrase.toList ≠ [] :=
    by decide
  obtain ⟨hblank, hne⟩ := hstart phrase h
  rw [List.infix_cons_iff, or_iff_right]
  intro hprefix
  rcases List.prefix_cons_iff.mp hprefix with hnil | ⟨rest, hrest, -⟩
  · exact hne hnil
  · rw [hrest] at hblank
    exact hblank rfl

/-- The words in front of a complaint hide no phrase. -/
private theorem infix_failure_iff (code : Nat) (message : String) {phrase : String}
    (h : phrase ∈ existencePhrases) :
    phrase.toList <:+: ("error returned from database: (code: " ++ toString code ++ ") " ++
        message).toList ↔ phrase.toList <:+: message.toList := by
  have hphrases : ∀ phrase ∈ existencePhrases, 'e' ∈ phrase.toList ∧ '(' ∉ phrase.toList ∧
      ')' ∉ phrase.toList ∧ ':' ∉ phrase.toList ∧ ¬phrase.toList <:+: "code".toList ∧
        ¬phrase.toList <:+: "error returned from database: ".toList := by
    decide +kernel
  obtain ⟨hletter, hopening, hclosing, hcolon, hcode, hwords⟩ := hphrases phrase h
  have hnumber : ¬phrase.toList <:+: (toString code).toList := by
    intro hpart
    cases Text.Reads.isDigit_of_mem_toString (hpart.subset hletter)
  -- The text is split at characters that no phrase contains.
  have htext :
      ("error returned from database: (code: " ++ toString code ++ ") " ++ message).toList =
      "error returned from database: ".toList ++ '(' :: ("code".toList ++ ':' ::
        (' ' :: (toString code).toList ++ ')' :: (' ' :: message.toList))) := by
    simp
  rw [htext, infix_append_cons_iff hopening, infix_append_cons_iff hcolon,
    infix_append_cons_iff hclosing, infix_blank_cons_iff h, infix_blank_cons_iff h]
  simp only [hwords, hcode, hnumber, false_or]

/-- A failure is one of an object that exists if and only if its complaint says so. -/
theorem kind_failure_eq_alreadyExists_iff {code : Nat} {message : String} :
    (failure code message).kind = .alreadyExists ↔ ¬Silent message := by
  obtain ⟨text, htext⟩ : ∃ text,
      text = "error returned from database: (code: " ++ toString code ++ ") " ++ message :=
    ⟨_, rfl⟩
  have hkind : (failure code message).kind =
      if (Text.occurs "already exists".toList text.toList ||
        Text.occurs "duplicate column name".toList text.toList) = true then .alreadyExists
      else .other := by
    rw [htext]
    rfl
  have hsilent : ¬Silent message ↔ "already exists".toList <:+: text.toList ∨
      "duplicate column name".toList <:+: text.toList := by
    rw [htext, infix_failure_iff code message (by decide),
      infix_failure_iff code message (by decide)]
    simp only [Silent, existencePhrases, List.forall_mem_cons, not_and_or, not_not,
      List.not_mem_nil, false_implies, implies_true, not_true_eq_false, or_false]
  rw [hkind, hsilent, ← Text.occurs_eq_true_iff, ← Text.occurs_eq_true_iff, ← Bool.or_eq_true]
  split
  · next hoccurs => exact iff_of_true rfl hoccurs
  · next hoccurs => exact iff_of_false nofun hoccurs

end Sqlite

end SchemaEvolution
