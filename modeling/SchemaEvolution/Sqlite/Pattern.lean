/-!
# Patterns

A pattern is compared with a text: one character stands for any run of characters, one for any
single character, and a third either takes the next one as it is or starts a set of characters.
-/

namespace SchemaEvolution.Sqlite

/-- What comes of a comparison: `hopeless` when no other place to start from would do. -/
inductive Match where
  | yes
  | no
  | hopeless
  deriving DecidableEq, Repr

/-- What the characters of a pattern stand for. -/
structure PatternStyle where
  any : Option Char
  one : Option Char
  escape : Option Char
  set : Option Char
  folded : Bool
  deriving DecidableEq, Repr

namespace PatternStyle

/-- A percent sign for any run, an underscore for one character, letters of any case. -/
def like : PatternStyle := ⟨some '%', some '_', none, none, true⟩

/-- The same with a character that takes the next one as it is. -/
def likeWith (escape : Char) : PatternStyle :=
  { like with
    any := if escape = '%' then none else like.any
    one := if escape = '_' then none else like.one
    escape := some escape }

/-- A star for any run, a question mark for one character, sets in brackets. -/
def glob : PatternStyle := ⟨some '*', some '?', none, some '[', false⟩

end PatternStyle

namespace Pattern

/-- Whether two characters are the same in a style. -/
def sameChar (s : PatternStyle) (c d : Char) : Bool :=
  c == d || (s.folded && c.toLower == d.toLower)

/-- Whether a character is in the set at the start of a pattern, after what has been `seen` and the
character before, and the pattern after the set. -/
def scanSet (c : Char) (seen : Bool) (before : Option Char) :
    Nat → List Char → Option (Bool × List Char)
  | 0, _ => none
  | _ + 1, [] => none
  | _ + 1, ']' :: rest => some (seen, rest)
  | fuel + 1, '-' :: d :: rest =>
    match before with
    | some b =>
      if d = ']' then scanSet c (seen || c == '-') (some '-') fuel (d :: rest)
      else scanSet c (seen || (b ≤ c && c ≤ d)) none fuel rest
    | none => scanSet c (seen || c == '-') (some '-') fuel (d :: rest)
  | fuel + 1, d :: rest => scanSet c (seen || c == d) (some d) fuel rest

/-- Whether a character is in the set after an opening bracket, and the pattern after the set. -/
def inSet (c : Char) (pattern : List Char) : Option (Bool × List Char) :=
  let (inverted, pattern) := match pattern with
    | '^' :: rest => (true, rest)
    | rest => (false, rest)
  let (seen, pattern) := match pattern with
    | ']' :: rest => (c == ']', rest)
    | rest => (false, rest)
  (scanSet c seen none (pattern.length + 1) pattern).map fun (found, rest) =>
    (found != inverted, rest)

/-- The pattern after a run of characters that stand for any run or for one character each, and the
text after as many characters; there may be too few. -/
def skipRuns (s : PatternStyle) : List Char → List Char → Option (List Char × List Char)
  | [], text => some ([], text)
  | c :: pattern, text =>
    if s.any = some c then skipRuns s pattern text
    else if s.one = some c then
      match text with
      | _ :: rest => skipRuns s pattern rest
      | [] => none
    else some (c :: pattern, text)

/-- Tries the places of a text in order, until one is not plainly wrong. -/
def search (attempt : List Char → Match) (isPlace : Char → Bool) (keep : Bool) : List Char → Match
  | [] => .hopeless
  | c :: rest =>
    if isPlace c then
      match attempt (if keep then c :: rest else rest) with
      | .no => search attempt isPlace keep rest
      | decided => decided
    else search attempt isPlace keep rest

/-- Compares a pattern with a text. -/
def compare (s : PatternStyle) : Nat → List Char → List Char → Match
  | 0, _, _ => .no
  | _ + 1, [], text => if text.isEmpty then .yes else .no
  | fuel + 1, c :: pattern, text =>
    if s.any = some c then
      match skipRuns s pattern text with
      | none => .hopeless
      | some ([], _) => .yes
      | some (d :: rest, text) =>
        if s.escape = some d then
          match rest with
          | [] => .hopeless
          | e :: rest => search (compare s fuel rest) (sameChar s e) false text
        else if s.set = some d then search (compare s fuel (d :: rest)) (fun _ => true) true text
        else search (compare s fuel rest) (sameChar s d) false text
    else if s.escape = some c then
      match pattern, text with
      | d :: pattern, e :: text => if sameChar s d e then compare s fuel pattern text else .no
      | _, _ => .no
    else if s.set = some c then
      match text with
      | [] => .no
      | e :: text =>
        match inSet e pattern with
        | some (true, pattern) => compare s fuel pattern text
        | _ => .no
    else
      match text with
      | e :: text =>
        if sameChar s c e || s.one = some c then compare s fuel pattern text else .no
      | [] => .no

/-- Whether a text is as a pattern says. -/
def isMatch (s : PatternStyle) (pattern text : String) : Bool :=
  compare s (pattern.length + 1) pattern.toList text.toList == .yes

end Pattern

end SchemaEvolution.Sqlite
