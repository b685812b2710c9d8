/-!
# Bytes as text

A run of bytes is a text when each of its characters is encoded in one to four bytes, by the
shortest encoding and of no surrogate. Otherwise it goes wrong at some byte, or stops inside a
character.
-/

namespace SchemaEvolution.Text

/-- Why some bytes are no text: after some valid bytes come a number of invalid ones, or the start
of a character that does not end. -/
inductive Malformed where
  | invalid (length index : Nat)
  | incomplete (index : Nat)
  deriving DecidableEq, Repr

/-- Why some bytes are no text, in words. -/
def Malformed.message : Malformed → String
  | .invalid length index =>
    "invalid utf-8 sequence of " ++ toString length ++ " bytes from index " ++ toString index
  | .incomplete index => "incomplete utf-8 byte sequence from index " ++ toString index

/-- Which bytes may come second after a first one, and how many follow in all. -/
def following (first : UInt8) : Option (Nat × UInt8 × UInt8) :=
  if 0xC2 ≤ first && first ≤ 0xDF then some (1, 0x80, 0xBF)
  else if first = 0xE0 then some (2, 0xA0, 0xBF)
  else if first = 0xED then some (2, 0x80, 0x9F)
  else if 0xE1 ≤ first && first ≤ 0xEF then some (2, 0x80, 0xBF)
  else if first = 0xF0 then some (3, 0x90, 0xBF)
  else if 0xF1 ≤ first && first ≤ 0xF3 then some (3, 0x80, 0xBF)
  else if first = 0xF4 then some (3, 0x80, 0x8F)
  else none

/-- How the bytes after the first of a character go on: with what the character needs, with a byte
that does not belong to it after `length` that do, or not far enough. -/
inductive Continuation where
  | complete (bytes : List UInt8)
  | broken (length : Nat)
  | short
  deriving DecidableEq, Repr

/-- How some bytes go on after those already `taken`. -/
def continuation (taken : List UInt8) : Nat → UInt8 → UInt8 → List UInt8 → Continuation
  | 0, _, _, _ => .complete taken
  | _ + 1, _, _, [] => .short
  | count + 1, low, high, b :: rest =>
    if low ≤ b && b ≤ high then continuation (taken ++ [b]) count 0x80 0xBF rest
    else .broken taken.length

/-- The character of a first byte and the ones that follow it. -/
def characterOf (first : UInt8) (more : List UInt8) : Char :=
  let start := match more.length with
    | 1 => first.toNat % 0x20
    | 2 => first.toNat % 0x10
    | _ => first.toNat % 0x08
  Char.ofNat (more.foldl (fun n b => n * 0x40 + b.toNat % 0x40) start)

/-- The character at the start of some bytes and how many bytes it takes, or how it is malformed. -/
def nextCharacter (first : UInt8) (rest : List UInt8) : Except (Option Nat) (Char × Nat) :=
  if first < 0x80 then .ok (Char.ofNat first.toNat, 1)
  else
    match following first with
    | none => .error (some 1)
    | some (count, low, high) =>
      match continuation [] count low high rest with
      | .complete more => .ok (characterOf first more, count + 1)
      | .broken length => .error (some (length + 1))
      | .short => .error none

/-- The text of some bytes, which stand at an index. -/
def decodeFrom (index : Nat) : Nat → List UInt8 → Except Malformed (List Char)
  | _, [] => .ok []
  | 0, _ => .ok []
  | fuel + 1, first :: rest =>
    match nextCharacter first rest with
    | .ok (c, length) =>
      (decodeFrom (index + length) fuel (rest.drop (length - 1))).map (c :: ·)
    | .error (some length) => .error (.invalid length index)
    | .error none => .error (.incomplete index)

/-- The text of some bytes. -/
def decode (bytes : List UInt8) : Except Malformed (List Char) :=
  decodeFrom 0 bytes.length bytes

/-- The text of some bytes, with the replacement character for what is malformed. -/
def decodeLossy : Nat → List UInt8 → List Char
  | _, [] => []
  | 0, _ => []
  | fuel + 1, first :: rest =>
    match nextCharacter first rest with
    | .ok (c, length) => c :: decodeLossy fuel (rest.drop (length - 1))
    | .error (some length) => '\uFFFD' :: decodeLossy fuel (rest.drop (length - 1))
    | .error none => ['\uFFFD']

/-- The bytes of a text. -/
def encode (text : List Char) : List UInt8 := (String.ofList text).toUTF8.toList

end SchemaEvolution.Text
