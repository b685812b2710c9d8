import SchemaEvolution.Sqlite.Function.Text

/-!
# Formatted texts

A format is a text with directives, each of which shows one of some values as a number, a text or a
literal: after a percent sign come marks, a width, a precision and a letter. Widths and precisions
count bytes, or characters where an exclamation mark asks for it. What is no directive ends the
text.
-/

namespace SchemaEvolution.Sqlite

/-- A directive: whether it is aligned to the left, what stands in front of a number that is not
negative, whether it is shown in its other form, whether all of it is shown, whether zeros fill it
up, whether its thousands are separated, its width, its precision, and its letter. -/
structure Directive where
  toLeft : Bool := false
  sign : Option Char := none
  alternate : Bool := false
  exact : Bool := false
  zeros : Bool := false
  thousands : Bool := false
  width : Nat := 0
  precision : Option Nat := none
  letter : Char := '%'
  deriving DecidableEq, Repr

namespace Directive

/-! ## Reading -/

/-- The next value as an integer; without one it is zero. -/
def nextInteger : List Value → Int × List Value
  | [] => (0, [])
  | v :: rest => (v.asInteger, rest)

/-- One more than the greatest width. -/
def widthLimit : Nat := 2147483648

/-- The size of an integer of 32 bits; the least of them has none. -/
def sizeOf? (n : Int) : Option Nat := if n = -widthLimit then none else some n.natAbs

/-- Reads a directive after its percent sign: it, what follows, and the values that it left. -/
def read (d : Directive) : Nat → List Char → List Value →
    Option (Directive × List Char × List Value)
  | 0, _, _ => none
  | fuel + 1, text, values =>
    let finish (d : Directive) (text : List Char) (values : List Value) :
        Option (Directive × List Char × List Value) :=
      match text with
      | [] => none
      | c :: rest => some ({ d with letter := c }, rest, values)
    let goesOn (text : List Char) (marks : List Char) : Bool := text.head?.any marks.contains
    match text with
    | [] => none
    | '-' :: rest => read { d with toLeft := true } fuel rest values
    | '+' :: rest => read { d with sign := some '+' } fuel rest values
    | ' ' :: rest => read { d with sign := some ' ' } fuel rest values
    | '#' :: rest => read { d with alternate := true } fuel rest values
    | '!' :: rest => read { d with exact := true } fuel rest values
    | '0' :: rest => read { d with zeros := true } fuel rest values
    | ',' :: rest => read { d with thousands := true } fuel rest values
    | 'l' :: 'l' :: rest => finish d rest values
    | 'l' :: rest => finish d rest values
    | '*' :: rest =>
      let (n, values) := nextInteger values
      let n := Function.toInt32 n
      let d := { d with toLeft := d.toLeft || n < 0, width := (sizeOf? n).getD 0 }
      if goesOn rest ['.', 'l'] then read d fuel rest values else finish d rest values
    | '.' :: '*' :: rest =>
      let (n, values) := nextInteger values
      let d := { d with precision := sizeOf? (Function.toInt32 n) }
      if goesOn rest ['l'] then read d fuel rest values else finish d rest values
    | '.' :: rest =>
      let digits := rest.takeWhile Char.isDigit
      let rest := rest.dropWhile Char.isDigit
      let d := { d with precision := some (Number.digitsValue digits % widthLimit) }
      if goesOn rest ['l'] then read d fuel rest values else finish d rest values
    | c :: rest =>
      if c.isDigit then
        let rest' := rest.dropWhile Char.isDigit
        let d := { d with
          width := Number.digitsValue (c :: rest.takeWhile Char.isDigit) % widthLimit }
        if goesOn rest' ['.', 'l'] then read d fuel rest' values else finish d rest' values
      else finish d (c :: rest) values

/-! ## Showing -/

/-- Bytes filled up with spaces to a width. -/
def fill (toLeft : Bool) (width length : Nat) (bytes : List UInt8) : List UInt8 :=
  let spaces := List.replicate (width - length) (32 : UInt8)
  if toLeft then bytes ++ spaces else spaces ++ bytes

/-- ASCII characters as bytes. -/
def plainBytes (text : List Char) : List UInt8 := text.map fun c => UInt8.ofNat c.toNat

/-- Characters filled up to the width of a directive. -/
def padded (d : Directive) (text : List Char) : List UInt8 :=
  fill d.toLeft d.width text.length (plainBytes text)

/-- How many bytes of a text are no more than continuations of characters. -/
def continuations (bytes : List UInt8) : Nat :=
  (bytes.filter fun b => 0x80 ≤ b && b < 0xC0).length

/-- A text filled up to the width of a directive. -/
def paddedText (d : Directive) (exact : Bool) (bytes : List UInt8) : List UInt8 :=
  fill d.toLeft d.width (bytes.length - if exact then continuations bytes else 0) bytes

/-- The first bytes of a text, or its first characters. -/
def cut (d : Directive) (text : List Char) : List UInt8 :=
  match d.precision with
  | none => bytesOfText (String.ofList text)
  | some n =>
    if d.exact then bytesOfText (String.ofList (text.take n))
    else (bytesOfText (String.ofList text)).take n

/-- Digits with a comma before each group of three. -/
def separated (digits : List Char) : List Char :=
  (digits.mapIdx fun i c =>
    let left := digits.length - i
    if i ≠ 0 && left % 3 = 0 then [',', c] else [c]).flatten

/-- The ending that makes a number an ordinal. -/
def ordinalEnding (n : Nat) : List Char :=
  let last := if n / 10 % 10 = 1 then 0 else n % 10
  (if last = 1 then "st" else if last = 2 then "nd" else if last = 3 then "rd" else "th").toList

/-- The digits of an integer, with zeros in front of them up to a precision, or to the width if
zeros fill it. -/
def integerText (d : Directive) (sign : Option Char) (lead digits : List Char)
    (thousands : Bool) : List Char :=
  let wanted := d.precision.getD 0
  let room := d.width - (if sign.isSome then 1 else 0)
  let wanted := if d.zeros then max wanted room else wanted
  let filled := List.replicate (wanted - digits.length) '0' ++ digits
  let filled := if thousands then separated filled else filled
  lead ++ sign.toList ++ filled

/-- An integer with a sign. -/
def signedText (d : Directive) (n : Int) (ending : Nat → List Char) (thousands : Bool) :
    List Char :=
  integerText d (if n < 0 then some '-' else d.sign) []
    (Nat.toDigits 10 n.natAbs ++ ending n.natAbs) thousands

/-- An integer of 64 bits without a sign, in a base, with a mark of it. -/
def unsignedText (d : Directive) (n : Int) (base : Nat) (mark : String) (capital : Bool) :
    List Char :=
  let n := (n % 18446744073709551616).toNat
  let digits := Nat.toDigits base n
  let digits := if capital then digits.map Char.toUpper else digits
  let lead := if d.alternate && n ≠ 0 then mark.toList else []
  integerText d none lead digits (base = 10 && d.thousands)

/-- The most places of a double that are shown. -/
def mostPlaces : Nat := 100000000

/-- How the directive shows a double in a style. -/
def realFormat (d : Directive) (style : RealStyle) (capital : Bool) : RealFormat where
  style
  precision := min (d.precision.getD 6) mostPlaces
  pointed := d.alternate
  long := d.exact
  thousands := d.thousands
  capital

/-- A double in a style; zeros make an infinite one a number that is too large. -/
def realText (d : Directive) (x : Binary64) (style : RealStyle) (capital : Bool) : List Char :=
  let f := d.realFormat style capital
  let negative := x.negative && x.magnitude ≠ 0
  let sign := (if negative then some '-' else d.sign).toList
  if x.isInfinite && !d.zeros then sign ++ "Inf".toList
  else
    let digits := f.positiveText (if x.isInfinite then ⟨['9'], 1000⟩ else f.digits x)
    let room := if d.zeros && !d.toLeft then d.width - (sign.length + digits.length) else 0
    sign ++ List.replicate room '0' ++ digits

/-- A text with a quote doubled inside it. -/
def doubled (quote : UInt8) (bytes : List UInt8) : List UInt8 :=
  bytes.flatMap fun b => if b = quote then [b, b] else [b]

/-- The characters of a value; null has none. -/
def charsOf? (v : Value) : Option (List Char) := if v.isNull then none else some (Function.chars v)

/-- What a directive shows of a value that is a text, or of no value: characters, a text, or a text
in which quotes are doubled. -/
def textBytes? (d : Directive) (v : Value) : Option (List UInt8) :=
  let text? := charsOf? v
  let literal (quote : UInt8) (missing : String) (around : Bool) : List UInt8 :=
    let inner := doubled quote (d.cut (text?.getD missing.toList))
    d.paddedText d.exact (if around && text?.isSome then quote :: inner ++ [quote] else inner)
  match d.letter with
  | 's' => some (d.paddedText d.exact (d.cut (text?.getD [])))
  | 'z' => some (d.paddedText d.exact (d.cut (text?.getD [])))
  | 'q' => some (literal 0x27 "(NULL)" false)
  | 'Q' => some (literal 0x27 "NULL" true)
  | 'w' => some (literal 0x22 "(NULL)" false)
  | 'c' =>
    let c := ((text?.getD []).head?).getD '\x00'
    some (d.paddedText true
      (bytesOfText (String.ofList (List.replicate (max 1 (d.precision.getD 1)) c))))
  | _ => none

/-- What a directive shows of a value that is a number. -/
def numberText? (d : Directive) (v : Value) : Option (List Char) :=
  match d.letter with
  | 'd' => some (d.signedText v.asInteger (fun _ => []) d.thousands)
  | 'i' => some (d.signedText v.asInteger (fun _ => []) d.thousands)
  | 'r' => some (d.signedText v.asInteger ordinalEnding false)
  | 'u' => some (d.unsignedText v.asInteger 10 "" false)
  | 'o' => some (d.unsignedText v.asInteger 8 "0" false)
  | 'x' => some (d.unsignedText v.asInteger 16 "0x" false)
  | 'X' => some (d.unsignedText v.asInteger 16 "0X" true)
  | 'p' => some (d.unsignedText v.asInteger 16 "0x" true)
  | 'f' => some (d.realText v.asReal .fixed false)
  | 'e' => some (d.realText v.asReal .power false)
  | 'E' => some (d.realText v.asReal .power true)
  | 'g' => some (d.realText v.asReal .shorter false)
  | 'G' => some (d.realText v.asReal .shorter true)
  | _ => none

/-- The least size that a text cannot have. -/
def sizeLimit : Nat := 1000000000

/-- Whether a directive shows more than a text can hold. -/
def isTooWide (d : Directive) : Bool :=
  sizeLimit ≤ d.width ||
    ("cdiruoxXp".toList.contains d.letter && sizeLimit ≤ d.precision.getD 0)

/-- What a directive shows, and the values that it leaves. -/
def show? (d : Directive) (values : List Value) : Option (List UInt8 × List Value) :=
  if d.letter = '%' then some (d.padded ['%'], values)
  else if d.letter = 'n' then some ([], values)
  else
    let (v, rest) : Value × List Value := match values with
      | v :: rest => (v, rest)
      | [] => (.null, [])
    match d.textBytes? v, d.numberText? v with
    | some bytes, _ => some (bytes, rest)
    | none, some text => some (d.padded text, rest)
    | none, none => none

end Directive

namespace Function

/-- The pieces of a format in turn, as far as they are ones, unless one is too wide. -/
def formatted : Nat → List Char → List Value → Option (List (List UInt8))
  | 0, _, _ => some []
  | _, [], _ => some []
  | _ + 1, ['%'], _ => some [Directive.plainBytes ['%']]
  | fuel + 1, '%' :: text, values =>
    match Directive.read {} (text.length + 1) text values with
    | none => some []
    | some (d, rest, values) =>
      if d.isTooWide then none
      else
        match d.show? values with
        | some (bytes, values) => (formatted fuel rest values).map (bytes :: ·)
        | none => some []
  | fuel + 1, text, values =>
    (formatted fuel (text.dropWhile (· ≠ '%')) values).map
      (bytesOfText (String.ofList (text.takeWhile (· ≠ '%'))) :: ·)

/-- A format with its values as a text; without any piece, or with one that is too wide, it is
null. -/
def formatValue : List Value → Value
  | [] => .null
  | format :: values =>
    if format.isNull then .null
    else
      let text := chars format
      match formatted (text.length + 1) text values with
      | none => .null
      | some [] => .null
      | some pieces => .text (textOfBytes pieces.flatten)

/-- The functions that make formatted texts. -/
def formats : List Function :=
  [pure "format" (fun _ => true) formatValue, pure "printf" (fun _ => true) formatValue]

end Function

end SchemaEvolution.Sqlite
