/-!
# Quoted text

A quoted text stands between an opening and a closing delimiter, and a closing delimiter inside it
is written twice. `scanQuoted` reads such a body back and says where it ends.
-/

namespace SchemaEvolution.Text

/-- Writes every `q` of a text twice and everything else once. -/
def double (q : Char) : List Char → List Char
  | [] => []
  | c :: rest => if c = q then q :: q :: double q rest else c :: double q rest

/-- The text between `opening` and `closing`, with each inner `closing` written twice. -/
def quote (opening closing : Char) (text : String) : String :=
  String.ofList (opening :: (double closing text.toList ++ [closing]))

/-- Reads a quoted body after its opening delimiter: the text, and what follows the closing
delimiter. A body that is never closed is no quoted text. -/
def scanQuoted (closing : Char) : List Char → Option (List Char × List Char)
  | [] => none
  | c :: rest =>
    if c = closing then
      match rest with
      | [] => some ([], [])
      | c' :: rest' =>
        if c' = closing then
          (scanQuoted closing rest').map fun (text, after) => (closing :: text, after)
        else some ([], c' :: rest')
    else (scanQuoted closing rest).map fun (text, after) => (c :: text, after)

end SchemaEvolution.Text
