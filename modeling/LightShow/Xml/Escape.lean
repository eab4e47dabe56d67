import LightShow.Text.Hexadecimal

/-!
Attribute values as they stand in a file. Characters that a tag gives a meaning are written
by name, and the line breaks and tabs that a reader would take for spaces by number.
-/

namespace LightShow.Xml

def escapeChar : Char → List Char
  | '<' => ['&', 'l', 't', ';']
  | '>' => ['&', 'g', 't', ';']
  | '&' => ['&', 'a', 'm', 'p', ';']
  | '\'' => ['&', 'a', 'p', 'o', 's', ';']
  | '"' => ['&', 'q', 'u', 'o', 't', ';']
  | '\n' => ['&', '#', '1', '0', ';']
  | '\r' => ['&', '#', '1', '3', ';']
  | '\t' => ['&', '#', '9', ';']
  | c => [c]

def escape (cs : List Char) : List Char := cs.flatMap escapeChar

def nameChar : Char → List Char
  | '<' => ['&', 'l', 't', ';']
  | '>' => ['&', 'g', 't', ';']
  | '&' => ['&', 'a', 'm', 'p', ';']
  | '\'' => ['&', 'a', 'p', 'o', 's', ';']
  | '"' => ['&', 'q', 'u', 'o', 't', ';']
  | c => [c]

def replaceAll (mark : Char) (word : List Char) (cs : List Char) : List Char :=
  cs.flatMap fun c => if c = mark then word else [c]

/-- Escaping one sort of character after another, each pass over what the last one left. Text
    without line breaks and tabs is left alone behind the first pass. -/
def escapeInPasses (cs : List Char) : List Char :=
  let named := cs.flatMap nameChar
  if '\n' ∈ named ∨ '\r' ∈ named ∨ '\t' ∈ named then
    replaceAll '\t' ['&', '#', '9', ';'] (replaceAll '\r' ['&', '#', '1', '3', ';']
      (replaceAll '\n' ['&', '#', '1', '0', ';'] named))
  else named

/-- The character with a given code point. There is none for zero and the surrogates. -/
def charOfCode? (n : Nat) : Option Char :=
  if n ≠ 0 ∧ n.isValidChar then some (Char.ofNat n) else none

def reference? (name : List Char) : Option Char :=
  match name with
  | ['l', 't'] => some '<'
  | ['g', 't'] => some '>'
  | ['a', 'm', 'p'] => some '&'
  | ['a', 'p', 'o', 's'] => some '\''
  | ['q', 'u', 'o', 't'] => some '"'
  | '#' :: 'x' :: digits => (Text.hexValue? digits).bind charOfCode?
  | '#' :: digits => (Text.digits? digits).bind charOfCode?
  | _ => none

/-- Reads on behind an ampersand when `name` is the reversed text since then. -/
def unescapeFrom : Option (List Char) → List Char → Option (List Char)
  | none, [] => some []
  | some _, [] => none
  | none, c :: rest =>
    if c = '&' then unescapeFrom (some []) rest
    else (unescapeFrom none rest).map (c :: ·)
  | some name, c :: rest =>
    if c = ';' then
      match reference? name.reverse with
      | some d => (unescapeFrom none rest).map (d :: ·)
      | none => none
    else if c = '&' then none
    else unescapeFrom (some (c :: name)) rest

def unescape? (cs : List Char) : Option (List Char) := unescapeFrom none cs

end LightShow.Xml
