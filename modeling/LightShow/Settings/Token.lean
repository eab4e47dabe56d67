import LightShow.Settings.Number
import LightShow.Settings.Quoted
import LightShow.Text.Identifier

/-!
The tokens of a settings file: names, numbers, quoted texts and punctuation. Blanks and
comments stand anywhere between them.
-/

namespace LightShow.Settings

inductive Bracket where
  | round | square | curly
  deriving DecidableEq, Repr

inductive Token where
  /-- A name that is marked as raw is never a word of the format. -/
  | name (text : String) (raw : Bool)
  | natural (n : Nat)
  | text (text : String)
  | literal
  | opening (b : Bracket) (behind : List Char)
  | closing (b : Bracket)
  | empty
  | comma
  | colon
  | hash
  | bang
  deriving DecidableEq, Repr

/-- Blanks are those with the Unicode property Pattern_White_Space. -/
def isBlank (c : Char) : Bool :=
  c = ' ' || ('\t' ≤ c && c ≤ '\r') || c = '\u0085' || c = '\u200e' || c = '\u200f' ||
    c = '\u2028' || c = '\u2029'

def isNameStart (c : Char) : Bool := c = '_' || Text.isIdentifierStart c
def isNameChar (c : Char) : Bool := Text.isIdentifierPart c

/-- Characters that may stand in a name which is marked as raw. -/
def isRawNameChar (c : Char) : Bool := c = '.' || c = '+' || c = '-' || isNameChar c

/-- How long a block comment is, from behind its opening mark on. Comments nest. -/
def blockLength? : Nat → List Char → Option Nat
  | _, [] => none
  | 0, '*' :: '/' :: _ => some 2
  | depth + 1, '*' :: '/' :: rest => (blockLength? depth rest).map (· + 2)
  | depth, '/' :: '*' :: rest => (blockLength? (depth + 1) rest).map (· + 2)
  | depth, _ :: rest => (blockLength? depth rest).map (· + 1)

def commentLength? : List Char → Option Nat
  | '/' :: rest => some ((rest.takeWhile (· ≠ '\n')).length + 1)
  | '*' :: rest => (blockLength? 0 rest).map (· + 1)
  | _ => none

def isNumberChar (c : Char) : Bool :=
  c.isAlphanum || c = '_' || c = '.' || c = '+' || c = '-'

def number? (cs : List Char) : Option Token :=
  match (Integer.read? cs).bind Integer.natural? with
  | some n => some (.natural n)
  | none => if isNumber cs then some .literal else none

def name? (c : Char) (rest : List Char) : Option (Token × Nat) :=
  match c, rest with
  | 'r', '#' :: tail =>
    let raw := tail.takeWhile isRawNameChar
    if raw = [] then none else some (.name (String.ofList raw) true, raw.length + 1)
  | c, rest =>
    let tail := rest.takeWhile isNameChar
    let long := rest.takeWhile isRawNameChar
    if tail.length < long.length then none
    else some (.name (String.ofList (c :: tail)) false, tail.length)

def bytes? : Char → List Char → Option (Option Nat)
  | 'b', '\'' :: rest => some ((byteLength? rest).map (· + 1))
  | 'b', '"' :: rest =>
    match quoted piece? rest with
    | .closed _ k => some (some (k + 1))
    | _ => some none
  | 'b', 'r' :: rest =>
    if startsRaw rest then some ((raw? rest).map fun (_, k) => k + 1) else none
  | _, _ => none

def word? (c : Char) (rest : List Char) : Option (Token × Nat) :=
  match bytes? c rest with
  | some found => found.map fun k => (.literal, k)
  | none =>
    if c = 'r' ∧ startsRaw rest then
      (raw? rest).map fun (text, k) => (.text (String.ofList text), k)
    else if isNameStart c then name? c rest
    else if c.isDigit ∨ c = '+' ∨ c = '-' ∨ c = '.' then
      let tail := rest.takeWhile isNumberChar
      (number? (c :: tail)).map fun t => (t, tail.length)
    else none

def lexeme? (c : Char) (rest : List Char) : Option (Option Token × Nat) :=
  if isBlank c then some (none, 0)
  else
    match c, rest with
    | '/', _ => (commentLength? rest).map fun k => (none, k)
    | '(', ')' :: _ => some (some .empty, 1)
    | '(', _ => some (some (.opening .round rest), 0)
    | '[', _ => some (some (.opening .square rest), 0)
    | '\x7b', _ => some (some (.opening .curly rest), 0)
    | ')', _ => some (some (.closing .round), 0)
    | ']', _ => some (some (.closing .square), 0)
    | '\x7d', _ => some (some (.closing .curly), 0)
    | ',', _ => some (some .comma, 0)
    | ':', _ => some (some .colon, 0)
    | '#', _ => some (some .hash, 0)
    | '!', _ => some (some .bang, 0)
    | '"', _ =>
      match quoted textChar? rest with
      | .closed text k => some (some (.text (String.ofList text)), k)
      | _ => none
    | '\'', _ => (characterLength? rest).map fun k => (some .literal, k)
    | _, _ => (word? c rest).map fun (t, k) => (some t, k)

def tokensFrom? (done : List Token) : List Char → Option (List Token)
  | [] => some done.reverse
  | c :: rest =>
    match lexeme? c rest with
    | none => none
    | some (none, k) => tokensFrom? done (rest.drop k)
    | some (some token, k) => tokensFrom? (token :: done) (rest.drop k)
termination_by cs => cs.length
decreasing_by
  all_goals
    simp only [List.length_cons, List.length_drop]
    omega

def tokens? (cs : List Char) : Option (List Token) := tokensFrom? [] cs

end LightShow.Settings
