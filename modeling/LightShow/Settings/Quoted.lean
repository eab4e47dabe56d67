import LightShow.Text.Hexadecimal
import LightShow.Text.Split

/-!
Quoted texts, characters and bytes of a settings file. A backslash begins an escape, which
stands for a character or for one byte of the text in UTF-8.
-/

namespace LightShow.Settings

inductive Piece where
  | char (c : Char)
  | byte (b : UInt8)
  | code (c : Char)
  deriving DecidableEq, Repr

def simpleEscape? : Char → Option Char
  | 'n' => some '\n'
  | 't' => some '\t'
  | 'r' => some '\r'
  | '0' => some '\x00'
  | '\\' => some '\\'
  | '"' => some '"'
  | '\'' => some '\''
  | _ => none

def unicodeEscape? (digits : List Char) : Option Char := do
  if 6 < digits.length then none
  let n ← Text.hexValue? digits
  if n.isValidChar then some (Char.ofNat n) else none

def piece? : List Char → Option (Piece × Nat)
  | [] => none
  | '\\' :: 'x' :: a :: b :: _ =>
    (Text.hexValue? [a, b]).map fun n => (.byte (UInt8.ofNat n), 4)
  | '\\' :: 'u' :: '\x7b' :: rest =>
    let digits := rest.takeWhile (· ≠ '\x7d')
    if digits.length < rest.length then
      (unicodeEscape? digits).map fun c => (.code c, digits.length + 4)
    else none
  | '\\' :: c :: _ => (simpleEscape? c).map fun d => (.char d, 2)
  | ['\\'] => none
  | c :: _ => some (.char c, 1)

def charOfBytes? (bytes : List UInt8) : Option Char :=
  (String.fromUTF8? ⟨bytes.toArray⟩).bind (·.toList.head?)

/-- The character that the fewest bytes make up which the text gives as escapes. There are
    the bytes in `done` before them, and at most `room` behind the first. -/
def encodedChar? (room : Nat) (done : List UInt8) (cs : List Char) : Option (Char × Nat) :=
  match piece? cs with
  | some (.byte b, k) =>
    match charOfBytes? (done ++ [b]), room with
    | some c, _ => some (c, k)
    | none, room + 1 =>
      (encodedChar? room (done ++ [b]) (cs.drop k)).map fun (c, later) => (c, k + later)
    | none, 0 => none
  | _ => none

def charWithin? (room : Nat) (cs : List Char) : Option (Char × Nat) :=
  match piece? cs with
  | some (.char c, k) => some (c, k)
  | some (.code c, k) => some (c, k)
  | some (.byte _, _) => encodedChar? room [] cs
  | none => none

def textChar? (cs : List Char) : Option (Char × Nat) := charWithin? 3 cs

inductive Quoted (α : Type) where
  | closed (parts : List α) (length : Nat)
  | unclosed
  | malformed
  deriving DecidableEq, Repr

/-- Reads part by part up to a quote. A malformed part counts only if a quote follows it. -/
def quoted {α : Type} (part? : List Char → Option (α × Nat)) : List Char → Quoted α
  | [] => .unclosed
  | c :: rest =>
    if c = '"' then .closed [] 1
    else
      match part? (c :: rest) with
      | none => if '"' ∈ rest then .malformed else .unclosed
      | some (part, k) =>
        match quoted part? (rest.drop (k - 1)) with
        | .closed parts length => .closed (part :: parts) (k + length)
        | .unclosed => .unclosed
        | .malformed => .malformed
termination_by cs => cs.length
decreasing_by
  simp only [List.length_cons, List.length_drop]
  omega

def closeSingle? (cs : List Char) (k : Nat) : Option Nat :=
  if (cs.drop k).head? = some '\'' then some (k + 1) else none

def characterLength? (cs : List Char) : Option Nat :=
  (charWithin? 0 cs).bind fun (_, k) => closeSingle? cs k

/-- How many characters follow the opening quote of a byte. A code does not stand for one. -/
def byteLength? (cs : List Char) : Option Nat :=
  match piece? cs with
  | some (.char c, k) => if c.toNat < 0x80 then closeSingle? cs k else none
  | some (.byte _, k) => closeSingle? cs k
  | _ => none

/-- The text between a quote behind some hash marks and a quote before as many, as it stands,
    and how much it takes with the marks. -/
def raw? (cs : List Char) : Option (List Char × Nat) :=
  let hashes := cs.takeWhile (· = '#')
  match cs.drop hashes.length with
  | '"' :: body => do
    let after ← Text.after? ('"' :: hashes) body
    let text := body.take (body.length - after.length - hashes.length - 1)
    return (text, cs.length - after.length)
  | _ => none

def startsRaw (cs : List Char) : Bool := (cs.dropWhile (· = '#')).head? = some '"'

end LightShow.Settings
