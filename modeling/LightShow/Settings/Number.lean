import LightShow.Number.Decimal
import LightShow.Text.Hexadecimal

/-!
Numbers as they are written in a settings file: whole numbers in four bases, which may name
their type behind decimal and binary digits, and decimals with a fraction or an exponent.
-/

namespace LightShow.Settings

def digitsIn? (base : Nat) : List Char → Option Nat
  | [] => none
  | '_' :: _ => none
  | cs =>
    (cs.filter (· ≠ '_')).foldlM
      (fun n c => ((Text.hexDigit? c).filter (· < base)).map (base * n + ·)) 0

def magnitude? : List Char → Option Nat
  | '0' :: 'x' :: rest => digitsIn? 16 rest
  | '0' :: 'o' :: rest => digitsIn? 8 rest
  | '0' :: 'b' :: rest => digitsIn? 2 rest
  | cs => digitsIn? 10 cs

structure IntegerType where
  signed : Bool
  bits : Nat
  deriving DecidableEq, Repr

namespace IntegerType

def all : List IntegerType :=
  [false, true].flatMap fun signed => [8, 16, 32, 64].map fun bits => ⟨signed, bits⟩

def word : IntegerType := ⟨false, 64⟩

def name (t : IntegerType) : List Char := (if t.signed then 'i' else 'u') :: Text.decimal t.bits

def holds (t : IntegerType) (negative : Bool) (magnitude : Nat) : Bool :=
  match t.signed, negative with
  | true, true => magnitude ≤ Nat.pow 2 (t.bits - 1)
  | true, false => magnitude < Nat.pow 2 (t.bits - 1)
  | false, true => magnitude = 0
  | false, false => magnitude < Nat.pow 2 t.bits

end IntegerType

structure Integer where
  negative : Bool
  magnitude : Nat
  type : Option IntegerType
  deriving DecidableEq, Repr

namespace Integer

/-- A type cannot be named behind hexadecimal and octal digits. -/
def namesNoType : List Char → Bool
  | '0' :: 'x' :: _ => true
  | '0' :: 'o' :: _ => true
  | _ => false

def unsigned? (negative : Bool) (cs : List Char) : Option Integer :=
  match IntegerType.all.find? fun t => t.name.isSuffixOf cs with
  | none => (magnitude? cs).map fun magnitude => ⟨negative, magnitude, none⟩
  | some t =>
    let digits := cs.take (cs.length - t.name.length)
    if namesNoType digits then none
    else (magnitude? digits).map fun magnitude => ⟨negative, magnitude, some t⟩

def read? : List Char → Option Integer
  | '-' :: rest => unsigned? true rest
  | '+' :: rest => unsigned? false rest
  | cs => unsigned? false cs

/-- Whether the number is one of its type. Without a type it has to fit 64 bits. -/
def fits (i : Integer) : Bool :=
  (i.type.getD ⟨i.negative, 64⟩).holds i.negative i.magnitude

def natural? (i : Integer) : Option Nat :=
  if i.type.getD .word = .word ∧ IntegerType.word.holds i.negative i.magnitude then
    some i.magnitude
  else none

end Integer

/-- Whether every underscore stands behind a digit or the letter of the exponent, with nothing
    but signs between. -/
def underscoresFit : Bool → List Char → Bool
  | _, [] => true
  | allowed, c :: rest =>
    if c = '_' then allowed && underscoresFit allowed rest
    else if c = '+' ∨ c = '-' then underscoresFit allowed rest
    else underscoresFit (c ≠ '.') rest

def stripDecimalType (cs : List Char) : List Char :=
  if ['f', '3', '2'].isSuffixOf cs ∨ ['f', '6', '4'].isSuffixOf cs then cs.take (cs.length - 3)
  else cs

def withoutSign : List Char → List Char
  | '-' :: rest => rest
  | '+' :: rest => rest
  | cs => cs

def isDecimal (cs : List Char) : Bool :=
  let body := stripDecimalType (withoutSign cs)
  body = ['i', 'n', 'f'] || body = ['N', 'a', 'N'] ||
    (underscoresFit false body && (Number.decimal? false (body.filter (· ≠ '_'))).isSome)

/-- Whether the text is a number. A whole number that is too large is a decimal. -/
def isNumber (cs : List Char) : Bool :=
  (Integer.read? cs).any Integer.fits || isDecimal cs

end LightShow.Settings
