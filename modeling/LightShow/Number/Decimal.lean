import LightShow.Number.Basic
import LightShow.Text.Integer

/-!
Reading a number: an optional sign, then digits with an optional point and an optional
exponent, or a word for infinity or for not-a-number in any case. The value read is the
double nearest to the decimal; too large a decimal is infinite and too small a one zero.
-/

namespace LightShow.Number

open Text

/-- The number nearest to `coefficient * 10 ^ exponent`. From 10^309 on everything is
    infinite, and below a quarter of a unit everything is zero. -/
def ofDecimal (negative : Bool) (coefficient : Nat) (exponent : Int) : Number :=
  if coefficient = 0 then finite negative 0
  else
    match exponent with
    | .ofNat e =>
      if 309 ≤ e then infinite negative
      else ofRatio negative (coefficient * Nat.pow 10 e * unit) 1
    | .negSucc e =>
      if coefficient.log2 + 1076 < 3 * (e + 1) then finite negative 0
      else ofRatio negative (coefficient * unit) (Nat.pow 10 (e + 1))

def exponent? : List Char → Option Int
  | [] => some 0
  | c :: rest => if c = 'e' ∨ c = 'E' then integer? rest else none

/-- An unsigned decimal with a digit before or after the point. -/
def decimal? (negative : Bool) (cs : List Char) : Option Number :=
  let (whole, rest) := cs.span Char.isDigit
  let (fraction, rest) :=
    match rest with
    | '.' :: rest => rest.span Char.isDigit
    | _ => ([], rest)
  if whole = [] ∧ fraction = [] then none
  else
    (exponent? rest).map fun e =>
      ofDecimal negative (decimalValue (whole ++ fraction)) (e - fraction.length)

def unsigned? (negative : Bool) (cs : List Char) : Option Number :=
  let word := String.ofList (cs.map Char.toLower)
  if word = "inf" ∨ word = "infinity" then some (infinite negative)
  else if word = "nan" then some nan
  else decimal? negative cs

def read? : List Char → Option Number
  | '-' :: rest => unsigned? true rest
  | '+' :: rest => unsigned? false rest
  | cs => unsigned? false cs

def ofString? (text : String) : Option Number := read? text.toList

end LightShow.Number
