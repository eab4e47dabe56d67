/-!
Whole numbers in decimal. A reader takes an optional sign and at least one ASCII digit,
and refuses what lies outside the range it is given. Leading zeros are allowed.
-/

namespace LightShow.Text

def digitValue (c : Char) : Nat := c.toNat - '0'.toNat

def decimalValue (ds : List Char) : Nat := ds.foldl (fun n c => 10 * n + digitValue c) 0

def digits? (cs : List Char) : Option Nat :=
  if cs ≠ [] ∧ cs.all Char.isDigit then some (decimalValue cs) else none

def natural? : List Char → Option Nat
  | '+' :: rest => digits? rest
  | cs => digits? cs

def integer? : List Char → Option Int
  | '-' :: rest => (digits? rest).map fun n => -(n : Int)
  | cs => (natural? cs).map fun n => (n : Int)

def naturalBelow? (bound : Nat) (text : String) : Option Nat :=
  (natural? text.toList).filter (· < bound)

def uint32? (text : String) : Option UInt32 := (naturalBelow? UInt32.size text).map UInt32.ofNat
def uint16? (text : String) : Option UInt16 := (naturalBelow? UInt16.size text).map UInt16.ofNat

def int32? (text : String) : Option Int32 :=
  ((integer? text.toList).filter fun n =>
    Int32.minValue.toInt ≤ n ∧ n ≤ Int32.maxValue.toInt).map
    Int32.ofInt

def bool? : String → Option Bool
  | "true" => some true
  | "false" => some false
  | _ => none

def decimal (n : Nat) : List Char := Nat.toDigits 10 n

def signedDecimal (n : Int) : List Char :=
  if n < 0 then '-' :: decimal n.natAbs else decimal n.natAbs

def ofNat (n : Nat) : String := String.ofList (decimal n)
def ofInt (n : Int) : String := String.ofList (signedDecimal n)
def ofBool (b : Bool) : String := if b then "true" else "false"

end LightShow.Text
