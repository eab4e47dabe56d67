import LightShow.Text.Integer

/-!
Whole numbers in hexadecimal, with digits of either case.
-/

namespace LightShow.Text

def hexDigit? (c : Char) : Option Nat :=
  if c.isDigit then some (digitValue c)
  else if 'a' ≤ c ∧ c ≤ 'f' then some (c.toNat - 'a'.toNat + 10)
  else if 'A' ≤ c ∧ c ≤ 'F' then some (c.toNat - 'A'.toNat + 10)
  else none

def hexValue? (cs : List Char) : Option Nat :=
  if cs = [] then none
  else cs.foldlM (fun n c => (hexDigit? c).map (16 * n + ·)) 0

def hexadecimal (n : Nat) : List Char := Nat.toDigits 16 n

end LightShow.Text
