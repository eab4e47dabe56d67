/-!
Binary floating point numbers of double precision, and the few operations on them that
lighting values need. Every finite number is a whole multiple of the least positive one,
2^-1074, so a magnitude is a natural number of those units and all arithmetic is exact
until the one rounding at its end: to 53 significant bits, half-way cases to even.
-/

namespace LightShow

inductive Number where
  | finite (negative : Bool) (units : Nat)
  | infinite (negative : Bool)
  | nan
  deriving DecidableEq, Repr

namespace Number

/-- The number one, in units. -/
def unit : Nat := Nat.pow 2 1074

/-- Magnitudes from here on are infinite: 2^1024, in units. -/
def limit : Nat := Nat.pow 2 2098

/-- Distance from a magnitude of `n` units to the next larger one. -/
def spacing (n : Nat) : Nat := Nat.pow 2 (n.log2 - 52)

def nearest (numerator denominator : Nat) : Nat :=
  let gap := spacing (numerator / denominator)
  let below := numerator / (gap * denominator)
  let excess := numerator % (gap * denominator)
  if gap * denominator < 2 * excess ∨ (2 * excess = gap * denominator ∧ below % 2 = 1) then
    (below + 1) * gap
  else
    below * gap

def Representable (n : Nat) : Prop := n < limit ∧ n % spacing n = 0

instance (n : Nat) : Decidable (Representable n) := by unfold Representable; infer_instance

def ofUnits (negative : Bool) (n : Nat) : Number :=
  if n < limit then finite negative n else infinite negative

def ofRatio (negative : Bool) (numerator denominator : Nat) : Number :=
  ofUnits negative (nearest numerator denominator)

def zero : Number := finite false 0

def ofWhole (n : Nat) : Number := ofUnits false (n * unit)

def isFinite : Number → Bool
  | finite _ _ => true
  | _ => false

def nonpositive : Number → Bool
  | finite negative n => negative || n == 0
  | infinite negative => negative
  | nan => false

/-- The remainder in the range from zero to `period`. The remainder of a division that
    cuts toward zero is exact; a negative one is lifted by `period` and rounded, so it may
    reach `period` itself. A remainder of zero keeps the sign. -/
def wrap (period : Nat) : Number → Number
  | finite negative n =>
    let rest := n % (period * unit)
    if negative ∧ rest ≠ 0 then ofRatio false (period * unit - rest) 1
    else finite negative rest
  | _ => nan

/-- Brings a number between zero and `bound`. A negative zero stays. -/
def clamp (bound : Nat) : Number → Number
  | finite negative n =>
    if negative ∧ n ≠ 0 then zero else finite negative (min n (bound * unit))
  | infinite negative => if negative then zero else ofWhole bound
  | nan => nan

def scale (factor : Nat) : Number → Number
  | finite negative n => ofRatio negative (n * factor) 1
  | infinite negative => if factor = 0 then nan else infinite negative
  | nan => nan

def divide : Number → Number → Number
  | finite s a, finite t b =>
    if b ≠ 0 then ofRatio (s != t) (a * unit) b
    else if a = 0 then nan else infinite (s != t)
  | infinite s, finite t _ => infinite (s != t)
  | finite s _, infinite t => finite (s != t) 0
  | _, _ => nan

/-- The nearest whole number, half-way cases away from zero, brought between zero and
    `bound`. -/
def toWhole (bound : Nat) : Number → Nat
  | finite negative n => if negative then 0 else min ((2 * n + unit) / (2 * unit)) bound
  | infinite negative => if negative then 0 else bound
  | nan => 0

theorem toWhole_le (bound : Nat) (x : Number) : x.toWhole bound ≤ bound := by
  unfold toWhole
  split
  · split
    · exact Nat.zero_le _
    · exact Nat.min_le_right _ _
  · split
    · exact Nat.zero_le _
    · exact Nat.le_refl _
  · exact Nat.zero_le _

def tau : Number := finite false (0x1921FB54442D18 * Nat.pow 2 1024)

end Number
end LightShow
