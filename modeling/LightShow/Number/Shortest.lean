import LightShow.Number.Basic
import LightShow.Text.Integer

/-!
Writing a number with the fewest decimal digits that read back to it, and of those the
digits nearest to it. Decimals are tried on grids of powers of ten, from coarse to fine,
in units of 10^-1074; on the finest grid the number itself lies.
-/

namespace LightShow.Number

/-- A decimal `coefficient * 10 ^ (exponent - 1074)`. -/
structure Grid where
  coefficient : Nat
  exponent : Nat
  deriving DecidableEq, Repr

def fine (n : Nat) : Nat := n * Nat.pow 5 1074

/-- Whether `x` units of 10^-1074 read back as `n` units of 2^-1074. They do between the
    midpoints to the two neighbours, and on a midpoint when the significand is even. -/
def ReadsBack (n x : Nat) : Prop :=
  let lower := fine (2 * n - spacing (n - 1))
  let upper := fine (2 * n + spacing n)
  if n / spacing n % 2 = 0 then lower ≤ 2 * x ∧ 2 * x ≤ upper
  else lower < 2 * x ∧ 2 * x < upper

instance (n x : Nat) : Decidable (ReadsBack n x) := by unfold ReadsBack; infer_instance

/-- The coarsest grid, from `10 ^ exponent` down, on which a neighbour of `n` reads back
    as `n`. Of two such neighbours the nearer is taken, and the upper one of two equally
    near. -/
def coarsest (n : Nat) : Nat → Grid
  | 0 => ⟨fine n, 0⟩
  | exponent + 1 =>
    let step := Nat.pow 10 (exponent + 1)
    let below := fine n / step
    let excess := fine n % step
    if ReadsBack n ((below + 1) * step) ∧
      (¬ ReadsBack n (below * step) ∨ step ≤ 2 * excess) then
      ⟨below + 1, exponent + 1⟩
    else if ReadsBack n (below * step) then ⟨below, exponent + 1⟩
    else coarsest n exponent

def shortest (n : Nat) : Grid := coarsest n (1074 + 309)

/-- Positional notation without an exponent, and without a point for a whole number. -/
def layout (g : Grid) : List Char :=
  let digits := Text.decimal g.coefficient
  if 1074 ≤ g.exponent then digits ++ List.replicate (g.exponent - 1074) '0'
  else
    let places := 1074 - g.exponent
    let padded := List.replicate (places + 1 - digits.length) '0' ++ digits
    padded.take (padded.length - places) ++ '.' :: padded.drop (padded.length - places)

def magnitude (n : Nat) : List Char := if n = 0 then ['0'] else layout (shortest n)

def chars : Number → List Char
  | finite negative n => if negative then '-' :: magnitude n else magnitude n
  | infinite negative => if negative then ['-', 'i', 'n', 'f'] else ['i', 'n', 'f']
  | nan => ['N', 'a', 'N']

def text (x : Number) : String := String.ofList x.chars

end LightShow.Number
