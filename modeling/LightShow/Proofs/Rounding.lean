import Mathlib
import LightShow.Number.Basic

/-!
Rounding to the nearest double. The doubles around a magnitude stand on a grid whose spacing is a
power of two; what is rounded stays on the grid, is off by half a spacing at most, and comes out as
a given double exactly between the midpoints to its two neighbours.
-/

namespace LightShow.Number

theorem spacing_pos (n : Nat) : 0 < spacing n := Nat.two_pow_pos (n.log2 - 52)

theorem log2_le_of_le {m n : Nat} (le : m ≤ n) : m.log2 ≤ n.log2 := by
  by_cases zero : m = 0
  · subst zero
    exact Nat.zero_le _
  · apply (Nat.le_log2 (by omega)).mpr
    exact Nat.le_trans (Nat.log2_self_le zero) le

theorem spacing_dvd_spacing {m n : Nat} (le : m ≤ n) : spacing m ∣ spacing n := by
  have logs := log2_le_of_le le
  exact Nat.pow_dvd_pow 2 (by omega)

theorem spacing_le_spacing {m n : Nat} (le : m ≤ n) : spacing m ≤ spacing n :=
  Nat.le_of_dvd (spacing_pos n) (spacing_dvd_spacing le)

theorem lt_mul_spacing (n : Nat) : n < 2 ^ 53 * spacing n := by
  have bound : 2 ^ (n.log2 + 1) ≤ 2 ^ (53 + (n.log2 - 52)) :=
    Nat.pow_le_pow_right (by decide) (by omega)
  have split : 2 ^ (53 + (n.log2 - 52)) = 2 ^ 53 * spacing n := Nat.pow_add 2 53 (n.log2 - 52)
  have below : n < 2 ^ (n.log2 + 1) := Nat.lt_log2_self
  omega

theorem spacing_of_log2_lt {n : Nat} (small : n.log2 < 52) : spacing n = 1 := by
  have zero : n.log2 - 52 = 0 := by omega
  simp [spacing, zero]

theorem mul_spacing_le {n : Nat} (large : 52 ≤ n.log2) : 2 ^ 52 * spacing n ≤ n := by
  have some : n ≠ 0 := by
    rintro rfl
    simp at large
  have bound := Nat.log2_self_le some
  have split : n.log2 = 52 + (n.log2 - 52) := by omega
  rw [split, Nat.pow_add] at bound
  exact bound

theorem spacing_eq_of_bounds {n k : Nat} (lower : 2 ^ (52 + k) ≤ n) (upper : n < 2 ^ (53 + k)) :
    spacing n = 2 ^ k := by
  have some : n ≠ 0 := by
    have positive := Nat.two_pow_pos (52 + k)
    omega
  have shape : 53 + k = 52 + k + 1 := by omega
  have log : n.log2 = 52 + k := (Nat.log2_eq_iff some).mpr ⟨lower, shape ▸ upper⟩
  have exponent : n.log2 - 52 = k := by omega
  simp [spacing, exponent]

theorem spacing_dvd_of_le {m : Nat} (bits : m ≤ 2 ^ 53) (k : Nat) :
    spacing (m * 2 ^ k) ∣ m * 2 ^ k := by
  rcases Nat.lt_or_eq_of_le bits with small | rfl
  · by_cases zero : m * 2 ^ k = 0
    · rw [zero]
      exact Nat.dvd_zero _
    · have below : m * 2 ^ k < 2 ^ (53 + k) := by
        rw [Nat.pow_add]
        exact Nat.mul_lt_mul_of_pos_right small (Nat.two_pow_pos k)
      have log := (Nat.log2_lt zero).mpr below
      have divides : spacing (m * 2 ^ k) ∣ 2 ^ k := Nat.pow_dvd_pow 2 (by omega)
      exact Nat.dvd_trans divides (Nat.dvd_mul_left _ _)
  · rw [← Nat.pow_add, spacing, Nat.log2_two_pow]
    exact Nat.pow_dvd_pow 2 (by omega)

theorem spacing_eq_of_above {n q : Nat} (grid : spacing n ∣ n) (lower : n ≤ q)
    (upper : q < n + spacing n) : spacing q = spacing n := by
  by_cases small : n.log2 < 52
  · have one := spacing_of_log2_lt small
    have same : q = n := by omega
    rw [same]
  · have large := mul_spacing_le (show 52 ≤ n.log2 by omega)
    have bound := lt_mul_spacing n
    have next : n + spacing n ≤ 2 ^ 53 * spacing n :=
      Nat.le_of_lt_add_of_dvd (by omega) (Nat.dvd_add grid (Nat.dvd_refl _))
        (Nat.dvd_mul_left _ _)
    apply spacing_eq_of_bounds
    · rw [Nat.pow_add]
      exact Nat.le_trans large lower
    · rw [Nat.pow_add]
      exact Nat.lt_of_lt_of_le upper next

theorem spacing_eq_of_below {n q : Nat} (grid : spacing n ∣ n)
    (lower : n - spacing (n - 1) ≤ q) (upper : q < n) : spacing q = spacing (n - 1) := by
  by_cases small : (n - 1).log2 < 52
  · have one := spacing_of_log2_lt small
    have same : q = n - 1 := by omega
    rw [same]
  · have large := mul_spacing_le (show 52 ≤ (n - 1).log2 by omega)
    have bound := lt_mul_spacing (n - 1)
    have coarser : spacing (n - 1) ∣ n :=
      Nat.dvd_trans (spacing_dvd_spacing (Nat.sub_le n 1)) grid
    have previous : 2 ^ 52 * spacing (n - 1) + spacing (n - 1) ≤ n :=
      Nat.le_of_lt_add_of_dvd (by omega) (Nat.dvd_add (Nat.dvd_mul_left _ _) (Nat.dvd_refl _))
        coarser
    apply spacing_eq_of_bounds
    · rw [Nat.pow_add]
      have floor : 2 ^ 52 * spacing (n - 1) ≤ q := by omega
      exact floor
    · rw [Nat.pow_add]
      have ceiling : q < 2 ^ 53 * spacing (n - 1) := by omega
      exact ceiling

section

variable {num den n g k : Nat}

theorem nearest_of_floor (gap : spacing (num / den) = g) (lower : k * (g * den) ≤ num)
    (upper : num < (k + 1) * (g * den)) :
    nearest num den =
      if g * den < 2 * (num - k * (g * den)) ∨
        (2 * (num - k * (g * den)) = g * den ∧ k % 2 = 1) then (k + 1) * g
      else k * g := by
  have below : num / (g * den) = k := Nat.div_eq_of_lt_le lower upper
  have excess : num % (g * den) = num - k * (g * den) := by
    rw [Nat.mod_eq_sub_mul_div, below, Nat.mul_comm]
  simp only [nearest, gap, below, excess]

theorem floor_le (num den g : Nat) : num / (g * den) * (g * den) ≤ num :=
  Nat.div_mul_le_self num (g * den)

theorem lt_floor_succ (num : Nat) (pos : 0 < g * den) :
    num < (num / (g * den) + 1) * (g * den) := by
  have split := Nat.div_add_mod num (g * den)
  have small := Nat.mod_lt num pos
  rw [Nat.mul_comm] at split
  rw [Nat.add_mul]
  omega

theorem spacing_dvd_nearest (pos : 0 < den) : spacing (nearest num den) ∣ nearest num den := by
  obtain ⟨j, gap⟩ : ∃ j, spacing (num / den) = 2 ^ j := ⟨_, rfl⟩
  have some : 0 < 2 ^ j * den := Nat.mul_pos (Nat.two_pow_pos j) pos
  have bits : num / (2 ^ j * den) < 2 ^ 53 := by
    have bound := lt_mul_spacing (num / den)
    rw [gap] at bound
    rw [Nat.mul_comm (2 ^ j) den, ← Nat.div_div_eq_div_mul]
    exact Nat.div_lt_of_lt_mul (Nat.mul_comm _ _ ▸ bound)
  rw [nearest_of_floor gap (floor_le num den _) (lt_floor_succ num some)]
  split
  · exact spacing_dvd_of_le (by omega) j
  · exact spacing_dvd_of_le (by omega) j

theorem odd_of_odd_of_dvd {fine coarse : Nat} (finer : fine ∣ coarse) (grid : coarse ∣ n)
    (pos : 0 < fine) (odd : n / fine % 2 = 1) : n / coarse % 2 = 1 := by
  obtain ⟨factor, rfl⟩ := finer
  obtain ⟨m, rfl⟩ := grid
  rw [Nat.mul_assoc, Nat.mul_div_cancel_left _ pos, Nat.mul_mod] at odd
  rcases Nat.eq_zero_or_pos factor with rfl | some
  · simp at odd
  · rw [Nat.mul_div_cancel_left _ (Nat.mul_pos pos some)]
    rcases Nat.mod_two_eq_zero_or_one m with even | done
    · simp [even] at odd
    · exact done

/-- A double is what is nearest to everything between the midpoints to its neighbours, the
    midpoints included when its significand is even. -/
theorem nearest_eq_of_between (pos : 0 < den) (some : 0 < n) (grid : spacing n ∣ n)
    (lower : (2 * n - spacing (n - 1)) * den ≤ 2 * num)
    (upper : 2 * num ≤ (2 * n + spacing n) * den)
    (strict : n / spacing n % 2 = 1 →
      (2 * n - spacing (n - 1)) * den < 2 * num ∧ 2 * num < (2 * n + spacing n) * den) :
    nearest num den = n := by
  by_cases above : n * den ≤ num
  · have gapPos : 0 < spacing n * den := Nat.mul_pos (spacing_pos n) pos
    have near : num < n * den + spacing n * den := by
      rw [Nat.add_mul, Nat.mul_assoc] at upper
      omega
    have gap : spacing (num / den) = spacing n := by
      apply spacing_eq_of_above grid
      · exact (Nat.le_div_iff_mul_le pos).mpr above
      · rw [Nat.div_lt_iff_lt_mul pos, Nat.add_mul]
        exact near
    obtain ⟨m, shape⟩ : ∃ m, n = m * spacing n := ⟨_, (Nat.div_mul_cancel grid).symm⟩
    have whole : m * (spacing n * den) = n * den := by rw [← Nat.mul_assoc, ← shape]
    have count : n / spacing n = m := Nat.div_eq_of_eq_mul_left (spacing_pos n) shape
    rw [Nat.add_mul, Nat.mul_assoc] at upper strict
    rw [nearest_of_floor (k := m) gap (by omega) (by rw [Nat.add_mul]; omega), whole]
    split
    · rename_i rounded
      rcases rounded with more | ⟨tie, odd⟩
      · omega
      · have inside := (strict (by omega)).2
        omega
    · exact shape.symm
  · have coarser : spacing (n - 1) ∣ n :=
      Nat.dvd_trans (spacing_dvd_spacing (Nat.sub_le n 1)) grid
    have fits : spacing (n - 1) * den ≤ n * den :=
      Nat.mul_le_mul_right den (Nat.le_of_dvd some coarser)
    rw [Nat.sub_mul, Nat.mul_assoc] at lower strict
    have gap : spacing (num / den) = spacing (n - 1) := by
      apply spacing_eq_of_below grid
      · rw [Nat.le_div_iff_mul_le pos, Nat.sub_mul]
        omega
      · exact (Nat.div_lt_iff_lt_mul pos).mpr (by omega)
    obtain ⟨m, shape⟩ : ∃ m, n = m * spacing (n - 1) :=
      ⟨_, (Nat.div_mul_cancel coarser).symm⟩
    cases m with
    | zero => omega
    | succ k =>
      have whole : (k + 1) * (spacing (n - 1) * den) = n * den := by
        rw [← Nat.mul_assoc, ← shape]
      have floor : k * (spacing (n - 1) * den) + spacing (n - 1) * den = n * den := by
        rw [← whole, Nat.add_mul, Nat.one_mul]
      rw [nearest_of_floor (k := k) gap (by omega) (by omega)]
      split
      · exact shape.symm
      · rename_i kept
        have odd : n / spacing n % 2 = 1 := by
          have count : n / spacing (n - 1) = k + 1 :=
            Nat.div_eq_of_eq_mul_left (spacing_pos _) shape
          apply odd_of_odd_of_dvd (spacing_dvd_spacing (Nat.sub_le n 1)) grid (spacing_pos _)
          omega
        have inside := (strict odd).1
        omega

theorem nearest_self {n : Nat} (some : 0 < n) (grid : spacing n ∣ n) : nearest n 1 = n := by
  have below := spacing_pos (n - 1)
  have above := spacing_pos n
  apply nearest_eq_of_between Nat.one_pos some grid <;> omega

theorem floor_mul_le_nearest (num den : Nat) :
    num / (spacing (num / den) * den) * spacing (num / den) ≤ nearest num den := by
  unfold nearest
  dsimp only
  split
  · exact Nat.mul_le_mul_right _ (Nat.le_succ _)
  · exact Nat.le_refl _

theorem le_nearest_of_dvd (pos : 0 < den) (grid : spacing (num / den) ∣ n)
    (le : n * den ≤ num) : n ≤ nearest num den := by
  obtain ⟨m, shape⟩ : ∃ m, n = m * spacing (num / den) :=
    ⟨_, (Nat.div_mul_cancel grid).symm⟩
  have gapPos : 0 < spacing (num / den) * den := Nat.mul_pos (spacing_pos _) pos
  have count : m ≤ num / (spacing (num / den) * den) := by
    rw [Nat.le_div_iff_mul_le gapPos, ← Nat.mul_assoc, ← shape]
    exact le
  have floor := floor_mul_le_nearest num den
  have scaled := Nat.mul_le_mul_right (spacing (num / den)) count
  omega

theorem le_nearest (pos : 0 < den) (grid : spacing n ∣ n) (le : n * den ≤ num) :
    n ≤ nearest num den := by
  have quotient : n ≤ num / den := (Nat.le_div_iff_mul_le pos).mpr le
  by_cases same : (num / den).log2 = n.log2
  · have gap : spacing (num / den) = spacing n := by simp [spacing, same]
    exact le_nearest_of_dvd pos (gap ▸ grid) le
  · have logs := log2_le_of_le quotient
    have below : n < 2 ^ (num / den).log2 :=
      Nat.lt_of_lt_of_le Nat.lt_log2_self (Nat.pow_le_pow_right (by decide) (by omega))
    have some : num / den ≠ 0 := by
      intro zero
      rw [zero] at logs same
      simp at logs same
      omega
    have power : 2 ^ (num / den).log2 * den ≤ num :=
      (Nat.le_div_iff_mul_le pos).mp (Nat.log2_self_le some)
    have divides : spacing (num / den) ∣ 2 ^ (num / den).log2 :=
      Nat.pow_dvd_pow 2 (Nat.sub_le _ _)
    have bound := le_nearest_of_dvd pos divides power
    omega

/-- Exactly what lies below the midpoint to the double below stays below a double with an even
    significand. -/
theorem nearest_lt_iff (pos : 0 < den) (some : 0 < n) (grid : spacing n ∣ n)
    (even : n / spacing n % 2 = 0) :
    nearest num den < n ↔ 2 * num < (2 * n - spacing (n - 1)) * den := by
  have coarser : spacing (n - 1) ∣ n :=
    Nat.dvd_trans (spacing_dvd_spacing (Nat.sub_le n 1)) grid
  have fits : spacing (n - 1) * den ≤ n * den :=
    Nat.mul_le_mul_right den (Nat.le_of_dvd some coarser)
  constructor
  · intro smaller
    by_contra reaches
    by_cases above : n * den ≤ num
    · have bound := le_nearest pos grid above
      omega
    · have same : nearest num den = n := by
        apply nearest_eq_of_between pos some grid (by omega)
        · rw [Nat.add_mul, Nat.mul_assoc]
          omega
        · omega
      omega
  · intro smaller
    rw [Nat.sub_mul, Nat.mul_assoc] at smaller
    have quotient : num / den ≤ n - 1 := by
      have below := (Nat.div_lt_iff_lt_mul pos).mpr (show num < n * den by omega)
      omega
    have finer : spacing (num / den) ∣ n :=
      Nat.dvd_trans (spacing_dvd_spacing quotient) coarser
    have narrow := Nat.mul_le_mul_right den (spacing_le_spacing quotient)
    have gapPos : 0 < spacing (num / den) * den := Nat.mul_pos (spacing_pos _) pos
    obtain ⟨m, shape⟩ : ∃ m, n = m * spacing (num / den) :=
      ⟨_, (Nat.div_mul_cancel finer).symm⟩
    have whole : m * (spacing (num / den) * den) = n * den := by rw [← Nat.mul_assoc, ← shape]
    obtain ⟨k, count⟩ : ∃ k, num / (spacing (num / den) * den) = k := ⟨_, rfl⟩
    have floor := floor_le num den (spacing (num / den))
    have ceiling := lt_floor_succ num gapPos
    rw [count] at floor ceiling
    have fewer : k < m := by
      apply Nat.lt_of_mul_lt_mul_right (a := spacing (num / den) * den)
      omega
    rw [nearest_of_floor rfl floor ceiling, shape]
    split
    · rename_i rounded
      apply Nat.mul_lt_mul_of_pos_right _ (spacing_pos _)
      by_contra last
      obtain rfl : m = k + 1 := by omega
      rw [Nat.add_mul, Nat.one_mul] at whole
      omega
    · exact Nat.mul_lt_mul_of_pos_right fewer (spacing_pos _)

theorem nearest_le (pos : 0 < den) (some : 0 < n) (grid : spacing n ∣ n)
    (even : n / spacing n % 2 = 0) (le : num ≤ n * den) : nearest num den ≤ n := by
  by_cases reaches : 2 * num < (2 * n - spacing (n - 1)) * den
  · exact Nat.le_of_lt ((nearest_lt_iff pos some grid even).mpr reaches)
  · have same : nearest num den = n := by
      apply nearest_eq_of_between pos some grid (by omega)
      · rw [Nat.add_mul, Nat.mul_assoc]
        omega
      · omega
    exact Nat.le_of_eq same

end

end LightShow.Number
