import LightShow.Number.Decimal
import LightShow.Proofs.Rounding

/-!
The numbers that come out of reading, dividing, wrapping and clamping. A double holds each of
them, wrapping leaves less than a full period but for what lies just below zero, and clamping
leaves no more than the bound. Small whole numbers are kept as they are.
-/

namespace LightShow.Number

theorem finite_of_isFinite {x : Number} (finite : x.isFinite = true) :
    ∃ s n, x = .finite s n := by
  cases x with
  | finite s n => exact ⟨s, n, rfl⟩
  | infinite s => cases finite
  | nan => cases finite

theorem representable_iff {n : Nat} : Representable n ↔ n < limit ∧ spacing n ∣ n :=
  ⟨fun held => ⟨held.1, Nat.dvd_of_mod_eq_zero held.2⟩,
    fun held => ⟨held.1, Nat.mod_eq_zero_of_dvd held.2⟩⟩

/-- If the number is finite, a double holds it. -/
def Held (x : Number) : Prop := ∀ s n, x = finite s n → Representable n

theorem held_finite {s : Bool} {n : Nat} (representable : Representable n) : (finite s n).Held := by
  intro s n same
  cases same
  exact representable

theorem held_infinite (s : Bool) : (infinite s).Held := fun _ _ impossible => nomatch impossible
theorem held_nan : nan.Held := fun _ _ impossible => nomatch impossible

theorem held_ofUnits {s : Bool} {n : Nat} (grid : spacing n ∣ n) : (ofUnits s n).Held := by
  rcases Nat.lt_or_ge n limit with below | above
  · rw [ofUnits, if_pos below]
    exact held_finite (representable_iff.mpr ⟨below, grid⟩)
  · rw [ofUnits, if_neg (Nat.not_lt.mpr above)]
    exact held_infinite s

theorem held_ofRatio {s : Bool} {num den : Nat} (pos : 0 < den) : (ofRatio s num den).Held :=
  held_ofUnits (spacing_dvd_nearest pos)

theorem limit_eq_pow {k : Nat} (exponent : k = 2098) : limit = 2 ^ k := by
  unfold limit
  generalize 2098 = e at exponent ⊢
  subst exponent
  rfl

theorem limit_pos : 0 < limit := by
  unfold limit
  generalize 2098 = e
  exact Nat.two_pow_pos e

theorem held_zero (s : Bool) : (finite s 0).Held :=
  held_finite (representable_iff.mpr ⟨limit_pos, Nat.dvd_zero _⟩)

theorem held_ofDecimal (s : Bool) (c : Nat) (e : Int) : (ofDecimal s c e).Held := by
  unfold ofDecimal
  split
  · exact held_zero s
  · split
    · split
      · exact held_infinite s
      · exact held_ofRatio Nat.one_pos
    · split
      · exact held_zero s
      · exact held_ofRatio (Nat.pow_pos (by decide))

theorem held_of_decimal? {s : Bool} {cs : List Char} {x : Number}
    (read : decimal? s cs = some x) : x.Held := by
  unfold decimal? at read
  dsimp only at read
  split at read
  · split at read
    · cases read
    · obtain ⟨e, -, rfl⟩ := Option.map_eq_some_iff.mp read
      exact held_ofDecimal _ _ _
  · split at read
    · cases read
    · obtain ⟨e, -, rfl⟩ := Option.map_eq_some_iff.mp read
      exact held_ofDecimal _ _ _

theorem held_of_unsigned? {s : Bool} {cs : List Char} {x : Number}
    (read : unsigned? s cs = some x) : x.Held := by
  unfold unsigned? at read
  dsimp only at read
  split at read
  · cases read
    exact held_infinite s
  · split at read
    · cases read
      exact held_nan
    · exact held_of_decimal? read

theorem held_of_read? {cs : List Char} {x : Number} (read : read? cs = some x) : x.Held := by
  unfold read? at read
  split at read
  · exact held_of_unsigned? read
  · exact held_of_unsigned? read
  · exact held_of_unsigned? read

theorem held_divide (x y : Number) : (divide x y).Held := by
  unfold divide
  split
  · split
    · rename_i some
      exact held_ofRatio (Nat.pos_of_ne_zero some)
    · split
      · exact held_nan
      · exact held_infinite _
  · exact held_infinite _
  · exact held_zero _
  · exact held_nan

theorem unit_eq_pow {k : Nat} (exponent : k = 1074) : unit = 2 ^ k := by
  unfold unit
  generalize 1074 = e at exponent ⊢
  subst exponent
  rfl

theorem unit_pos : 0 < unit := by
  unfold unit
  generalize 1074 = e
  exact Nat.two_pow_pos e

theorem log2_mul_two_pow {p : Nat} (some : p ≠ 0) (k : Nat) : (p * 2 ^ k).log2 = p.log2 + k := by
  have power := Nat.two_pow_pos k
  rw [Nat.log2_eq_iff (Nat.mul_ne_zero some (Nat.ne_of_gt power))]
  constructor
  · rw [Nat.pow_add]
    exact Nat.mul_le_mul_right _ (Nat.log2_self_le some)
  · rw [Nat.add_right_comm, Nat.pow_add]
    exact Nat.mul_lt_mul_of_pos_right Nat.lt_log2_self power

theorem spacing_mul_unit {p : Nat} (some : p ≠ 0) : spacing (p * unit) = 2 ^ (p.log2 + 1022) := by
  unfold unit
  generalize same : 1074 = k
  have log : (p * Nat.pow 2 k).log2 = p.log2 + k := log2_mul_two_pow some k
  have exponent : p.log2 + k - 52 = p.log2 + 1022 := by omega
  rw [spacing, log, exponent]
  rfl

theorem whole_grid {p : Nat} (some : p ≠ 0) (bits : p.log2 < 52) :
    spacing (p * unit) ∣ p * unit ∧ p * unit / spacing (p * unit) % 2 = 0 := by
  have split : p * unit = p * 2 ^ (51 - p.log2) * 2 * spacing (p * unit) := by
    rw [spacing_mul_unit some, Nat.mul_assoc, Nat.mul_assoc, ← Nat.pow_succ', ← Nat.pow_add]
    rw [unit_eq_pow (by omega : 51 - p.log2 + (p.log2 + 1022 + 1) = 1074)]
  constructor
  · exact ⟨_, split.trans (Nat.mul_comm _ _)⟩
  · rw [Nat.div_eq_of_eq_mul_left (spacing_pos _) split, Nat.mul_mod_left]

theorem two_pow_split {a b c : Nat} (sum : a = b + c) :
    Nat.pow 2 a = Nat.pow 2 b * Nat.pow 2 c := by
  subst sum
  exact Nat.pow_add 2 b c

theorem limit_eq : limit = Nat.pow 2 1024 * unit := by
  have sum : 2098 = 1024 + 1074 := rfl
  unfold limit unit
  generalize 2098 = a, 1024 = b, 1074 = c at sum ⊢
  exact two_pow_split sum

theorem whole_lt_limit {p : Nat} (bits : p.log2 < 52) : p * unit < limit := by
  rw [limit_eq]
  apply Nat.mul_lt_mul_of_pos_right _ unit_pos
  have wide : p.log2 < 1024 := by omega
  generalize 1024 = k at wide ⊢
  exact Nat.lt_of_lt_of_le Nat.lt_log2_self (Nat.pow_le_pow_right (by decide) wide)

theorem log2_lt_of_lt {p : Nat} (small : p < 2 ^ 52) : p.log2 < 52 := by
  by_cases zero : p = 0
  · rw [zero]
    decide
  · exact (Nat.log2_lt zero).mpr small

theorem ofWhole_eq {p : Nat} (bits : p.log2 < 52) : ofWhole p = finite false (p * unit) := by
  rw [ofWhole, ofUnits, if_pos (whole_lt_limit bits)]

theorem toWhole_ofWhole {p bound : Nat} (bits : p.log2 < 52) (le : p ≤ bound) :
    (ofWhole p).toWhole bound = p := by
  have quotient (u : Nat) (pos : 0 < u) : (2 * (p * u) + u) / (2 * u) = p := by
    apply Nat.div_eq_of_lt_le
    · have order : p * (2 * u) = 2 * (p * u) := by ac_rfl
      omega
    · have order : (p + 1) * (2 * u) = 2 * (p * u) + 2 * u := by ring
      omega
  rw [ofWhole_eq bits]
  unfold toWhole
  dsimp only
  rw [if_neg (by decide), quotient unit unit_pos, Nat.min_eq_left le]

/-- Zero, with a sign or without, or positive and at most `bound`. -/
def Within (bound : Nat) (x : Number) : Prop :=
  ∃ s n, x = finite s n ∧ (s = true → n = 0) ∧ n ≤ bound * unit

def Below (bound : Nat) (x : Number) : Prop :=
  ∃ s n, x = finite s n ∧ (s = true → n = 0) ∧ n < bound * unit

theorem Within.isFinite {bound : Nat} {x : Number} (within : x.Within bound) :
    x.isFinite = true := by
  obtain ⟨s, n, rfl, -⟩ := within
  rfl

theorem Within.below_iff {bound : Nat} {x : Number} (within : x.Within bound)
    (some : bound ≠ 0) (bits : bound.log2 < 52) : x.Below bound ↔ x ≠ ofWhole bound := by
  rw [ofWhole_eq bits]
  constructor
  · rintro ⟨s, n, rfl, sign, below⟩ same
    have reached := (finite.inj same).2
    omega
  · intro other
    obtain ⟨s, n, rfl, sign, le⟩ := within
    refine ⟨s, n, rfl, sign, Nat.lt_of_le_of_ne le ?_⟩
    intro full
    have pos : 0 < bound * unit := Nat.mul_pos (Nat.pos_of_ne_zero some) unit_pos
    cases s with
    | false => exact other (by rw [full])
    | true =>
      have none := sign rfl
      omega

section

variable {bound : Nat} (some : bound ≠ 0) (bits : bound.log2 < 52) {x : Number}

theorem Within.clamp_eq (within : x.Within bound) : x.clamp bound = x := by
  obtain ⟨s, n, rfl, sign, le⟩ := within
  have kept : ¬ (s = true ∧ n ≠ 0) := fun both => both.2 (sign both.1)
  rw [clamp, if_neg kept, Nat.min_eq_left le]

theorem within_clamp (finite : x.isFinite = true) : (x.clamp bound).Within bound := by
  cases x with
  | finite s n =>
    unfold clamp
    dsimp only
    split
    · exact ⟨false, 0, rfl, nofun, Nat.zero_le _⟩
    · rename_i kept
      refine ⟨s, min n (bound * unit), rfl, ?_, Nat.min_le_right _ _⟩
      intro negative
      have zero : n = 0 := by
        by_contra some
        exact kept ⟨negative, some⟩
      rw [zero, Nat.zero_min]
  | infinite s => cases finite
  | nan => cases finite

include some bits in
theorem representable_whole : Representable (bound * unit) :=
  representable_iff.mpr ⟨whole_lt_limit bits, (whole_grid some bits).1⟩

include some bits in
theorem held_clamp (held : x.Held) : (x.clamp bound).Held := by
  cases x with
  | finite s n =>
    unfold clamp
    dsimp only
    split
    · exact held_zero false
    · apply held_finite
      rcases Nat.le_total n (bound * unit) with below | above
      · rw [Nat.min_eq_left below]
        exact held s n rfl
      · rw [Nat.min_eq_right above]
        exact representable_whole some bits
  | infinite s =>
    unfold clamp
    dsimp only
    split
    · exact held_zero false
    · exact held_ofUnits (whole_grid some bits).1
  | nan => exact held_nan

end

section

variable {period : Nat} {s : Bool} {n : Nat}

theorem Below.wrap_eq {x : Number} (below : x.Below period) : x.wrap period = x := by
  obtain ⟨s, n, rfl, sign, lt⟩ := below
  have whole : n % (period * unit) = n := Nat.mod_eq_of_lt lt
  have kept : ¬ (s = true ∧ n ≠ 0) := fun both => both.2 (sign both.1)
  unfold wrap
  dsimp only
  rw [whole, if_neg kept]

theorem wrap_of_kept (kept : ¬ (s = true ∧ n % (period * unit) ≠ 0)) :
    (finite s n).wrap period = finite s (n % (period * unit)) := by
  unfold wrap
  dsimp only
  rw [if_neg kept]

theorem wrap_period : (finite false (period * unit)).wrap period = zero := by
  rw [wrap_of_kept (by simp), Nat.mod_self, zero]

variable (some : period ≠ 0) (bits : period.log2 < 52)

include some bits

theorem nearest_lift_le (rest : Nat) : nearest (period * unit - rest) 1 ≤ period * unit := by
  have grid := whole_grid some bits
  have pos : 0 < period * unit := Nat.mul_pos (Nat.pos_of_ne_zero some) unit_pos
  exact nearest_le Nat.one_pos pos grid.1 grid.2 (by omega)

theorem wrap_of_lifted (lifted : s = true ∧ n % (period * unit) ≠ 0) :
    (finite s n).wrap period =
      finite false (nearest (period * unit - n % (period * unit)) 1) := by
  have below : nearest (period * unit - n % (period * unit)) 1 < limit :=
    Nat.lt_of_le_of_lt (nearest_lift_le some bits _) (whole_lt_limit bits)
  unfold wrap
  dsimp only
  rw [if_pos lifted, ofRatio, ofUnits, if_pos below]

theorem within_wrap (s : Bool) (n : Nat) : ((finite s n).wrap period).Within period := by
  have pos : 0 < period * unit := Nat.mul_pos (Nat.pos_of_ne_zero some) unit_pos
  by_cases lifted : s = true ∧ n % (period * unit) ≠ 0
  · rw [wrap_of_lifted some bits lifted]
    exact ⟨false, _, rfl, nofun, nearest_lift_le some bits _⟩
  · rw [wrap_of_kept lifted]
    refine ⟨s, _, rfl, ?_, Nat.le_of_lt (Nat.mod_lt n pos)⟩
    intro negative
    by_contra rest
    exact lifted ⟨negative, rest⟩

theorem held_wrap {x : Number} (held : x.Held) : (x.wrap period).Held := by
  have pos : 0 < period * unit := Nat.mul_pos (Nat.pos_of_ne_zero some) unit_pos
  have below := whole_lt_limit bits
  cases x with
  | finite s n =>
    by_cases lifted : s = true ∧ n % (period * unit) ≠ 0
    · rw [wrap_of_lifted some bits lifted]
      apply held_finite
      rw [representable_iff]
      exact ⟨Nat.lt_of_le_of_lt (nearest_lift_le some bits _) below,
        spacing_dvd_nearest Nat.one_pos⟩
    · have inside := Nat.mod_lt n pos
      have number : spacing (n % (period * unit)) ∣ n := Nat.dvd_trans
        (spacing_dvd_spacing (Nat.mod_le n _)) (representable_iff.mp (held s n rfl)).2
      have whole : spacing (n % (period * unit)) ∣ period * unit := Nat.dvd_trans
        (spacing_dvd_spacing (Nat.le_of_lt inside)) (whole_grid some bits).1
      rw [wrap_of_kept lifted]
      apply held_finite
      rw [representable_iff]
      exact ⟨Nat.lt_trans inside below, (Nat.dvd_mod_iff whole).mpr number⟩
  | infinite s => exact held_nan
  | nan => exact held_nan

/-- What is wrapped is a full period exactly if it lies below a whole number of periods by no more
    than half the distance to the double below the period. -/
theorem wrap_eq_period_iff : (finite s n).wrap period = finite false (period * unit) ↔
    s = true ∧ n % (period * unit) ≠ 0 ∧
      2 * (n % (period * unit)) ≤ spacing (period * unit - 1) := by
  have pos : 0 < period * unit := Nat.mul_pos (Nat.pos_of_ne_zero some) unit_pos
  have inside := Nat.mod_lt n pos
  by_cases lifted : s = true ∧ n % (period * unit) ≠ 0
  · have grid := whole_grid some bits
    have bound := nearest_lift_le some bits (n % (period * unit))
    have lower : nearest (period * unit - n % (period * unit)) 1 < period * unit ↔
        2 * (period * unit - n % (period * unit)) <
          (2 * (period * unit) - spacing (period * unit - 1)) * 1 :=
      nearest_lt_iff Nat.one_pos pos grid.1 grid.2
    have fits : spacing (period * unit - 1) ≤ period * unit := Nat.le_of_dvd pos
      (Nat.dvd_trans (spacing_dvd_spacing (Nat.sub_le _ 1)) grid.1)
    rw [wrap_of_lifted some bits lifted]
    constructor
    · intro same
      have reached := (Number.finite.inj same).2
      exact ⟨lifted.1, lifted.2, by omega⟩
    · rintro ⟨-, -, near⟩
      have reached : nearest (period * unit - n % (period * unit)) 1 = period * unit := by omega
      rw [reached]
  · rw [wrap_of_kept lifted]
    constructor
    · intro same
      have reached := (Number.finite.inj same).2
      omega
    · rintro ⟨negative, rest, -⟩
      exact absurd ⟨negative, rest⟩ lifted

end

theorem Within.wrap_eq {period : Nat} {x : Number} (within : x.Within period)
    (bits : period.log2 < 52) :
    x.wrap period = if x = ofWhole period then zero else x := by
  obtain ⟨s, n, rfl, sign, le⟩ := within
  rw [ofWhole_eq bits]
  rcases Nat.lt_or_eq_of_le le with below | same
  · have other : finite s n ≠ finite false (period * unit) := by
      intro same
      have reached := (finite.inj same).2
      omega
    rw [if_neg other]
    exact Below.wrap_eq ⟨s, n, rfl, sign, below⟩
  · cases s with
    | false => rw [same, if_pos rfl, wrap_period]
    | true =>
      have none := sign rfl
      rw [← same, none, if_neg (by simp)]
      unfold wrap
      dsimp only
      rw [Nat.zero_mod, if_neg (by simp)]

theorem zero_ne_turn : zero ≠ ofWhole 360 := by
  rw [ofWhole_eq (by decide)]
  intro same
  have none := (finite.inj same).2
  have pos := unit_pos
  omega

theorem two_pow_mul_unit {a b : Nat} (sum : a = b + 1074) : 2 ^ a = 2 ^ b * unit := by
  unfold unit
  generalize 1074 = k at sum ⊢
  subst sum
  exact Nat.pow_add 2 b k

theorem spacing_turn : 2 ^ 44 * spacing (360 * unit - 1) = unit := by
  have pos := unit_pos
  have gap : spacing (360 * unit - 1) = 2 ^ 1030 := by
    apply spacing_eq_of_bounds
    · rw [two_pow_mul_unit (b := 8) rfl]
      omega
    · rw [two_pow_mul_unit (b := 9) rfl]
      omega
  obtain ⟨k, shape, sum⟩ : ∃ k, spacing (360 * unit - 1) = 2 ^ k ∧ 44 + k = 1074 :=
    ⟨1030, gap, rfl⟩
  rw [shape, ← Nat.pow_add, unit_eq_pow sum]

theorem wrap_eq_turn_iff {s : Bool} {n : Nat} : (finite s n).wrap 360 = ofWhole 360 ↔
    s = true ∧ n % (360 * unit) ≠ 0 ∧ 2 ^ 45 * (n % (360 * unit)) ≤ unit := by
  have split := spacing_turn
  rw [ofWhole_eq (by decide), wrap_eq_period_iff (by decide) (by decide)]
  have same : 2 * (n % (360 * unit)) ≤ spacing (360 * unit - 1) ↔
      2 ^ 45 * (n % (360 * unit)) ≤ unit := by omega
  rw [same]

end LightShow.Number
