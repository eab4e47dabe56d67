import LightShow.Number.Shortest
import LightShow.Proofs.Doubles
import LightShow.Proofs.Numerals

/-!
Numbers as text. The decimal that is written lies between the midpoints to the neighbours of the
number, so it is read back as that number; what is written are digits, a point and a sign.
-/

namespace LightShow.Number

open Text

theorem fine_lt_iff {a b : Nat} : fine a < fine b ↔ a < b := by
  unfold fine
  generalize 1074 = k
  exact Nat.mul_lt_mul_right (Nat.pow_pos (by decide))

theorem fine_le_iff {a b : Nat} : fine a ≤ fine b ↔ a ≤ b := by
  rw [← Nat.not_lt, fine_lt_iff, Nat.not_lt]

theorem fine_mul (a b : Nat) : fine (a * b) = fine a * b := Nat.mul_right_comm a b _

theorem fine_two_mul (n : Nat) : fine (2 * n) = 2 * fine n := Nat.mul_assoc 2 n _

theorem readsBack_fine {n : Nat} (some : 0 < n) : ReadsBack n (fine n) := by
  have below := spacing_pos (n - 1)
  have above := spacing_pos n
  have lower : fine (2 * n - spacing (n - 1)) < 2 * fine n := by
    rw [← fine_two_mul]
    exact fine_lt_iff.mpr (by omega)
  have upper : 2 * fine n < fine (2 * n + spacing n) := by
    rw [← fine_two_mul]
    exact fine_lt_iff.mpr (by omega)
  unfold ReadsBack
  dsimp only
  split
  · exact ⟨Nat.le_of_lt lower, Nat.le_of_lt upper⟩
  · exact ⟨lower, upper⟩

/-- The decimal in units of 10^-1074. -/
def Grid.value (g : Grid) : Nat := g.coefficient * 10 ^ g.exponent

theorem readsBack_coarsest {n : Nat} (some : 0 < n) (exponent : Nat) :
    ReadsBack n (coarsest n exponent).value := by
  induction exponent with
  | zero => simpa [coarsest, Grid.value] using readsBack_fine some
  | succ exponent ih =>
    unfold coarsest
    dsimp only
    split
    · rename_i taken
      exact taken.1
    · split
      · assumption
      · exact ih

theorem readsBack_shortest {n : Nat} (some : 0 < n) : ReadsBack n (shortest n).value :=
  readsBack_coarsest some _

theorem ReadsBack.between {n x : Nat} (reads : ReadsBack n x) :
    fine (2 * n - spacing (n - 1)) ≤ 2 * x ∧ 2 * x ≤ fine (2 * n + spacing n) ∧
      (n / spacing n % 2 = 1 → fine (2 * n - spacing (n - 1)) < 2 * x ∧
        2 * x < fine (2 * n + spacing n)) := by
  unfold ReadsBack at reads
  dsimp only at reads
  split at reads
  · exact ⟨reads.1, reads.2, fun odd => by omega⟩
  · exact ⟨Nat.le_of_lt reads.1, Nat.le_of_lt reads.2, fun _ => reads⟩

theorem ReadsBack.nearest_eq {n x num den : Nat} (reads : ReadsBack n x) (pos : 0 < den)
    (some : 0 < n) (grid : spacing n ∣ n) (same : fine num = x * den) :
    nearest num den = n := by
  have double : fine (2 * num) = 2 * x * den := by rw [fine_two_mul, same, Nat.mul_assoc]
  have le_iff (m : Nat) : m * den ≤ 2 * num ↔ fine m ≤ 2 * x := by
    rw [← fine_le_iff, fine_mul m, double, Nat.mul_le_mul_right_iff pos]
  have ge_iff (m : Nat) : 2 * num ≤ m * den ↔ 2 * x ≤ fine m := by
    rw [← fine_le_iff, fine_mul m, double, Nat.mul_le_mul_right_iff pos]
  obtain ⟨lower, upper, strict⟩ := reads.between
  apply nearest_eq_of_between pos some grid
  · exact (le_iff _).mpr lower
  · exact (ge_iff _).mpr upper
  · intro odd
    rw [← Nat.not_le, ge_iff, ← Nat.not_le, le_iff, Nat.not_le, Nat.not_le]
    exact strict odd

section

variable {c e n : Nat} (s : Bool)

theorem two_pow_mul_five_pow (k : Nat) : Nat.pow 2 k * Nat.pow 5 k = 10 ^ k :=
  (Nat.mul_pow 2 5 k).symm

theorem fine_mul_unit (c : Nat) : fine (c * unit) = c * 10 ^ 1074 := by
  unfold fine unit
  generalize 1074 = k
  rw [← two_pow_mul_five_pow, ← Nat.mul_assoc]

theorem ofRatio_of_readsBack {x num den : Nat} (held : Representable n) (some : 0 < n)
    (reads : ReadsBack n x) (pos : 0 < den) (same : fine num = x * den) :
    ofRatio s num den = finite s n := by
  have grid : spacing n ∣ n := Nat.dvd_of_mod_eq_zero held.2
  rw [ofRatio, reads.nearest_eq pos some grid same, ofUnits, if_pos held.1]

theorem pos_of_readsBack (some : 0 < n) (grid : spacing n ∣ n) {x : Nat}
    (reads : ReadsBack n x) : fine 1 ≤ 2 * x := by
  have fits := Nat.le_of_dvd some
    (Nat.dvd_trans (spacing_dvd_spacing (Nat.sub_le n 1)) grid)
  have least : fine 1 ≤ fine (2 * n - spacing (n - 1)) := fine_le_iff.mpr (by omega)
  exact Nat.le_trans least reads.between.1

theorem ofDecimal_whole (held : Representable n) (some : 0 < n)
    (reads : ReadsBack n (c * 10 ^ 1074)) : ofDecimal s c 0 = finite s n := by
  have least := pos_of_readsBack some (Nat.dvd_of_mod_eq_zero held.2) reads
  have nonzero : c ≠ 0 := by
    rintro rfl
    have one : fine 0 < fine 1 := fine_lt_iff.mpr Nat.one_pos
    omega
  have same : fine (c * unit) = c * 10 ^ 1074 * 1 := by rw [fine_mul_unit, Nat.mul_one]
  unfold ofDecimal
  rw [if_neg nonzero]
  have one : Nat.pow 10 0 = 1 := rfl
  dsimp only
  rw [if_neg (by decide), one, Nat.mul_one]
  exact ofRatio_of_readsBack s held some reads Nat.one_pos same

theorem two_mul_mul_unit_lt {places : Nat} (tiny : c.log2 + 1076 < 3 * (places + 1)) :
    2 * c * unit < 10 ^ (places + 1) := by
  have digits : c < 2 ^ (c.log2 + 1) := Nat.lt_log2_self
  have eight : 2 ^ (3 * (places + 1)) ≤ 10 ^ (places + 1) := by
    rw [Nat.pow_mul]
    exact Nat.pow_le_pow_left (by decide) _
  calc 2 * c * unit < 2 ^ (c.log2 + 2) * unit :=
        Nat.mul_lt_mul_of_pos_right (by rw [Nat.pow_succ]; omega) unit_pos
    _ = 2 ^ (c.log2 + 2 + 1074) := (two_pow_mul_unit rfl).symm
    _ ≤ 2 ^ (3 * (places + 1)) := Nat.pow_le_pow_right (by decide) (by omega)
    _ ≤ 10 ^ (places + 1) := eight

theorem ofDecimal_fraction {places : Nat} (held : Representable n) (some : 0 < n)
    (reads : ReadsBack n (c * 10 ^ e)) (split : e + (places + 1) = 1074) :
    ofDecimal s c (Int.negSucc places) = finite s n := by
  have least := pos_of_readsBack some (Nat.dvd_of_mod_eq_zero held.2) reads
  have nonzero : c ≠ 0 := by
    rintro rfl
    have one : fine 0 < fine 1 := fine_lt_iff.mpr Nat.one_pos
    omega
  have same : fine (c * unit) = c * 10 ^ e * 10 ^ (places + 1) := by
    rw [fine_mul_unit, ← split, Nat.pow_add, Nat.mul_assoc]
  have large : ¬ c.log2 + 1076 < 3 * (places + 1) := by
    intro tiny
    have bound := two_mul_mul_unit_lt tiny
    have scaled := Nat.mul_le_mul_right unit least
    rw [← fine_mul, fine_mul_unit, ← split, Nat.pow_add] at scaled
    have order (u : Nat) : 2 * (c * 10 ^ e) * u = 10 ^ e * (2 * c * u) := by ac_rfl
    rw [order unit, Nat.one_mul] at scaled
    have wide := Nat.mul_lt_mul_of_pos_left bound (Nat.pow_pos (n := e) (show 0 < 10 by decide))
    exact Nat.lt_irrefl _ (Nat.lt_of_lt_of_le wide scaled)
  unfold ofDecimal
  rw [if_neg nonzero]
  dsimp only
  rw [if_neg large]
  exact ofRatio_of_readsBack s held some reads (Nat.pow_pos (by decide)) same

end

def AllDigits (cs : List Char) : Prop := ∀ c ∈ cs, c.isDigit = true

theorem allDigits_decimal (n : Nat) : AllDigits (decimal n) := fun _ => isDigit_of_mem_decimal

theorem allDigits_replicate (k : Nat) : AllDigits (List.replicate k '0') := by
  intro c member
  rw [List.eq_of_mem_replicate member]
  rfl

theorem AllDigits.append {a b : List Char} (front : AllDigits a) (back : AllDigits b) :
    AllDigits (a ++ b) := by
  intro c member
  rcases List.mem_append.mp member with here | later
  · exact front c here
  · exact back c later

theorem AllDigits.span_append {ds rest : List Char} (digits : AllDigits ds)
    (ends : ∀ c ∈ rest.head?, c.isDigit = false) :
    (ds ++ rest).span Char.isDigit = (ds, rest) := by
  have stops : rest.takeWhile Char.isDigit = [] ∧ rest.dropWhile Char.isDigit = rest := by
    cases rest with
    | nil => exact ⟨rfl, rfl⟩
    | cons c rest => simp [ends c rfl]
  rw [List.span_eq_takeWhile_dropWhile, List.takeWhile_append_of_pos digits,
    List.dropWhile_append_of_pos digits, stops.1, stops.2, List.append_nil]

theorem AllDigits.span_self {ds : List Char} (digits : AllDigits ds) :
    ds.span Char.isDigit = (ds, []) := by
  have split : (ds ++ []).span Char.isDigit = (ds, []) := digits.span_append (by simp)
  rwa [List.append_nil] at split

section

variable (s : Bool)

theorem decimal?_digits {ds : List Char} (digits : AllDigits ds) (some : ds ≠ []) :
    decimal? s ds = .some (ofDecimal s (decimalValue ds) 0) := by
  simp [decimal?, digits.span_self, some, exponent?, -List.span_eq_takeWhile_dropWhile]

theorem decimal?_point {whole fraction : List Char} (front : AllDigits whole)
    (back : AllDigits fraction) (some : whole ≠ []) :
    decimal? s (whole ++ '.' :: fraction) =
      .some (ofDecimal s (decimalValue (whole ++ fraction)) (0 - fraction.length)) := by
  have split : (whole ++ '.' :: fraction).span Char.isDigit = (whole, '.' :: fraction) :=
    front.span_append (by simp)
  simp [decimal?, split, back.span_self, some, exponent?, -List.span_eq_takeWhile_dropWhile]

end

theorem decimalValue_foldl (ds : List Char) (n : Nat) :
    ds.foldl (fun n c => 10 * n + digitValue c) n = n * 10 ^ ds.length + decimalValue ds := by
  induction ds generalizing n with
  | nil => simp [decimalValue]
  | cons c ds ih =>
    have alone : decimalValue (c :: ds) = digitValue c * 10 ^ ds.length + decimalValue ds := by
      rw [decimalValue, List.foldl_cons, ih, Nat.mul_zero, Nat.zero_add]
    rw [List.foldl_cons, ih, alone, List.length_cons]
    ring

theorem decimalValue_replicate (k : Nat) : decimalValue (List.replicate k '0') = 0 := by
  induction k with
  | zero => rfl
  | succ k ih => rw [List.replicate_succ', decimalValue_append, ih]; rfl

theorem decimalValue_append_list (a b : List Char) :
    decimalValue (a ++ b) = decimalValue a * 10 ^ b.length + decimalValue b := by
  rw [decimalValue, List.foldl_append, ← decimalValue, decimalValue_foldl]

theorem layout_whole {g : Grid} (whole : 1074 ≤ g.exponent) :
    layout g = decimal g.coefficient ++ List.replicate (g.exponent - 1074) '0' := by
  simp only [layout, if_pos whole]

theorem exists_layout_point {g : Grid} (point : g.exponent < 1074) :
    ∃ k whole fraction, layout g = whole ++ '.' :: fraction ∧
      whole ++ fraction = List.replicate k '0' ++ decimal g.coefficient ∧ whole ≠ [] ∧
      fraction.length = 1074 - g.exponent := by
  obtain ⟨k, enough⟩ : ∃ k, 1074 - g.exponent + 1 - (decimal g.coefficient).length = k :=
    ⟨_, rfl⟩
  have length : (List.replicate k '0' ++ decimal g.coefficient).length > 1074 - g.exponent := by
    rw [List.length_append, List.length_replicate]
    omega
  obtain ⟨padded, shape⟩ : ∃ padded, List.replicate k '0' ++ decimal g.coefficient = padded :=
    ⟨_, rfl⟩
  rw [shape] at length
  refine ⟨k, padded.take (padded.length - (1074 - g.exponent)),
    padded.drop (padded.length - (1074 - g.exponent)), ?_, ?_, ?_, ?_⟩
  · simp only [layout, if_neg (Nat.not_le.mpr point), enough, shape]
  · rw [List.take_append_drop, shape]
  · rw [← List.length_pos_iff, List.length_take]
    omega
  · rw [List.length_drop]
    omega

section

variable {n : Nat} (s : Bool)

theorem decimal?_layout {g : Grid} (held : Representable n) (some : 0 < n)
    (reads : ReadsBack n g.value) : decimal? s (layout g) = .some (finite s n) := by
  rcases Nat.lt_or_ge g.exponent 1074 with point | whole
  · obtain ⟨k, whole, fraction, written, digits, nonempty, places⟩ := exists_layout_point point
    have all : AllDigits (whole ++ fraction) := by
      rw [digits]
      exact (allDigits_replicate k).append (allDigits_decimal _)
    have value : decimalValue (whole ++ fraction) = g.coefficient := by
      rw [digits, decimalValue_append_list, decimalValue_replicate, decimalValue_decimal,
        Nat.zero_mul, Nat.zero_add]
    obtain ⟨p, split⟩ : ∃ p, 1074 - g.exponent = p + 1 :=
      ⟨1074 - g.exponent - 1, by omega⟩
    have exponent : (0 : Int) - fraction.length = Int.negSucc p := by omega
    rw [written, decimal?_point s (fun c member => all c (List.mem_append_left _ member))
      (fun c member => all c (List.mem_append_right _ member)) nonempty, value, exponent]
    exact congrArg _ (ofDecimal_fraction s held some reads (by omega))
  · have all := (allDigits_decimal g.coefficient).append
      (allDigits_replicate (g.exponent - 1074))
    have nonempty : decimal g.coefficient ++ List.replicate (g.exponent - 1074) '0' ≠ [] :=
      List.append_ne_nil_of_left_ne_nil Nat.toDigits_ne_nil _
    have value : decimalValue (decimal g.coefficient ++ List.replicate (g.exponent - 1074) '0') =
        g.coefficient * 10 ^ (g.exponent - 1074) := by
      rw [decimalValue_append_list, decimalValue_replicate, decimalValue_decimal,
        List.length_replicate, Nat.add_zero]
    have same : g.value = g.coefficient * 10 ^ (g.exponent - 1074) * 10 ^ 1074 := by
      rw [Grid.value, Nat.mul_assoc, ← Nat.pow_add, Nat.sub_add_cancel whole]
    rw [same] at reads
    rw [layout_whole whole, decimal?_digits s all nonempty, value]
    exact congrArg _ (ofDecimal_whole s held some reads)

theorem decimal?_magnitude (held : Representable n) :
    decimal? s (magnitude n) = .some (finite s n) := by
  unfold magnitude
  by_cases zero : n = 0
  · rw [if_pos zero, zero]
    rfl
  · have some : 0 < n := Nat.pos_of_ne_zero zero
    rw [if_neg zero]
    exact decimal?_layout s held some (readsBack_shortest some)

end

theorem exists_cons_layout (g : Grid) : ∃ c cs, layout g = c :: cs ∧ c.isDigit = true ∧
    ∀ d ∈ cs, d.isDigit = true ∨ d = '.' := by
  rcases Nat.lt_or_ge g.exponent 1074 with point | whole
  · obtain ⟨k, whole, fraction, written, digits, nonempty, -⟩ := exists_layout_point point
    have all : AllDigits (whole ++ fraction) := by
      rw [digits]
      exact (allDigits_replicate k).append (allDigits_decimal _)
    obtain ⟨c, cs, rfl⟩ := List.exists_cons_of_ne_nil nonempty
    refine ⟨c, cs ++ '.' :: fraction, written, all c List.mem_cons_self, ?_⟩
    intro d member
    rcases List.mem_append.mp member with early | late
    · exact Or.inl (all d (List.mem_cons_of_mem c (List.mem_append_left _ early)))
    · rcases List.mem_cons.mp late with here | later
      · exact Or.inr here
      · exact Or.inl (all d (List.mem_append_right _ later))
  · obtain ⟨c, ds, shape, digit⟩ := exists_cons_decimal g.coefficient
    refine ⟨c, ds ++ List.replicate (g.exponent - 1074) '0', ?_, digit, ?_⟩
    · rw [layout_whole whole, shape, List.cons_append]
    · have all := (allDigits_decimal g.coefficient).append
        (allDigits_replicate (g.exponent - 1074))
      intro d member
      apply Or.inl (all d _)
      rw [shape]
      exact List.mem_cons_of_mem c member

theorem exists_cons_magnitude (n : Nat) : ∃ c cs, magnitude n = c :: cs ∧ c.isDigit = true ∧
    ∀ d ∈ cs, d.isDigit = true ∨ d = '.' := by
  unfold magnitude
  split
  · exact ⟨'0', [], rfl, rfl, by simp⟩
  · exact exists_cons_layout _

theorem plain_of_mem_chars {s : Bool} {n : Nat} {c : Char} (member : c ∈ (finite s n).chars) :
    c = '-' ∨ c = '.' ∨ c.isDigit = true := by
  obtain ⟨first, rest, written, digit, others⟩ := exists_cons_magnitude n
  have inside : c ∈ magnitude n → c = '-' ∨ c = '.' ∨ c.isDigit = true := by
    intro member
    rw [written] at member
    rcases List.mem_cons.mp member with rfl | later
    · exact Or.inr (Or.inr digit)
    · rcases others c later with digit | point
      · exact Or.inr (Or.inr digit)
      · exact Or.inr (Or.inl point)
  cases s with
  | false => exact inside member
  | true =>
    rcases List.mem_cons.mp member with sign | later
    · exact Or.inl sign
    · exact inside later

theorem toLower_of_isDigit {c : Char} (digit : c.isDigit = true) : c.toLower = c := by
  simp only [Char.isDigit, Bool.and_eq_true, decide_eq_true_eq] at digit
  have small : ¬ (c.val ≥ 'A'.val ∧ c.val ≤ 'Z'.val) := by
    rintro ⟨letter, -⟩
    exact absurd (UInt32.le_trans letter digit.2) (by decide)
  rw [Char.toLower, dif_neg small]

theorem unsigned?_of_isDigit (s : Bool) {c : Char} (digit : c.isDigit = true) (cs : List Char) :
    unsigned? s (c :: cs) = decimal? s (c :: cs) := by
  have word (text : String) {d : Char} {ds : List Char} (spelled : text.toList = d :: ds)
      (letter : d.isDigit = false) : String.ofList ((c :: cs).map Char.toLower) ≠ text := by
    rintro rfl
    rw [String.toList_ofList, List.map_cons, toLower_of_isDigit digit] at spelled
    rw [(List.cons.inj spelled).1, letter] at digit
    cases digit
  unfold unsigned?
  dsimp only
  rw [if_neg, if_neg (word "nan" rfl rfl)]
  rw [not_or]
  exact ⟨word "inf" rfl rfl, word "infinity" rfl rfl⟩

theorem read?_of_isDigit {c : Char} (digit : c.isDigit = true) (cs : List Char) :
    read? (c :: cs) = decimal? false (c :: cs) := by
  unfold read?
  split
  · rename_i same
    cases same
    exact absurd digit (by decide)
  · rename_i same
    cases same
    exact absurd digit (by decide)
  · exact unsigned?_of_isDigit false digit cs

/-- What a double is written as is read as that double, the sign of a zero included. -/
theorem read?_chars (s : Bool) {n : Nat} (held : Representable n) :
    read? (finite s n).chars = some (finite s n) := by
  obtain ⟨c, cs, written, digit, -⟩ := exists_cons_magnitude n
  have read := decimal?_magnitude s held
  cases s with
  | true =>
    have unsigned : unsigned? true (magnitude n) = some (finite true n) := by
      rw [written, unsigned?_of_isDigit true digit, ← written]
      exact read
    exact unsigned
  | false =>
    have chars : (finite false n).chars = c :: cs := written
    rw [chars, read?_of_isDigit digit, ← written]
    exact read

theorem read?_decimal {p : Nat} (bits : p.log2 < 52) : read? (decimal p) = some (ofWhole p) := by
  obtain ⟨c, cs, written, digit⟩ := exists_cons_decimal p
  have nonempty : decimal p ≠ [] := by
    rw [written]
    exact List.cons_ne_nil c cs
  have read := decimal?_digits false (allDigits_decimal p) nonempty
  rw [decimalValue_decimal] at read
  rw [written, read?_of_isDigit digit, ← written, read]
  by_cases zero : p = 0
  · rw [zero, ofWhole_eq (by decide), Nat.zero_mul]
    rfl
  · have pos : 0 < p * unit := Nat.mul_pos (Nat.pos_of_ne_zero zero) unit_pos
    have one : Nat.pow 10 0 = 1 := rfl
    unfold ofDecimal
    rw [if_neg zero]
    dsimp only
    rw [if_neg (by decide), one, Nat.mul_one, ofRatio, nearest_self pos (whole_grid zero bits).1,
      ofWhole]

theorem isBlank_of_mem_chars {x : Number} (isFinite : x.isFinite = true) {c : Char}
    (member : c ∈ x.chars) : isBlank c = false := by
  obtain ⟨s, n, rfl⟩ := finite_of_isFinite isFinite
  rcases plain_of_mem_chars member with rfl | rfl | digit
  · decide
  · decide
  · exact isBlank_of_isDigit digit

theorem not_mem_chars {x : Number} (isFinite : x.isFinite = true) : ',' ∉ x.chars := by
  obtain ⟨s, n, rfl⟩ := finite_of_isFinite isFinite
  intro member
  rcases plain_of_mem_chars member with sign | point | digit
  · exact absurd sign (by decide)
  · exact absurd point (by decide)
  · exact absurd digit (by decide)

end LightShow.Number
