import LightShow.ShowFile.Tags
import LightShow.ShowFile.Element

/-!
Numbers, truth values and positions in a file: what is written is read back.
-/

namespace LightShow.Text

theorem isDigit_of_mem_decimal {n : Nat} {c : Char} (member : c ∈ decimal n) : c.isDigit :=
  Nat.isDigit_of_mem_toDigits (by decide) (by decide) member

theorem decimalValue_append (ds : List Char) (c : Char) :
    decimalValue (ds ++ [c]) = 10 * decimalValue ds + digitValue c := by
  simp [decimalValue]

theorem digitValue_digitChar {d : Nat} (small : d < 10) : digitValue d.digitChar = d :=
  Nat.toNat_digitChar_sub_48_of_lt_ten small

theorem decimalValue_decimal (n : Nat) : decimalValue (decimal n) = n := by
  induction n using Nat.strongRecOn with
  | ind n ih =>
    unfold decimal
    by_cases small : n < 10
    · rw [Nat.toDigits_of_lt_base small]
      simp [decimalValue, digitValue_digitChar small]
    · rw [Nat.toDigits_of_base_le (by decide) (by omega), decimalValue_append]
      have front := ih (n / 10) (by omega)
      rw [decimal] at front
      rw [front, digitValue_digitChar (by omega)]
      omega

theorem digits?_decimal (n : Nat) : digits? (decimal n) = some n := by
  have digits : (decimal n).all Char.isDigit = true := by
    rw [List.all_eq_true]
    exact fun c member => isDigit_of_mem_decimal member
  have some : decimal n ≠ [] := Nat.toDigits_ne_nil
  simp [digits?, digits, some, decimalValue_decimal]

theorem exists_cons_decimal (n : Nat) : ∃ c ds, decimal n = c :: ds ∧ c.isDigit := by
  cases shape : decimal n with
  | nil => exact absurd shape Nat.toDigits_ne_nil
  | cons c ds => exact ⟨c, ds, rfl, isDigit_of_mem_decimal (n := n) (by simp [shape])⟩

theorem natural?_decimal (n : Nat) : natural? (decimal n) = some n := by
  obtain ⟨c, ds, shape, digit⟩ := exists_cons_decimal n
  have unsigned : c ≠ '+' := by
    rintro rfl
    exact absurd digit (by decide)
  have read := digits?_decimal n
  rw [shape] at read ⊢
  unfold natural?
  split
  · rename_i same
    cases same
    exact absurd rfl unsigned
  · exact read

theorem integer?_signedDecimal (n : Int) : integer? (signedDecimal n) = some n := by
  unfold signedDecimal
  by_cases negative : n < 0
  · rw [if_pos negative]
    have whole : -(n.natAbs : Int) = n := by omega
    have read : integer? ('-' :: decimal n.natAbs) = some (-(n.natAbs : Int)) := by
      simp [integer?, digits?_decimal]
    rw [read, whole]
  · rw [if_neg negative]
    obtain ⟨c, ds, shape, digit⟩ := exists_cons_decimal n.natAbs
    have unsigned : c ≠ '-' := by
      rintro rfl
      exact absurd digit (by decide)
    have read := natural?_decimal n.natAbs
    rw [shape] at read ⊢
    unfold integer?
    split
    · rename_i same
      cases same
      exact absurd rfl unsigned
    · have whole : (n.natAbs : Int) = n := by omega
      simp [read, whole]

theorem naturalBelow?_ofNat {bound n : Nat} (below : n < bound) :
    naturalBelow? bound (ofNat n) = some n := by
  simp [naturalBelow?, ofNat, natural?_decimal, below]

@[simp] theorem uint32?_ofNat (n : UInt32) : uint32? (ofNat n.toNat) = some n := by
  simp [uint32?, naturalBelow?_ofNat n.toNat_lt_size]

@[simp] theorem uint16?_ofNat (n : UInt16) : uint16? (ofNat n.toNat) = some n := by
  simp [uint16?, naturalBelow?_ofNat n.toNat_lt_size]

@[simp] theorem int32?_ofInt (n : Int32) : int32? (ofInt n.toInt) = some n := by
  have range : Int32.minValue.toInt ≤ n.toInt ∧ n.toInt ≤ Int32.maxValue.toInt :=
    ⟨n.minValue_le_toInt, n.toInt_le⟩
  simp only [int32?, ofInt, String.toList_ofList, integer?_signedDecimal, Option.filter_some,
    range, and_self, decide_true, if_true, Option.map_some, Int32.ofInt_toInt]

@[simp] theorem bool?_ofBool (b : Bool) : bool? (ofBool b) = some b := by
  cases b <;> rfl

theorem mem_signedDecimal {n : Int} {c : Char} (member : c ∈ signedDecimal n) :
    c = '-' ∨ c.isDigit := by
  unfold signedDecimal at member
  split at member
  · rcases List.mem_cons.mp member with here | digit
    · exact Or.inl here
    · exact Or.inr (isDigit_of_mem_decimal digit)
  · exact Or.inr (isDigit_of_mem_decimal member)

theorem isBlank_of_isDigit {c : Char} (digit : c.isDigit) : isBlank c = false := by
  have range : 48 ≤ c.toNat ∧ c.toNat ≤ 57 := by
    simp only [Char.isDigit, Bool.and_eq_true, decide_eq_true_eq] at digit
    exact digit
  simp only [isBlank, inRanges, blankRanges, List.any_cons, List.any_nil, Bool.or_false,
    Bool.or_eq_false_iff, Bool.and_eq_false_iff, decide_eq_false_iff_not]
  omega

theorem trim_decimal (n : Nat) : trim (decimal n) = decimal n :=
  trim_eq_self fun _ member => isBlank_of_isDigit (isDigit_of_mem_decimal member)

theorem trim_signedDecimal (n : Int) : trim (signedDecimal n) = signedDecimal n := by
  refine trim_eq_self fun c member => ?_
  rcases mem_signedDecimal member with rfl | digit
  · decide
  · exact isBlank_of_isDigit digit

end LightShow.Text

namespace LightShow.ShowFile

open Text

@[simp] theorem position?_positionText (p : Position) : position? (positionText p) = some p := by
  have apart : ',' ∉ signedDecimal p.x.toInt := by
    intro member
    rcases mem_signedDecimal member with sign | digit
    · exact absurd sign (by decide)
    · exact absurd digit (by decide)
  have halves : (positionText p).toList =
      signedDecimal p.x.toInt ++ ',' :: signedDecimal p.y.toInt := by
    simp [positionText, ofInt]
  have x := int32?_ofInt p.x
  have y := int32?_ofInt p.y
  unfold ofInt at x y
  simp [position?, halves, cut?_append apart, trim_signedDecimal, x, y]

end LightShow.ShowFile
