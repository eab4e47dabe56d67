import LightShow.Proofs.Scanning

/-!
References in escaped values. A character stands for itself or is written as a reference that
is complete in itself, so what is escaped can be told character by character, in whatever passes
it was escaped.
-/

namespace LightShow.Xml

theorem replaceAll_of_not_mem {mark : Char} {cs : List Char} (absent : mark ∉ cs)
    (word : List Char) : replaceAll mark word cs = cs := by
  induction cs with
  | nil => rfl
  | cons c cs ih =>
    simp only [List.mem_cons, not_or] at absent
    have here : c ≠ mark := Ne.symm absent.1
    have later := ih absent.2
    unfold replaceAll at later ⊢
    rw [List.flatMap_cons, if_neg here, later]
    rfl

theorem replaceAll_nameChar (c : Char) :
    replaceAll '\t' ['&', '#', '9', ';'] (replaceAll '\r' ['&', '#', '1', '3', ';']
      (replaceAll '\n' ['&', '#', '1', '0', ';'] (nameChar c))) = escapeChar c := by
  unfold escapeChar
  split
  case h_9 lt gt amp apos quot lf cr tab =>
    have same : nameChar c = [c] := by
      unfold nameChar
      split
      case h_6 => rfl
      all_goals contradiction
    have newline : '\n' ∉ [c] := by simpa using Ne.symm lf
    have return_ : '\r' ∉ [c] := by simpa using Ne.symm cr
    have tabulator : '\t' ∉ [c] := by simpa using Ne.symm tab
    rw [same, replaceAll_of_not_mem newline, replaceAll_of_not_mem return_,
      replaceAll_of_not_mem tabulator]
  all_goals rfl

theorem replaceAll_flatMap (mark : Char) (word : List Char) (f : Char → List Char)
    (cs : List Char) :
    replaceAll mark word (cs.flatMap f) = cs.flatMap fun c => replaceAll mark word (f c) := by
  unfold replaceAll
  rw [List.flatMap_assoc]

theorem escapeInPasses_eq (cs : List Char) : escapeInPasses cs = escape cs := by
  have all : replaceAll '\t' ['&', '#', '9', ';'] (replaceAll '\r' ['&', '#', '1', '3', ';']
      (replaceAll '\n' ['&', '#', '1', '0', ';'] (cs.flatMap nameChar))) = escape cs := by
    rw [replaceAll_flatMap, replaceAll_flatMap, replaceAll_flatMap]
    simp only [replaceAll_nameChar, escape]
  unfold escapeInPasses
  by_cases broken : '\n' ∈ cs.flatMap nameChar ∨ '\r' ∈ cs.flatMap nameChar ∨
      '\t' ∈ cs.flatMap nameChar
  · rw [if_pos broken, all]
  · rw [if_neg broken, ← all]
    simp only [not_or] at broken
    rw [replaceAll_of_not_mem broken.1, replaceAll_of_not_mem broken.2.1,
      replaceAll_of_not_mem broken.2.2]

/-- What stands behind an ampersand is a name that can be told, a semicolon, and the rest. -/
def BeginsReference (cs : List Char) : Prop :=
  ∃ name rest c, cs = name ++ ';' :: rest ∧ '&' ∉ name ∧ ';' ∉ name ∧
    reference? name = some c

theorem BeginsReference.append {cs : List Char} (begins : BeginsReference cs) (rest : List Char) :
    BeginsReference (cs ++ rest) := by
  obtain ⟨name, after, c, shape, ampersand, semicolon, told⟩ := begins
  exact ⟨name, after ++ rest, c, by simp [shape], ampersand, semicolon, told⟩

theorem escapeChar_eq_or_reference (c : Char) :
    (escapeChar c = [c] ∧ c ≠ '&') ∨
      ∃ name, escapeChar c = '&' :: (name ++ [';']) ∧ '&' ∉ name ∧ ';' ∉ name ∧
        reference? name = some c := by
  unfold escapeChar
  split
  case h_1 => exact Or.inr ⟨['l', 't'], rfl, by decide, by decide, rfl⟩
  case h_2 => exact Or.inr ⟨['g', 't'], rfl, by decide, by decide, rfl⟩
  case h_3 => exact Or.inr ⟨['a', 'm', 'p'], rfl, by decide, by decide, rfl⟩
  case h_4 => exact Or.inr ⟨['a', 'p', 'o', 's'], rfl, by decide, by decide, rfl⟩
  case h_5 => exact Or.inr ⟨['q', 'u', 'o', 't'], rfl, by decide, by decide, rfl⟩
  case h_6 => exact Or.inr ⟨['#', '1', '0'], rfl, by decide, by decide, rfl⟩
  case h_7 => exact Or.inr ⟨['#', '1', '3'], rfl, by decide, by decide, rfl⟩
  case h_8 => exact Or.inr ⟨['#', '9'], rfl, by decide, by decide, rfl⟩
  case h_9 amp lf cr tab => exact Or.inl ⟨rfl, by assumption⟩

theorem beginsReference_of_escapeChar {c : Char} {front back : List Char}
    (shape : escapeChar c = front ++ '&' :: back) : BeginsReference back := by
  rcases escapeChar_eq_or_reference c with ⟨plain, other⟩ | ⟨name, written, amp, semi, told⟩
  · have inside : '&' ∈ [c] := by
      rw [← plain, shape]
      simp
    exact absurd (List.mem_singleton.mp inside).symm other
  · rw [written] at shape
    cases front with
    | nil =>
      obtain ⟨-, rfl⟩ := List.cons.inj shape
      exact ⟨name, [], c, rfl, amp, semi, told⟩
    | cons d front =>
      have inside : '&' ∈ name ++ [';'] := by
        rw [(List.cons.inj shape).2]
        simp
      rcases List.mem_append.mp inside with early | late
      · exact absurd early amp
      · exact absurd late (by decide)

theorem beginsReference_of_escape {cs front back : List Char}
    (shape : escape cs = front ++ '&' :: back) : BeginsReference back := by
  induction cs generalizing front with
  | nil => simp [escape] at shape
  | cons c cs ih =>
    have parts : escapeChar c ++ escape cs = front ++ '&' :: back := shape
    rcases List.append_eq_append_iff.mp parts with ⟨later, -, rest⟩ | ⟨tail, here, behind⟩
    · exact ih rest
    · cases tail with
      | nil =>
        have first : escape cs = [] ++ '&' :: back := behind.symm
        exact ih first
      | cons d tail =>
        obtain ⟨rfl, rfl⟩ := List.cons.inj behind
        exact (beginsReference_of_escapeChar here).append _

/-- An escaped value holds nothing that a tag gives a meaning, every ampersand in it begins a
    complete reference, and it is read back as it was: by itself and as the value of an
    attribute. -/
theorem escaping_lossless_and_safe (value : String) :
    escapeInPasses value.toList = escape value.toList ∧
    (∀ c ∈ escape value.toList, c ∉ ['<', '>', '\'', '"', '\n', '\r', '\t']) ∧
    (∀ front back, escape value.toList = front ++ '&' :: back →
      ∃ name rest c, back = name ++ ';' :: rest ∧ '&' ∉ name ∧ ';' ∉ name ∧
        reference? name = some c) ∧
    unescape? (escape value.toList) = some value.toList ∧
    ∀ name, IsName name →
      attributes [] (Attribute.chars ⟨name, value⟩) = .ok [⟨name, value⟩] := by
  refine ⟨escapeInPasses_eq _, codec.plain _, ?_, codec.unescape?_escape _, ?_⟩
  · intro front back shape
    exact beginsReference_of_escape shape
  · intro name named
    have read : attributes [] ([(⟨name, value⟩ : Attribute)].flatMap Attribute.chars) = .ok _ :=
      attributes_flatMap [] (List.forall_mem_singleton.mpr named) (by simp) (by simp)
    simpa using read

example : unescape? (escape "&lt;\n&#10;".toList) = some "&lt;\n&#10;".toList := by decide

end LightShow.Xml
