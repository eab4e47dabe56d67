import LightShow.Text.Range

/-!
Blank characters are those with the Unicode property White_Space. The zero width space
and the byte order mark are not among them.
-/

namespace LightShow.Text

def blankRanges : List (Nat × Nat) :=
  [(0x9, 0xD), (0x20, 0x20), (0x85, 0x85), (0xA0, 0xA0), (0x1680, 0x1680), (0x2000, 0x200A),
    (0x2028, 0x2029), (0x202F, 0x202F), (0x205F, 0x205F), (0x3000, 0x3000)]

def isBlank (c : Char) : Bool := inRanges blankRanges c

def trimStart (cs : List Char) : List Char := cs.dropWhile isBlank

def trimEnd : List Char → List Char
  | [] => []
  | c :: rest =>
    match trimEnd rest with
    | [] => if isBlank c then [] else [c]
    | kept => c :: kept

def trim (cs : List Char) : List Char := trimEnd (trimStart cs)

theorem trimEnd_eq_self_of_last {cs : List Char} {c : Char} (h : isBlank c = false) :
    trimEnd (cs ++ [c]) = cs ++ [c] := by
  induction cs with
  | nil => simp [trimEnd, h]
  | cons d rest ih =>
    simp only [List.cons_append, trimEnd, ih]
    cases hr : rest ++ [c] with
    | nil => simp at hr
    | cons a b => rfl

def Trimmed (cs : List Char) : Prop :=
  (∀ c ∈ cs.head?, isBlank c = false) ∧ ∀ c ∈ cs.getLast?, isBlank c = false

theorem Trimmed.trim_eq {cs : List Char} (trimmed : Trimmed cs) : trim cs = cs := by
  have start : trimStart cs = cs := by
    cases cs with
    | nil => rfl
    | cons c rest => simp [trimStart, trimmed.1 c rfl]
  rw [trim, start]
  rcases List.eq_nil_or_concat cs with rfl | ⟨body, c, rfl⟩
  · rfl
  · rw [List.concat_eq_append] at trimmed ⊢
    exact trimEnd_eq_self_of_last (trimmed.2 c List.getLast?_concat)

theorem trim_eq_self {cs : List Char} (h : ∀ c ∈ cs, isBlank c = false) : trim cs = cs :=
  Trimmed.trim_eq ⟨fun c first => h c (List.mem_of_mem_head? first),
    fun c last => h c (List.mem_of_mem_getLast? last)⟩

theorem Trimmed.append {a b : List Char} (front : Trimmed a) (back : Trimmed b) (some : a ≠ [])
    (some' : b ≠ []) : Trimmed (a ++ b) := by
  constructor
  · intro c first
    obtain ⟨d, rest, rfl⟩ := List.exists_cons_of_ne_nil some
    exact front.1 c first
  · intro c last
    obtain ⟨body, d, rfl⟩ := (List.eq_nil_or_concat b).resolve_left some'
    rw [List.concat_eq_append, ← List.append_assoc, List.getLast?_concat] at last
    rw [List.concat_eq_append] at back
    exact back.2 c (List.getLast?_concat.trans last)

theorem head?_of_trimEnd {cs : List Char} {c : Char} (first : c ∈ (trimEnd cs).head?) :
    c ∈ cs.head? := by
  cases cs with
  | nil => exact first
  | cons d rest =>
    unfold trimEnd at first
    split at first
    · split at first
      · cases first
      · exact first
    · exact first

theorem last_trimEnd {cs : List Char} {c : Char} (last : c ∈ (trimEnd cs).getLast?) :
    isBlank c = false := by
  induction cs with
  | nil => cases last
  | cons d rest ih =>
    unfold trimEnd at last
    split at last
    · split at last
      · cases last
      · rename_i dark
        cases last
        exact Bool.eq_false_iff.mpr dark
    · rename_i kept
      rw [List.getLast?_cons_of_ne_nil kept] at last
      exact ih last

theorem trimmed_trim (cs : List Char) : Trimmed (trim cs) := by
  constructor
  · intro c first
    have start := head?_of_trimEnd first
    have dark := List.head?_dropWhile_not isBlank cs
    rw [trimStart] at start
    rw [Option.mem_def.mp start] at dark
    exact dark
  · intro c last
    exact last_trimEnd last

end LightShow.Text
