/-!
Cutting text at a separator: once, at the first place where it stands, or at every place.
-/

namespace LightShow.Text

def cut? (sep : Char) : List Char → Option (List Char × List Char)
  | [] => none
  | c :: rest =>
    if c = sep then some ([], rest)
    else (cut? sep rest).map fun parts => (c :: parts.1, parts.2)

/-- The pieces between the separators; there is always one more than there are separators. -/
def pieces (sep : Char) : List Char → List (List Char)
  | [] => [[]]
  | c :: rest =>
    if c = sep then [] :: pieces sep rest
    else
      match pieces sep rest with
      | [] => [[c]]
      | p :: ps => (c :: p) :: ps

def after? (mark : List Char) : List Char → Option (List Char)
  | [] => if mark = [] then some [] else none
  | c :: rest => if mark.isPrefixOf (c :: rest) then some ((c :: rest).drop mark.length)
      else after? mark rest

def strip? (mark cs : List Char) : Option (List Char) :=
  if mark.isPrefixOf cs then some (cs.drop mark.length) else none

def join (sep : List Char) : List (List Char) → List Char
  | [] => []
  | [p] => p
  | p :: q :: rest => p ++ sep ++ join sep (q :: rest)

theorem cut?_append {sep : Char} {a b : List Char} (h : sep ∉ a) :
    cut? sep (a ++ sep :: b) = some (a, b) := by
  induction a with
  | nil => simp [cut?]
  | cons c rest ih =>
    simp only [List.mem_cons, not_or] at h
    simp [cut?, Ne.symm h.1, ih h.2]

theorem eq_of_cut? {sep : Char} {cs a b : List Char} (h : cut? sep cs = some (a, b)) :
    cs = a ++ sep :: b ∧ sep ∉ a := by
  induction cs generalizing a b with
  | nil => simp [cut?] at h
  | cons c rest ih =>
    by_cases hc : c = sep
    · simp only [cut?, hc, if_true, Option.some.injEq, Prod.mk.injEq] at h
      obtain ⟨rfl, rfl⟩ := h
      simp [hc]
    · simp only [cut?, hc, if_false, Option.map_eq_some_iff, Prod.mk.injEq, Prod.exists] at h
      obtain ⟨a', b', hr, rfl, rfl⟩ := h
      have := ih hr
      simp_all [Ne.symm hc]

theorem pieces_ne_nil (sep : Char) (cs : List Char) : pieces sep cs ≠ [] := by
  cases cs with
  | nil => simp [pieces]
  | cons c rest =>
    simp only [pieces]
    split
    · simp
    · split <;> simp

theorem pieces_of_not_mem {sep : Char} {cs : List Char} (apart : sep ∉ cs) :
    pieces sep cs = [cs] := by
  induction cs with
  | nil => rfl
  | cons c rest ih =>
    simp only [List.mem_cons, not_or] at apart
    simp [pieces, Ne.symm apart.1, ih apart.2]

theorem pieces_append {sep : Char} {a b : List Char} (apart : sep ∉ a) :
    pieces sep (a ++ sep :: b) = a :: pieces sep b := by
  induction a with
  | nil => simp [pieces]
  | cons c rest ih =>
    simp only [List.mem_cons, not_or] at apart
    simp [pieces, Ne.symm apart.1, ih apart.2]

theorem pieces_join {sep : Char} {ps : List (List Char)} (some : ps ≠ [])
    (apart : ∀ p ∈ ps, sep ∉ p) : pieces sep (join [sep] ps) = ps := by
  induction ps with
  | nil => exact absurd rfl some
  | cons p rest ih =>
    obtain ⟨here, later⟩ := List.forall_mem_cons.mp apart
    cases rest with
    | nil => exact pieces_of_not_mem here
    | cons q rest =>
      have joined : join [sep] (p :: q :: rest) = p ++ sep :: join [sep] (q :: rest) := by
        simp [join]
      rw [joined, pieces_append here, ih (List.cons_ne_nil q rest) later]

theorem not_mem_of_mem_pieces {sep : Char} {cs p : List Char} (member : p ∈ pieces sep cs) :
    sep ∉ p := by
  induction cs generalizing p with
  | nil =>
    simp only [pieces, List.mem_singleton] at member
    subst member
    exact List.not_mem_nil
  | cons c rest ih =>
    unfold pieces at member
    split at member
    · rcases List.mem_cons.mp member with first | later
      · subst first
        exact List.not_mem_nil
      · exact ih later
    · rename_i other
      cases shape : pieces sep rest with
      | nil => exact absurd shape (pieces_ne_nil sep rest)
      | cons q qs =>
        rw [shape] at member ih
        rcases List.mem_cons.mp member with first | later
        · subst first
          rw [List.mem_cons, not_or]
          exact ⟨fun same => other same.symm, ih List.mem_cons_self⟩
        · exact ih (List.mem_cons_of_mem q later)

end LightShow.Text
