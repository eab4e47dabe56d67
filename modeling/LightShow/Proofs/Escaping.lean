import LightShow.Xml.Render

/-!
Escaped attribute values: nothing in them ends the value or the tag, and they are read back
as they were.
-/

namespace LightShow.Xml

/-- Characters that a tag gives a meaning, and line breaks and tabs. -/
def Special (c : Char) : Prop := c ∈ ['<', '>', '\'', '"', '\n', '\r', '\t']

instance (c : Char) : Decidable (Special c) := inferInstanceAs (Decidable (c ∈ _))

theorem not_special_of_mem_escapeChar {c d : Char} (member : d ∈ escapeChar c) :
    ¬ Special d := by
  unfold escapeChar at member
  split at member
  case h_9 lt gt amp apos quot lf cr tab =>
    obtain rfl := List.mem_singleton.mp member
    simp only [Special, List.mem_cons, List.not_mem_nil, or_false, not_or]
    exact ⟨lt, gt, apos, quot, lf, cr, tab⟩
  all_goals
    have plain := List.all_eq_true.mp
      (by decide : List.all _ (fun e => decide (¬ Special e)) = true) d member
    exact of_decide_eq_true plain

theorem not_special_of_mem_escape {cs : List Char} {d : Char} (member : d ∈ escape cs) :
    ¬ Special d := by
  obtain ⟨c, -, inside⟩ := List.mem_flatMap.mp member
  exact not_special_of_mem_escapeChar inside

theorem unescapeFrom_escapeChar (c : Char) (rest : List Char) :
    unescapeFrom none (escapeChar c ++ rest) = (unescapeFrom none rest).map (c :: ·) := by
  unfold escapeChar
  split
  case h_9 lt gt amp apos quot lf cr tab =>
    have plain : c ≠ '&' := amp
    simp [unescapeFrom, plain]
  all_goals
    rfl

theorem unescape?_escape (cs : List Char) : unescape? (escape cs) = some cs := by
  unfold unescape? escape
  induction cs with
  | nil => rfl
  | cons c cs ih => rw [List.flatMap_cons, unescapeFrom_escapeChar, ih, Option.map_some]

end LightShow.Xml
