import LightShow.Text.Split
import LightShow.Xml.Escape
import LightShow.Xml.Event

/-!
The attributes of a tag: names with quoted values. No name may come twice.
-/

namespace LightShow.Xml

open Text

def isSpace (c : Char) : Bool := c = ' ' || c = '\t' || c = '\r' || c = '\n'

def skipSpace (cs : List Char) : List Char := cs.dropWhile isSpace

def isQuote (c : Char) : Bool := c = '"' || c = '\''

theorem length_skipSpace_le (cs : List Char) : (skipSpace cs).length ≤ cs.length :=
  (List.dropWhile_suffix isSpace).length_le

theorem length_lt_of_cut? {sep : Char} {cs a b : List Char} (h : cut? sep cs = some (a, b)) :
    b.length < cs.length := by
  obtain ⟨rfl, _⟩ := eq_of_cut? h
  simp
  omega

/-- A name, and what follows the equals sign behind it. The name is one character and all
    up to the next equals sign or space. -/
def attributeName? : List Char → Option (List Char × List Char)
  | [] => none
  | c :: rest =>
    let tail := rest.takeWhile fun d => d ≠ '=' && !isSpace d
    match skipSpace (rest.dropWhile fun d => d ≠ '=' && !isSpace d) with
    | '=' :: after => some (c :: tail, after)
    | _ => none

def quoted? (cs : List Char) : Option (List Char × List Char) :=
  match skipSpace cs with
  | q :: rest => if isQuote q then cut? q rest else none
  | [] => none

theorem length_attributeName? {cs name after : List Char}
    (h : attributeName? cs = some (name, after)) : after.length < cs.length := by
  cases cs with
  | nil => simp [attributeName?] at h
  | cons c rest =>
    simp only [attributeName?] at h
    split at h
    · rename_i tail found
      simp only [Option.some.injEq, Prod.mk.injEq] at h
      obtain ⟨_, rfl⟩ := h
      have skipped := length_skipSpace_le (rest.dropWhile fun d => d ≠ '=' && !isSpace d)
      have dropped : (rest.dropWhile fun d => d ≠ '=' && !isSpace d).length ≤ rest.length :=
        (List.dropWhile_suffix _).length_le
      rw [found] at skipped
      simp only [List.length_cons] at skipped ⊢
      omega
    · simp at h

theorem length_quoted? {cs raw after : List Char} (h : quoted? cs = some (raw, after)) :
    after.length < cs.length := by
  unfold quoted? at h
  have skipped := length_skipSpace_le cs
  split at h
  · rename_i q rest found
    split at h
    · have := length_lt_of_cut? h
      rw [found] at skipped
      simp only [List.length_cons] at skipped
      omega
    · simp at h
  · simp at h

def attributes (seen : List (List Char)) (cs : List Char) : Except Fault (List Attribute) :=
  match skipSpace cs with
  | [] => .ok []
  | _ :: _ =>
    match hn : attributeName? (skipSpace cs) with
    | none => .error .attributeForm
    | some (name, after) =>
      have := length_attributeName? hn
      if name ∈ seen then .error .attributeForm
      else
        match hq : quoted? after with
        | none => .error .attributeForm
        | some (raw, rest) =>
          have := length_quoted? hq
          match unescape? raw with
          | none => .error .reference
          | some value =>
            match attributes (name :: seen) rest with
            | .error f => .error f
            | .ok others => .ok (⟨String.ofList name, String.ofList value⟩ :: others)
termination_by cs.length
decreasing_by
  have skipped := length_skipSpace_le cs
  omega

end LightShow.Xml
