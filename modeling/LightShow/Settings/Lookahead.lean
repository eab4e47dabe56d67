import LightShow.Settings.Token

/-!
A look ahead through the items of a group, which tells whether a second one follows the first.
It goes by characters. What texts, characters and comments hold does not count; but a comment
right behind a text or a character is not seen as one, and a byte in single quotes is looked at
like any other sign.
-/

namespace LightShow.Settings

def gapLength? : List Char → Option Nat
  | [] => some 0
  | c :: rest =>
    if isBlank c then (gapLength? rest).map (· + 1)
    else if c = '/' then
      match commentLength? rest with
      | some k => (gapLength? (rest.drop k)).map (· + k + 1)
      | none => none
    else some 0
termination_by cs => cs.length
decreasing_by
  all_goals
    simp only [List.length_cons, List.length_drop]
    omega

def leadingCharacter : List Char → Nat
  | '\'' :: rest => ((characterLength? rest).map (· + 1)).getD 0
  | _ => 0

def Quoted.span? {α : Type} (mark : Nat) : Quoted α → Option Nat
  | .closed _ length => some (mark + length)
  | .malformed => some 0
  | .unclosed => none

def rawSpan? (mark : Nat) (cs : List Char) : Option Nat :=
  if startsRaw cs then (raw? cs).map fun (_, k) => mark + k else some 0

def leadingText? : List Char → Option Nat
  | '"' :: rest => (quoted textChar? rest).span? 1
  | 'r' :: rest => rawSpan? 1 rest
  | _ => some 0

def leadingBytes? : List Char → Option Nat
  | 'b' :: '"' :: rest => (quoted piece? rest).span? 2
  | 'b' :: 'r' :: rest => rawSpan? 2 rest
  | _ => some 0

def skipped? (cs : List Char) : Option Nat := do
  let gap ← gapLength? cs
  let character := gap + leadingCharacter (cs.drop gap)
  let text := character + (← leadingText? (cs.drop character))
  return text + (← leadingBytes? (cs.drop text))

/-- Whether a second item follows in the group that the text stands in, once `depth` inner
    groups are closed. A comma in front of a closing bracket begins no item. -/
def hasSecond? (depth : Nat) (cs : List Char) : Option Bool :=
  match skipped? cs with
  | none => none
  | some k =>
    match h : cs.drop k with
    | [] => none
    | c :: rest =>
      have shorter : rest.length < cs.length := by
        have := congrArg List.length h
        simp only [List.length_cons, List.length_drop] at this
        omega
      if c = '(' ∨ c = '[' ∨ c = '\x7b' then hasSecond? (depth + 1) rest
      else if c = ')' ∨ c = ']' ∨ c = '\x7d' then
        match depth with
        | 0 => some false
        | depth + 1 => hasSecond? depth rest
      else if c = ',' ∧ depth = 0 then
        (gapLength? rest).map fun k => (rest.drop k).head? ≠ some ')'
      else hasSecond? depth rest
termination_by cs.length

end LightShow.Settings
