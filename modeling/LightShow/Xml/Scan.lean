import LightShow.Text.Blank
import LightShow.Xml.Attribute

/-!
Reading the tags of a file. Start and end tags must match; a file may stop while elements
are open. What stands between tags is passed over, but an ampersand there must be followed
by a semicolon.
-/

namespace LightShow.Xml

open Text

/-- Passes over text. With `waiting`, an ampersand still waits for its semicolon. -/
def skipText : Bool → List Char → Option (List Char)
  | waiting, [] => if waiting then none else some []
  | waiting, c :: rest =>
    if c = '<' then if waiting then none else some (c :: rest)
    else if c = '&' then if waiting then none else skipText true rest
    else skipText (waiting && c != ';') rest

def tagEnd? : Option Char → List Char → Option (List Char × List Char)
  | _, [] => none
  | some q, c :: rest =>
    (tagEnd? (if c = q then none else some q) rest).map fun p => (c :: p.1, p.2)
  | none, c :: rest =>
    if c = '>' then some ([], rest)
    else (tagEnd? (if isQuote c then some c else none) rest).map fun p => (c :: p.1, p.2)

/-- What stands before the closing bracket that no bracket inside is paired with. -/
def balancedEnd? : Nat → List Char → Option (List Char × List Char)
  | _, [] => none
  | 0, '>' :: rest => some ([], rest)
  | depth + 1, '>' :: rest => (balancedEnd? depth rest).map fun p => ('>' :: p.1, p.2)
  | depth, '<' :: rest => (balancedEnd? (depth + 1) rest).map fun p => ('<' :: p.1, p.2)
  | depth, c :: rest => (balancedEnd? depth rest).map fun p => (c :: p.1, p.2)

inductive Item where
  | passed
  | opened (content : List Char)
  | closed (content : List Char)

def doctypeWord : List Char := ['D', 'O', 'C', 'T', 'Y', 'P', 'E']

def doctype? (cs : List Char) : Option (List Char) :=
  match balancedEnd? 0 cs with
  | none => none
  | some (content, rest) =>
    if (content.take 7).map Char.toUpper = doctypeWord ∧ (content.drop 7).any (!isSpace ·) then
      some rest
    else none

def item? : List Char → Option (Item × List Char)
  | '!' :: '[' :: rest =>
    ((strip? ['C', 'D', 'A', 'T', 'A', '['] rest).bind (after? [']', ']', '>'])).map (.passed, ·)
  | '!' :: '-' :: '-' :: rest => (after? ['-', '-', '>'] rest).map (.passed, ·)
  | '!' :: 'D' :: rest => (doctype? ('D' :: rest)).map (.passed, ·)
  | '!' :: 'd' :: rest => (doctype? ('d' :: rest)).map (.passed, ·)
  | '!' :: _ => none
  | '?' :: '>' :: _ => none
  | '?' :: rest => (after? ['?', '>'] rest).map (.passed, ·)
  | '/' :: rest => (tagEnd? none rest).map fun p => (.closed p.1, p.2)
  | cs => (tagEnd? none cs).map fun p => (.opened p.1, p.2)

def splitSlash (content : List Char) : List Char × Bool :=
  if content.getLast? = some '/' then (content.dropLast, true) else (content, false)

def tag (content : List Char) : Except Fault (String × List Attribute × Bool) :=
  let (inner, closed) := splitSlash content
  let name := inner.takeWhile (!isSpace ·)
  (attributes [] (inner.dropWhile (!isSpace ·))).map fun as => (String.ofList name, as, closed)

/-- The name in an end tag. Spaces behind it do not count, but nothing else than spaces is a
    name as it stands. -/
def closingName (content : List Char) : String :=
  if content.all isSpace then String.ofList content
  else String.ofList (content.reverse.dropWhile isSpace).reverse

theorem length_skipText {waiting : Bool} {cs rest : List Char}
    (h : skipText waiting cs = some rest) : rest.length ≤ cs.length := by
  induction cs generalizing waiting with
  | nil =>
    cases waiting <;> simp_all [skipText]
  | cons c cs ih =>
    simp only [skipText] at h
    split at h
    · split at h
      · simp at h
      · simp only [Option.some.injEq] at h
        subst h
        simp
    · split at h
      · split at h
        · simp at h
        · have := ih h
          simp only [List.length_cons]
          omega
      · have := ih h
        simp only [List.length_cons]
        omega

theorem length_after? {mark cs rest : List Char} (h : after? mark cs = some rest) :
    rest.length ≤ cs.length := by
  induction cs with
  | nil =>
    simp only [after?] at h
    split at h <;> simp_all
  | cons c cs ih =>
    simp only [after?] at h
    split at h
    · simp only [Option.some.injEq] at h
      subst h
      simp
    · have := ih h
      simp only [List.length_cons]
      omega

theorem length_tagEnd? {quote : Option Char} {cs content rest : List Char}
    (h : tagEnd? quote cs = some (content, rest)) : rest.length < cs.length := by
  induction cs generalizing quote content with
  | nil => cases quote <;> simp [tagEnd?] at h
  | cons c cs ih =>
    cases quote with
    | some q =>
      simp only [tagEnd?, Option.map_eq_some_iff, Prod.mk.injEq, Prod.exists] at h
      obtain ⟨a, b, inner, _, rfl⟩ := h
      have := ih inner
      simp only [List.length_cons]
      omega
    | none =>
      simp only [tagEnd?] at h
      split at h
      · simp only [Option.some.injEq, Prod.mk.injEq] at h
        obtain ⟨_, rfl⟩ := h
        simp
      · simp only [Option.map_eq_some_iff, Prod.mk.injEq, Prod.exists] at h
        obtain ⟨a, b, inner, _, rfl⟩ := h
        have := ih inner
        simp only [List.length_cons]
        omega

theorem length_balancedEnd? {depth : Nat} {cs content rest : List Char}
    (h : balancedEnd? depth cs = some (content, rest)) : rest.length < cs.length := by
  fun_induction balancedEnd? depth cs generalizing content
  case case1 => simp at h
  case case2 =>
    simp only [Option.some.injEq, Prod.mk.injEq] at h
    obtain ⟨_, rfl⟩ := h
    simp
  all_goals
    rename_i ih
    simp only [Option.map_eq_some_iff, Prod.mk.injEq, Prod.exists] at h
    obtain ⟨a, b, inner, _, rfl⟩ := h
    have := ih inner
    simp only [List.length_cons]
    omega

theorem length_doctype? {cs rest : List Char} (h : doctype? cs = some rest) :
    rest.length ≤ cs.length := by
  unfold doctype? at h
  split at h
  · simp at h
  · rename_i content tail found
    split at h
    · simp only [Option.some.injEq] at h
      subst h
      exact Nat.le_of_lt (length_balancedEnd? found)
    · simp at h

theorem length_strip? {mark cs rest : List Char} (h : strip? mark cs = some rest) :
    rest.length ≤ cs.length := by
  unfold strip? at h
  split at h
  · simp only [Option.some.injEq] at h
    subst h
    simp
  · simp at h

theorem length_item? {cs rest : List Char} {i : Item} (h : item? cs = some (i, rest)) :
    rest.length ≤ cs.length := by
  unfold item? at h
  split at h
  case h_1 =>
    simp only [Option.map_eq_some_iff, Option.bind_eq_some_iff, Prod.mk.injEq] at h
    obtain ⟨a, ⟨b, stripped, found⟩, _, rfl⟩ := h
    have before := length_strip? stripped
    have behind := length_after? found
    simp only [List.length_cons]
    omega
  case h_5 => simp at h
  case h_6 => simp at h
  case h_8 =>
    simp only [Option.map_eq_some_iff, Prod.mk.injEq, Prod.exists] at h
    obtain ⟨a, b, found, _, rfl⟩ := h
    have behind := length_tagEnd? found
    simp only [List.length_cons]
    omega
  case h_9 =>
    simp only [Option.map_eq_some_iff, Prod.mk.injEq, Prod.exists] at h
    obtain ⟨a, b, found, _, rfl⟩ := h
    exact Nat.le_of_lt (length_tagEnd? found)
  case h_3 | h_4 =>
    simp only [Option.map_eq_some_iff, Prod.mk.injEq] at h
    obtain ⟨a, found, _, rfl⟩ := h
    have behind := length_doctype? found
    simp only [List.length_cons] at *
    omega
  all_goals
    simp only [Option.map_eq_some_iff, Prod.mk.injEq] at h
    obtain ⟨a, found, _, rfl⟩ := h
    have behind := length_after? found
    simp only [List.length_cons]
    omega

def scanFrom (names : List String) (cs : List Char) : Scan :=
  match ht : skipText false cs with
  | none => ⟨[], some .markup⟩
  | some [] => ⟨[], none⟩
  | some (_ :: behind) =>
    have : behind.length + 1 ≤ cs.length := length_skipText ht
    match hi : item? behind with
    | none => ⟨[], some .markup⟩
    | some (.passed, rest) =>
      have := length_item? hi
      scanFrom names rest
    | some (.closed content, rest) =>
      have := length_item? hi
      match names with
      | [] => ⟨[], some .markup⟩
      | name :: outer =>
        if closingName content = name then
          let later := scanFrom outer rest
          ⟨.close name :: later.events, later.fault⟩
        else ⟨[], some .markup⟩
    | some (.opened content, rest) =>
      have := length_item? hi
      match tag content with
      | .error fault => ⟨[], some fault⟩
      | .ok (name, attributes, closed) =>
        if closed then
          let later := scanFrom names rest
          ⟨.empty name attributes :: later.events, later.fault⟩
        else
          let later := scanFrom (name :: names) rest
          ⟨.start name attributes :: later.events, later.fault⟩
termination_by cs.length
decreasing_by
  all_goals omega

/-- The tags of a file. A byte order mark at its beginning does not count. -/
def scan (text : String) : Scan :=
  match text.toList with
  | '\uFEFF' :: rest => scanFrom [] rest
  | cs => scanFrom [] cs

end LightShow.Xml
