import LightShow.Proofs.Markup

/-!
A file that was written tag by tag is read tag by tag, however it is indented.
-/

namespace LightShow.Xml

open Text

section

variable {names : List String} {cs behind rest text : List Char}

theorem scanFrom_nil (names : List String) : scanFrom names [] = ⟨[], none⟩ := by
  rw [scanFrom]
  split <;> rename_i found <;> cases found
  rfl

theorem scanFrom_passed (begins : skipText false cs = some ('<' :: behind))
    (found : item? behind = some (.passed, rest)) : scanFrom names cs = scanFrom names rest := by
  rw [scanFrom]
  grind

theorem scanFrom_opened {name : String} {as : List Attribute} {closed : Bool}
    (begins : skipText false cs = some ('<' :: behind))
    (found : item? behind = some (.opened text, rest))
    (told : tag text = .ok (name, as, closed)) :
    scanFrom names cs = if closed
      then ⟨.empty name as :: (scanFrom names rest).events, (scanFrom names rest).fault⟩
      else ⟨.start name as :: (scanFrom (name :: names) rest).events,
        (scanFrom (name :: names) rest).fault⟩ := by
  rw [scanFrom]
  grind

theorem scanFrom_closed {name : String} (begins : skipText false cs = some ('<' :: behind))
    (found : item? behind = some (.closed text, rest)) (same : closingName text = name) :
    scanFrom (name :: names) cs =
      ⟨.close name :: (scanFrom names rest).events, (scanFrom names rest).fault⟩ := by
  rw [scanFrom]
  grind

theorem skipText_of_forall {blank : List Char} (blanks : ∀ c ∈ blank, c ≠ '<' ∧ c ≠ '&')
    (cs : List Char) : skipText false (blank ++ cs) = skipText false cs := by
  induction blank with
  | nil => rfl
  | cons c blank ih =>
    obtain ⟨here, later⟩ := List.forall_mem_cons.mp blanks
    simp [skipText, here.1, here.2, ih later]

theorem skipText_lineBreak (width : Option Nat) (depth : Nat) (behind : List Char) :
    skipText false (lineBreak width depth ++ '<' :: behind) = some ('<' :: behind) := by
  rw [skipText_of_forall, skipText]
  · simp
  · intro c member
    cases width with
    | none => cases member
    | some w =>
      rcases List.mem_cons.mp member with rfl | blank
      · decide
      · obtain ⟨-, rfl⟩ := List.mem_replicate.mp blank
        decide

end

/-- Tags with fit names, in which every end tag belongs to the element that is open, those in
    `names` being open at the beginning. -/
inductive Nested : List String → List Event → Prop where
  | done : Nested [] []
  | start {name : String} {as : List Attribute} {names : List String} {rest : List Event}
      (tidy : Tidy name (as.map Attribute.name)) (later : Nested (name :: names) rest) :
      Nested names (.start name as :: rest)
  | empty {name : String} {as : List Attribute} {names : List String} {rest : List Event}
      (tidy : Tidy name (as.map Attribute.name)) (later : Nested names rest) :
      Nested names (.empty name as :: rest)
  | close {name : String} {names : List String} {rest : List Event} (named : IsName name)
      (later : Nested names rest) : Nested (name :: names) (.close name :: rest)

theorem scanFrom_renderFrom {names : List String} {events : List Event}
    (nested : Nested names events) (width : Option Nat) (depth : Nat) :
    scanFrom names (renderFrom width depth events) = ⟨events, none⟩ := by
  induction nested generalizing depth with
  | done => exact scanFrom_nil []
  | @start name as names rest tidy later ih =>
    have shape : renderFrom width depth (.start name as :: rest) =
        lineBreak width depth ++ '<' ::
          (content name as ++ [] ++ '>' :: renderFrom width (depth + 1) rest) := by
      simp [renderFrom, opening, content]
    have found := item?_opened tidy [] (by simpa using passes_content tidy)
      (renderFrom width (depth + 1) rest)
    have told := tag_of_splitSlash tidy (splitSlash_content tidy)
    rw [List.append_nil] at found
    rw [shape, List.append_nil,
      scanFrom_opened (skipText_lineBreak width depth _) found told, ih]
    rfl
  | @empty name as names rest tidy later ih =>
    have shape : renderFrom width depth (.empty name as :: rest) =
        lineBreak width depth ++ '<' ::
          (content name as ++ ['/'] ++ '>' :: renderFrom width depth rest) := by
      simp [renderFrom, opening, content]
    have slash : Passes ['/'] := passes_char (by decide) (by decide)
    have found := item?_opened tidy _ ((passes_content tidy).append slash)
      (renderFrom width depth rest)
    have told := tag_of_splitSlash tidy (splitSlash_slash (content name as))
    rw [shape, scanFrom_opened (skipText_lineBreak width depth _) found told, ih]
    rfl
  | @close name names rest named later ih =>
    have shape : renderFrom width depth (.close name :: rest) =
        lineBreak width (depth - 1) ++ '<' ::
          ('/' :: name.toList ++ '>' :: renderFrom width (depth - 1) rest) := by
      simp [renderFrom]
    rw [shape, scanFrom_closed (skipText_lineBreak width (depth - 1) _) (item?_closed named _)
      (closingName_toList named), ih]

theorem after?_append {c : Char} {cs : List Char} (absent : c ∉ cs) (mark rest : List Char) :
    after? (c :: mark) (cs ++ (c :: mark ++ rest)) = some rest := by
  induction cs with
  | nil => simp [after?]
  | cons d cs ih =>
    simp only [List.mem_cons, not_or] at absent
    have elsewhere : ¬ (c :: mark).isPrefixOf (d :: (cs ++ (c :: mark ++ rest))) := by
      simp [absent.1]
    rw [List.cons_append, after?, if_neg elsewhere, ih absent.2]

def declarationBody : List Char := "ml version=\"1.0\" encoding=\"UTF-8\"".toList

theorem declaration_eq :
    declaration = '<' :: '?' :: 'x' :: declarationBody ++ ['?', '>'] := by
  decide +kernel

theorem scanFrom_declaration (cs : List Char) :
    scanFrom [] (declaration ++ cs) = scanFrom [] cs := by
  have absent : '?' ∉ 'x' :: declarationBody := by decide +kernel
  have ended := after?_append absent ['>'] cs
  have shape : declaration ++ cs =
      '<' :: ('?' :: 'x' :: (declarationBody ++ ('?' :: ['>'] ++ cs))) := by
    simp [declaration_eq]
  have found : item? ('?' :: 'x' :: (declarationBody ++ ('?' :: ['>'] ++ cs))) =
      some (.passed, cs) := by
    have instruction : ∀ rest, item? ('?' :: 'x' :: rest) =
        (after? ['?', '>'] ('x' :: rest)).map (.passed, ·) := fun _ => rfl
    rw [List.cons_append] at ended
    rw [instruction, ended, Option.map_some]
  rw [shape]
  exact scanFrom_passed (by simp [skipText]) found

theorem scan_render {events : List Event} (nested : Nested [] events) (width : Option Nat) :
    scan (render width events) = ⟨events, none⟩ := by
  have begins : (render width events).toList =
      '<' :: ('?' :: 'x' :: declarationBody ++ ['?', '>'] ++ renderFrom width 0 events) := by
    simp [render, declaration_eq]
  have read : scanFrom [] (render width events).toList = ⟨events, none⟩ := by
    rw [render, String.toList_ofList, scanFrom_declaration, scanFrom_renderFrom nested]
  rw [begins] at read
  unfold scan
  rw [begins]
  exact read

/-- What show files ask of the markup they are written in: escaped values hold nothing that a tag
    gives a meaning, they are read back, and so are the tags of a file. -/
structure Codec where
  escape : List Char → List Char
  unescape? : List Char → Option (List Char)
  render : Option Nat → List Event → String
  scan : String → Scan
  plain : ∀ cs, ∀ c ∈ escape cs, ¬ Special c
  unescape?_escape : ∀ cs, unescape? (escape cs) = some cs
  scan_render :
    ∀ events, Nested [] events → ∀ width, scan (render width events) = ⟨events, none⟩

def codec : Codec where
  escape := escape
  unescape? := unescape?
  render := render
  scan := scan
  plain _ _ := not_special_of_mem_escape
  unescape?_escape := unescape?_escape
  scan_render _ := scan_render

end LightShow.Xml
