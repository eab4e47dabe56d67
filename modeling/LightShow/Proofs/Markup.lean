import LightShow.Proofs.Escaping
import LightShow.Xml.Scan

/-!
Tags as they are written are read back: the bracket that ends a tag, its name, and its
attributes with whatever values.
-/

namespace LightShow.Xml

open Text

def isNameChar (c : Char) : Bool := c.isAlpha || c = '_' || c = ':'

def IsName (name : String) : Prop :=
  name.toList ≠ [] ∧ ∀ c ∈ name.toList, isNameChar c = true

instance (name : String) : Decidable (IsName name) :=
  decidable_of_iff (name.toList ≠ [] ∧ name.toList.all isNameChar = true) (by simp [IsName])

theorem ne_of_isNameChar {c d : Char} (inName : isNameChar c = true)
    (other : isNameChar d = false) : c ≠ d := by
  rintro rfl
  rw [inName] at other
  cases other

theorem not_isSpace_of_isNameChar {c : Char} (inName : isNameChar c = true) :
    isSpace c = false := by
  have blank : c ≠ ' ' := ne_of_isNameChar inName (by decide)
  have tab : c ≠ '\t' := ne_of_isNameChar inName (by decide)
  have cr : c ≠ '\r' := ne_of_isNameChar inName (by decide)
  have lf : c ≠ '\n' := ne_of_isNameChar inName (by decide)
  simp [isSpace, blank, tab, cr, lf]

theorem IsName.exists_cons {name : String} (named : IsName name) :
    ∃ c tail, name.toList = c :: tail ∧ isNameChar c = true ∧
      ∀ d ∈ tail, isNameChar d = true := by
  obtain ⟨some, chars⟩ := named
  cases shape : name.toList with
  | nil => exact absurd shape some
  | cons c tail =>
    rw [shape] at chars
    exact ⟨c, tail, rfl, chars c List.mem_cons_self,
      fun d member => chars d (List.mem_cons_of_mem c member)⟩

/-- The end of a tag is looked for behind this text as it is behind no text. -/
def Passes (cs : List Char) : Prop :=
  ∀ rest, tagEnd? none (cs ++ rest) = (tagEnd? none rest).map fun p => (cs ++ p.1, p.2)

theorem Passes.append {cs ds : List Char} (first : Passes cs) (later : Passes ds) :
    Passes (cs ++ ds) := by
  intro rest
  rw [List.append_assoc, first, later, Option.map_map]
  congr 1
  funext p
  simp

theorem passes_nil : Passes [] := by
  intro rest
  simp

theorem passes_char {c : Char} (open_ : c ≠ '>') (unquoted : isQuote c = false) : Passes [c] := by
  intro rest
  simp [tagEnd?, open_, unquoted]

theorem passes_name {cs : List Char} (chars : ∀ c ∈ cs, isNameChar c = true) : Passes cs := by
  induction cs with
  | nil => exact passes_nil
  | cons c cs ih =>
    obtain ⟨inName, others⟩ := List.forall_mem_cons.mp chars
    have single : c ≠ '\'' := ne_of_isNameChar inName (by decide)
    have double : c ≠ '"' := ne_of_isNameChar inName (by decide)
    have first : Passes [c] :=
      passes_char (ne_of_isNameChar inName (by decide)) (by simp [isQuote, single, double])
    exact first.append (ih others)

theorem passes_quoted {cs : List Char} (unquoted : '"' ∉ cs) : Passes ('"' :: cs ++ ['"']) := by
  have inside : ∀ rest, tagEnd? (some '"') (cs ++ '"' :: rest) =
      (tagEnd? none rest).map fun p => (cs ++ '"' :: p.1, p.2) := by
    intro rest
    induction cs with
    | nil => simp [tagEnd?]
    | cons c cs ih =>
      simp only [List.mem_cons, not_or] at unquoted
      simp only [List.cons_append, tagEnd?, if_neg (Ne.symm unquoted.1), ih unquoted.2,
        Option.map_map]
      rfl
  intro rest
  have start : isQuote '"' = true := by decide
  simp only [List.cons_append, List.append_assoc, tagEnd?, start, if_true, List.nil_append, inside,
    Option.map_map]
  rfl

theorem tagEnd?_of_passes {cs : List Char} (passes : Passes cs) (rest : List Char) :
    tagEnd? none (cs ++ '>' :: rest) = some (cs, rest) := by
  rw [passes]
  simp [tagEnd?]

namespace Attribute

variable {a : Attribute}

theorem passes (named : IsName a.name) : Passes a.chars := by
  have blank : Passes [' '] := passes_char (by decide) (by decide)
  have equals : Passes ['='] := passes_char (by decide) (by decide)
  have value : Passes ('"' :: escape a.value.toList ++ ['"']) := by
    refine passes_quoted fun inside => not_special_of_mem_escape inside (by decide)
  have shape : a.chars = [' '] ++ (a.name.toList ++ (['='] ++
      ('"' :: escape a.value.toList ++ ['"']))) := by
    simp [chars]
  rw [shape]
  exact blank.append ((passes_name named.2).append (equals.append value))

end Attribute

theorem skipSpace_of_head {c : Char} (solid : isSpace c = false) (cs : List Char) :
    skipSpace (c :: cs) = c :: cs := by
  simp [skipSpace, solid]

theorem attributeName?_eq {name : String} (named : IsName name) (rest : List Char) :
    attributeName? (name.toList ++ '=' :: rest) = some (name.toList, rest) := by
  obtain ⟨c, tail, shape, -, others⟩ := named.exists_cons
  have inside : ∀ d ∈ tail, (d ≠ '=' && !isSpace d) = true := by
    intro d member
    have other : d ≠ '=' := ne_of_isNameChar (others d member) (by decide)
    simp [other, not_isSpace_of_isNameChar (others d member)]
  have stop : (decide ('=' ≠ '=') && !isSpace '=') = false := by decide
  rw [shape, List.cons_append, attributeName?, List.takeWhile_append_of_pos inside,
    List.dropWhile_append_of_pos inside, List.takeWhile_cons_of_neg (by simp),
    List.dropWhile_cons_of_neg (by simp), skipSpace_of_head (by decide)]
  simp

theorem quoted?_eq {cs : List Char} (unquoted : '"' ∉ cs) (rest : List Char) :
    quoted? ('"' :: cs ++ '"' :: rest) = some (cs, rest) := by
  have start : isQuote '"' = true := by decide
  rw [quoted?, List.cons_append, skipSpace_of_head (by decide)]
  simp [start, cut?_append unquoted]

theorem attributes_of_parts {seen : List (List Char)} {cs name after raw rest value : List Char}
    {c : Char} {tail : List Char} (begins : skipSpace cs = c :: tail)
    (named : attributeName? (c :: tail) = some (name, after)) (fresh : name ∉ seen)
    (quoted : quoted? after = some (raw, rest)) (told : unescape? raw = some value) :
    attributes seen cs = (attributes (name :: seen) rest).map
      (⟨String.ofList name, String.ofList value⟩ :: ·) := by
  rw [attributes]
  rw [← begins] at named
  split
  · rename_i nothing
    rw [begins] at nothing
    cases nothing
  · split
    · rename_i none
      rw [named] at none
      cases none
    · rename_i name' after' found
      cases named.symm.trans found
      rw [if_neg fresh]
      split
      · rename_i none
        rw [quoted] at none
        cases none
      · rename_i raw' rest' found
        cases quoted.symm.trans found
        rw [told]
        cases attributes (name :: seen) rest <;> rfl

theorem attributes_chars {a : Attribute} (named : IsName a.name) {seen : List (List Char)}
    (fresh : a.name.toList ∉ seen) (rest : List Char) :
    attributes seen (a.chars ++ rest) =
      (attributes (a.name.toList :: seen) rest).map (a :: ·) := by
  obtain ⟨c, tail, shape, first, -⟩ := named.exists_cons
  have text : a.chars ++ rest = ' ' :: (a.name.toList ++ '=' ::
      ('"' :: escape a.value.toList ++ '"' :: rest)) := by
    simp [Attribute.chars]
  have begins : skipSpace (a.chars ++ rest) = a.name.toList ++ '=' ::
      ('"' :: escape a.value.toList ++ '"' :: rest) := by
    have blank : isSpace ' ' = true := by decide
    rw [text, shape, List.cons_append]
    simp [skipSpace, blank, not_isSpace_of_isNameChar first]
  have unquoted : '"' ∉ escape a.value.toList :=
    fun inside => not_special_of_mem_escape inside (by decide)
  have read := attributeName?_eq named ('"' :: escape a.value.toList ++ '"' :: rest)
  rw [shape, List.cons_append] at begins read
  rw [attributes_of_parts begins read (shape ▸ fresh) (quoted?_eq unquoted rest)
    (unescape?_escape a.value.toList), ← shape]
  simp

/-- Names fit for a tag and its attributes, no two of the latter the same. -/
def Tidy (name : String) (keys : List String) : Prop :=
  IsName name ∧ (∀ key ∈ keys, IsName key) ∧ keys.Nodup

instance (name : String) (keys : List String) : Decidable (Tidy name keys) :=
  inferInstanceAs (Decidable (_ ∧ _ ∧ _))

section

variable {name : String} {as : List Attribute}

theorem attributes_flatMap (seen : List (List Char)) (named : ∀ a ∈ as, IsName a.name)
    (fresh : ∀ a ∈ as, a.name.toList ∉ seen) (distinct : (as.map Attribute.name).Nodup) :
    attributes seen (as.flatMap Attribute.chars) = .ok as := by
  induction as generalizing seen with
  | nil => rw [List.flatMap_nil, attributes]; rfl
  | cons a as ih =>
    obtain ⟨aNamed, named⟩ := List.forall_mem_cons.mp named
    obtain ⟨aFresh, fresh⟩ := List.forall_mem_cons.mp fresh
    rw [List.map_cons, List.nodup_cons] at distinct
    have later : ∀ b ∈ as, b.name.toList ∉ a.name.toList :: seen := by
      intro b member
      rw [List.mem_cons, not_or]
      refine ⟨fun same => distinct.1 ?_, fresh b member⟩
      exact String.toList_inj.mp same ▸ List.mem_map_of_mem member
    rw [List.flatMap_cons, attributes_chars aNamed aFresh, ih _ named later distinct.2]
    rfl

def content (name : String) (as : List Attribute) : List Char :=
  name.toList ++ as.flatMap Attribute.chars

variable (tidy : Tidy name (as.map Attribute.name))

include tidy in
theorem passes_content : Passes (content name as) := by
  have attributes : ∀ bs : List Attribute, (∀ a ∈ bs, IsName a.name) →
      Passes (bs.flatMap Attribute.chars) := by
    intro bs named
    induction bs with
    | nil => exact passes_nil
    | cons b bs ih =>
      obtain ⟨first, others⟩ := List.forall_mem_cons.mp named
      exact (Attribute.passes first).append (ih others)
  exact (passes_name tidy.1.2).append
    (attributes as fun a member => tidy.2.1 a.name (List.mem_map_of_mem member))

theorem flatMap_chars_eq (as : List Attribute) :
    as.flatMap Attribute.chars = [] ∨ ∃ rest, as.flatMap Attribute.chars = ' ' :: rest := by
  cases as with
  | nil => exact Or.inl rfl
  | cons a as => exact Or.inr ⟨_, rfl⟩

include tidy in
theorem exists_concat_content : ∃ front c, content name as = front ++ [c] ∧ c ≠ '/' := by
  rcases List.eq_nil_or_concat as with rfl | ⟨bs, b, rfl⟩
  · rcases List.eq_nil_or_concat name.toList with none | ⟨front, c, shape⟩
    · exact absurd none tidy.1.1
    · refine ⟨front, c, by simp [content, shape], ?_⟩
      have inName : isNameChar c = true := tidy.1.2 c (by simp [shape])
      exact ne_of_isNameChar inName (by decide)
  · exact ⟨name.toList ++ bs.flatMap Attribute.chars ++ ' ' :: b.name.toList ++ ['=', '"'] ++
      escape b.value.toList, '"', by simp [content, Attribute.chars], by decide⟩

include tidy in
theorem splitSlash_content : splitSlash (content name as) = (content name as, false) := by
  obtain ⟨front, c, shape, other⟩ := exists_concat_content tidy
  simp [splitSlash, shape, other]

theorem splitSlash_slash (cs : List Char) : splitSlash (cs ++ ['/']) = (cs, true) := by
  simp [splitSlash]

include tidy in
theorem tag_of_splitSlash {cs : List Char} {closed : Bool}
    (split : splitSlash cs = (content name as, closed)) : tag cs = .ok (name, as, closed) := by
  have solid : ∀ c ∈ name.toList, (!isSpace c) = true := by
    intro c member
    simp [not_isSpace_of_isNameChar (tidy.1.2 c member)]
  have blank : isSpace ' ' = true := by decide
  have front : (content name as).takeWhile (!isSpace ·) = name.toList := by
    rw [content, List.takeWhile_append_of_pos solid]
    rcases flatMap_chars_eq as with none | ⟨rest, shape⟩
    · simp [none]
    · simp [shape, blank]
  have back : (content name as).dropWhile (!isSpace ·) = as.flatMap Attribute.chars := by
    rw [content, List.dropWhile_append_of_pos solid]
    rcases flatMap_chars_eq as with none | ⟨rest, shape⟩
    · simp [none]
    · simp [shape, blank]
  have read := attributes_flatMap []
    (fun a member => tidy.2.1 a.name (List.mem_map_of_mem member)) (by simp) tidy.2.2
  simp only [tag, split, front, back, read, String.ofList_toList]
  rfl

include tidy in
theorem item?_opened (cs : List Char) (passes : Passes (content name as ++ cs))
    (rest : List Char) :
    item? (content name as ++ cs ++ '>' :: rest) =
      some (.opened (content name as ++ cs), rest) := by
  obtain ⟨c, tail, shape, inName, -⟩ := tidy.1.exists_cons
  have ended := tagEnd?_of_passes passes rest
  have exclamation : c ≠ '!' := ne_of_isNameChar inName (by decide)
  have question : c ≠ '?' := ne_of_isNameChar inName (by decide)
  have slash : c ≠ '/' := ne_of_isNameChar inName (by decide)
  have begins : content name as ++ cs ++ '>' :: rest =
      c :: (tail ++ as.flatMap Attribute.chars ++ cs ++ '>' :: rest) := by
    simp [content, shape]
  rw [begins] at ended ⊢
  unfold item?
  split
  case h_9 => rw [ended]; rfl
  all_goals
    rename_i same
    have head := (List.cons.inj same).1
    contradiction

theorem item?_closed (named : IsName name) (rest : List Char) :
    item? ('/' :: name.toList ++ '>' :: rest) = some (.closed name.toList, rest) := by
  have ended := tagEnd?_of_passes (passes_name named.2) rest
  rw [List.cons_append, item?, ended]
  rfl

theorem closingName_toList (named : IsName name) : closingName name.toList = name := by
  obtain ⟨c, tail, shape, inName, -⟩ := named.exists_cons
  have solid : name.toList.all isSpace = false := by
    simp [shape, not_isSpace_of_isNameChar inName]
  have back : name.toList.reverse.dropWhile isSpace = name.toList.reverse := by
    cases reversed : name.toList.reverse with
    | nil => rfl
    | cons d ds =>
      have member : d ∈ name.toList := by
        rw [← List.mem_reverse, reversed]
        exact List.mem_cons_self
      rw [List.dropWhile_cons_of_neg]
      simp [not_isSpace_of_isNameChar (named.2 d member)]
  simp [closingName, solid, back]

end

end LightShow.Xml
