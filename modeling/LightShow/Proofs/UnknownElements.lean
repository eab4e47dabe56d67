import LightShow.Proofs.Building
import LightShow.Proofs.Outcome

/-!
Elements that do not belong where they stand. Whatever stands in them, the element around them is
afterwards what it was before, so a file says the same with them and without them.
-/

namespace LightShow.ShowFile

open Xml Outcome

/-- The names of the elements that belong directly in an open one. -/
def Frame.children : Frame → List String
  | root _ => ["scene", "universe", "device", "uihint", "macro", "eventsender"]
  | scene _ => ["bankset", "filter", "filterpage", "uipage"]
  | bankset _ => ["bank"]
  | bank _ => ["column"]
  | filter _ => ["channellink", "initialParameters", "filterConfiguration"]
  | filterPage _ => ["filterref"]
  | uiPage _ => ["widget"]
  | widget _ => ["configuration"]
  | openUniverse _ => ["artnet", "usb", "physical", "patching"]
  | device _ => ["attribute"]
  | eventSender _ => ["configuration"]
  | leaf | skipped => []

theorem place_of_not_mem {e : Element} {frame : Frame} (foreign : e.name ∉ frame.children) :
    place e (some frame) = .ok .unknown := by
  cases frame with
  | leaf | skipped => rfl
  | root | scene | filter | openUniverse =>
    simp only [place, openInShow, openInScene, openInFilter, openInUniverse]
    split
    all_goals simp_all [Frame.children]
  | _ =>
    simp_all [Frame.children, place, openInBankset, openInBank, openInFilterPage, openInUiPage,
      openInWidget, openInDevice, openInSender]

theorem told_of_map {α : Type} {r : Except ReadError α} {g : α → Placement}
    (told : ∀ a, g a ≠ .unknown) : g <$> r ≠ .ok .unknown := by
  intro placed
  cases r with
  | error e => cases placed
  | ok a => exact told a (Except.ok.inj placed)

theorem told_of_bind {α : Type} {r : Except ReadError α}
    {next : α → Except ReadError Placement}
    (told : ∀ a, next a ≠ .ok .unknown) : (r >>= next) ≠ .ok .unknown := by
  intro placed
  obtain ⟨a, -, placed⟩ := bind_eq_ok_iff.mp placed
  exact told a placed

theorem place_eq_unknown_iff {e : Element} {frame : Frame} :
    place e (some frame) = .ok .unknown ↔ e.name ∉ frame.children := by
  constructor
  · intro placed belongs
    revert placed
    cases frame with
    | leaf | skipped => cases belongs
    | _ =>
      simp only [Frame.children, List.mem_cons, List.not_mem_nil, or_false] at belongs
      simp only [place, openInShow, openInScene, openInBankset, openInBank, openInFilter,
        openInFilterPage, openInUiPage, openInWidget, openInUniverse, openInDevice, openInSender]
      split
      all_goals simp_all [told_of_bind, told_of_map]
  · exact place_of_not_mem

/-- Elements side by side, each closed where it was opened, with whatever names and attributes. -/
inductive Forest : List Event → Prop where
  | nil : Forest []
  | empty (name : String) (as : List Attribute) {rest : List Event} (later : Forest rest) :
      Forest (.empty name as :: rest)
  | element (name : String) (as : List Attribute) {content rest : List Event}
      (inside : Forest content) (later : Forest rest) :
      Forest (.start name as :: (content ++ .close name :: rest))

/-- One element with all that stands in it. -/
inductive Subtree (name : String) : List Event → Prop where
  | empty (as : List Attribute) : Subtree name [.empty name as]
  | element (as : List Attribute) {content : List Event} (inside : Forest content) :
      Subtree name (.start name as :: (content ++ [.close name]))

namespace Frame

variable {frame : Frame} {name : String}

theorem close_skipped (rest : List Frame) (document : Option Show) :
    Progress.close ⟨skipped :: frame :: rest, document⟩ = .ok ⟨frame :: rest, document⟩ :=
  close_of_attach rfl rfl rest document

theorem becomes_unknown_empty (foreign : name ∉ frame.children) (as : List Attribute) :
    frame.Becomes [.empty name as] frame := by
  intro rest document
  have placed : place ⟨name, as⟩ (some frame) = .ok .unknown := place_eq_unknown_iff.mpr foreign
  simp [Progress.run, Progress.step, Progress.start, placed, Run.ofExcept, Run.bind, Run.answer,
    close_skipped]

theorem becomes_unknown_element (foreign : name ∉ frame.children) (as : List Attribute)
    {content : List Event} (inside : skipped.Becomes content skipped) :
    frame.Becomes (.start name as :: (content ++ [.close name])) frame := by
  intro rest document
  have placed : place ⟨name, as⟩ (some frame) = .ok .unknown := place_eq_unknown_iff.mpr foreign
  have filled := inside (frame :: rest) document
  have behind :
      (Progress.run ⟨skipped :: frame :: rest, document⟩ (content ++ [.close name])).outcome =
        .ok ⟨frame :: rest, document⟩ := by
    rw [Progress.run_append, Run.bind_of_ok filled]
    simp [Progress.run, Progress.step, Run.ofExcept, Run.bind, Run.answer, close_skipped]
  simp [Progress.run, Progress.step, Progress.start, placed, Run.bind, behind]

theorem becomes_forest {events : List Event} (forest : Forest events) :
    skipped.Becomes events skipped := by
  induction forest with
  | nil => exact becomes_nil skipped
  | empty name as later behind =>
    exact (becomes_unknown_empty List.not_mem_nil as).append behind
  | @element name as content rest inside later within behind =>
    have foreign : name ∉ skipped.children := List.not_mem_nil
    have first := becomes_unknown_element foreign as within
    have shape : Event.start name as :: (content ++ .close name :: rest) =
        (.start name as :: (content ++ [.close name])) ++ rest := by
      simp
    rw [shape]
    exact first.append behind

theorem becomes_subtree {events : List Event} (foreign : name ∉ frame.children)
    (subtree : Subtree name events) : frame.Becomes events frame := by
  cases subtree with
  | empty as => exact becomes_unknown_empty foreign as
  | element as inside => exact becomes_unknown_element foreign as (becomes_forest inside)

end Frame

/-- The names of the elements that are open behind the tags, the innermost first. -/
def openNames : List String → List Event → List String
  | names, [] => names
  | names, .start name _ :: rest => openNames (name :: names) rest
  | names, .empty _ _ :: rest => openNames names rest
  | names, .close _ :: rest => openNames names.tail rest

section

variable {p q : Progress}

theorem place_none_ne_absorbed (e : Element) (parent : Frame) :
    place e none ≠ .ok (.absorbed parent) := by
  intro placed
  simp only [place] at placed
  split at placed
  · obtain ⟨activeScene, -, placed⟩ := bind_eq_ok_iff.mp placed
    cases placed
  · cases placed

theorem length_stack_start {e : Element} (started : (p.start e).outcome = .ok q) :
    q.stack.length = p.stack.length + 1 := by
  unfold Progress.start at started
  split at started
  case h_1 => cases started
  case h_2 child found =>
    cases started
    rfl
  case h_3 parent frame rest found same =>
    cases started
    simp [same]
  case h_4 parent found same =>
    rw [same] at found
    exact absurd found (place_none_ne_absorbed e parent)
  case h_5 =>
    cases started
    rfl

theorem length_stack_close (closed : p.close = .ok q) :
    q.stack.length = p.stack.length - 1 := by
  unfold Progress.close at closed
  split at closed
  case h_1 same =>
    cases closed
    simp [same]
  case h_2 d rest same =>
    cases closed
    simp [same]
  case h_3 frame other same =>
    cases closed
    simp [same]
  case h_4 child parent rest other same =>
    cases attached : attach child parent with
    | error e =>
      rw [attached] at closed
      cases closed
    | ok parent' =>
      rw [attached] at closed
      cases closed
      simp [same]

theorem length_stack_run {events : List Event} {names : List String}
    (start : p.stack.length = names.length) (ran : (p.run events).outcome = .ok q) :
    q.stack.length = (openNames names events).length := by
  induction events generalizing p names with
  | nil =>
    cases ran
    exact start
  | cons event rest ih =>
    obtain ⟨next, stepped, later⟩ := Run.outcome_bind_eq_ok.mp ran
    cases event with
    | start name as =>
      have longer := length_stack_start stepped
      refine ih ?_ later
      simp only [List.length_cons]
      omega
    | empty name as =>
      obtain ⟨opened, started, closed⟩ := Run.outcome_bind_eq_ok.mp stepped
      have longer := length_stack_start started
      have shorter := length_stack_close closed
      refine ih ?_ later
      omega
    | close name =>
      have shorter := length_stack_close stepped
      refine ih ?_ later
      rw [List.length_tail]
      omega

end

theorem readTags_eq_ok_iff {events : List Event} {d : Show} :
    (readTags ⟨events, none⟩).outcome = .ok d ↔
      ∃ p, (Progress.run {} events).outcome = .ok p ∧ p.document = some d := by
  have ended : ∀ p : Progress, (match p.document with
      | none => Run.fail ReadError.missingRoot
      | some d => ⟨[Note.showRead d.name d.scenes.length d.universes.length], .ok d⟩ :
        Run Note ReadError Show).outcome = .ok d ↔ p.document = some d := by
    intro p
    cases p.document with
    | none => simp [Run.fail]
    | some d' => simp
  simp only [readTags, Run.bind_eq, Run.outcome_bind_eq_ok]
  refine exists_congr fun p => and_congr_right fun _ => ?_
  rw [← ended p]
  cases p.document <;> rfl

/-- Wherever an element is open, an element that does not belong in it can be added to a file,
    with whatever stands in that element: the file is read as before. -/
theorem unknown_element_is_transparent {before behind : List Event} {d : Show}
    (accepted : (readTags ⟨before ++ behind, none⟩).outcome = .ok d)
    (inside : openNames [] before ≠ []) :
    ∃ top outer document,
      (Progress.run {} before).outcome = .ok ⟨top :: outer, document⟩ ∧
      (∀ e, place e (some top) = .ok .unknown ↔ e.name ∉ top.children) ∧
      ∀ name subtree, name ∉ top.children → Subtree name subtree →
        (readTags ⟨before ++ subtree ++ behind, none⟩).outcome = .ok d ∧
        ∀ text, scan text = ⟨before ++ subtree ++ behind, none⟩ →
          (read text).outcome = .ok d := by
  obtain ⟨last, ran, ended⟩ := readTags_eq_ok_iff.mp accepted
  rw [Progress.run_append] at ran
  obtain ⟨p, here, later⟩ := Run.outcome_bind_eq_ok.mp ran
  have open_ : p.stack.length = (openNames [] before).length := length_stack_run rfl here
  obtain ⟨stack, document⟩ := p
  cases stack with
  | nil => exact absurd (List.length_eq_zero_iff.mp open_.symm) inside
  | cons top outer =>
    refine ⟨top, outer, document, here, fun e => place_eq_unknown_iff, ?_⟩
    intro name subtree foreign element
    have passed := Frame.becomes_subtree foreign element outer document
    have again : (readTags ⟨before ++ subtree ++ behind, none⟩).outcome = .ok d := by
      refine readTags_eq_ok_iff.mpr ⟨last, ?_, ended⟩
      rw [List.append_assoc, Progress.run_append, Run.bind_of_ok here, Progress.run_append,
        Run.bind_of_ok passed]
      exact later
    refine ⟨again, ?_⟩
    intro text scanned
    rw [read, scanned]
    exact again

def misplacedTags : List Event :=
  [.start "showfile" [], .start "scene" [⟨"id", "2"⟩], .empty "filter" [], .close "scene",
    .empty "lost" [⟨"id", "3"⟩], .close "showfile"]

theorem unknown_element_is_transparent_nested_showfile :
    (readTags ⟨[.start "showfile" [], .start "scene" [⟨"id", "1"⟩]] ++
      [.close "scene", .close "showfile"], none⟩).outcome =
      .ok { name := "", scenes := [{ id := 1, name := "" }] } ∧
    openNames [] [.start "showfile" [], .start "scene" [⟨"id", "1"⟩]] ≠ [] ∧
    (readTags ⟨[.start "showfile" [], .start "scene" [⟨"id", "1"⟩]] ++ misplacedTags ++
      [.close "scene", .close "showfile"], none⟩).outcome =
      .ok { name := "", scenes := [{ id := 1, name := "" }] } := by
  have accepted : (readTags ⟨[.start "showfile" [], .start "scene" [⟨"id", "1"⟩]] ++
      [.close "scene", .close "showfile"], none⟩).outcome =
      .ok { name := "", scenes := [{ id := 1, name := "" }] } := by decide +kernel
  have inside : openNames [] [.start "showfile" [], .start "scene" [⟨"id", "1"⟩]] ≠ [] := by
    decide
  obtain ⟨top, outer, document, here, -, transparent⟩ :=
    unknown_element_is_transparent accepted inside
  have known : (Progress.run {} [.start "showfile" [], .start "scene" [⟨"id", "1"⟩]]).outcome =
      .ok ⟨[.scene { id := 1, name := "" }, .root { name := "" }], none⟩ := by rfl
  cases known.symm.trans here
  have scene : Forest [.empty "filter" []] := .empty _ _ .nil
  have content : Forest [.start "scene" [⟨"id", "2"⟩], .empty "filter" [], .close "scene",
      .empty "lost" [⟨"id", "3"⟩]] := .element _ _ scene (.empty _ _ .nil)
  exact ⟨accepted, inside, (transparent "showfile" misplacedTags (by decide)
    (.element [] content)).1⟩

end LightShow.ShowFile
