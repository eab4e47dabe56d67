import LightShow.Proofs.Numerals
import LightShow.Proofs.OrderedMap
import LightShow.ShowFile.Reader

/-!
What tags make of the innermost open element. An element that is opened, filled and closed
again leaves its mark on the one around it, whatever is open around that.
-/

namespace LightShow.ShowFile

open Xml OrderedMap

theorem Progress.run_append (p : Progress) (before behind : List Event) :
    p.run (before ++ behind) = (p.run before).bind fun q => q.run behind := by
  induction before generalizing p with
  | nil => simp [Progress.run]
  | cons event before ih =>
    simp only [List.cons_append, Progress.run, Run.bind_eq, Run.bind_assoc]
    congr 1
    funext q
    exact ih q

namespace Frame

/-- The tags turn the innermost open element from the first frame into the second. -/
def Becomes (frame : Frame) (events : List Event) (frame' : Frame) : Prop :=
  ∀ rest document, (Progress.run ⟨frame :: rest, document⟩ events).outcome =
    .ok ⟨frame' :: rest, document⟩

def isRoot : Frame → Bool
  | root _ => true
  | _ => false

theorem becomes_nil (frame : Frame) : frame.Becomes [] frame := fun _ _ => rfl

theorem eq_of_becomes_nil {frame frame' : Frame} (becomes : frame.Becomes [] frame') :
    frame = frame' := by
  have ended := becomes [] none
  simp only [Progress.run, Run.answer, Except.ok.injEq, Progress.mk.injEq, List.cons.injEq] at ended
  exact ended.1.1

theorem Becomes.append {a b c : Frame} {before behind : List Event}
    (first : a.Becomes before b) (later : b.Becomes behind c) :
    a.Becomes (before ++ behind) c := by
  intro rest document
  rw [Progress.run_append, Run.bind_of_ok (first rest document)]
  exact later rest document

variable {parent parent' child child' : Frame} {name : String}

theorem close_of_attach (inner : child.isRoot = false)
    (attached : attach child parent = .ok parent') (rest : List Frame) (document : Option Show) :
    Progress.close ⟨child :: parent :: rest, document⟩ =
      .ok ⟨parent' :: rest, document⟩ := by
  cases child with
  | root d => cases inner
  | _ => simp [Progress.close, attached, Except.map]

theorem becomes_leaf {attributes : List (String × String)}
    (opened : place ⟨name, attributes.map fun a => ⟨a.1, a.2⟩⟩ (some parent) =
      .ok (.nested child))
    (inner : child.isRoot = false) (attached : attach child parent = .ok parent') :
    parent.Becomes [ShowFile.leaf name attributes] parent' := by
  intro rest document
  have closed := close_of_attach inner attached rest document
  simp [Progress.run, Progress.step, ShowFile.leaf, Progress.start, opened, Run.ofExcept,
    Run.bind, Run.answer, closed]

theorem becomes_absorbed {attributes : List (String × String)}
    (opened : place ⟨name, attributes.map fun a => ⟨a.1, a.2⟩⟩ (some parent) =
      .ok (.absorbed parent')) :
    parent.Becomes [ShowFile.leaf name attributes] parent' := by
  intro rest document
  have attached : attach .leaf parent' = .ok parent' := rfl
  have closed := close_of_attach rfl attached rest document
  simp [Progress.run, Progress.step, ShowFile.leaf, Progress.start, opened, Run.ofExcept,
    Run.bind, Run.answer, closed]

theorem becomes_element {attributes : List (String × String)} {content : List Event}
    (opened : place ⟨name, attributes.map fun a => ⟨a.1, a.2⟩⟩ (some parent) =
      .ok (.nested child))
    (filled : child.Becomes content child') (inner : child'.isRoot = false)
    (attached : attach child' parent = .ok parent') :
    parent.Becomes (element name attributes content) parent' := by
  intro rest document
  have inside := filled (parent :: rest) document
  have closed := close_of_attach inner attached rest document
  rw [element, List.cons_append, Progress.run]
  simp only [Progress.step, Progress.start, List.head?_cons, opened, Run.bind_eq, Run.answer_bind]
  rw [Progress.run_append, Run.bind_of_ok inside]
  simp [Progress.run, Progress.step, closed, Run.ofExcept, Run.bind, Run.answer]

theorem becomes_flatMap {α : Type} (frame : List α → Frame) (tags : α → List Event)
    (items : List α)
    (each : ∀ done item later, items = done ++ item :: later →
      (frame done).Becomes (tags item) (frame (done ++ [item]))) :
    (frame []).Becomes (items.flatMap tags) (frame items) := by
  have from_ : ∀ later done, items = done ++ later →
      (frame done).Becomes (later.flatMap tags) (frame items) := by
    intro later
    induction later with
    | nil =>
      rintro done rfl
      rw [List.append_nil]
      exact becomes_nil _
    | cons item later ih =>
      intro done split
      rw [List.flatMap_cons]
      exact (each done item later split).append (ih (done ++ [item]) (by simp [split]))
  exact from_ items [] rfl

theorem becomes_map {α : Type} (frame : List α → Frame) (tag : α → Event) (items : List α)
    (each : ∀ done, ∀ item ∈ items,
      (frame done).Becomes [tag item] (frame (done ++ [item]))) :
    (frame []).Becomes (items.map tag) (frame items) := by
  rw [List.map_eq_flatMap]
  exact becomes_flatMap frame _ items
    fun done item later split => each done item (by simp [split])

/-- The tags cannot be read where the frame is the innermost open element. -/
def Fails (frame : Frame) (events : List Event) : Prop :=
  ∀ rest document, ∃ e, (Progress.run ⟨frame :: rest, document⟩ events).outcome = .error e

theorem Fails.append {frame : Frame} {before : List Event} (fails : frame.Fails before)
    (behind : List Event) : frame.Fails (before ++ behind) := by
  intro rest document
  obtain ⟨e, failed⟩ := fails rest document
  rw [Progress.run_append, Run.bind_of_error failed]
  exact ⟨e, rfl⟩

theorem Becomes.fails {a b : Frame} {before behind : List Event} (first : a.Becomes before b)
    (fails : b.Fails behind) : a.Fails (before ++ behind) := by
  intro rest document
  rw [Progress.run_append, Run.bind_of_ok (first rest document)]
  exact fails rest document

theorem fails_leaf {attributes : List (String × String)} {e : ReadError}
    (refused : place ⟨name, attributes.map fun a => ⟨a.1, a.2⟩⟩ (some parent) = .error e) :
    parent.Fails [ShowFile.leaf name attributes] := by
  intro rest document
  refine ⟨e, ?_⟩
  simp [Progress.run, Progress.step, ShowFile.leaf, Progress.start, refused, Run.fail, Run.bind]

theorem fails_element {attributes : List (String × String)} {content : List Event}
    (opened : place ⟨name, attributes.map fun a => ⟨a.1, a.2⟩⟩ (some parent) =
      .ok (.nested child))
    (fails : child.Fails content) : parent.Fails (element name attributes content) := by
  intro rest document
  obtain ⟨e, failed⟩ := fails (parent :: rest) document
  rw [element, List.cons_append, Progress.run]
  simp only [Progress.step, Progress.start, List.head?_cons, opened, Run.bind_eq, Run.answer_bind]
  rw [Progress.run_append, Run.bind_of_error failed]
  exact ⟨e, rfl⟩

theorem exists_first {α : Type} {good : α → Prop} {items : List α}
    (bad : ∃ item ∈ items, ¬ good item) :
    ∃ done item later,
      items = done ++ item :: later ∧ (∀ x ∈ done, good x) ∧ ¬ good item := by
  induction items with
  | nil =>
    obtain ⟨item, impossible, -⟩ := bad
    cases impossible
  | cons x items ih =>
    by_cases here : good x
    · have further : ∃ item ∈ items, ¬ good item := by simpa [here] using bad
      obtain ⟨done, item, later, rfl, fine, notGood⟩ := ih further
      exact ⟨x :: done, item, later, rfl, List.forall_mem_cons.mpr ⟨here, fine⟩, notGood⟩
    · exact ⟨[], x, items, rfl, List.forall_mem_nil _, here⟩

theorem fails_flatMap {α : Type} {frame : Frame} {tags : α → List Event} {items : List α}
    {good : α → Prop} (bad : ∃ item ∈ items, ¬ good item)
    (first : ∀ done item,
      done ++ [item] <+: items → (∀ x ∈ done, good x) → ¬ good item →
      ∃ filled, frame.Becomes (done.flatMap tags) filled ∧ filled.Fails (tags item)) :
    frame.Fails (items.flatMap tags) := by
  obtain ⟨done, item, later, rfl, fine, notGood⟩ := exists_first bad
  obtain ⟨filled, becomes, fails⟩ := first done item ⟨later, by simp⟩ fine notGood
  rw [List.flatMap_append, List.flatMap_cons, ← List.append_assoc]
  exact (becomes.fails fails).append _

end Frame

end LightShow.ShowFile
