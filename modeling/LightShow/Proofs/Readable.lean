import Mathlib.Data.List.Nodup
import LightShow.Proofs.Assembly
import LightShow.Proofs.Compilation
import LightShow.Proofs.RoundTrip

/-!
What a reader accepts can be told from a file again: while a file is read, every open element
and the show in hand keep to what a file can hold. So a file that is opened and saved without
an edit loses nothing.
-/

namespace LightShow

namespace ShowFile

open OrderedMap Outcome

theorem Legible.withLink {f : Filter} (legible : Legible f) (input : String) {r : OutputRef}
    (wellformed : r.Wellformed) : Legible (f.withLink input r) where
  wellformed := by
    intro l member
    rcases mem_entries_insert member with rfl | before
    · exact wellformed
    · exact legible.wellformed l before
  unexchanged := legible.unexchanged

theorem Legible.withConfiguration {f : Filter} (legible : Legible f) {key value : String}
    (unexchanged : f.kind = .universeOutput → value = "universe" → key = "universe") :
    Legible (f.withConfiguration key value) where
  wellformed := legible.wellformed
  unexchanged := by
    intro kind e member same
    rcases mem_entries_insert member with rfl | before
    · exact unexchanged kind same
    · exact legible.unexchanged kind e before same

structure ReadableScene (s : Scene) : Prop where
  valid : s.Valid
  legible : ∀ n ∈ s.nodes, Legible n.filter

structure ReadableShow (d : Show) : Prop where
  distinct : (d.scenes.map Scene.id).Nodup
  scenes : ∀ s ∈ d.scenes, ReadableScene s

/-- What is known of an open element before it is closed. -/
def Frame.Readable : Frame → Prop
  | .root d => ReadableShow d
  | .scene s => ReadableScene s
  | .filter f => Legible f
  | _ => True

def Placement.Readable : Placement → Prop
  | .nested child => child.Readable
  | .absorbed parent => parent.Readable
  | .unknown => True

section

variable {e : Element} {p : Placement}

theorem readable_of_openShow (placed : openShow e = .ok p) : p.Readable := by
  obtain ⟨activeScene, -, placed⟩ := bind_eq_ok_iff.mp placed
  cases placed
  exact ⟨List.nodup_nil, fun s impossible => nomatch impossible⟩

theorem readable_of_openInShow {d : Show} (readable : ReadableShow d)
    (placed : openInShow e d = .ok p) : p.Readable := by
  unfold openInShow at placed
  split at placed
  case h_1 =>
    obtain ⟨id, -, placed⟩ := bind_eq_ok_iff.mp placed
    cases placed
    exact ⟨⟨List.nodup_nil, fun n impossible => nomatch impossible⟩,
      fun n impossible => nomatch impossible⟩
  case h_7 =>
    cases placed
    exact True.intro
  all_goals
    obtain ⟨_, -, placed⟩ := bind_eq_ok_iff.mp placed
    cases placed
  case h_4 | h_5 =>
    exact ⟨readable.distinct, readable.scenes⟩
  all_goals exact True.intro

theorem legible_new (id : String) (kind : Kind) (position : Position) :
    Legible { id, kind, position } where
  wellformed := fun _ impossible => nomatch impossible
  unexchanged := fun _ _ impossible => nomatch impossible

theorem legible_of_readFilter {f : Filter} (made : readFilter e = .ok f) : Legible f := by
  obtain ⟨text, -, made⟩ := bind_eq_ok_iff.mp made
  obtain ⟨kind, -, made⟩ := bind_eq_ok_iff.mp made
  obtain ⟨id, -, made⟩ := bind_eq_ok_iff.mp made
  obtain ⟨position, -, made⟩ := bind_eq_ok_iff.mp made
  cases made
  exact legible_new id kind position

theorem readable_of_openInScene (placed : openInScene e = .ok p) : p.Readable := by
  unfold openInScene at placed
  split at placed
  case h_1 =>
    obtain ⟨id, -, placed⟩ := bind_eq_ok_iff.mp placed
    obtain ⟨activeBank, -, placed⟩ := bind_eq_ok_iff.mp placed
    cases placed
    exact True.intro
  case h_2 =>
    obtain ⟨f, made, placed⟩ := bind_eq_ok_iff.mp placed
    cases placed
    exact legible_of_readFilter made
  case h_3 | h_4 =>
    obtain ⟨name, -, placed⟩ := bind_eq_ok_iff.mp placed
    cases placed
    exact True.intro
  case h_5 =>
    cases placed
    exact True.intro

theorem legible_of_readLink {f g : Filter} (legible : Legible f) (made : readLink e f = .ok g) :
    Legible g := by
  obtain ⟨text, -, made⟩ := bind_eq_ok_iff.mp made
  obtain ⟨source, parsed, made⟩ := bind_eq_ok_iff.mp made
  obtain ⟨input, -, made⟩ := bind_eq_ok_iff.mp made
  cases made
  have found : OutputRef.ofString? text = some source := by
    have parsed := mapError_eq_ok_iff.mp parsed
    unfold OutputRef.ofString at parsed
    split at parsed
    · cases parsed
      assumption
    · cases parsed
  exact legible.withLink input (OutputRef.wellformed_of_ofString? found).1

theorem legible_of_readConfiguration {f g : Filter} (legible : Legible f)
    (made : readConfiguration e f = .ok g) : Legible g := by
  obtain ⟨name, -, made⟩ := bind_eq_ok_iff.mp made
  cases made
  split
  · rename_i exchanged
    refine legible.withConfiguration fun kind _ => ?_
    rw [kind] at exchanged
    exact (Option.some.inj exchanged).symm
  · rename_i plain
    refine legible.withConfiguration fun kind same => ?_
    rw [kind, same] at plain
    exact absurd rfl plain

theorem readable_of_openInFilter {f : Filter} (legible : Legible f)
    (placed : openInFilter e f = .ok p) : p.Readable := by
  unfold openInFilter at placed
  split at placed
  case h_4 =>
    cases placed
    exact True.intro
  all_goals
    obtain ⟨g, made, placed⟩ := bind_eq_ok_iff.mp placed
    cases placed
  · exact legible_of_readLink legible made
  · obtain ⟨name, -, made⟩ := bind_eq_ok_iff.mp made
    cases made
    exact ⟨legible.wellformed, legible.unexchanged⟩
  · exact legible_of_readConfiguration legible made

theorem readable_of_place {parent : Option Frame} (readable : ∀ frame ∈ parent, frame.Readable)
    (placed : place e parent = .ok p) : p.Readable := by
  cases parent with
  | none =>
    simp only [place] at placed
    split at placed
    · exact readable_of_openShow placed
    · cases placed
      exact True.intro
  | some frame =>
    have readable := readable frame rfl
    cases frame with
    | root d => exact readable_of_openInShow readable placed
    | scene s => exact readable_of_openInScene placed
    | filter f => exact readable_of_openInFilter readable placed
    | leaf | skipped =>
      cases placed
      exact True.intro
    | _ =>
      simp only [place, openInBankset, openInBank, openInFilterPage, openInUiPage, openInWidget,
        openInUniverse, openInDevice, openInSender] at placed
      split at placed
      all_goals
        try obtain ⟨_, -, placed⟩ := bind_eq_ok_iff.mp placed
        cases placed
        exact True.intro

theorem ReadableScene.addFilter {s t : Scene} {f : Filter} (readable : ReadableScene s)
    (legible : Legible f) (added : s.addFilter f = .ok t) : ReadableScene t where
  valid := readable.valid.addFilter added
  legible := by
    obtain ⟨-, rfl⟩ := Scene.add_eq_ok_iff.mp added
    intro n member
    rcases List.mem_append.mp member with before | new
    · exact readable.legible n before
    · obtain rfl := List.mem_singleton.mp new
      rwa [Node.filter_ofFilter]

theorem ReadableShow.addScene {d : Show} {s : Scene} (readable : ReadableShow d)
    (inner : ReadableScene s) (fresh : d.scene? s.id = none) :
    ReadableShow { d with scenes := d.scenes ++ [s] } where
  distinct := by
    have unseen : s.id ∉ d.scenes.map Scene.id := by
      intro again
      obtain ⟨t, member, same⟩ := List.mem_map.mp again
      exact List.find?_eq_none.mp fresh t member (decide_eq_true same)
    have longer := readable.distinct.concat unseen
    simpa using longer
  scenes := by
    intro t member
    rcases List.mem_append.mp member with before | new
    · exact readable.scenes t before
    · obtain rfl := List.mem_singleton.mp new
      exact inner

theorem readable_of_attach {child parent parent' : Frame} (inner : child.Readable)
    (outer : parent.Readable) (attached : attach child parent = .ok parent') :
    parent'.Readable := by
  unfold attach at attached
  split at attached
  case h_1 s d =>
    split at attached
    · cases attached
    · rename_i fresh
      cases attached
      exact outer.addScene inner (by simpa using fresh)
  case h_4 f s =>
    cases added : s.addFilter f with
    | error e =>
      rw [added] at attached
      cases attached
    | ok t =>
      rw [added] at attached
      cases attached
      exact outer.addFilter inner added
  case h_8 u d =>
    split at attached
    · cases attached
    · cases attached
      exact ⟨outer.distinct, outer.scenes⟩
  case h_2 | h_5 | h_6 =>
    cases attached
    exact ⟨⟨outer.valid.distinct, outer.valid.followsKind⟩, outer.legible⟩
  case h_9 | h_10 =>
    cases attached
    exact ⟨outer.distinct, outer.scenes⟩
  all_goals
    cases attached
    assumption

structure Progress.Readable (p : Progress) : Prop where
  stack : ∀ frame ∈ p.stack, frame.Readable
  document : ∀ d, p.document = some d → ReadableShow d

end

section

variable {p q : Progress}

theorem Progress.Readable.start (readable : p.Readable) {e : Element}
    (started : (p.start e).outcome = .ok q) : q.Readable := by
  have placed : ∀ placement, place e p.stack.head? = .ok placement → placement.Readable :=
    fun placement => readable_of_place fun frame first =>
      readable.stack frame (List.mem_of_mem_head? first)
  unfold Progress.start at started
  split at started
  case h_1 => cases started
  case h_2 child found =>
    cases started
    exact ⟨List.forall_mem_cons.mpr ⟨placed _ found, readable.stack⟩, readable.document⟩
  case h_3 parent frame rest found same =>
    cases started
    have others := (List.forall_mem_cons.mp (same ▸ readable.stack)).2
    exact ⟨List.forall_mem_cons.mpr ⟨True.intro, List.forall_mem_cons.mpr
      ⟨placed _ found, others⟩⟩, readable.document⟩
  case h_4 =>
    cases started
    exact readable
  case h_5 =>
    cases started
    exact ⟨List.forall_mem_cons.mpr ⟨True.intro, readable.stack⟩, readable.document⟩

theorem Progress.Readable.close (readable : p.Readable) (closed : p.close = .ok q) :
    q.Readable := by
  unfold Progress.close at closed
  split at closed
  case h_1 =>
    cases closed
    exact readable
  case h_2 d rest same =>
    cases closed
    have known := List.forall_mem_cons.mp (same ▸ readable.stack)
    refine ⟨known.2, fun d' last => ?_⟩
    obtain rfl := Option.some.inj last
    exact known.1
  case h_3 =>
    cases closed
    exact ⟨fun _ impossible => (nomatch impossible), readable.document⟩
  case h_4 child parent rest _ same =>
    have known := same ▸ readable.stack
    obtain ⟨inner, known⟩ := List.forall_mem_cons.mp known
    obtain ⟨outer, others⟩ := List.forall_mem_cons.mp known
    cases attached : attach child parent with
    | error e =>
      rw [attached] at closed
      cases closed
    | ok parent' =>
      rw [attached] at closed
      cases closed
      exact ⟨List.forall_mem_cons.mpr ⟨readable_of_attach inner outer attached, others⟩,
        readable.document⟩

theorem Progress.Readable.step (readable : p.Readable) {event : Xml.Event}
    (stepped : (p.step event).outcome = .ok q) : q.Readable := by
  cases event with
  | start name attributes => exact readable.start stepped
  | empty name attributes =>
    obtain ⟨opened, started, closed⟩ := Run.outcome_bind_eq_ok.mp stepped
    exact (readable.start started).close closed
  | close name => exact readable.close stepped

theorem Progress.Readable.run (readable : p.Readable) {events : List Xml.Event}
    (ran : (p.run events).outcome = .ok q) : q.Readable := by
  induction events generalizing p with
  | nil =>
    cases ran
    exact readable
  | cons event rest ih =>
    obtain ⟨next, stepped, ran⟩ := Run.outcome_bind_eq_ok.mp ran
    exact ih (readable.step stepped) ran

end

theorem readable_of_read {text : String} {d : Show} (accepted : (read text).outcome = .ok d) :
    ReadableShow d := by
  obtain ⟨p, ran, ended⟩ := Run.outcome_bind_eq_ok.mp accepted
  have start : Progress.Readable {} :=
    ⟨fun _ impossible => (nomatch impossible), fun _ impossible => (nomatch impossible)⟩
  have readable := start.run ran
  split at ended
  · cases ended
  · cases ended
  · rename_i found
    cases ended
    exact readable.document d found

theorem carriedScene_authored {s : Scene} (valid : s.Valid) :
    carriedScene true ⟨s, s.filters⟩ = s := by
  have nodes : s.filters.map (fun f => Node.ofFilter (carriedFilter true f)) = s.nodes :=
    valid.map_ofFilter
  simp only [carriedScene, nodes, if_true]

theorem ReadableShow.carried_authored {d : Show} (readable : ReadableShow d) :
    carried d.authored = d := by
  have scenes : d.authored.scenes.map (carriedScene true) = d.scenes := by
    rw [Show.authored, List.map_map]
    have same : ∀ s ∈ d.scenes, carriedScene true ⟨s, s.filters⟩ = s := fun s member =>
      carriedScene_authored (readable.scenes s member).valid
    exact (List.map_congr_left same).trans (List.map_id _)
  have presents : d.authored.mode.presents = true := rfl
  simp only [carried, presents, scenes, if_true]
  rfl

theorem identified_authored {d : Show} (distinct : (d.scenes.map Scene.id).Nodup)
    (valid : ∀ s ∈ d.scenes, s.Valid) : Identified d.authored where
  scenes := by
    rw [Show.authored, List.map_map]
    exact distinct
  filters := by
    intro c member
    obtain ⟨s, listed, rfl⟩ := List.mem_map.mp member
    exact (valid s listed).distinct_filters

theorem ReadableShow.identified {d : Show} (readable : ReadableShow d) : Identified d.authored :=
  identified_authored readable.distinct fun s listed => (readable.scenes s listed).valid

theorem ReadableShow.writable_authored {d : Show} (readable : ReadableShow d) :
    Writable d.authored where
  toIdentified := readable.identified
  legible := by
    intro c member f held
    obtain ⟨s, listed, rfl⟩ := List.mem_map.mp member
    obtain ⟨n, node, rfl⟩ := List.mem_map.mp held
    exact (readable.scenes s listed).legible n node

/-- A file that is accepted can be saved again, and reading what was saved gives the same show;
    saving that one once more changes nothing. -/
theorem saved_file_reads_same (book : RecipeBook) (settings : Settings) {text : String} {d : Show}
    (accepted : (read text).outcome = .ok d) :
    ∃ c saved, (compile book settings .authoring d).outcome = .ok c ∧
      (write settings c).outcome = .ok saved ∧ (read saved).outcome = .ok d ∧
        ∀ d' c' again, (read saved).outcome = .ok d' →
          (compile book settings .authoring d').outcome = .ok c' →
            (write settings c').outcome = .ok again → again = saved := by
  have readable := readable_of_read accepted
  have compiled : (compile book settings .authoring d).outcome = .ok d.authored :=
    compile_authoring readable.distinct
  obtain ⟨saved, written, reread⟩ := read_write settings d.authored readable.writable_authored
  rw [readable.carried_authored] at reread
  refine ⟨d.authored, saved, compiled, written, reread, ?_⟩
  intro d' c' again read' compiled' written'
  obtain rfl := Except.ok.inj (reread.symm.trans read')
  obtain rfl := Except.ok.inj (compiled.symm.trans compiled')
  exact Except.ok.inj (written'.symm.trans written)

/-- A file by another hand: it leaves out what has a default, holds an element that is not
    known, and has the key and the value of an entry exchanged. -/
def foreignFile : String :=
  "<showfile><scene id='1'><lost/><filter id='u' type='FILTER_UNIVERSE_OUTPUT'>" ++
  "<filterConfiguration name='1' value='universe'/></filter></scene></showfile>"

def foreignShow : Show where
  name := ""
  scenes := [{
    id := 1
    name := ""
    nodes := [.concrete
      { id := "u", kind := .universeOutput, configuration := .ofList [("universe", "1")] }] }]

theorem saved_foreign_file_reads_same :
    (read foreignFile).outcome = .ok foreignShow ∧
    ∃ c saved, (compile .builtIn {} .authoring foreignShow).outcome = .ok c ∧
      (write {} c).outcome = .ok saved ∧ (read saved).outcome = .ok foreignShow ∧
        ∀ d' c' again, (read saved).outcome = .ok d' →
          (compile .builtIn {} .authoring d').outcome = .ok c' →
            (write {} c').outcome = .ok again → again = saved := by
  have accepted : (read foreignFile).outcome = .ok foreignShow := by decide +kernel
  exact ⟨accepted, saved_file_reads_same .builtIn {} accepted⟩

end ShowFile

end LightShow
