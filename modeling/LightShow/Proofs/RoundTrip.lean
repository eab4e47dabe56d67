import LightShow.Proofs.Elements
import LightShow.Proofs.Nesting

/-!
A show file is read back as the show that was compiled, with what a deployed file leaves out
left out, and with the entries turned that look as if they had been exchanged.
-/

namespace LightShow.ShowFile

open Xml OrderedMap Outcome ShowFile.Frame

/-- A compiled scene as a file holds it. -/
def carriedScene (presents : Bool) (c : CompiledScene) : Scene where
  id := c.scene.id
  name := c.scene.name
  nodes := c.filters.map fun f => .ofFilter (carriedFilter presents f)
  bankset := c.scene.bankset
  filterPages := if presents then c.scene.filterPages else []
  uiPages := if presents then c.scene.uiPages else []

def carried (c : CompiledShow) : Show where
  name := c.document.name
  notes := c.document.notes
  activeScene := c.document.activeScene
  scenes := c.scenes.map (carriedScene c.mode.presents)
  universes := c.document.universes
  devices := if c.mode.presents then c.document.devices else []
  uiHints := if c.mode.presents then c.document.uiHints else ∅
  commands := if c.mode.presents then c.document.commands else []
  eventSenders := if c.mode.presents then c.document.eventSenders else []

/-- The filter can be told from a file: its references can be written with a colon between
    their parts, and no entry looks as if its key and value had been exchanged. -/
structure Legible (f : Filter) : Prop where
  wellformed : ∀ l ∈ f.links.entries, l.2.Wellformed
  unexchanged : f.kind = .universeOutput →
    ∀ e ∈ f.configuration.entries, e.2 = "universe" → e.1 = "universe"

theorem Legible.exchanged {f : Filter} (legible : Legible f) :
    ∀ e ∈ f.configuration.entries, f.kind.exchangedKey? = some e.2 → e.1 = e.2 := by
  intro e member exchanged
  cases kind : f.kind with
  | universeOutput =>
    rw [kind] at exchanged
    have value : "universe" = e.2 := Option.some.inj exchanged
    rw [← value]
    exact legible.unexchanged kind e member value.symm
  | _ =>
    rw [kind] at exchanged
    cases exchanged

/-- Scenes, and the filters in each of them, have ids of their own. -/
structure Identified (c : CompiledShow) : Prop where
  scenes : (c.scenes.map fun s => s.scene.id).Nodup
  filters : ∀ s ∈ c.scenes, (s.filters.map Filter.id).Nodup

/-- Scenes and filters have ids of their own, and can be told. -/
structure Writable (c : CompiledShow) : Prop extends Identified c where
  legible : ∀ s ∈ c.scenes, ∀ f ∈ s.filters, Legible f

theorem Legible.turnedFilter_eq {f : Filter} (legible : Legible f) : turnedFilter f = f :=
  ShowFile.turnedFilter_eq legible.exchanged

def turnedScene (c : CompiledScene) : CompiledScene :=
  { c with filters := c.filters.map turnedFilter }

/-- A show with the configurations that are read after it was written. -/
def turnedShow (c : CompiledShow) : CompiledShow :=
  { c with scenes := c.scenes.map turnedScene }

theorem turnedScene_eq {c : CompiledScene} (legible : ∀ f ∈ c.filters, Legible f) :
    turnedScene c = c := by
  have kept : ∀ f ∈ c.filters, turnedFilter f = f := fun f held =>
    (legible f held).turnedFilter_eq
  rw [turnedScene, (List.map_congr_left kept).trans (List.map_id' _)]

theorem Writable.turnedShow_eq {c : CompiledShow} (writable : Writable c) : turnedShow c = c := by
  have kept : ∀ s ∈ c.scenes, turnedScene s = s :=
    fun s member => turnedScene_eq (writable.legible s member)
  rw [turnedShow, (List.map_congr_left kept).trans (List.map_id' _)]

theorem place_scene (d : Show) (c : CompiledScene) :
    place ⟨"scene",
      ([("id", Text.ofNat c.scene.id.toNat), ("human_readable_name", c.scene.name)] ++
      (c.scene.bankset.map fun b => ("linkedBankset", b.id)).toList).map fun a => ⟨a.1, a.2⟩⟩
      (some (.root d)) = .ok (.nested (.scene { id := c.scene.id, name := c.scene.name })) := by
  simp [place, openInShow, Element.required, Element.optional, Element.get?, Element.parse,
    Element.read]

theorem becomes_maybeBankset (s : Scene) (b : Option Bankset) :
    (Frame.scene { s with bankset := none }).Becomes ((b.map banksetTags).getD [])
      (.scene { s with bankset := b }) := by
  cases b with
  | none => exact becomes_nil _
  | some b => exact becomes_bankset { s with bankset := none } b

theorem becomes_filters (presents : Bool) {s : Scene} (unfilled : s.nodes = [])
    {fs : List Filter} (distinct : (fs.map Filter.id).Nodup)
    (wellformed : ∀ f ∈ fs, ∀ l ∈ f.links.entries, l.2.Wellformed) :
    (Frame.scene s).Becomes (fs.flatMap (filterTags presents))
      (.scene { s with
        nodes := (fs.map turnedFilter).map fun f => .ofFilter (carriedFilter presents f) }) := by
  have start : s = { s with nodes := [] } := by
    cases s
    cases unfilled
    rfl
  rw [start]
  refine becomes_flatMap (fun done => Frame.scene { s with
    nodes := (done.map turnedFilter).map fun f => .ofFilter (carriedFilter presents f) }) _ fs ?_
  intro done f later split
  have member : f ∈ fs := by simp [split]
  have unseen : f.id ∉ done.map Filter.id := by
    rw [split, List.map_append, List.map_cons, List.nodup_append] at distinct
    exact fun before => distinct.2.2 f.id before f.id List.mem_cons_self rfl
  have fresh : f.id ∉ Scene.ids { s with
      nodes := (done.map turnedFilter).map fun f => .ofFilter (carriedFilter presents f) } := by
    simpa [Scene.ids, turnedFilter, Function.comp_def] using unseen
  rw [List.map_append, List.map_append]
  exact becomes_filter presents fresh (wellformed f member)

theorem becomes_scene (presents : Bool) {d : Show} {c : CompiledScene}
    (fresh : d.scene? c.scene.id = none) (distinct : (c.filters.map Filter.id).Nodup)
    (wellformed : ∀ f ∈ c.filters, ∀ l ∈ f.links.entries, l.2.Wellformed) :
    (Frame.root d).Becomes (sceneTags presents c)
      (.root { d with scenes := d.scenes ++ [carriedScene presents (turnedScene c)] }) := by
  let empty : Scene := { id := c.scene.id, name := c.scene.name }
  let nodes := (turnedScene c).filters.map fun f => Node.ofFilter (carriedFilter presents f)
  have bankset := becomes_maybeBankset empty c.scene.bankset
  have filters := becomes_filters presents (s := { empty with bankset := c.scene.bankset }) rfl
    distinct wellformed
  have pages : (Frame.scene { empty with bankset := c.scene.bankset, nodes }).Becomes
      (if presents then c.scene.filterPages.flatMap filterPageTags ++
        c.scene.uiPages.flatMap uiPageTags else [])
      (.scene (carriedScene presents (turnedScene c))) := by
    cases presents with
    | false => exact becomes_nil _
    | true =>
      have filterPages := becomes_flatMap
        (fun done => Frame.scene
          { empty with bankset := c.scene.bankset, nodes, filterPages := done })
        filterPageTags c.scene.filterPages
        fun done p _ _ => becomes_filterPage _ p
      have uiPages := becomes_flatMap
        (fun done => Frame.scene { empty with
          bankset := c.scene.bankset
          nodes
          filterPages := c.scene.filterPages
          uiPages := done })
        uiPageTags c.scene.uiPages
        fun done p _ _ => becomes_uiPage _ p
      exact filterPages.append uiPages
  have filled := bankset.append (filters.append pages)
  have attached : attach (.scene (carriedScene presents (turnedScene c))) (.root d) =
      .ok (.root { d with scenes := d.scenes ++ [carriedScene presents (turnedScene c)] }) := by
    have unknown : d.scene? (carriedScene presents (turnedScene c)).id = none := fresh
    simp [attach, unknown]
  exact becomes_element (place_scene d c) filled rfl attached

theorem becomes_scenes (presents : Bool) {d : Show} (unfilled : d.scenes = [])
    {scenes : List CompiledScene} (ids : (scenes.map fun c => c.scene.id).Nodup)
    (distinct : ∀ c ∈ scenes, (c.filters.map Filter.id).Nodup)
    (wellformed : ∀ c ∈ scenes, ∀ f ∈ c.filters, ∀ l ∈ f.links.entries,
      l.2.Wellformed) :
    (Frame.root d).Becomes (scenes.flatMap (sceneTags presents))
      (.root { d with scenes := (scenes.map turnedScene).map (carriedScene presents) }) := by
  have start : d = { d with scenes := [] } := by
    cases d
    cases unfilled
    rfl
  rw [start]
  refine becomes_flatMap (fun done => Frame.root
    { d with scenes := (done.map turnedScene).map (carriedScene presents) }) _ scenes ?_
  intro done s later split
  have member : s ∈ scenes := by simp [split]
  have unseen : ∀ t ∈ done, t.scene.id ≠ s.scene.id := by
    rw [split, List.map_append, List.map_cons, List.nodup_append] at ids
    exact fun t before =>
      ids.2.2 t.scene.id (List.mem_map_of_mem before) s.scene.id List.mem_cons_self
  have fresh : Show.scene? { d with
      scenes := (done.map turnedScene).map (carriedScene presents) } s.scene.id = none := by
    rw [Show.scene?, List.find?_eq_none, List.map_map]
    intro t' listed same
    obtain ⟨t, before, rfl⟩ := List.mem_map.mp listed
    exact unseen t before (of_decide_eq_true same)
  have step := becomes_scene presents fresh (distinct s member) (wellformed s member)
  rw [List.map_append, List.map_append]
  exact step

theorem becomes_presentation (d from_ : Show) :
    (Frame.root
      { d with devices := [], uiHints := ∅, commands := [], eventSenders := [] }).Becomes
      (presentationTags from_)
      (.root { d with
        devices := from_.devices
        uiHints := from_.uiHints
        commands := from_.commands
        eventSenders := from_.eventSenders }) := by
  have devices := becomes_flatMap
    (fun done => Frame.root
      { d with devices := done, uiHints := ∅, commands := [], eventSenders := [] })
    deviceTags from_.devices
    fun done v _ _ => becomes_device _ v
  have uiHints := becomes_entries "uihint"
    (fun uiHints => Frame.root
      { d with devices := from_.devices, uiHints, commands := [], eventSenders := [] })
    (fun m k v => by simp only [place, openInShow, readEntry_entry, ok_bind]; rfl)
    from_.uiHints
  have commands := becomes_map
    (fun done => Frame.root { d with
      devices := from_.devices
      uiHints := from_.uiHints
      commands := done
      eventSenders := [] })
    commandTag from_.commands
    fun done c _ => becomes_command _ c
  have senders := becomes_flatMap
    (fun done => Frame.root { d with
      devices := from_.devices
      uiHints := from_.uiHints
      commands := from_.commands
      eventSenders := done })
    senderTags from_.eventSenders
    fun done s _ _ => becomes_sender _ s
  exact devices.append (uiHints.append (commands.append senders))

section

variable {c : CompiledShow}

theorem becomes_show (identified : Identified c)
    (wellformed : ∀ s ∈ c.scenes, ∀ f ∈ s.filters, ∀ l ∈ f.links.entries,
      l.2.Wellformed) :
    (Frame.root { name := c.document.name, notes := c.document.notes,
                  activeScene := c.document.activeScene }).Becomes
      (c.scenes.flatMap (sceneTags c.mode.presents) ++
        (c.document.universes.flatMap universeTags ++
          if c.mode.presents then presentationTags c.document else []))
      (.root (carried (turnedShow c))) := by
  let empty : Show :=
    { name := c.document.name, notes := c.document.notes, activeScene := c.document.activeScene }
  let read := (c.scenes.map turnedScene).map (carriedScene c.mode.presents)
  have scenes := becomes_scenes c.mode.presents (d := empty) rfl identified.scenes
    identified.filters wellformed
  have universes := becomes_flatMap
    (fun done => Frame.root { empty with scenes := read, universes := done })
    universeTags c.document.universes
    fun done u _ _ => becomes_universe _ u
  have presentation : (Frame.root { empty with
      scenes := read
      universes := c.document.universes }).Becomes
      (if c.mode.presents then presentationTags c.document else [])
      (.root (carried (turnedShow c))) := by
    unfold carried turnedShow read
    cases c.mode.presents with
    | false => exact becomes_nil _
    | true =>
      exact becomes_presentation { empty with
        scenes := (c.scenes.map turnedScene).map (carriedScene true)
        universes := c.document.universes } c.document
  exact scenes.append (universes.append presentation)

theorem start_show (c : CompiledShow) (schema : Schema) :
    Progress.start {} ⟨"showfile", [("show_name", c.document.name),
      ("default_active_scene", Text.ofNat c.document.activeScene.toNat),
      ("notes", c.document.notes), ("xmlns", schema.namespaceName),
      ("xmlns:xsi", "http://www.w3.org/2001/XMLSchema-instance"),
      ("xsi:schemaLocation", schema.location)].map fun a => ⟨a.1, a.2⟩⟩ =
      .answer ⟨[.root { name := c.document.name, notes := c.document.notes,
                        activeScene := c.document.activeScene }], none⟩ := by
  simp [Progress.start, place, openShow, Element.optional, Element.get?, Element.parseOr,
    Element.read]

theorem run_showTags (schema : Schema) (identified : Identified c)
    (wellformed : ∀ s ∈ c.scenes, ∀ f ∈ s.filters, ∀ l ∈ f.links.entries,
      l.2.Wellformed) :
    (Progress.run {} (showTags schema c)).outcome =
      .ok ⟨[], some (carried (turnedShow c))⟩ := by
  have filled := becomes_show identified wellformed [] none
  rw [showTags, element, List.cons_append, Progress.run]
  simp only [Progress.step, start_show, Run.bind_eq, Run.answer_bind]
  rw [Progress.run_append, Run.bind_of_ok filled]
  rfl

theorem scan_showTags (m : Codec) (width : Option Nat) (schema : Schema) (c : CompiledShow) :
    m.scan (m.render width (showTags schema c)) = ⟨showTags schema c, none⟩ :=
  m.scan_render _ (balanced_show schema c).nested width

theorem read_text_eq (settings : Settings) (c : CompiledShow) :
    read (text settings c) = readTags ⟨showTags settings.schema c, none⟩ :=
  congrArg readTags (scan_showTags codec settings.indent settings.schema c)

theorem read_text_turned (settings : Settings) (identified : Identified c)
    (wellformed : ∀ s ∈ c.scenes, ∀ f ∈ s.filters, ∀ l ∈ f.links.entries,
      l.2.Wellformed) :
    (read (text settings c)).outcome = .ok (carried (turnedShow c)) := by
  have built := run_showTags settings.schema identified wellformed
  rw [read_text_eq, readTags]
  simp only [Run.bind_eq]
  rw [Run.bind_of_ok built]

theorem read_text (settings : Settings) (writable : Writable c) :
    (read (text settings c)).outcome = .ok (carried c) := by
  have read := read_text_turned settings writable.toIdentified
    fun s member f held => (writable.legible s member f held).wellformed
  rwa [writable.turnedShow_eq] at read

end

/-- What is written for a show, with any indentation and schema, is read back. -/
theorem read_write (settings : Settings) (c : CompiledShow) (writable : Writable c) :
    ∃ written, (write settings c).outcome = .ok written ∧
      (read written).outcome = .ok (carried c) :=
  ⟨text settings c, rfl, read_text settings writable⟩

def oneChannel : CompiledShow where
  mode := .authoring
  document := {
    name := "<One> & \"only\""
    activeScene := 7
    universes := [{
      id := 1
      name := "Front"
      description := ""
      location := .artnet "10.0.0.1" 6454 0
      patches := [⟨1, "dimmer.xml", "8bit"⟩] }] }
  scenes := [{
    scene := { id := 7, name := "Main" }
    filters := [
      { id := "c", kind := .constant .byte, position := ⟨-3, 40⟩ },
      { id := "u", kind := .universeOutput,
        links := .ofList [("1", ⟨"c", "value"⟩)],
        configuration := .ofList [("universe", "1"), ("1", "0")] }] }]

theorem read_write_one_channel :
    Writable oneChannel ∧ ∃ written, (write {} oneChannel).outcome = .ok written ∧
      (read written).outcome = .ok (carried oneChannel) := by
  have legible : ∀ s ∈ oneChannel.scenes, ∀ f ∈ s.filters, Legible f := by
    intro s member f listed
    obtain rfl := List.mem_singleton.mp member
    rcases List.mem_cons.mp listed with rfl | listed
    · exact ⟨by decide +kernel, by decide +kernel⟩
    · obtain rfl := List.mem_singleton.mp listed
      exact ⟨by decide +kernel, by decide +kernel⟩
  have writable : Writable oneChannel :=
    ⟨⟨by decide +kernel, by decide +kernel⟩, legible⟩
  exact ⟨writable, read_write {} oneChannel writable⟩

end LightShow.ShowFile
