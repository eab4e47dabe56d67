import LightShow.Proofs.Building
import LightShow.Proofs.Outcome

/-!
Every kind of element as it is written, and what it makes of the element around it.
-/

namespace LightShow.ShowFile

open Xml OrderedMap Outcome ShowFile.Frame

attribute [local simp] Element.get? Element.required Element.optional Element.read Element.parse
  Element.parseOr

/-- A filter as a file holds it: its place on the canvas is written for authoring only. -/
def carriedFilter (presents : Bool) (f : Filter) : Filter :=
  if presents then f else { f with position := .origin }

@[simp] theorem id_carriedFilter (presents : Bool) (f : Filter) :
    (carriedFilter presents f).id = f.id := by
  cases presents <;> rfl

/-- An entry of a configuration as it is read after it was written. The value alone tells a reader
    whether the two were exchanged. -/
def turnedEntry (k : Kind) (e : String × String) : String × String :=
  if k.exchangedKey? = some e.2 then (e.2, e.1) else e

def turnedFilter (f : Filter) : Filter :=
  { f with configuration := .ofList (f.configuration.entries.map (turnedEntry f.kind)) }

theorem turnedEntry_eq {k : Kind} {e : String × String}
    (unexchanged : k.exchangedKey? = some e.2 → e.1 = e.2) : turnedEntry k e = e := by
  unfold turnedEntry
  split
  · rename_i exchanged
    have same := unexchanged exchanged
    exact Prod.ext same.symm same
  · rfl

theorem turnedFilter_eq {f : Filter}
    (unexchanged : ∀ e ∈ f.configuration.entries,
      f.kind.exchangedKey? = some e.2 → e.1 = e.2) :
    turnedFilter f = f := by
  have kept : ∀ e ∈ f.configuration.entries, turnedEntry f.kind e = e :=
    fun e member => turnedEntry_eq (unexchanged e member)
  rw [turnedFilter, (List.map_congr_left kept).trans (List.map_id' _), ofList_entries]

section

variable (name k v : String)

theorem readEntry_entry (m : OrderedMap String String) :
    readEntry ⟨name, [("name", k), ("value", v)].map fun a => ⟨a.1, a.2⟩⟩ m =
      .ok (m.insert k v) := by
  simp [readEntry]

end

theorem becomes_column (columns : List Column) (c : Column) :
    (Frame.bank columns).Becomes [columnTag c] (.bank (columns ++ [c])) := by
  refine becomes_absorbed ?_
  simp [place, openInBank, readColumn, ColumnKind.ofString?_text]

theorem becomes_bank (b : Bankset) (done : List (List Column)) (columns : List Column) :
    (Frame.bankset { b with banks := done }).Becomes
      (element "bank" [] (columns.map columnTag))
      (.bankset { b with banks := done ++ [columns] }) := by
  have filled : (Frame.bank []).Becomes (columns.map columnTag) (.bank columns) :=
    becomes_map Frame.bank columnTag columns fun done c _ => becomes_column done c
  exact becomes_element rfl filled rfl rfl

theorem becomes_bankset (s : Scene) (b : Bankset) :
    (Frame.scene s).Becomes (banksetTags b) (.scene { s with bankset := some b }) := by
  have filled : (Frame.bankset { b with banks := [] }).Becomes
      (b.banks.flatMap fun bank => element "bank" [] (bank.map columnTag)) (.bankset b) :=
    becomes_flatMap (fun done => Frame.bankset { b with banks := done }) _ b.banks
      fun done columns _ _ => becomes_bank b done columns
  refine becomes_element ?_ filled rfl rfl
  simp [place, openInScene]

section

variable (f : Filter)

theorem becomes_link (done : List (String × OutputRef)) (input : String) {source : OutputRef}
    (wellformed : source.Wellformed) :
    (Frame.filter { f with links := ofList done }).Becomes [linkTag input source]
      (.filter { f with links := ofList (done ++ [(input, source)]) }) := by
  refine becomes_absorbed ?_
  simp [place, openInFilter, readLink, OutputRef.ofString, OutputRef.ofString?_text wellformed,
    Filter.withLink, ofList_concat, Except.mapError]

theorem becomes_parameter (done : List (String × String)) (key value : String) :
    (Frame.filter { f with parameters := ofList done }).Becomes
      [leaf "initialParameters" [("name", key), ("value", value)]]
      (.filter { f with parameters := ofList (done ++ [(key, value)]) }) := by
  refine becomes_absorbed ?_
  simp [place, openInFilter, readParameter, Filter.withParameter, ofList_concat]

theorem becomes_configuration (done : List (String × String)) (e : String × String) :
    (Frame.filter { f with configuration := ofList done }).Becomes
      [configurationTag f.kind e.1 e.2]
      (.filter { f with configuration := ofList (done ++ [turnedEntry f.kind e]) }) := by
  obtain ⟨key, value⟩ := e
  unfold configurationTag
  by_cases exchanged : f.kind.exchangedKey? = some key
  · have kept : turnedEntry f.kind (key, value) = (key, value) :=
      turnedEntry_eq fun again => Option.some.inj (exchanged.symm.trans again)
    rw [if_pos exchanged, kept]
    refine becomes_absorbed ?_
    simp [place, openInFilter, readConfiguration, Filter.withConfiguration, ofList_concat,
      exchanged]
  · rw [if_neg exchanged]
    refine becomes_absorbed ?_
    by_cases looks : f.kind.exchangedKey? = some value
    · simp [place, openInFilter, readConfiguration, Filter.withConfiguration, ofList_concat,
        turnedEntry, looks]
    · simp [place, openInFilter, readConfiguration, Filter.withConfiguration, ofList_concat,
        turnedEntry, looks]

end

section

variable {f : Filter}

theorem becomes_links (base : Filter) (unlinked : base.links = ∅)
    {links : List (String × OutputRef)} (wellformed : ∀ l ∈ links, l.2.Wellformed) :
    (Frame.filter base).Becomes (links.map fun l => linkTag l.1 l.2)
      (.filter { base with links := ofList links }) := by
  have start : base = { base with links := ofList [] } := by
    cases base
    cases unlinked
    rfl
  rw [start]
  exact becomes_map (fun done => Frame.filter { base with links := ofList done })
    (fun l => linkTag l.1 l.2) links
    fun done l member => becomes_link base done l.1 (wellformed l member)

theorem becomes_filterContent (wellformed : ∀ l ∈ f.links.entries, l.2.Wellformed) :
    (Frame.filter { id := f.id, kind := f.kind, position := f.position }).Becomes
      (filterContent f) (.filter (turnedFilter f)) := by
  let base : Filter := { id := f.id, kind := f.kind, position := f.position }
  have links : (Frame.filter base).Becomes (f.links.entries.map fun l => linkTag l.1 l.2)
      (.filter { base with links := f.links }) := by
    have filled := becomes_links base rfl wellformed
    rwa [ofList_entries] at filled
  have parameters : (Frame.filter { base with links := f.links }).Becomes
      (entries "initialParameters" f.parameters)
      (.filter { base with links := f.links, parameters := f.parameters }) := by
    have filled := becomes_map
      (fun done => Frame.filter { base with links := f.links, parameters := ofList done })
      (fun e => leaf "initialParameters" [("name", e.1), ("value", e.2)]) f.parameters.entries
      fun done e _ => becomes_parameter { base with links := f.links } done e.1 e.2
    rwa [ofList_entries] at filled
  have configuration :
      (Frame.filter { base with links := f.links, parameters := f.parameters }).Becomes
        (f.configuration.entries.map fun c => configurationTag f.kind c.1 c.2)
        (.filter (turnedFilter f)) := by
    refine becomes_map (fun done => Frame.filter
        { base with
          links := f.links
          parameters := f.parameters
          configuration := ofList (done.map (turnedEntry f.kind)) })
      (fun c => configurationTag f.kind c.1 c.2) f.configuration.entries ?_
    intro done e _
    rw [List.map_append]
    exact becomes_configuration { base with links := f.links, parameters := f.parameters }
      (done.map (turnedEntry f.kind)) e
  exact links.append (parameters.append configuration)

theorem readFilter_filter (presents : Bool) :
    readFilter ⟨"filter", ([("id", f.id), ("type", f.kind.tag)] ++
        if presents then [("pos", positionText f.position)] else []).map
          fun a => ⟨a.1, a.2⟩⟩ =
      .ok { id := f.id, kind := f.kind, position := (carriedFilter presents f).position } := by
  cases presents with
  | true =>
    simp [readFilter, Kind.ofTag, Kind.ofTag?_tag, Except.mapError, carriedFilter]
  | false =>
    simp [readFilter, Kind.ofTag, Kind.ofTag?_tag, Except.mapError, carriedFilter]

theorem place_filter (presents : Bool) (s : Scene) :
    place ⟨"filter", ([("id", f.id), ("type", f.kind.tag)] ++
      if presents then [("pos", positionText f.position)] else []).map fun a => ⟨a.1, a.2⟩⟩
      (some (.scene s)) = .ok (.nested (.filter
        { id := f.id, kind := f.kind, position := (carriedFilter presents f).position })) := by
  simp only [place, openInScene, readFilter_filter]
  rfl

theorem becomes_filter (presents : Bool) {s : Scene} (fresh : f.id ∉ s.ids)
    (wellformed : ∀ l ∈ f.links.entries, l.2.Wellformed) :
    (Frame.scene s).Becomes (filterTags presents f)
      (.scene { s with nodes := s.nodes ++
        [.ofFilter (carriedFilter presents (turnedFilter f))] }) := by
  have opened := place_filter (f := f) presents s
  have filled : (Frame.filter
      { id := f.id, kind := f.kind, position := (carriedFilter presents f).position }).Becomes
      (filterContent f) (.filter (carriedFilter presents (turnedFilter f))) := by
    cases presents with
    | true => exact becomes_filterContent wellformed
    | false => exact becomes_filterContent (f := { f with position := .origin }) wellformed
  have unseen : (turnedFilter f).id ∉ s.ids := fresh
  have attached : attach (.filter (carriedFilter presents (turnedFilter f))) (.scene s) =
      .ok (.scene { s with nodes := s.nodes ++
        [.ofFilter (carriedFilter presents (turnedFilter f))] }) := by
    simp [attach, Scene.addFilter, Scene.add, unseen, Except.mapError, Except.map]
  unfold filterTags
  cases content : filterContent f with
  | nil =>
    rw [content] at filled
    rw [eq_of_becomes_nil filled] at opened
    exact becomes_leaf opened rfl attached
  | cons event rest =>
    rw [content] at filled
    exact becomes_element opened filled rfl attached

end

theorem becomes_filterPage (s : Scene) (p : FilterPage) :
    (Frame.scene s).Becomes (filterPageTags p)
      (.scene { s with filterPages := s.filterPages ++ [p] }) := by
  have reference : ∀ done id, (Frame.filterPage { p with filterIds := done }).Becomes
      [leaf "filterref" [("id", id)]] (.filterPage { p with filterIds := done ++ [id] }) := by
    intro done id
    refine becomes_absorbed ?_
    simp [place, openInFilterPage]
  have filled : (Frame.filterPage { p with filterIds := [] }).Becomes
      (p.filterIds.map fun id => leaf "filterref" [("id", id)]) (.filterPage p) :=
    becomes_map (fun done => Frame.filterPage { p with filterIds := done }) _ p.filterIds
      fun done id _ => reference done id
  refine becomes_element ?_ filled rfl rfl
  cases parent : p.parent <;> simp [place, openInScene]

theorem becomes_entries (name : String) (frame : OrderedMap String String → Frame)
    (place_entry : ∀ m k v,
      place ⟨name, [("name", k), ("value", v)].map fun a => ⟨a.1, a.2⟩⟩
      (some (frame m)) = .ok (.absorbed (frame (m.insert k v))))
    (m : OrderedMap String String) : (frame ∅).Becomes (entries name m) (frame m) := by
  have filled := becomes_map (fun done => frame (ofList done))
    (fun e => leaf name [("name", e.1), ("value", e.2)]) m.entries fun done e _ => by
      rw [ofList_concat]
      exact becomes_absorbed (place_entry (ofList done) e.1 e.2)
  rwa [ofList_entries] at filled

theorem becomes_widget (p : UiPage) (w : Widget) :
    (Frame.uiPage p).Becomes (widgetTags w) (.uiPage { p with widgets := p.widgets ++ [w] }) := by
  have filled := becomes_entries "configuration"
    (fun configuration => Frame.widget { w with configuration })
    (fun m k v => by simp only [place, openInWidget, readEntry_entry, ok_bind]; rfl)
    w.configuration
  refine becomes_element ?_ filled rfl rfl
  simp [place, openInUiPage, readWidget]

theorem becomes_uiPage (s : Scene) (p : UiPage) :
    (Frame.scene s).Becomes (uiPageTags p) (.scene { s with uiPages := s.uiPages ++ [p] }) := by
  have filled : (Frame.uiPage { p with widgets := [] }).Becomes (p.widgets.flatMap widgetTags)
      (.uiPage p) :=
    becomes_flatMap (fun done => Frame.uiPage { p with widgets := done }) widgetTags p.widgets
      fun done w _ _ => becomes_widget { p with widgets := done } w
  refine becomes_element ?_ filled rfl rfl
  simp [place, openInScene]

theorem becomes_location (u : OpenUniverse) (l : Location) :
    (Frame.openUniverse u).Becomes [locationTag l]
      (.openUniverse { u with location := some l }) := by
  cases l with
  | artnet ipAddress udpPort deviceUniverse =>
    refine becomes_absorbed ?_
    simp [place, openInUniverse, readArtnet]
  | usb vendor product deviceName serial =>
    refine becomes_absorbed ?_
    simp [place, openInUniverse, readUsb]
  | physical port =>
    refine becomes_absorbed ?_
    simp [place, openInUniverse, readPhysical]

theorem becomes_patch (u : OpenUniverse) (p : Patch) :
    (Frame.openUniverse u).Becomes [patchTag p]
      (.openUniverse { u with patches := u.patches ++ [p] }) := by
  refine becomes_absorbed ?_
  simp [place, openInUniverse, readPatch]

theorem becomes_universe (d : Show) (u : Universe) :
    (Frame.root d).Becomes (universeTags u)
      (.root { d with universes := d.universes ++ [u] }) := by
  let opened : OpenUniverse := { id := u.id, name := u.name, description := u.description }
  have patched : (Frame.openUniverse { opened with location := some u.location }).Becomes
      (u.patches.map patchTag)
      (.openUniverse { opened with location := some u.location, patches := u.patches }) :=
    becomes_map
      (fun done => Frame.openUniverse
        { opened with location := some u.location, patches := done })
      patchTag u.patches
      fun done p _ => becomes_patch
        { opened with location := some u.location, patches := done } p
  have filled := (becomes_location opened u.location).append patched
  refine becomes_element ?_ filled rfl rfl
  simp [place, openInShow, opened]

theorem becomes_device (d : Show) (v : Device) :
    (Frame.root d).Becomes (deviceTags v) (.root { d with devices := d.devices ++ [v] }) := by
  have filled := becomes_entries "attribute"
    (fun attributes => Frame.device { v with attributes })
    (fun m k v => by simp only [place, openInDevice, readEntry_entry, ok_bind]; rfl)
    v.attributes
  refine becomes_element ?_ filled rfl rfl
  simp [place, openInShow]

theorem becomes_command (d : Show) (c : Command) :
    (Frame.root d).Becomes [commandTag c] (.root { d with commands := d.commands ++ [c] }) := by
  refine becomes_absorbed ?_
  simp [place, openInShow]

theorem becomes_sender (d : Show) (s : EventSender) :
    (Frame.root d).Becomes (senderTags s)
      (.root { d with eventSenders := d.eventSenders ++ [s] }) := by
  have filled := becomes_entries "configuration"
    (fun configuration => Frame.eventSender { s with configuration })
    (fun m k v => by simp only [place, openInSender, readEntry_entry, ok_bind]; rfl)
    s.configuration
  refine becomes_element ?_ filled rfl rfl
  simp [place, openInShow]

end LightShow.ShowFile
