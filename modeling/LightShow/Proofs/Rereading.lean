import LightShow.Proofs.RoundTrip

/-!
What becomes of references in a file. They stand there as text and are cut at the first colon
when the file is read, so another reference may come back, or none and the file is refused.
-/

namespace LightShow

open OrderedMap

/-- The reference that is read from the text of this one, where there is one. -/
def OutputRef.reread (r : OutputRef) : OutputRef := (ofString? r.text).getD r

/-- The text of every reference of the filter can be read. -/
def Filter.Tells (f : Filter) : Prop :=
  ∀ l ∈ f.links.entries, (OutputRef.ofString? l.2.text).isSome

def Filter.reread (f : Filter) : Filter :=
  { f with links := .ofList (f.links.entries.map fun l => (l.1, l.2.reread)) }

def CompiledScene.Tells (c : CompiledScene) : Prop := ∀ f ∈ c.filters, f.Tells

def CompiledScene.reread (c : CompiledScene) : CompiledScene :=
  { c with filters := c.filters.map Filter.reread }

def CompiledShow.reread (c : CompiledShow) : CompiledShow :=
  { c with scenes := c.scenes.map CompiledScene.reread }

theorem OutputRef.reread_eq {r found : OutputRef} (told : ofString? r.text = some found) :
    r.reread = found := by
  rw [reread, told]
  rfl

theorem OutputRef.wellformed_reread {r : OutputRef} (told : (ofString? r.text).isSome) :
    r.reread.Wellformed ∧ r.reread.text = r.text := by
  obtain ⟨found, told⟩ := Option.isSome_iff_exists.mp told
  rw [reread_eq told]
  exact wellformed_of_ofString? told

theorem Filter.links_reread (f : Filter) :
    f.reread.links.entries = f.links.entries.map fun l => (l.1, l.2.reread) := by
  refine entries_ofList ?_
  rw [List.map_map]
  exact f.links.distinct

theorem Filter.wellformed_reread {f : Filter} (tells : f.Tells) :
    ∀ l ∈ f.reread.links.entries, l.2.Wellformed := by
  intro l linked
  rw [links_reread] at linked
  obtain ⟨written, stands, rfl⟩ := List.mem_map.mp linked
  exact (OutputRef.wellformed_reread (tells written stands)).1

namespace ShowFile

open Xml Outcome ShowFile.Frame

theorem linkTags_reread {links : List (String × OutputRef)}
    (tell : ∀ l ∈ links, (OutputRef.ofString? l.2.text).isSome) :
    (links.map fun l => (l.1, l.2.reread)).map (fun l => linkTag l.1 l.2) =
      links.map fun l => linkTag l.1 l.2 := by
  rw [List.map_map]
  refine List.map_congr_left fun l linked => ?_
  simp only [Function.comp_apply, linkTag, (OutputRef.wellformed_reread (tell l linked)).2]

theorem filterTags_reread (presents : Bool) {f : Filter} (tells : f.Tells) :
    filterTags presents f.reread = filterTags presents f := by
  have content : filterContent f.reread = filterContent f := by
    simp only [filterContent, f.links_reread, linkTags_reread tells]
    rfl
  unfold filterTags
  rw [content]
  rfl

theorem filtersTags_reread (presents : Bool) {fs : List Filter} (tell : ∀ f ∈ fs, f.Tells) :
    (fs.map Filter.reread).flatMap (filterTags presents) = fs.flatMap (filterTags presents) := by
  rw [List.flatMap_map]
  exact List.flatMap_congr fun f member => filterTags_reread presents (tell f member)

theorem sceneTags_reread (presents : Bool) {c : CompiledScene} (tells : c.Tells) :
    sceneTags presents c.reread = sceneTags presents c := by
  have filters : c.reread.filters.flatMap (filterTags presents) =
      c.filters.flatMap (filterTags presents) := filtersTags_reread presents tells
  simp only [sceneTags, filters]
  rfl

theorem scenesTags_reread (presents : Bool) {scenes : List CompiledScene}
    (tell : ∀ s ∈ scenes, s.Tells) :
    (scenes.map CompiledScene.reread).flatMap (sceneTags presents) =
      scenes.flatMap (sceneTags presents) := by
  rw [List.flatMap_map]
  exact List.flatMap_congr fun s member => sceneTags_reread presents (tell s member)

theorem showTags_reread (schema : Schema) {c : CompiledShow} (tell : ∀ s ∈ c.scenes, s.Tells) :
    showTags schema c.reread = showTags schema c := by
  simp only [showTags]
  rw [← scenesTags_reread c.mode.presents tell]
  rfl

theorem fails_link (f : Filter) (input : String) {source : OutputRef}
    (untold : OutputRef.ofString? source.text = none) :
    (Frame.filter f).Fails [linkTag input source] := by
  refine fails_leaf (e := .reference ⟨source.text⟩) ?_
  have refused : OutputRef.ofString source.text = .error ⟨source.text⟩ := by
    rw [OutputRef.ofString, untold]
  simp [place, openInFilter, readLink, Element.required, Element.get?, refused, Except.mapError]
  rfl

theorem fails_links (base : Filter) (unlinked : base.links = ∅)
    {links : List (String × OutputRef)}
    (bad : ∃ l ∈ links, ¬ (OutputRef.ofString? l.2.text).isSome) :
    (Frame.filter base).Fails (links.map fun l => linkTag l.1 l.2) := by
  rw [List.map_eq_flatMap]
  refine fails_flatMap bad ?_
  intro done l before tell untold
  have wellformed : ∀ m ∈ done.map fun l => (l.1, l.2.reread), m.2.Wellformed := by
    intro m member
    obtain ⟨written, stands, rfl⟩ := List.mem_map.mp member
    exact (OutputRef.wellformed_reread (tell written stands)).1
  have becomes := becomes_links base unlinked wellformed
  rw [linkTags_reread tell, List.map_eq_flatMap] at becomes
  exact ⟨_, becomes, fails_link _ l.1 (by simpa using untold)⟩

theorem fails_filter (presents : Bool) (s : Scene) {f : Filter} (untold : ¬ f.Tells) :
    (Frame.scene s).Fails (filterTags presents f) := by
  have bad : ∃ l ∈ f.links.entries, ¬ (OutputRef.ofString? l.2.text).isSome := by
    simpa [Filter.Tells] using untold
  have fails : ∀ base : Filter, base.links = ∅ →
      (Frame.filter base).Fails (filterContent f) :=
    fun base unlinked => (fails_links base unlinked bad).append _
  unfold filterTags
  cases content : filterContent f with
  | nil =>
    obtain ⟨l, linked, -⟩ := bad
    have tag : linkTag l.1 l.2 ∈ filterContent f :=
      List.mem_append_left _ (List.mem_map_of_mem (f := fun l => linkTag l.1 l.2) linked)
    rw [content] at tag
    cases tag
  | cons event rest =>
    rw [content] at fails
    exact fails_element (place_filter presents s) (fails _ rfl)

theorem fails_scene (presents : Bool) (d : Show) {c : CompiledScene}
    (distinct : (c.filters.map Filter.id).Nodup) (untold : ¬ c.Tells) :
    (Frame.root d).Fails (sceneTags presents c) := by
  have bad : ∃ f ∈ c.filters, ¬ f.Tells := by simpa [CompiledScene.Tells] using untold
  let opened : Scene := { id := c.scene.id, name := c.scene.name, bankset := c.scene.bankset }
  have fails : (Frame.scene opened).Fails (c.filters.flatMap (filterTags presents)) := by
    refine fails_flatMap bad ?_
    intro done f before tell untold
    have apart : ((done.map Filter.reread).map Filter.id).Nodup := by
      rw [List.map_map]
      exact distinct.sublist (((List.prefix_append done [f]).trans before).sublist.map Filter.id)
    have becomes := becomes_filters presents (s := opened) rfl apart
      (List.forall_mem_map.mpr fun g stands => Filter.wellformed_reread (tell g stands))
    rw [filtersTags_reread presents tell] at becomes
    exact ⟨_, becomes, fails_filter presents _ untold⟩
  have bankset := becomes_maybeBankset { id := c.scene.id, name := c.scene.name } c.scene.bankset
  exact fails_element (place_scene d c) (bankset.fails (fails.append _))

section

variable {c : CompiledShow}

/-- What a compiled show needs for being written whatever its references are. -/
structure Nameable (c : CompiledShow) : Prop extends Identified c where
  unexchanged : ∀ s ∈ c.scenes, ∀ f ∈ s.filters, f.kind = .universeOutput →
    ∀ e ∈ f.configuration.entries, e.2 = "universe" → e.1 = "universe"

theorem Identified.reread (identified : Identified c) : Identified c.reread where
  scenes := by
    rw [CompiledShow.reread, List.map_map]
    exact identified.scenes
  filters := by
    intro s' among
    obtain ⟨s, member, rfl⟩ := List.mem_map.mp among
    rw [CompiledScene.reread, List.map_map]
    exact identified.filters s member

theorem wellformed_reread {scenes : List CompiledScene} (tell : ∀ s ∈ scenes, s.Tells) :
    ∀ s ∈ scenes.map CompiledScene.reread, ∀ f ∈ s.filters, ∀ l ∈ f.links.entries,
      l.2.Wellformed := by
  intro s' among f' inside
  obtain ⟨s, member, rfl⟩ := List.mem_map.mp among
  obtain ⟨f, held, rfl⟩ := List.mem_map.mp inside
  exact Filter.wellformed_reread (tell s member f held)

theorem Nameable.writable_reread (nameable : Nameable c) (tell : ∀ s ∈ c.scenes, s.Tells) :
    Writable c.reread where
  toIdentified := nameable.toIdentified.reread
  legible := by
    intro s' among f' inside
    refine ⟨wellformed_reread tell s' among f' inside, ?_⟩
    obtain ⟨s, member, rfl⟩ := List.mem_map.mp among
    obtain ⟨f, held, rfl⟩ := List.mem_map.mp inside
    exact nameable.unexchanged s member f held

theorem text_reread (settings : Settings) (tell : ∀ s ∈ c.scenes, s.Tells) :
    text settings c.reread = text settings c := by
  simp only [text, showTags_reread settings.schema tell]

theorem read_text_of_tells (settings : Settings) (nameable : Nameable c)
    (tell : ∀ s ∈ c.scenes, s.Tells) :
    (read (text settings c)).outcome = .ok (carried c.reread) := by
  rw [← text_reread settings tell]
  exact read_text settings (nameable.writable_reread tell)

theorem read_text_turned_of_tells (settings : Settings) (identified : Identified c)
    (tell : ∀ s ∈ c.scenes, s.Tells) :
    (read (text settings c)).outcome = .ok (carried (turnedShow c.reread)) := by
  rw [← text_reread settings tell]
  exact read_text_turned settings identified.reread (wellformed_reread tell)

theorem read_text_fails (settings : Settings) (identified : Identified c)
    (untold : ∃ s ∈ c.scenes, ¬ s.Tells) :
    ∃ e, (read (text settings c)).outcome = .error e := by
  let opened : Show :=
    { name := c.document.name, notes := c.document.notes, activeScene := c.document.activeScene }
  have fails : (Frame.root opened).Fails (c.scenes.flatMap (sceneTags c.mode.presents)) := by
    refine fails_flatMap untold ?_
    intro done s before tell untold
    have here : s ∈ c.scenes := before.subset (List.mem_append_right _ List.mem_cons_self)
    have within : done.Sublist c.scenes := ((List.prefix_append done [s]).trans before).sublist
    have first : Identified { c with scenes := done } :=
      ⟨identified.scenes.sublist (within.map _), fun t member =>
        identified.filters t (within.subset member)⟩
    have becomes := becomes_scenes c.mode.presents (d := opened) rfl first.reread.scenes
      first.reread.filters (wellformed_reread tell)
    rw [CompiledShow.reread, scenesTags_reread c.mode.presents tell] at becomes
    exact ⟨_, becomes, fails_scene _ _ (identified.filters s here) untold⟩
  have failed : ∃ e, (Progress.run {} (showTags settings.schema c)).outcome = .error e := by
    rw [showTags, element, List.cons_append, Progress.run]
    simp only [Progress.step, start_show, Run.bind_eq, Run.answer_bind]
    exact (fails.append _).append _ [] none
  obtain ⟨e, failed⟩ := failed
  refine ⟨e, ?_⟩
  rw [read_text_eq, readTags]
  simp only [Run.bind_eq]
  rw [Run.bind_of_error failed]

theorem read_text_eq_ok_iff (settings : Settings) (identified : Identified c) {d : Show} :
    (read (text settings c)).outcome = .ok d ↔
      (∀ s ∈ c.scenes, s.Tells) ∧ d = carried (turnedShow c.reread) := by
  constructor
  · intro accepted
    have tell : ∀ s ∈ c.scenes, s.Tells := by
      by_contra untold
      obtain ⟨e, failed⟩ := read_text_fails settings identified (by simpa using untold)
      rw [accepted] at failed
      cases failed
    have told := read_text_turned_of_tells settings identified tell
    exact ⟨tell, Except.ok.inj (accepted.symm.trans told)⟩
  · intro told
    obtain ⟨tell, rfl⟩ := told
    exact read_text_turned_of_tells settings identified tell

end

end ShowFile

end LightShow
