import LightShow.Proofs.Scanning
import LightShow.ShowFile.Tags

/-!
The tags of a show file have fit names, and every element is closed where it was opened.
-/

namespace LightShow.ShowFile

open Xml

/-- The tags leave open what was open before them, and nothing else. -/
def Balanced (events : List Event) : Prop :=
  ∀ names rest, Nested names rest → Nested names (events ++ rest)

theorem balanced_nil : Balanced [] := fun _ _ nested => nested

theorem Balanced.append {before behind : List Event} (first : Balanced before)
    (later : Balanced behind) : Balanced (before ++ behind) := by
  intro names rest nested
  rw [List.append_assoc]
  exact first names _ (later names rest nested)

theorem Balanced.nested {events : List Event} (balanced : Balanced events) : Nested [] events := by
  have closed := balanced [] [] .done
  rwa [List.append_nil] at closed

theorem balanced_flatMap {α : Type} {tags : α → List Event} (items : List α)
    (each : ∀ item, Balanced (tags item)) : Balanced (items.flatMap tags) := by
  induction items with
  | nil => exact balanced_nil
  | cons item items ih => exact (each item).append ih

theorem balanced_map {α : Type} {tag : α → Event} (items : List α)
    (each : ∀ item, Balanced [tag item]) : Balanced (items.map tag) := by
  rw [List.map_eq_flatMap]
  exact balanced_flatMap items each

def shapes : List (String × List String) := [
  ("showfile", ["show_name", "default_active_scene", "notes", "xmlns", "xmlns:xsi",
    "xsi:schemaLocation"]),
  ("scene", ["id", "human_readable_name"]),
  ("scene", ["id", "human_readable_name", "linkedBankset"]),
  ("bankset", ["id", "description", "active_bank"]),
  ("bank", []),
  ("column", ["id", "type", "display_name", "lcd_color", "top_inverted", "bottom_inverted"]),
  ("filter", ["id", "type"]),
  ("filter", ["id", "type", "pos"]),
  ("channellink", ["input_channel_id", "output_channel_id"]),
  ("initialParameters", ["name", "value"]),
  ("filterConfiguration", ["name", "value"]),
  ("filterpage", ["name"]),
  ("filterpage", ["name", "parent"]),
  ("filterref", ["id"]),
  ("uipage", ["name"]),
  ("widget", ["x", "y", "width", "height", "filter_id", "type"]),
  ("configuration", ["name", "value"]),
  ("universe", ["id", "name", "description"]),
  ("artnet", ["ip_address", "udp_port", "device_universe_id"]),
  ("usb", ["vendor_id", "product_id", "device_name", "serial_identifier"]),
  ("physical", ["location"]),
  ("patching", ["start", "fixture_file", "mode"]),
  ("device", ["name"]),
  ("attribute", ["name", "value"]),
  ("uihint", ["name", "value"]),
  ("macro", ["name", "trigger", "content"]),
  ("eventsender", ["name", "type"])]

theorem tidy_shapes : ∀ shape ∈ shapes, Tidy shape.1 shape.2 := by decide +kernel

section

variable {name : String} {attributes : List (String × String)}
  (listed : (name, attributes.map Prod.fst) ∈ shapes)

include listed

theorem tidy_attributes :
    Tidy name ((attributes.map fun a => (⟨a.1, a.2⟩ : Attribute)).map Attribute.name) := by
  rw [List.map_map]
  exact tidy_shapes _ listed

theorem balanced_leaf : Balanced [leaf name attributes] :=
  fun _ _ nested => .empty (tidy_attributes listed) nested

theorem balanced_element {content : List Event} (inside : Balanced content) :
    Balanced (element name attributes content) := by
  intro names rest nested
  have tidy := tidy_attributes listed
  have closed := inside (name :: names) _ (.close tidy.1 nested)
  have unrolled : element name attributes content ++ rest =
      .start name (attributes.map fun a => ⟨a.1, a.2⟩) :: (content ++ .close name :: rest) := by
    simp [element]
  rw [unrolled]
  exact .start tidy closed

end

theorem balanced_entries {name : String} (listed : (name, ["name", "value"]) ∈ shapes)
    (m : OrderedMap String String) : Balanced (entries name m) :=
  balanced_map m.entries fun _ => balanced_leaf listed

theorem balanced_bankset (b : Bankset) : Balanced (banksetTags b) := by
  have column : ∀ c, Balanced [columnTag c] := fun c => balanced_leaf (by simp [shapes])
  have bank : ∀ columns : List Column, Balanced (element "bank" [] (columns.map columnTag)) :=
    fun columns => balanced_element (by simp [shapes]) (balanced_map columns column)
  exact balanced_element (by simp [shapes])
    (balanced_flatMap b.banks bank)

theorem balanced_filterContent (f : Filter) : Balanced (filterContent f) := by
  have link : ∀ l : String × OutputRef, Balanced [linkTag l.1 l.2] := fun l =>
    balanced_leaf (by simp [shapes])
  have configuration : ∀ e : String × String, Balanced [configurationTag f.kind e.1 e.2] := by
    intro e
    unfold configurationTag
    split <;> exact balanced_leaf (by simp [shapes])
  have parameters : Balanced (entries "initialParameters" f.parameters) :=
    balanced_entries (by simp [shapes]) _
  exact (balanced_map f.links.entries link).append
    (parameters.append (balanced_map f.configuration.entries configuration))

theorem balanced_filter (presents : Bool) (f : Filter) : Balanced (filterTags presents f) := by
  have content := balanced_filterContent f
  unfold filterTags
  cases shape : filterContent f with
  | nil =>
    cases presents with
    | false => exact balanced_leaf (by simp [shapes])
    | true => exact balanced_leaf (by simp [shapes])
  | cons event rest =>
    rw [shape] at content
    cases presents with
    | false => exact balanced_element (by simp [shapes]) content
    | true => exact balanced_element (by simp [shapes]) content

theorem balanced_filterPage (p : FilterPage) : Balanced (filterPageTags p) := by
  have references : Balanced (p.filterIds.map fun id => leaf "filterref" [("id", id)]) :=
    balanced_map p.filterIds fun _ => balanced_leaf (by simp [shapes])
  unfold filterPageTags
  cases p.parent with
  | none => exact balanced_element (by simp [shapes]) references
  | some parent => exact balanced_element (by simp [shapes]) references

theorem balanced_uiPage (p : UiPage) : Balanced (uiPageTags p) := by
  have widget : ∀ w, Balanced (widgetTags w) := fun w => balanced_element (by simp [shapes])
    (balanced_entries (by simp [shapes]) w.configuration)
  exact balanced_element (by simp [shapes]) (balanced_flatMap p.widgets widget)

theorem balanced_scene (presents : Bool) (c : CompiledScene) :
    Balanced (sceneTags presents c) := by
  have bankset : Balanced ((c.scene.bankset.map banksetTags).getD []) := by
    cases c.scene.bankset with
    | none => exact balanced_nil
    | some b => exact balanced_bankset b
  have pages : Balanced (if presents then c.scene.filterPages.flatMap filterPageTags ++
      c.scene.uiPages.flatMap uiPageTags else []) := by
    cases presents with
    | false => exact balanced_nil
    | true =>
      exact (balanced_flatMap c.scene.filterPages balanced_filterPage).append
        (balanced_flatMap c.scene.uiPages balanced_uiPage)
  have content := bankset.append
    ((balanced_flatMap c.filters (balanced_filter presents)).append pages)
  cases linked : c.scene.bankset with
  | none => exact balanced_element (by simp [shapes, linked]) content
  | some b => exact balanced_element (by simp [shapes, linked]) content

theorem balanced_universe (u : Universe) : Balanced (universeTags u) := by
  have location : Balanced [locationTag u.location] := by
    cases u.location with
    | artnet => exact balanced_leaf (by simp [shapes])
    | usb => exact balanced_leaf (by simp [shapes])
    | physical => exact balanced_leaf (by simp [shapes])
  have patch : ∀ p, Balanced [patchTag p] := fun p => balanced_leaf (by simp [shapes])
  exact balanced_element (by simp [shapes]) (location.append (balanced_map u.patches patch))

theorem balanced_presentation (d : Show) : Balanced (presentationTags d) := by
  have device : ∀ v, Balanced (deviceTags v) := fun v =>
    balanced_element (by simp [shapes]) (balanced_entries (by simp [shapes]) v.attributes)
  have hints : Balanced (entries "uihint" d.uiHints) := balanced_entries (by simp [shapes]) _
  have command : ∀ c, Balanced [commandTag c] := fun c => balanced_leaf (by simp [shapes])
  have sender : ∀ s, Balanced (senderTags s) := fun s =>
    balanced_element (by simp [shapes]) (balanced_entries (by simp [shapes]) s.configuration)
  exact (balanced_flatMap d.devices device).append (hints.append
    ((balanced_map d.commands command).append (balanced_flatMap d.eventSenders sender)))

theorem balanced_show (schema : Schema) (c : CompiledShow) : Balanced (showTags schema c) := by
  have presentation : Balanced (if c.mode.presents then presentationTags c.document else []) := by
    cases c.mode.presents with
    | false => exact balanced_nil
    | true => exact balanced_presentation c.document
  exact balanced_element (by simp [shapes])
    ((balanced_flatMap c.scenes (balanced_scene c.mode.presents)).append
      ((balanced_flatMap c.document.universes balanced_universe).append presentation))

end LightShow.ShowFile
