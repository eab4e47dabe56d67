import LightShow.Compile.Deployment
import LightShow.Xml.Render

/-!
A compiled show as the tags of a show file. Presentation data stands in a file that is
written for authoring and is left out of one that is written for deployment.
-/

namespace LightShow.ShowFile

open Xml Text

def leaf (name : String) (attributes : List (String × String)) : Event :=
  .empty name (attributes.map fun a => ⟨a.1, a.2⟩)

def element (name : String) (attributes : List (String × String)) (content : List Event) :
    List Event :=
  .start name (attributes.map fun a => ⟨a.1, a.2⟩) :: content ++ [.close name]

def entries (name : String) (m : OrderedMap String String) : List Event :=
  m.entries.map fun e => leaf name [("name", e.1), ("value", e.2)]

def columnTag (c : Column) : Event :=
  leaf "column" [("id", c.id), ("type", c.kind.text), ("display_name", c.displayName),
    ("lcd_color", c.lcdColor), ("top_inverted", ofBool c.topInverted),
    ("bottom_inverted", ofBool c.bottomInverted)]

def banksetTags (b : Bankset) : List Event :=
  element "bankset"
    [("id", b.id), ("description", b.description), ("active_bank", ofNat b.activeBank.toNat)]
    (b.banks.flatMap fun bank => element "bank" [] (bank.map columnTag))

def linkTag (input : String) (source : OutputRef) : Event :=
  leaf "channellink" [("input_channel_id", input), ("output_channel_id", source.text)]

/-- The engine wants one entry of some kinds with its key and value exchanged. -/
def configurationTag (k : Kind) (key value : String) : Event :=
  if k.exchangedKey? = some key then
    leaf "filterConfiguration" [("name", value), ("value", key)]
  else leaf "filterConfiguration" [("name", key), ("value", value)]

def filterContent (f : Filter) : List Event :=
  f.links.entries.map (fun l => linkTag l.1 l.2) ++
    (entries "initialParameters" f.parameters ++
      f.configuration.entries.map fun c => configurationTag f.kind c.1 c.2)

def positionText (p : Position) : String := ofInt p.x.toInt ++ "," ++ ofInt p.y.toInt

def filterTags (presents : Bool) (f : Filter) : List Event :=
  let attributes := [("id", f.id), ("type", f.kind.tag)] ++
    if presents then [("pos", positionText f.position)] else []
  match filterContent f with
  | [] => [leaf "filter" attributes]
  | content => element "filter" attributes content

def filterPageTags (p : FilterPage) : List Event :=
  element "filterpage"
    (("name", p.name) :: (p.parent.map fun parent => ("parent", parent)).toList)
    (p.filterIds.map fun id => leaf "filterref" [("id", id)])

def widgetTags (w : Widget) : List Event :=
  element "widget"
    [("x", ofInt w.position.x.toInt), ("y", ofInt w.position.y.toInt),
      ("width", ofNat w.size.width.toNat), ("height", ofNat w.size.height.toNat),
      ("filter_id", w.filterId), ("type", w.variant)]
    (entries "configuration" w.configuration)

def uiPageTags (p : UiPage) : List Event :=
  element "uipage" [("name", p.name)] (p.widgets.flatMap widgetTags)

def sceneTags (presents : Bool) (c : CompiledScene) : List Event :=
  let s := c.scene
  element "scene"
    ([("id", ofNat s.id.toNat), ("human_readable_name", s.name)] ++
      (s.bankset.map fun b => ("linkedBankset", b.id)).toList)
    ((s.bankset.map banksetTags).getD [] ++
      (c.filters.flatMap (filterTags presents) ++
        if presents then s.filterPages.flatMap filterPageTags ++ s.uiPages.flatMap uiPageTags
        else []))

def locationTag : Location → Event
  | .artnet ipAddress udpPort deviceUniverse =>
    leaf "artnet" [("ip_address", ipAddress), ("udp_port", ofNat udpPort.toNat),
      ("device_universe_id", ofNat deviceUniverse.toNat)]
  | .usb vendor product deviceName serial =>
    leaf "usb" [("vendor_id", ofNat vendor.toNat), ("product_id", ofNat product.toNat),
      ("device_name", deviceName), ("serial_identifier", serial)]
  | .physical port => leaf "physical" [("location", ofNat port.toNat)]

def patchTag (p : Patch) : Event :=
  leaf "patching" [("start", ofNat p.start.toNat), ("fixture_file", p.fixtureFile),
    ("mode", p.mode)]

def universeTags (u : Universe) : List Event :=
  element "universe"
    [("id", ofNat u.id.toNat), ("name", u.name), ("description", u.description)]
    (locationTag u.location :: u.patches.map patchTag)

def deviceTags (d : Device) : List Event :=
  element "device" [("name", d.name)] (entries "attribute" d.attributes)

def commandTag (c : Command) : Event :=
  leaf "macro" [("name", c.name), ("trigger", c.trigger), ("content", c.content)]

def senderTags (s : EventSender) : List Event :=
  element "eventsender" [("name", s.name), ("type", s.type)]
    (entries "configuration" s.configuration)

def presentationTags (d : Show) : List Event :=
  d.devices.flatMap deviceTags ++
    (entries "uihint" d.uiHints ++
      (d.commands.map commandTag ++ d.eventSenders.flatMap senderTags))

def showTags (schema : Schema) (c : CompiledShow) : List Event :=
  let d := c.document
  let presents := c.mode.presents
  element "showfile"
    [("show_name", d.name), ("default_active_scene", ofNat d.activeScene.toNat),
      ("notes", d.notes), ("xmlns", schema.namespaceName),
      ("xmlns:xsi", "http://www.w3.org/2001/XMLSchema-instance"),
      ("xsi:schemaLocation", schema.location)]
    (c.scenes.flatMap (sceneTags presents) ++
      (d.universes.flatMap universeTags ++ if presents then presentationTags d else []))

def text (settings : Settings) (c : CompiledShow) : String :=
  render settings.indent (showTags settings.schema c)

def write (settings : Settings) (c : CompiledShow) : Stage String := do
  Stage.tell (.showWritten c.document.name c.mode)
  return text settings c

end LightShow.ShowFile
