import LightShow.Run
import LightShow.Note
import LightShow.ShowFile.Element
import LightShow.Text.Split
import LightShow.Text.Blank
import LightShow.Xml.Scan

/-!
Building a show from the tags of a file. Open elements wait on a stack; an element is added
to the one around it when it is closed. An element that is unknown, or known but in the
wrong place, is passed over with all that stands in it.
-/

namespace LightShow.ShowFile

open Xml

structure OpenUniverse where
  id : UInt32
  name : String
  description : String
  location : Option Location := none
  patches : List Patch := []
  deriving DecidableEq

/-- An element that is open. A leaf has told all it has to tell when it was opened. -/
inductive Frame where
  | root (d : Show)
  | scene (s : Scene)
  | bankset (b : Bankset)
  | bank (columns : List Column)
  | filter (f : Filter)
  | filterPage (p : FilterPage)
  | uiPage (p : UiPage)
  | widget (w : Widget)
  | openUniverse (u : OpenUniverse)
  | device (d : Device)
  | eventSender (s : EventSender)
  | leaf
  | skipped
  deriving DecidableEq

/-- What becomes of an element under the one around it: it is open now, it has been taken
    up by the one around it, or it is passed over. -/
inductive Placement where
  | nested (child : Frame)
  | absorbed (parent : Frame)
  | unknown

section

variable (e : Element)

def readColumn : Except ReadError Column := do
  let kind ← e.required "type"
  let id ← e.required "id"
  let kind ← e.read "type" ColumnKind.ofString? kind
  let topInverted ← e.parseOr "top_inverted" Text.bool? false
  let bottomInverted ← e.parseOr "bottom_inverted" Text.bool? false
  return { id, kind, displayName := e.optional "display_name",
           lcdColor := e.optional "lcd_color", topInverted, bottomInverted }

def readFilter : Except ReadError Filter := do
  let kind ← (Kind.ofTag (← e.required "type")).mapError .unknownKind
  let id ← e.required "id"
  let position ← e.parseOr "pos" position? .origin
  return { id, kind, position }

def readLink (f : Filter) : Except ReadError Filter := do
  let source ← (OutputRef.ofString (← e.required "output_channel_id")).mapError .reference
  let input ← e.required "input_channel_id"
  return f.withLink input source

def readParameter (f : Filter) : Except ReadError Filter := do
  let name ← e.required "name"
  return f.withParameter name (e.optional "value")

/-- An entry whose value is the exchanged key of the kind is turned back. -/
def readConfiguration (f : Filter) : Except ReadError Filter := do
  let name ← e.required "name"
  let value := e.optional "value"
  return if f.kind.exchangedKey? = some value then f.withConfiguration value name
    else f.withConfiguration name value

def readEntry (m : OrderedMap String String) : Except ReadError (OrderedMap String String) := do
  let name ← e.required "name"
  return m.insert name (e.optional "value")

def readWidget : Except ReadError Widget := do
  let x ← e.parseOr "x" Text.int32? 0
  let y ← e.parseOr "y" Text.int32? 0
  let width ← e.parseOr "width" Text.uint32? 0
  let height ← e.parseOr "height" Text.uint32? 0
  return { position := ⟨x, y⟩, size := ⟨width, height⟩, filterId := e.optional "filter_id",
           variant := e.optional "type" }

def readArtnet : Except ReadError Location := do
  let ipAddress ← e.required "ip_address"
  let udpPort ← e.parseOr "udp_port" Text.uint16? 6454
  let deviceUniverse ← e.parseOr "device_universe_id" Text.uint16? 0
  return .artnet ipAddress udpPort deviceUniverse

def readUsb : Except ReadError Location := do
  let vendor ← e.parse "vendor_id" Text.uint16?
  let product ← e.parse "product_id" Text.uint16?
  return .usb vendor product (e.optional "device_name") (e.optional "serial_identifier")

def readPhysical : Except ReadError Location := do
  let port ← e.parse "location" Text.uint32?
  return .physical port

def readPatch : Except ReadError Patch := do
  let start ← e.parse "start" Text.uint16?
  let fixtureFile ← e.required "fixture_file"
  return { start, fixtureFile, mode := e.optional "mode" }

def openShow : Except ReadError Placement := do
  let activeScene ← e.parseOr "default_active_scene" Text.uint32? 0
  return .nested (.root
    { name := e.optional "show_name", notes := e.optional "notes", activeScene })

def openInShow (d : Show) : Except ReadError Placement :=
  match e.name with
  | "scene" => do
    let id ← e.parse "id" Text.uint32?
    return .nested (.scene { id, name := e.optional "human_readable_name" })
  | "universe" => do
    let id ← e.parse "id" Text.uint32?
    return .nested (.openUniverse
      { id, name := e.optional "name", description := e.optional "description" })
  | "device" => do
    let name ← e.required "name"
    return .nested (.device { name })
  | "uihint" => do
    let uiHints ← readEntry e d.uiHints
    return .absorbed (.root { d with uiHints })
  | "macro" => do
    let name ← e.required "name"
    let command : Command :=
      { name, trigger := e.optional "trigger", content := e.optional "content" }
    return .absorbed (.root { d with commands := d.commands ++ [command] })
  | "eventsender" => do
    let name ← e.required "name"
    return .nested (.eventSender { name, type := e.optional "type" })
  | _ => .ok .unknown

def openInScene : Except ReadError Placement :=
  match e.name with
  | "bankset" => do
    let id ← e.required "id"
    let activeBank ← e.parseOr "active_bank" Text.uint32? 0
    return .nested (.bankset { id, description := e.optional "description", activeBank })
  | "filter" => do
    let f ← readFilter e
    return .nested (.filter f)
  | "filterpage" => do
    let name ← e.required "name"
    return .nested (.filterPage { name, parent := e.get? "parent" })
  | "uipage" => do
    let name ← e.required "name"
    return .nested (.uiPage { name })
  | _ => .ok .unknown

def openInBankset : Except ReadError Placement :=
  match e.name with
  | "bank" => .ok (.nested (.bank []))
  | _ => .ok .unknown

def openInBank (columns : List Column) : Except ReadError Placement :=
  match e.name with
  | "column" => do
    let column ← readColumn e
    return .absorbed (.bank (columns ++ [column]))
  | _ => .ok .unknown

def openInFilter (f : Filter) : Except ReadError Placement :=
  match e.name with
  | "channellink" => do
    let f ← readLink e f
    return .absorbed (.filter f)
  | "initialParameters" => do
    let f ← readParameter e f
    return .absorbed (.filter f)
  | "filterConfiguration" => do
    let f ← readConfiguration e f
    return .absorbed (.filter f)
  | _ => .ok .unknown

def openInFilterPage (p : FilterPage) : Except ReadError Placement :=
  match e.name with
  | "filterref" => do
    let id ← e.required "id"
    return .absorbed (.filterPage { p with filterIds := p.filterIds ++ [id] })
  | _ => .ok .unknown

def openInUiPage : Except ReadError Placement :=
  match e.name with
  | "widget" => do
    let w ← readWidget e
    return .nested (.widget w)
  | _ => .ok .unknown

def openInWidget (w : Widget) : Except ReadError Placement :=
  match e.name with
  | "configuration" => do
    let configuration ← readEntry e w.configuration
    return .absorbed (.widget { w with configuration })
  | _ => .ok .unknown

def openInUniverse (u : OpenUniverse) : Except ReadError Placement :=
  match e.name with
  | "artnet" => do
    let location ← readArtnet e
    return .absorbed (.openUniverse { u with location := some location })
  | "usb" => do
    let location ← readUsb e
    return .absorbed (.openUniverse { u with location := some location })
  | "physical" => do
    let location ← readPhysical e
    return .absorbed (.openUniverse { u with location := some location })
  | "patching" => do
    let patch ← readPatch e
    return .absorbed (.openUniverse { u with patches := u.patches ++ [patch] })
  | _ => .ok .unknown

def openInDevice (d : Device) : Except ReadError Placement :=
  match e.name with
  | "attribute" => do
    let attributes ← readEntry e d.attributes
    return .absorbed (.device { d with attributes })
  | _ => .ok .unknown

def openInSender (s : EventSender) : Except ReadError Placement :=
  match e.name with
  | "configuration" => do
    let configuration ← readEntry e s.configuration
    return .absorbed (.eventSender { s with configuration })
  | _ => .ok .unknown

def place : Option Frame → Except ReadError Placement
  | none => if e.name = "showfile" then openShow e else .ok .unknown
  | some (.root d) => openInShow e d
  | some (.scene _) => openInScene e
  | some (.bankset _) => openInBankset e
  | some (.bank columns) => openInBank e columns
  | some (.filter f) => openInFilter e f
  | some (.filterPage p) => openInFilterPage e p
  | some (.uiPage _) => openInUiPage e
  | some (.widget w) => openInWidget e w
  | some (.openUniverse u) => openInUniverse e u
  | some (.device d) => openInDevice e d
  | some (.eventSender s) => openInSender e s
  | some .leaf => .ok .unknown
  | some .skipped => .ok .unknown

end

def attach (child parent : Frame) : Except ReadError Frame :=
  match child, parent with
  | .scene s, .root d =>
    if (d.scene? s.id).isSome then .error (.duplicateScene s.id)
    else .ok (.root { d with scenes := d.scenes ++ [s] })
  | .bankset b, .scene s => .ok (.scene { s with bankset := some b })
  | .bank columns, .bankset b => .ok (.bankset { b with banks := b.banks ++ [columns] })
  | .filter f, .scene s => ((s.addFilter f).mapError .graph).map .scene
  | .filterPage p, .scene s => .ok (.scene { s with filterPages := s.filterPages ++ [p] })
  | .uiPage p, .scene s => .ok (.scene { s with uiPages := s.uiPages ++ [p] })
  | .widget w, .uiPage p => .ok (.uiPage { p with widgets := p.widgets ++ [w] })
  | .openUniverse u, .root d =>
    match u.location with
    | none => .error (.missingLocation u.id)
    | some location =>
      let closed : Universe :=
        { id := u.id, name := u.name, description := u.description, location,
          patches := u.patches }
      .ok (.root { d with universes := d.universes ++ [closed] })
  | .device v, .root d => .ok (.root { d with devices := d.devices ++ [v] })
  | .eventSender s, .root d => .ok (.root { d with eventSenders := d.eventSenders ++ [s] })
  | _, parent => .ok parent

/-- The open elements, the innermost one first, and the show that was closed last. -/
structure Progress where
  stack : List Frame := []
  document : Option Show := none

namespace Progress

def start (p : Progress) (e : Element) : Run Note ReadError Progress :=
  match place e p.stack.head?, p.stack with
  | .error error, _ => .fail error
  | .ok (.nested child), stack => .answer { p with stack := child :: stack }
  | .ok (.absorbed parent), _ :: rest => .answer { p with stack := .leaf :: parent :: rest }
  | .ok (.absorbed _), [] => .answer p
  | .ok .unknown, stack =>
    ⟨[.elementSkipped e.name], .ok { p with stack := .skipped :: stack }⟩

def close (p : Progress) : Except ReadError Progress :=
  match p.stack with
  | [] => .ok p
  | .root d :: rest => .ok ⟨rest, some d⟩
  | [_] => .ok { p with stack := [] }
  | child :: parent :: rest =>
    (attach child parent).map fun parent => { p with stack := parent :: rest }

def step (p : Progress) : Event → Run Note ReadError Progress
  | .start name attributes => p.start ⟨name, attributes⟩
  | .empty name attributes => do
    let opened ← p.start ⟨name, attributes⟩
    .ofExcept opened.close
  | .close _ => .ofExcept p.close

def run (p : Progress) : List Event → Run Note ReadError Progress
  | [] => .answer p
  | event :: rest => do
    let next ← p.step event
    next.run rest

end Progress

/-- The show in the tags of a file. Elements that are still open at its end are lost. -/
def readTags (s : Scan) : Run Note ReadError Show := do
  let p ← Progress.run {} s.events
  match s.fault, p.document with
  | some f, _ => .fail (.fault f)
  | none, none => .fail .missingRoot
  | none, some d => ⟨[.showRead d.name d.scenes.length d.universes.length], .ok d⟩

def read (text : String) : Run Note ReadError Show := readTags (scan text)

end LightShow.ShowFile
