import LightShow.OrderedMap
import LightShow.Filter.Kind

/-!
Ports. An output is referred to by the id of its filter and its own name, written with a
colon between them; the first colon divides, so an id holds none. A filter declares its
ports by name and type. Most kinds have fixed ports; scripted ones list theirs in their
configuration, and a universe output has one input for each configured channel.
-/

namespace LightShow

open Text

structure OutputRef where
  filter : String
  port : String
  deriving DecidableEq, Repr

structure MalformedReference where
  text : String
  deriving DecidableEq, Repr

def MalformedReference.message (e : MalformedReference) : String :=
  "Malformed port reference: '" ++ e.text ++ "'"

namespace OutputRef

def text (r : OutputRef) : String := r.filter ++ ":" ++ r.port

def ofString? (text : String) : Option OutputRef :=
  match cut? ':' text.toList with
  | some (filter, port) =>
    if filter = [] ∨ port = [] then none else some ⟨String.ofList filter, String.ofList port⟩
  | none => none

def ofString (text : String) : Except MalformedReference OutputRef :=
  match ofString? text with
  | some r => .ok r
  | none => .error ⟨text⟩

def Wellformed (r : OutputRef) : Prop :=
  r.filter ≠ "" ∧ r.port ≠ "" ∧ ':' ∉ r.filter.toList

instance (r : OutputRef) : Decidable r.Wellformed := by unfold Wellformed; infer_instance

def before (r s : OutputRef) : Bool :=
  r.filter < s.filter || (r.filter == s.filter && !(s.port < r.port))

theorem ofString?_text {r : OutputRef} (h : r.Wellformed) : ofString? r.text = some r := by
  have shape : r.text.toList = r.filter.toList ++ ':' :: r.port.toList := by
    simp [text]
  have f : r.filter.toList ≠ [] := fun e => h.1 (by simpa using e)
  have p : r.port.toList ≠ [] := fun e => h.2.1 (by simpa using e)
  simp [ofString?, shape, cut?_append h.2.2, f, p]

theorem wellformed_of_ofString? {text : String} {r : OutputRef}
    (h : ofString? text = some r) : r.Wellformed ∧ r.text = text := by
  unfold ofString? at h
  split at h
  · rename_i filter port cutAt
    obtain ⟨shape, noColon⟩ := eq_of_cut? cutAt
    split at h
    · simp at h
    · rename_i nonempty
      simp only [Option.some.injEq] at h
      subst h
      simp only [not_or] at nonempty
      refine ⟨⟨?_, ?_, ?_⟩, ?_⟩
      · intro e
        exact nonempty.1 (by simpa using congrArg String.toList e)
      · intro e
        exact nonempty.2 (by simpa using congrArg String.toList e)
      · simpa using noColon
      · apply String.toList_inj.mp
        simp [OutputRef.text, shape]
  · simp at h

end OutputRef

abbrev PortTypes := OrderedMap String SignalType
abbrev Configuration := OrderedMap String String

structure Ports where
  inputs : PortTypes
  outputs : PortTypes
  deriving DecidableEq

structure MappingError where
  key : String
  text : String
  deriving DecidableEq, Repr

def MappingError.message (e : MappingError) : String :=
  "Malformed port mapping '" ++ e.key ++ "': '" ++ e.text ++ "'"

namespace PortTypes

/-- One entry of a port list: a name, a colon and a type, with blanks around either. -/
def entry? (cs : List Char) : Option (String × SignalType) :=
  match cut? ':' cs with
  | none => none
  | some (name, type) =>
    match SignalType.ofName? (String.ofList (trim type)) with
    | none => none
    | some t => if trim name = [] then none else some (String.ofList (trim name), t)

def collect? : List (List Char) → PortTypes → Option PortTypes
  | [], ports => some ports
  | cs :: rest, ports =>
    match entry? cs with
    | none => none
    | some (name, type) =>
      if ports.contains name then none else collect? rest (ports.insert name type)

/-- Entries stand between semicolons; blank ones are skipped. -/
def read? (text : String) : Option PortTypes :=
  collect? (((pieces ';' text.toList).map trim).filter (· ≠ [])) ∅

def ofConfiguration (configuration : Configuration) (key : String) :
    Except MappingError PortTypes :=
  match configuration.get? key with
  | none => .ok ∅
  | some text =>
    match read? text with
    | some ports => .ok ports
    | none => .error ⟨key, text⟩

def text (ports : List (String × SignalType)) : String :=
  String.ofList (join [';'] (ports.map fun p => p.1.toList ++ ':' :: p.2.name.toList))

end PortTypes

def Ports.fixed (inputs outputs : List (String × SignalType)) : Ports :=
  ⟨.ofList inputs, .ofList outputs⟩

def Ports.unary (input output : SignalType) : Ports :=
  .fixed [("value", input)] [("value", output)]

def Ports.binary (input output : SignalType) : Ports :=
  .fixed [("param1", input), ("param2", input)] [("value", output)]

def Conversion.ports : Conversion → Ports
  | .byteToFloat => .unary .byte .float
  | .wordToFloat => .unary .word .float
  | .floatToByte => .unary .float .byte
  | .floatToWord => .unary .float .word
  | .byteToBool => .unary .byte .bool
  | .boolToByte => .unary .bool .byte
  | .byteToWord => .unary .byte .word
  | .wordToBytes => .fixed [("value", .word)] [("value_upper", .byte), ("value_lower", .byte)]
  | .bytesToWord => .fixed [("value_upper", .byte), ("value_lower", .byte)] [("value", .word)]
  | .colorToRgb => .fixed [("value", .color)] [("r", .byte), ("g", .byte), ("b", .byte)]
  | .colorToRgbw =>
    .fixed [("value", .color)] [("r", .byte), ("g", .byte), ("b", .byte), ("w", .byte)]
  | .colorToRgbwa =>
    .fixed [("value", .color)]
      [("r", .byte), ("g", .byte), ("b", .byte), ("w", .byte), ("a", .byte)]
  | .colorToFloats => .fixed [("value", .color)] [("h", .float), ("s", .float), ("i", .float)]
  | .floatsToColor => .fixed [("h", .float), ("s", .float), ("i", .float)] [("value", .color)]
  | .dimColor => .fixed [("color", .color), ("brightness", .byte)] [("value", .color)]

def Composite.ports : Composite → Ports
  | .position =>
    .fixed [] [("pan", .byte), ("pan_fine", .byte), ("tilt", .byte), ("tilt_fine", .byte)]
  | .oscillator => .fixed [] [("value", .float)]
  | .dimmedColor => .fixed [("color", .color)] [("value", .color)]
  | .delayChain => .unary .byte .byte
  | .oscillatingDimmer => .fixed [] [("value", .byte)]

/-- The channels of a universe output: every configured key but the universe itself. -/
def PortTypes.channels (configuration : Configuration) : PortTypes :=
  .ofList ((configuration.keys.filter (· ≠ "universe")).map fun key => (key, .byte))

def Kind.ports (k : Kind) (configuration : Configuration) : Except MappingError Ports :=
  match k with
  | .constant t => .ok (.fixed [] [("value", t)])
  | .debug t => .ok (.fixed [("value", t)] [])
  | .arithmetic _ => .ok (.binary .float .float)
  | .floatFunction _ => .ok (.unary .float .float)
  | .gate _ => .ok (.binary .bool .bool)
  | .negation => .ok (.unary .bool .bool)
  | .comparison _ => .ok (.binary .float .bool)
  | .byteSwitch =>
    .ok (.fixed [("condition", .bool), ("value_true", .byte), ("value_false", .byte)]
      [("value", .byte)])
  | .trigonometric _ => .ok (.unary .float .float)
  | .wave _ => .ok (.fixed [("time", .float)] [("value", .float)])
  | .time | .sceneTime => .ok (.fixed [] [("value", .float)])
  | .timedSwitch _ => .ok (.unary .byte .byte)
  | .sampleAndHold => .ok (.fixed [("value", .float), ("trigger", .bool)] [("value", .float)])
  | .mainBrightness => .ok (.fixed [] [("value", .byte)])
  | .rawFader => .ok (.fixed [] [("fader", .word), ("encoder", .word)])
  | .colorFader => .ok (.fixed [] [("color", .color)])
  | .button => .ok (.fixed [] [("value", .bool)])
  | .jogwheel => .ok (.fixed [] [("value", .float)])
  | .conversion c => .ok c.ports
  | .script => do
    let inputs ← PortTypes.ofConfiguration configuration "in_mapping"
    let outputs ← PortTypes.ofConfiguration configuration "out_mapping"
    return ⟨inputs, outputs⟩
  | .cues => do
    let outputs ← PortTypes.ofConfiguration configuration "mapping"
    return ⟨.ofList [("time", .float)], outputs⟩
  | .universeOutput => .ok ⟨.channels configuration, ∅⟩
  | .composite c => .ok c.ports

end LightShow
