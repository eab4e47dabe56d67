import LightShow.Number.Decimal
import LightShow.Number.Shortest
import LightShow.Text.Blank
import LightShow.Text.Split

/-!
The values that travel between filters and the five types they have. A text is read with
blanks around it ignored; a number outside the range of its type is brought into the range
and not refused.
-/

namespace LightShow

open Text

inductive SignalType where
  | byte | word | float | bool | color
  deriving DecidableEq, Repr

namespace SignalType

def all : List SignalType := [.byte, .word, .float, .bool, .color]

def name : SignalType → String
  | .byte => "8bit"
  | .word => "16bit"
  | .float => "float"
  | .bool => "bool"
  | .color => "color"

def ofName? (text : String) : Option SignalType := all.find? fun t => t.name = text

theorem ofName?_name (t : SignalType) : ofName? t.name = some t := by cases t <;> decide

theorem name_of_ofName? {text : String} {t : SignalType} (h : ofName? text = some t) :
    t.name = text := by
  have := List.find?_some h
  simpa using this

end SignalType

inductive SignalError where
  | unknownType (text : String)
  | malformed (type : SignalType) (text : String)
  deriving DecidableEq, Repr

def SignalError.message : SignalError → String
  | .unknownType text => "Unknown value type: " ++ text
  | .malformed type text => "Malformed " ++ type.name ++ " value: '" ++ text ++ "'"

/- Hue in degrees, saturation and intensity as fractions of one. -/
structure Color where
  hue : Number
  saturation : Number
  intensity : Number
  deriving DecidableEq, Repr

namespace Color

/-- Wraps the hue into a turn and clamps the other two between zero and one. -/
def normalized (hue saturation intensity : Number) : Color :=
  ⟨hue.wrap 360, saturation.clamp 1, intensity.clamp 1⟩

def black : Color := ⟨.zero, .zero, .zero⟩

def chars (c : Color) : List Char :=
  join [','] [c.hue.chars, c.saturation.chars, c.intensity.chars]

def text (c : Color) : String := String.ofList c.chars

end Color

inductive Signal where
  | byte (n : UInt8)
  | word (n : UInt16)
  | float (x : Number)
  | bool (b : Bool)
  | color (c : Color)
  deriving DecidableEq

namespace Signal

def type : Signal → SignalType
  | .byte _ => .byte
  | .word _ => .word
  | .float _ => .float
  | .bool _ => .bool
  | .color _ => .color

def text : Signal → String
  | .byte n => ofNat n.toNat
  | .word n => ofNat n.toNat
  | .float x => x.text
  | .bool b => ofBool b
  | .color c => c.text

end Signal

def finite? (cs : List Char) : Option Number := (Number.read? cs).filter Number.isFinite

def Color.read? (cs : List Char) : Option Color :=
  match (pieces ',' cs).map fun p => finite? (trim p) with
  | [some hue, some saturation, some intensity] => some (normalized hue saturation intensity)
  | _ => none

def Color.ofString (text : String) : Except SignalError Color :=
  match Color.read? text.toList with
  | some c => .ok c
  | none => .error (.malformed .color text)

namespace SignalType

def rest : SignalType → Signal
  | .byte => .byte 0
  | .word => .word 0
  | .float => .float .zero
  | .bool => .bool false
  | .color => .color .black

def read? (t : SignalType) (cs : List Char) : Option Signal :=
  match t with
  | .byte => (finite? cs).map fun x => .byte (UInt8.ofNat (x.toWhole 255))
  | .word => (finite? cs).map fun x => .word (UInt16.ofNat (x.toWhole 65535))
  | .float => (finite? cs).map .float
  | .bool =>
    if cs = ['t', 'r', 'u', 'e'] ∨ cs = ['1'] then some (.bool true)
    else if cs = ['f', 'a', 'l', 's', 'e'] ∨ cs = ['0'] then some (.bool false)
    else none
  | .color => (Color.read? cs).map .color

/-- A truth value that is refused is quoted as it came, any other text without the blanks
    around it. -/
def parse (t : SignalType) (text : String) : Except SignalError Signal :=
  let trimmed := trim text.toList
  match t.read? trimmed with
  | some v => .ok v
  | none => .error (.malformed t (if t = .bool then text else String.ofList trimmed))

end SignalType
end LightShow
