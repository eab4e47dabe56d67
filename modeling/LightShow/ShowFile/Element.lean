import LightShow.ShowFile.Error
import LightShow.Text.Integer

/-!
An element of a show file: its name and its attributes, which are required, optional or
have a default.
-/

namespace LightShow.ShowFile

structure Element where
  name : String
  attributes : List Xml.Attribute

namespace Element

variable (e : Element)

def get? (key : String) : Option String :=
  (e.attributes.find? fun a => a.name = key).map Xml.Attribute.value

def required (key : String) : Except ReadError String :=
  match e.get? key with
  | some value => .ok value
  | none => .error (.missingAttribute e.name key)

def optional (key : String) : String := (e.get? key).getD ""

def read {α : Type} (key : String) (reader : String → Option α) (value : String) :
    Except ReadError α :=
  match reader value with
  | some a => .ok a
  | none => .error (.invalidAttribute e.name key value)

def parse {α : Type} (key : String) (reader : String → Option α) : Except ReadError α := do
  e.read key reader (← e.required key)

def parseOr {α : Type} (key : String) (reader : String → Option α) (default : α) :
    Except ReadError α :=
  match e.get? key with
  | none => .ok default
  | some value => e.read key reader value

end Element

def position? (text : String) : Option Position :=
  match Text.cut? ',' text.toList with
  | none => none
  | some (x, y) => do
    let x ← Text.int32? (String.ofList (Text.trim x))
    let y ← Text.int32? (String.ofList (Text.trim y))
    return ⟨x, y⟩

end LightShow.ShowFile
