import LightShow.Show
import LightShow.Xml.Event

/-!
What can be wrong with a show file.
-/

namespace LightShow.ShowFile

inductive ReadError where
  | fault (f : Xml.Fault)
  | missingRoot
  | missingAttribute (element name : String)
  | invalidAttribute (element name value : String)
  | duplicateScene (scene : UInt32)
  | missingLocation (id : UInt32)
  | unknownKind (e : UnknownKind)
  | reference (e : MalformedReference)
  | graph (e : GraphError)
  deriving DecidableEq, Repr

def ReadError.message : ReadError → String
  | .fault f => f.message
  | .missingRoot => "Missing <showfile> root element"
  | .missingAttribute element name =>
    "<" ++ element ++ "> is missing attribute '" ++ name ++ "'"
  | .invalidAttribute element name value =>
    "<" ++ element ++ "> has invalid " ++ name ++ ": '" ++ value ++ "'"
  | .duplicateScene scene =>
    "Scene " ++ Text.ofNat scene.toNat ++ " is defined more than once"
  | .missingLocation id =>
    "Universe " ++ Text.ofNat id.toNat ++ " has no location"
  | .unknownKind e => e.message
  | .reference e => e.message
  | .graph e => e.message

end LightShow.ShowFile
