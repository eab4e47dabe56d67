/-!
A file as the sequence of its tags. Text between tags, comments and instructions carry no
meaning here.
-/

namespace LightShow.Xml

structure Attribute where
  name : String
  value : String
  deriving DecidableEq, Repr

inductive Event where
  | start (name : String) (attributes : List Attribute)
  | empty (name : String) (attributes : List Attribute)
  | close (name : String)
  deriving DecidableEq, Repr

/-- What stops a reader: ill-formed markup, an ill-formed attribute, or an ampersand that
    begins no reference. -/
inductive Fault where
  | markup | attributeForm | reference
  deriving DecidableEq, Repr

def Fault.message : Fault → String
  | .markup => "XML error: ill-formed markup"
  | .attributeForm => "Attribute error: ill-formed attribute"
  | .reference => "Escape error: unknown reference"

/-- The tags before the first fault, and the fault. -/
structure Scan where
  events : List Event
  fault : Option Fault
  deriving DecidableEq, Repr

end LightShow.Xml
