import LightShow.Scene

/-!
A show: scenes, the universes that carry the light values out, and what the editor keeps
beside them.
-/

namespace LightShow

inductive Location where
  | artnet (ipAddress : String) (udpPort deviceUniverse : UInt16)
  | usb (vendor product : UInt16) (deviceName serial : String)
  | physical (port : UInt32)
  deriving DecidableEq

structure Patch where
  start : UInt16
  fixtureFile : String
  mode : String
  deriving DecidableEq

structure Universe where
  id : UInt32
  name : String
  description : String
  location : Location
  patches : List Patch := []
  deriving DecidableEq

structure Device where
  name : String
  attributes : OrderedMap String String := ∅
  deriving DecidableEq

structure Command where
  name : String
  trigger : String
  content : String
  deriving DecidableEq

structure EventSender where
  name : String
  type : String
  configuration : Configuration := ∅
  deriving DecidableEq

structure Show where
  name : String := "Untitled"
  notes : String := ""
  activeScene : UInt32 := 0
  scenes : List Scene := []
  universes : List Universe := []
  devices : List Device := []
  uiHints : OrderedMap String String := ∅
  commands : List Command := []
  eventSenders : List EventSender := []
  deriving DecidableEq

namespace Show

def scene? (s : Show) (id : UInt32) : Option Scene := s.scenes.find? fun c => c.id = id
def universe? (s : Show) (id : UInt32) : Option Universe := s.universes.find? fun u => u.id = id

def replaceScene (s : Show) (scene : Scene) : Show :=
  let rec place : List Scene → List Scene
    | [] => []
    | c :: rest => if c.id = scene.id then scene :: rest else c :: place rest
  { s with scenes := place s.scenes }

end Show
end LightShow
