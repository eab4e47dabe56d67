import LightShow.Filter.Basic

/-!
A scene is a list of nodes with distinct ids, and what the desk and the editor keep beside
it. Editing a scene keeps the order of the nodes that are not touched, and an edit that is
refused changes nothing.
-/

namespace LightShow

inductive ColumnKind where
  | color | raw
  deriving DecidableEq, Repr

namespace ColumnKind

def text : ColumnKind → String
  | .color => "hsi"
  | .raw => "raw"

def ofString? : String → Option ColumnKind
  | "hsi" => some .color
  | "raw" => some .raw
  | _ => none

theorem ofString?_text (k : ColumnKind) : ofString? k.text = some k := by cases k <;> rfl

end ColumnKind

structure Column where
  id : String
  kind : ColumnKind
  displayName : String
  lcdColor : String
  topInverted : Bool
  bottomInverted : Bool
  deriving DecidableEq

structure Bankset where
  id : String
  description : String
  activeBank : UInt32
  banks : List (List Column) := []
  deriving DecidableEq

structure FilterPage where
  name : String
  parent : Option String
  filterIds : List String := []
  deriving DecidableEq

structure Extent where
  width : UInt32
  height : UInt32
  deriving DecidableEq

structure Widget where
  position : Position
  size : Extent
  filterId : String
  variant : String
  configuration : Configuration := ∅
  deriving DecidableEq

structure UiPage where
  name : String
  widgets : List Widget := []
  deriving DecidableEq

structure Scene where
  id : UInt32
  name : String
  nodes : List Node := []
  bankset : Option Bankset := none
  filterPages : List FilterPage := []
  uiPages : List UiPage := []
  deriving DecidableEq

inductive GraphError where
  | duplicateFilter (scene : UInt32) (filter : String)
  | unknownFilter (scene : UInt32) (filter : String)
  deriving DecidableEq, Repr

def GraphError.message : GraphError → String
  | .duplicateFilter scene filter =>
    "Filter '" ++ filter ++ "' already exists in scene " ++ Text.ofNat scene.toNat
  | .unknownFilter scene filter =>
    "No filter '" ++ filter ++ "' in scene " ++ Text.ofNat scene.toNat

namespace Scene

def ids (s : Scene) : List String := s.nodes.map Node.id

def node? (s : Scene) (id : String) : Option Node := s.nodes.find? fun n => n.id = id

def filters (s : Scene) : List Filter := s.nodes.map Node.filter

def hasComposite (s : Scene) : Bool := s.nodes.any Node.isComposite

def add (s : Scene) (n : Node) : Except GraphError Scene :=
  if n.id ∈ s.ids then .error (.duplicateFilter s.id n.id)
  else .ok { s with nodes := s.nodes ++ [n] }

def addFilter (s : Scene) (f : Filter) : Except GraphError Scene := s.add (.ofFilter f)

/-- Removes a node. Links to it stay. -/
def remove (s : Scene) (id : String) : Scene :=
  { s with nodes := s.nodes.eraseP fun n => n.id = id }

def replace (id : String) (f : Filter) : List Node → List Node
  | [] => []
  | n :: rest => if n.id = id then .ofFilter f :: rest else n :: replace id f rest

/-- Edits a filter where it stands. The edit may change the id and the kind, but not to an
    id that is already taken. -/
def update (s : Scene) (id : String) (edit : Filter → Filter) : Except GraphError Scene :=
  match s.node? id with
  | none => .error (.unknownFilter s.id id)
  | some n =>
    let f := edit n.filter
    if f.id ≠ id ∧ f.id ∈ s.ids then .error (.duplicateFilter s.id f.id)
    else .ok { s with nodes := replace id f s.nodes }

def ofFilters (id : UInt32) (name : String) (fs : List Filter) : Except GraphError Scene :=
  fs.foldlM addFilter { id, name }

/-- What every edit keeps: distinct ids, and nodes that follow their kind. -/
structure Valid (s : Scene) : Prop where
  distinct : s.ids.Nodup
  followsKind : ∀ n ∈ s.nodes, n.FollowsKind

end Scene
end LightShow
