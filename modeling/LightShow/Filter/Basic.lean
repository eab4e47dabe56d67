import LightShow.Filter.Port

/-!
A filter is a node of a scene graph: it has an id, a kind, links from its inputs to the
outputs of other filters, a configuration, starting parameters and a place on the canvas.
A node says besides whether the filter is to be unfolded.
-/

namespace LightShow

structure Position where
  x : Int32
  y : Int32
  deriving DecidableEq

def Position.origin : Position := ⟨0, 0⟩

abbrev Links := OrderedMap String OutputRef
abbrev Parameters := OrderedMap String String

structure Filter where
  id : String
  kind : Kind
  links : Links := ∅
  configuration : Configuration := ∅
  parameters : Parameters := ∅
  position : Position := .origin
  deriving DecidableEq

namespace Filter

def ports (f : Filter) : Except MappingError Ports := f.kind.ports f.configuration

def output (f : Filter) (port : String) : OutputRef := ⟨f.id, port⟩

def withLink (f : Filter) (input : String) (source : OutputRef) : Filter :=
  { f with links := f.links.insert input source }

def withLink? (f : Filter) (input : String) (source : Option OutputRef) : Filter :=
  match source with
  | some r => f.withLink input r
  | none => f

def withConfiguration (f : Filter) (key value : String) : Filter :=
  { f with configuration := f.configuration.insert key value }

def withParameter (f : Filter) (key value : String) : Filter :=
  { f with parameters := f.parameters.insert key value }

end Filter

inductive Node where
  | concrete (filter : Filter)
  | composite (filter : Filter)
  deriving DecidableEq

namespace Node

def filter : Node → Filter
  | concrete f => f
  | composite f => f

def id (n : Node) : String := n.filter.id
def kind (n : Node) : Kind := n.filter.kind

def isComposite : Node → Bool
  | concrete _ => false
  | composite _ => true

def map (edit : Filter → Filter) : Node → Node
  | concrete f => concrete (edit f)
  | composite f => composite (edit f)

def ofFilter (f : Filter) : Node := if f.kind.isComposite then .composite f else .concrete f

def FollowsKind (n : Node) : Prop := n.isComposite = n.kind.isComposite

instance (n : Node) : Decidable n.FollowsKind := by unfold FollowsKind; infer_instance

@[simp] theorem filter_map (edit : Filter → Filter) (n : Node) :
    (n.map edit).filter = edit n.filter := by
  cases n <;> rfl

@[simp] theorem isComposite_map (edit : Filter → Filter) (n : Node) :
    (n.map edit).isComposite = n.isComposite := by
  cases n <;> rfl

@[simp] theorem filter_ofFilter (f : Filter) : (ofFilter f).filter = f := by
  unfold ofFilter
  split <;> rfl

@[simp] theorem id_ofFilter (f : Filter) : (ofFilter f).id = f.id := by simp [id]

theorem ofFilter_followsKind (f : Filter) : (ofFilter f).FollowsKind := by
  cases h : f.kind.isComposite <;> simp [FollowsKind, ofFilter, h, isComposite, kind, filter]

theorem followsKind_iff (n : Node) : n.FollowsKind ↔ n = ofFilter n.filter := by
  constructor
  · intro h
    cases n with
    | concrete f =>
      have plain : f.kind.isComposite = false := h.symm
      simp [ofFilter, filter, plain]
    | composite f =>
      have folded : f.kind.isComposite = true := h.symm
      simp [ofFilter, filter, folded]
  · intro h
    rw [h]
    exact ofFilter_followsKind _

end Node
end LightShow
