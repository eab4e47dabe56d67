import LightShow.OrderedMap.Place
import LightShow.Scene

/-!
A scene whose nodes are held under their ids, so that each id is there twice. An edit works on
keys and places, and what it has changed stays when it fails.
-/

namespace LightShow

open OrderedMap

/-- The nodes of a scene, each under an id. -/
structure KeyedScene where
  id : UInt32
  nodes : OrderedMap String Node

inductive EditFault where
  | refused (e : GraphError)
  | outOfRange

/-- A call on a scene. What it has changed stays when it fails. -/
abbrev Editing := EStateM EditFault KeyedScene

namespace Editing

def within {α : Type} : Option α → Editing α
  | some a => pure a
  | none => throw .outOfRange

end Editing

open Editing

namespace KeyedScene

def empty (id : UInt32) : KeyedScene := ⟨id, ∅⟩

def add (n : Node) : Editing Unit := do
  let s ← get
  if s.nodes.contains n.id then throw (.refused (.duplicateFilter s.id n.id))
  else set { s with nodes := s.nodes.insert n.id n }

def remove (id : String) : Editing (Option Node) := do
  let s ← get
  set { s with nodes := s.nodes.erase id }
  return s.nodes.get? id

/-- Edits a node at its place. A changed id means that the entry is taken out and inserted again
    at the same place. -/
def update (id : String) (change : Filter → Filter) : Editing Unit := do
  let s ← get
  match s.nodes.placeOf? id with
  | none => throw (.refused (.unknownFilter s.id id))
  | some place =>
    let entry ← within (s.nodes.entryAt? place)
    let f := change entry.2.filter
    if f.id ≠ id ∧ s.nodes.contains f.id then throw (.refused (.duplicateFilter s.id f.id))
    else
      let n := Node.ofFilter f
      if n.id = id then
        let nodes ← within (s.nodes.replaceAt? place n)
        set { s with nodes }
      else
        let fewer := s.nodes.removeAt place
        set { s with nodes := fewer }
        let nodes ← within (fewer.insertAt? place n.id n)
        set { s with nodes }

end KeyedScene

inductive Edit where
  | add (f : Filter)
  | remove (id : String)
  | update (id : String) (change : Filter → Filter)

namespace Edit

def perform : Edit → Editing (Option Node)
  | .add f => do
    KeyedScene.add (.ofFilter f)
    return none
  | .remove id => KeyedScene.remove id
  | .update id change => do
    KeyedScene.update id change
    return none

abbrev Result := EStateM.Result EditFault KeyedScene (Option Node)

end Edit

end LightShow
