import LightShow.Compile.Singletons

/-!
The singletons of a scene and its table of rules, changed in place by one call after another. A
call works on both as it goes, and what it has changed by then stays when it fails.
-/

namespace LightShow

structure Folding where
  singletons : Singletons
  table : Substitution

abbrev Folds := EStateM CompileError Folding

namespace Folds

def attempt {α : Type} : Except CompileError α → Folds α
  | .ok a => pure a
  | .error e => throw e

def record (source target : OutputRef) : Folds Unit :=
  modify fun st => { st with table := st.table.insert source target }

def keepCanonical (f : Filter) : Folds Unit :=
  modify fun st => { st with
    singletons := { st.singletons with canonical := st.singletons.canonical.insert f.kind f } }

def lead (canonical duplicate : Filter) : List String → Folds Unit
  | [] => pure ()
  | port :: rest => do
    record (duplicate.output port) (canonical.output port)
    lead canonical duplicate rest

def substitute (canonical duplicate : Filter) : Folds Unit :=
  if canonical.kind ≠ duplicate.kind then throw (.unlike canonical duplicate)
  else do
    let ports ← attempt duplicate.declaredPorts
    lead canonical duplicate ports.outputs.keys

def offer (scene : UInt32) (n : Node) : Folds Bool := do
  let st ← get
  let f := n.filter
  if n.isComposite ∨ f.kind.isComposite then throw (.unexpanded f)
  else if scene ≠ st.singletons.scene then throw (.foreign f scene st.singletons.scene)
  else if !f.kind.isSingleton then return false
  else
    match st.singletons.canonical? f.kind with
    | none =>
      keepCanonical f
      return false
    | some first =>
      if first.id = f.id then throw (.duplicateIdentifier scene f.id)
      else
        substitute first f
        return true

end Folds

/-- A node, and the scene that it is said to belong to. -/
structure Offer where
  scene : UInt32
  node : Node

namespace Folding

def ofScene (scene : UInt32) : Folding := ⟨.ofScene scene, ∅⟩

def answer (st : Folding) (o : Offer) : Except CompileError Bool :=
  match Folds.offer o.scene o.node st with
  | .ok folded _ => .ok folded
  | .error e _ => .error e

/-- What an offer leaves behind, whether it succeeds or fails. -/
def take (st : Folding) (o : Offer) : Folding :=
  match Folds.offer o.scene o.node st with
  | .ok _ left => left
  | .error _ left => left

def after (st : Folding) (offers : List Offer) : Folding := offers.foldl take st

end Folding
end LightShow
