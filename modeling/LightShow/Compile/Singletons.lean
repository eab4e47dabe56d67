import LightShow.Compile.Substitution

/-!
The engine needs one filter of a singleton kind in a scene. The first one offered is the
canonical one; every later one is folded into it, which means that rules lead from its
outputs to those of the canonical filter.
-/

namespace LightShow

structure Singletons where
  scene : UInt32
  canonical : OrderedMap Kind Filter

namespace Singletons

def ofScene (scene : UInt32) : Singletons := ⟨scene, ∅⟩

def canonical? (s : Singletons) (k : Kind) : Option Filter := s.canonical.get? k

end Singletons

namespace CompileError

def unlike (canonical duplicate : Filter) : CompileError :=
  .invalidSubstitution duplicate.id
    ("kind " ++ canonical.kind.tag ++ " cannot stand in for " ++ duplicate.kind.tag)

def unexpanded (f : Filter) : CompileError :=
  .invalidSubstitution f.id "virtual filters must be expanded before optimization"

def foreign (f : Filter) (scene own : UInt32) : CompileError :=
  .invalidSubstitution f.id
    ("filter belongs to scene " ++ Text.ofNat scene.toNat ++ ", optimizer to scene " ++
      Text.ofNat own.toNat)

end CompileError

def substitute (canonical duplicate : Filter) : Stage Unit :=
  if canonical.kind ≠ duplicate.kind then .fail (.unlike canonical duplicate)
  else do
    let ports ← .ofExcept duplicate.declaredPorts
    ⟨ports.outputs.keys.map fun port =>
      .rule ⟨duplicate.output port, canonical.output port⟩, .ok ()⟩

/-- Offers a node. The answer tells whether it was folded into an earlier one. -/
def Singletons.offer (s : Singletons) (scene : UInt32) (n : Node) :
    Stage (Bool × Singletons) :=
  let f := n.filter
  if n.isComposite ∨ f.kind.isComposite then .fail (.unexpanded f)
  else if scene ≠ s.scene then .fail (.foreign f scene s.scene)
  else if !f.kind.isSingleton then .answer (false, s)
  else
    match s.canonical? f.kind with
    | none => .answer (false, { s with canonical := s.canonical.insert f.kind f })
    | some first =>
      if first.id = f.id then .fail (.duplicateIdentifier scene f.id)
      else do
        substitute first f
        Stage.tell (.folded scene f.kind f.id first.id)
        return (true, s)

end LightShow
