import LightShow.Compile.Recipe
import LightShow.Compile.Substitution

/-!
Unfolding the composite nodes of a scene. Nodes wait on a stack, each with the number of
levels it may still be unfolded; the nodes that a composite one unfolds into take its
place at the top, with one level less. Every output of a composite node becomes a rule to
the inner output it stands for. The same is said once more as a recursion over the levels.
-/

namespace LightShow

structure Pending where
  stack : List (Node × Nat)

namespace Pending

inductive Shrinks : Pending → Pending → Prop where
  | pop (n : Node) (budget : Nat) (produced rest : List (Node × Nat))
      (smaller : ∀ p ∈ produced, p.2 < budget) :
      Shrinks ⟨produced ++ rest⟩ ⟨(n, budget) :: rest⟩
  | drop (n : Node) (budget : Nat) (rest : List (Node × Nat)) :
      Shrinks ⟨rest⟩ ⟨(n, budget) :: rest⟩

theorem acc_nil : Acc Shrinks ⟨[]⟩ := ⟨_, fun _ h => nomatch h⟩

theorem acc_cons (budget : Nat) : ∀ (n : Node) (rest : List (Node × Nat)),
    Acc Shrinks ⟨rest⟩ → Acc Shrinks ⟨(n, budget) :: rest⟩ := by
  induction budget using Nat.strongRecOn with
  | ind budget ih =>
    intro n rest accRest
    constructor
    intro below shrinks
    cases shrinks with
    | drop => exact accRest
    | pop _ _ produced _ smaller =>
      induction produced with
      | nil => exact accRest
      | cons p ps ihps =>
        exact ih p.2 (smaller p (by simp)) p.1 (ps ++ rest)
          (ihps fun q hq => smaller q (List.mem_cons_of_mem p hq))

/-- However many nodes a node unfolds into, the stack runs empty. -/
theorem acc (p : Pending) : Acc Shrinks p := by
  obtain ⟨stack⟩ := p
  induction stack with
  | nil => exact acc_nil
  | cons head rest ih => exact acc_cons head.2 head.1 rest ih

instance : WellFoundedRelation Pending := ⟨Shrinks, ⟨acc⟩⟩

end Pending

def recordOutputs (recipe : Recipe) (f : Filter) : List String → Stage Unit
  | [] => .answer ()
  | port :: rest =>
    match recipe.source? f port with
    | none => .fail (.unsupportedOutput f.id port)
    | some target => do
      Stage.record (f.output port) target
      recordOutputs recipe f rest

/-- The nodes that a composite filter stands for. Its links must be on declared inputs. -/
def unfold (book : RecipeBook) (scene : UInt32) (f : Filter) : Stage (List Node) := do
  let some recipe := book.recipe? f.kind | .fail (.missingRecipe f.id f.kind)
  let ports ← .ofExcept f.declaredPorts
  match f.links.keys.find? fun port => !ports.inputs.contains port with
  | some port => .fail (.undeclaredInput scene f.id port)
  | none => do
    let nodes ← .ofExcept (recipe.nodes f)
    let outputs ← .ofExcept (recipe.outputs f)
    recordOutputs recipe f outputs.keys
    Stage.tell (.unfolded f.kind f.id nodes.length)
    return nodes

section

variable (book : RecipeBook) (scene : UInt32) (limit : Nat)

def expandPending (waiting : Pending) : Stage (List Filter) :=
  match waiting with
  | ⟨[]⟩ => .answer []
  | ⟨(.concrete f, _) :: rest⟩ => do
    let fs ← expandPending ⟨rest⟩
    return f :: fs
  | ⟨(.composite f, 0) :: _⟩ => .fail (.expansionDepthExceeded scene f.id limit)
  | ⟨(.composite f, budget + 1) :: rest⟩ => do
    let nodes ← unfold book scene f
    expandPending ⟨nodes.map (·, budget) ++ rest⟩
termination_by waiting
decreasing_by
  · exact .drop _ _ rest
  · exact .pop _ _ _ rest fun p hp => by
      obtain ⟨n, _, rfl⟩ := List.mem_map.mp hp
      exact Nat.lt_succ_self budget

def expand (nodes : List Node) : Stage (List Filter) :=
  expandPending book scene limit ⟨nodes.map (·, limit)⟩

def Stage.concat {α : Type} : List (Stage (List α)) → Stage (List α)
  | [] => .answer []
  | r :: rest => do
    let first ← r
    let others ← concat rest
    return first ++ others

/-- The concrete filters that one node stands for: it is unfolded before its successors,
    and what it unfolds into before them as well. -/
def expandNode : Nat → Node → Stage (List Filter)
  | _, .concrete f => .answer [f]
  | 0, .composite f => .fail (.expansionDepthExceeded scene f.id limit)
  | budget + 1, .composite f => do
    let nodes ← unfold book scene f
    Stage.concat (nodes.map (expandNode budget))

end

end LightShow
