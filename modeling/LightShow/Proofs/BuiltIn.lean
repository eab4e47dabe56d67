import LightShow.Proofs.Deployment
import LightShow.Proofs.InnerNames

/-!
What the built-in recipes have in common: inner nodes follow their kinds and are named by
distinct roles, and every declared output stands for an output of the same type of an inner
node that is never folded away.
-/

namespace LightShow

open Outcome OrderedMap

namespace Filter

variable (f : Filter)

@[simp] theorem id_inner (role : String) (k : Kind) : (f.inner role k).id = f.innerId role := rfl

@[simp] theorem id_withLink (input : String) (source : OutputRef) :
    (f.withLink input source).id = f.id := rfl

@[simp] theorem id_withLink? (input : String) (source : Option OutputRef) :
    (f.withLink? input source).id = f.id := by
  cases source <;> rfl

theorem output_withLink? (input port : String) (source : Option OutputRef) :
    (f.withLink? input source).output port = f.output port := by
  cases source <;> rfl

theorem ports_withLink? (input : String) (source : Option OutputRef) :
    (f.withLink? input source).ports = f.ports := by
  cases source <;> rfl

theorem kind_withLink? (input : String) (source : Option OutputRef) :
    (f.withLink? input source).kind = f.kind := by
  cases source <;> rfl

@[simp] theorem id_withParameter (key value : String) :
    (f.withParameter key value).id = f.id := rfl

end Filter

theorem recipe?_builtIn (c : Composite) :
    RecipeBook.builtIn.recipe? (.composite c) = some c.recipe := by
  cases c <;> rfl

theorem exists_composite_of_isComposite {k : Kind} (h : k.isComposite = true) :
    ∃ c, k = .composite c := by
  cases k with
  | composite c => exact ⟨c, rfl⟩
  | _ => simp [Kind.isComposite, Kind.family] at h

/-- Errors that no show should run into: the names and the rules are the compiler's own. -/
def CompileError.isInternal : CompileError → Bool
  | .duplicateIdentifier .. | .cyclicSubstitution .. | .unsupportedOutput ..
  | .missingRecipe .. | .invalidSubstitution .. => true
  | _ => false

/-- Errors over how deep a node lies, or over what it says of itself: none over a link. -/
def CompileError.isLocal : CompileError → Bool
  | .expansionDepthExceeded .. | .invalidConfiguration .. | .invalidValue .. => true
  | _ => false

theorem CompileError.isInternal_of_isLocal {e : CompileError} (isLocal : e.isLocal = true) :
    e.isInternal = false := by
  cases e with
  | expansionDepthExceeded | invalidConfiguration | invalidValue => rfl
  | _ => cases isLocal

theorem Filter.isLocal_of_declaredPorts {f : Filter} {e : CompileError}
    (failed : f.declaredPorts = .error e) : e.isLocal = true := by
  obtain ⟨cause, -, rfl⟩ := mapError_eq_error_iff.mp failed
  rfl

theorem Filter.exists_of_numberOr_error {f : Filter} {name : String} {default : Number}
    {e : CompileError} (failed : f.numberOr name default = .error e) :
    ∃ cause, e = .invalidValue f.id name cause := by
  unfold numberOr at failed
  split at failed
  · cases failed
  · split at failed
    · cases failed
    · cases failed
    · cases failed
      exact ⟨_, rfl⟩

/-- Inner filters of `f`, one for each of the given roles. -/
def RoleNamed (f : Filter) (inner : List Filter) : Prop :=
  ∃ roles : List String, roles.Nodup ∧ (∀ role ∈ roles, IsRole role) ∧
    inner.map Filter.id = roles.map f.innerId

namespace Composite

def numbers : Composite → List String
  | .position => ["pan", "tilt"]
  | .oscillator => ["period", "amplitude", "offset"]
  | .dimmedColor => []
  | .delayChain => []
  | .oscillatingDimmer => []

def roles : Composite → List String
  | .position => ["pan_value", "pan", "tilt_value", "tilt"]
  | .oscillator => ["time", "omega", "phase", "sin", "scale"]
  | .dimmedColor => ["main", "mix"]
  | .delayChain => ["stage", "rest"]
  | .oscillatingDimmer => ["osc", "convert"]

theorem roles_fit (c : Composite) : c.roles.Nodup ∧ ∀ role ∈ c.roles, IsRole role := by
  cases c <;> decide +kernel

theorem roleNamed (c : Composite) {f : Filter} {inner : List Filter} {roles : List String}
    (sub : roles.Sublist c.roles) (named : inner.map Filter.id = roles.map f.innerId) :
    RoleNamed f inner :=
  ⟨roles, c.roles_fit.1.sublist sub, fun role member => c.roles_fit.2 role (sub.mem member),
    named⟩

end Composite

namespace Recipe

theorem axis_eq_ok {f : Filter} {name : String} {ns : List Node} (made : axis f name = .ok ns) :
    ∃ raw ≤ 65535, ns =
      [(f.inner (name ++ "_value") (.constant .word)).withParameter "value" (Text.ofNat raw),
        (f.inner name (.conversion .wordToBytes)).withLink "value"
          (f.innerOutput (name ++ "_value") "value")].map .ofFilter := by
  obtain ⟨fraction, -, ended⟩ := bind_eq_ok_iff.mp made
  cases ended
  refine ⟨_, ?_, rfl⟩
  exact Number.toWhole_le 65535 _

theorem exists_of_axis_error {f : Filter} {name : String} {e : CompileError}
    (failed : axis f name = .error e) : ∃ cause, e = .invalidValue f.id name cause :=
  Filter.exists_of_numberOr_error (bind_pure_eq_error_iff.mp failed)

theorem stages_pos {f : Filter} {count : Nat} (counted : stages f = .ok count) : 0 < count := by
  unfold stages at counted
  split at counted
  · cases counted
    exact Nat.one_pos
  · split at counted
    · cases counted
      exact Nat.succ_pos _
    · cases counted

theorem exists_of_stages_error {f : Filter} {e : CompileError} (failed : stages f = .error e) :
    ∃ key text, e = .invalidConfiguration f.id key text := by
  unfold stages at failed
  split at failed
  · cases failed
  · split at failed
    · cases failed
    · cases failed
      exact ⟨_, _, rfl⟩

theorem exists_of_nodes_error {c : Composite} {f : Filter} {e : CompileError}
    (failed : c.recipe.nodes f = .error e) :
    (∃ name ∈ c.numbers, ∃ cause, e = .invalidValue f.id name cause) ∨
      ∃ key text, e = .invalidConfiguration f.id key text := by
  cases c with
  | position =>
    rcases bind_eq_error_iff.mp failed with pan | ⟨_, -, failed⟩
    · exact Or.inl ⟨"pan", by decide, exists_of_axis_error pan⟩
    · exact Or.inl ⟨"tilt", by decide, exists_of_axis_error (bind_pure_eq_error_iff.mp failed)⟩
  | oscillator =>
    rcases bind_eq_error_iff.mp failed with period | ⟨period, -, failed⟩
    · exact Or.inl ⟨"period", by decide, Filter.exists_of_numberOr_error period⟩
    · split at failed
      · cases failed
        exact Or.inl ⟨"period", by decide, _, rfl⟩
      · rcases bind_eq_error_iff.mp failed with amplitude | ⟨_, -, failed⟩
        · exact Or.inl ⟨"amplitude", by decide, Filter.exists_of_numberOr_error amplitude⟩
        · exact Or.inl ⟨"offset", by decide,
            Filter.exists_of_numberOr_error (bind_pure_eq_error_iff.mp failed)⟩
  | delayChain => exact Or.inr (exists_of_stages_error (bind_pure_eq_error_iff.mp failed))
  | dimmedColor | oscillatingDimmer => cases failed

theorem isLocal_of_nodes {c : Composite} {f : Filter} {e : CompileError}
    (failed : c.recipe.nodes f = .error e) : e.isLocal = true := by
  rcases exists_of_nodes_error failed with ⟨name, -, cause, rfl⟩ | ⟨key, text, rfl⟩
  · rfl
  · rfl

/-- The recipe does for `f` what the kind of `f` promises: the inner nodes are named by roles,
    and every declared output is an output of the same type of one that is never folded. -/
structure Faithful (r : Recipe) (f : Filter) : Prop where
  outputs : r.outputs f = declaredOutputs f
  fails : ∀ e, r.nodes f = .error e → e.isInternal = false
  inner : ∀ ns, r.nodes f = .ok ns →
    ∃ inner, ns = inner.map .ofFilter ∧ RoleNamed f inner ∧
    ∀ port type, f.Provides port type → ∃ g ∈ inner, ∃ q,
      r.source? f port = some (g.output q) ∧ g.Provides q type ∧ g.kind.isSingleton = false

end Recipe

theorem Filter.provides_composite_iff {f : Filter} {c : Composite} (kind : f.kind = .composite c)
    {port : String} {type : SignalType} :
    f.Provides port type ↔ (port, type) ∈ c.ports.outputs.entries := by
  unfold Provides ports
  rw [kind, ← get?_eq_some_iff]
  simp [Kind.ports]

namespace Recipe

variable {f : Filter}

theorem faithful_position (kind : f.kind = .composite .position) : position.Faithful f where
  outputs := rfl
  fails := fun _ failed => CompileError.isInternal_of_isLocal
    (isLocal_of_nodes (c := .position) failed)
  inner := by
    intro ns made
    obtain ⟨pan, panMade, made⟩ := bind_eq_ok_iff.mp made
    obtain ⟨tilt, tiltMade, made⟩ := bind_eq_ok_iff.mp made
    obtain ⟨x, -, rfl⟩ := axis_eq_ok panMade
    obtain ⟨y, -, rfl⟩ := axis_eq_ok tiltMade
    cases made
    refine ⟨_, List.map_append.symm, Composite.position.roleNamed (.refl _) ?_, ?_⟩
    · have panValue : "pan" ++ "_value" = "pan_value" := rfl
      have tiltValue : "tilt" ++ "_value" = "tilt_value" := rfl
      simp [Composite.roles, panValue, tiltValue]
    · intro port type provided
      rw [Filter.provides_composite_iff kind] at provided
      have listed : Composite.position.ports.outputs.entries =
          [("pan", .byte), ("pan_fine", .byte), ("tilt", .byte), ("tilt_fine", .byte)] :=
        entries_ofList (by simp)
      simp only [listed, List.mem_cons, Prod.mk.injEq, List.not_mem_nil, or_false] at provided
      rcases provided with ⟨rfl, rfl⟩ | ⟨rfl, rfl⟩ | ⟨rfl, rfl⟩ | ⟨rfl, rfl⟩
      · exact ⟨_, .tail _ (.head _), "value_upper", rfl, ⟨_, rfl, rfl⟩, rfl⟩
      · exact ⟨_, .tail _ (.head _), "value_lower", rfl, ⟨_, rfl, rfl⟩, rfl⟩
      · exact ⟨_, .tail _ (.tail _ (.tail _ (.head _))), "value_upper", rfl, ⟨_, rfl, rfl⟩,
          rfl⟩
      · exact ⟨_, .tail _ (.tail _ (.tail _ (.head _))), "value_lower", rfl, ⟨_, rfl, rfl⟩,
          rfl⟩

theorem only_output {c : Composite} (kind : f.kind = .composite c) (type : SignalType)
    (single : c.ports.outputs.entries = [("value", type)]) {port : String} {type' : SignalType}
    (provided : f.Provides port type') : port = "value" ∧ type' = type := by
  rw [Filter.provides_composite_iff kind, single] at provided
  simpa using provided

theorem faithful_oscillator (kind : f.kind = .composite .oscillator) :
    oscillator.Faithful f where
  outputs := rfl
  fails := fun _ failed => CompileError.isInternal_of_isLocal
    (isLocal_of_nodes (c := .oscillator) failed)
  inner := by
    intro ns made
    obtain ⟨period, -, made⟩ := bind_eq_ok_iff.mp made
    split at made
    · cases made
    · obtain ⟨amplitude, -, made⟩ := bind_eq_ok_iff.mp made
      obtain ⟨offset, -, made⟩ := bind_eq_ok_iff.mp made
      cases made
      refine ⟨_, rfl, Composite.oscillator.roleNamed (.refl _) rfl, ?_⟩
      intro port type provided
      obtain ⟨rfl, rfl⟩ := only_output kind .float rfl provided
      exact ⟨_, .tail _ (.tail _ (.tail _ (.tail _ (.head _)))), "value", rfl, ⟨_, rfl, rfl⟩,
        rfl⟩

theorem faithful_dimmedColor (kind : f.kind = .composite .dimmedColor) :
    dimmedColor.Faithful f where
  outputs := rfl
  fails := fun _ impossible => nomatch impossible
  inner := by
    intro ns made
    cases made
    refine ⟨[_, _], rfl, Composite.dimmedColor.roleNamed (.refl _) (by simp [Composite.roles]),
      ?_⟩
    intro port type provided
    obtain ⟨rfl, rfl⟩ := only_output kind .color rfl provided
    exact ⟨_, .tail _ (.head _), "value", by rw [Filter.output_withLink?]; rfl,
      ⟨_, Filter.ports_withLink? .., rfl⟩, by rw [Filter.kind_withLink?]; rfl⟩

theorem delayChain_eq_ok {ns : List Node} (made : delayChain.nodes f = .ok ns) :
    ∃ count stage rest, stages f = .ok count ∧
      stage.id = f.innerId "stage" ∧ stage.kind = .timedSwitch .delayOn ∧
      stage.links = ((f.inner "stage" (.timedSwitch .delayOn)).withLink? "value"
        (f.links.get? "value")).links ∧
      rest.id = f.innerId "rest" ∧ rest.kind = .composite .delayChain ∧
      rest.links = OrderedMap.ofList [("value", f.innerOutput "stage" "value")] ∧
      ns = if count > 1 then [.ofFilter stage, .ofFilter rest] else [.ofFilter stage] := by
  obtain ⟨count, counted, made⟩ := bind_eq_ok_iff.mp made
  cases made
  refine ⟨count, _, _, counted, ?_, ?_, ?_, rfl, rfl, rfl, rfl⟩
  · split <;> simp
  · split <;> exact Filter.kind_withLink? ..
  · split <;> rfl

theorem faithful_delayChain (kind : f.kind = .composite .delayChain) :
    delayChain.Faithful f where
  outputs := rfl
  fails := fun _ failed => CompileError.isInternal_of_isLocal
    (isLocal_of_nodes (c := .delayChain) failed)
  inner := by
    intro ns made
    obtain ⟨count, stage, rest, counted, stageId, stageKind, -, restId, restKind, -, rfl⟩ :=
      delayChain_eq_ok made
    have pos := stages_pos counted
    by_cases long : count > 1
    · rw [if_pos long]
      have named : [stage, rest].map Filter.id = Composite.delayChain.roles.map f.innerId := by
        simp [Composite.roles, stageId, restId]
      refine ⟨[stage, rest], rfl, Composite.delayChain.roleNamed (.refl _) named, ?_⟩
      intro port type provided
      obtain ⟨rfl, rfl⟩ := only_output kind .byte rfl provided
      refine ⟨rest, .tail _ (.head _), "value", ?_, ?_, by rw [restKind]; rfl⟩
      · have several : count ≠ 1 := by omega
        simp [delayChain, counted, Filter.output, Filter.innerOutput, restId]
      · exact ⟨_, by rw [Filter.ports, restKind]; rfl, rfl⟩
    · rw [if_neg long]
      have named : [stage].map Filter.id = ["stage"].map f.innerId := by
        simp [stageId]
      refine ⟨[stage], rfl, Composite.delayChain.roleNamed (.cons_cons _ (.cons _ .slnil)) named,
        ?_⟩
      intro port type provided
      obtain ⟨rfl, rfl⟩ := only_output kind .byte rfl provided
      obtain rfl : count = 1 := by omega
      refine ⟨stage, .head _, "value", ?_, ?_, by rw [stageKind]; rfl⟩
      · simp [delayChain, counted, Filter.output, Filter.innerOutput, stageId]
      · exact ⟨_, by rw [Filter.ports, stageKind]; rfl, rfl⟩

theorem faithful_oscillatingDimmer (kind : f.kind = .composite .oscillatingDimmer) :
    oscillatingDimmer.Faithful f where
  outputs := rfl
  fails := fun _ impossible => nomatch impossible
  inner := by
    intro ns made
    cases made
    refine ⟨[_, _], rfl, Composite.oscillatingDimmer.roleNamed (.refl _) rfl, ?_⟩
    intro port type provided
    obtain ⟨rfl, rfl⟩ := only_output kind .byte rfl provided
    exact ⟨_, .tail _ (.head _), "value", rfl, ⟨_, rfl, rfl⟩, rfl⟩

end Recipe

theorem Composite.faithful_recipe {f : Filter} {c : Composite} (kind : f.kind = .composite c) :
    c.recipe.Faithful f := by
  cases c with
  | position => exact Recipe.faithful_position kind
  | oscillator => exact Recipe.faithful_oscillator kind
  | dimmedColor => exact Recipe.faithful_dimmedColor kind
  | delayChain => exact Recipe.faithful_delayChain kind
  | oscillatingDimmer => exact Recipe.faithful_oscillatingDimmer kind

namespace RecipeBook

/-- The book has a recipe for every composite filter, and it does what the kind promises. -/
def Faithful (book : RecipeBook) : Prop :=
  ∀ f : Filter, f.kind.isComposite = true → ∃ r, book.recipe? f.kind = some r ∧ r.Faithful f

theorem faithful_builtIn : builtIn.Faithful := by
  intro f composite
  obtain ⟨c, kind⟩ := exists_composite_of_isComposite composite
  exact ⟨c.recipe, by rw [kind]; exact recipe?_builtIn c, c.faithful_recipe kind⟩

end RecipeBook

end LightShow
