import LightShow.Proofs.BuiltIn

/-!
How the built-in recipes link the nodes that they make: every link is on a declared input, and
what it leads to is an output of the same type of a node made beside it, or what the composite
filter itself is linked to on an input of that type.
-/

namespace LightShow

open Outcome OrderedMap

namespace Filter

theorem Accepts.unique {f : Filter} {port : String} {type type' : SignalType}
    (accepts : f.Accepts port type) (accepts' : f.Accepts port type') : type = type' := by
  obtain ⟨ports, declared, found⟩ := accepts
  obtain ⟨ports', declared', found'⟩ := accepts'
  obtain rfl : ports = ports' := Except.ok.inj (declared.symm.trans declared')
  exact Option.some.inj (found.symm.trans found')

end Filter

/-- `r` is an output of this type of one of the inner filters of `f`, or what `f` is linked to
    on an input of this type. -/
def Reaches (f : Filter) (inner : List Filter) (r : OutputRef) (type : SignalType) : Prop :=
  (∃ h ∈ inner, ∃ port, r = h.output port ∧ h.Provides port type) ∨
    ∃ input, f.links.get? input = some r ∧ f.Accepts input type

/-- Every link of `g` is on a declared input and reaches an output of the same type. -/
def Wired (f : Filter) (inner : List Filter) (g : Filter) : Prop :=
  ∀ link ∈ g.links.entries, ∃ type, g.Accepts link.1 type ∧ Reaches f inner link.2 type

section

variable {f g : Filter} {inner : List Filter}

theorem wired_of_no_links (none : g.links = ∅) : Wired f inner g := by
  intro link linked
  rw [none] at linked
  cases linked

theorem Wired.withLink (type : SignalType) (wired : Wired f inner g) {input : String}
    {source : OutputRef} (accepts : g.Accepts input type)
    (reaches : Reaches f inner source type) : Wired f inner (g.withLink input source) := by
  intro link linked
  rcases mem_entries_insert linked with rfl | before
  · exact ⟨type, accepts, reaches⟩
  · exact wired link before

theorem Wired.withLink? (type : SignalType) (wired : Wired f inner g) {input : String}
    {source : Option OutputRef} (accepts : g.Accepts input type)
    (reaches : ∀ r, source = some r → Reaches f inner r type) :
    Wired f inner (g.withLink? input source) := by
  cases source with
  | none => exact wired
  | some r => exact wired.withLink type accepts (reaches r rfl)

theorem Wired.withParameter (wired : Wired f inner g) (key value : String) :
    Wired f inner (g.withParameter key value) := wired

theorem Wired.of_links {h : Filter} (wired : Wired f inner g) (links : h.links = g.links)
    (ports : h.ports = g.ports) : Wired f inner h := by
  intro link linked
  rw [links] at linked
  obtain ⟨type, ⟨declared, told, accepted⟩, reaches⟩ := wired link linked
  exact ⟨type, ⟨declared, ports.trans told, accepted⟩, reaches⟩

end

/-- The recipe fails only over what `f` says of itself, and links the inner nodes by type. -/
structure Recipe.Typed (r : Recipe) (f : Filter) : Prop where
  fails : ∀ e, r.nodes f = .error e → e.isLocal = true
  inner : ∀ ns, r.nodes f = .ok ns → ∃ inner, ns = inner.map .ofFilter ∧
    ∀ g ∈ inner, Wired f inner g

namespace Recipe

variable {f : Filter}

theorem reaches_inner {inner : List Filter} {h : Filter} (held : h ∈ inner) {port : String}
    {type : SignalType} (provides : h.Provides port type) : Reaches f inner (h.output port) type :=
  Or.inl ⟨h, held, port, rfl, provides⟩

theorem reaches_forwarded {inner : List Filter} {input : String} {type : SignalType}
    (accepts : f.Accepts input type) (r : OutputRef) (linked : f.links.get? input = some r) :
    Reaches f inner r type :=
  Or.inr ⟨input, linked, accepts⟩

theorem accepts_composite {c : Composite} (kind : f.kind = .composite c) {input : String}
    {type : SignalType} (declared : c.ports.inputs.get? input = some type) :
    f.Accepts input type :=
  ⟨c.ports, by rw [Filter.ports, kind]; rfl, declared⟩

theorem wired_axis {name : String} (raw : String) {inner : List Filter}
    (held : (f.inner (name ++ "_value") (.constant .word)).withParameter "value" raw ∈ inner) :
    Wired f inner ((f.inner name (.conversion .wordToBytes)).withLink "value"
      (f.innerOutput (name ++ "_value") "value")) := by
  refine Wired.withLink .word ?_ ⟨_, rfl, rfl⟩ (reaches_inner held ⟨_, rfl, rfl⟩)
  exact wired_of_no_links rfl

theorem typed_position : position.Typed f where
  fails := fun _ failed => isLocal_of_nodes (c := .position) failed
  inner := by
    intro ns made
    obtain ⟨pan, panMade, made⟩ := bind_eq_ok_iff.mp made
    obtain ⟨tilt, tiltMade, made⟩ := bind_eq_ok_iff.mp made
    obtain ⟨x, -, rfl⟩ := axis_eq_ok panMade
    obtain ⟨y, -, rfl⟩ := axis_eq_ok tiltMade
    cases made
    refine ⟨_, List.map_append.symm, ?_⟩
    simp only [List.cons_append, List.nil_append, List.forall_mem_cons]
    refine ⟨wired_of_no_links rfl, wired_axis (Text.ofNat x) ?_, wired_of_no_links rfl,
      wired_axis (Text.ofNat y) ?_, ?_⟩
    · exact .head _
    · exact .tail _ (.tail _ (.head _))
    · exact List.forall_mem_nil _

theorem typed_oscillator : oscillator.Typed f where
  fails := fun _ failed => isLocal_of_nodes (c := .oscillator) failed
  inner := by
    intro ns made
    obtain ⟨period, -, made⟩ := bind_eq_ok_iff.mp made
    split at made
    · cases made
    obtain ⟨amplitude, -, made⟩ := bind_eq_ok_iff.mp made
    obtain ⟨offset, -, made⟩ := bind_eq_ok_iff.mp made
    cases made
    refine ⟨_, rfl, ?_⟩
    simp only [List.forall_mem_cons]
    refine ⟨wired_of_no_links rfl, wired_of_no_links rfl, ?phase, ?sine, ?scale, ?_⟩
    case phase =>
      refine .withLink .float ?_ ⟨_, rfl, rfl⟩
        (reaches_inner (.tail _ (.head _)) ⟨_, rfl, rfl⟩)
      refine .withLink .float ?_ ⟨_, rfl, rfl⟩ (reaches_inner (.head _) ⟨_, rfl, rfl⟩)
      exact wired_of_no_links rfl
    case sine =>
      refine .withLink .float ?_ ⟨_, rfl, rfl⟩
        (reaches_inner (.tail _ (.tail _ (.head _))) ⟨_, rfl, rfl⟩)
      exact wired_of_no_links rfl
    case scale =>
      refine .withParameter (.withParameter (.withLink .float ?_ ⟨_, rfl, rfl⟩
        (reaches_inner (.tail _ (.tail _ (.tail _ (.head _)))) ⟨_, rfl, rfl⟩)) _ _) _ _
      exact wired_of_no_links rfl
    · exact List.forall_mem_nil _

theorem typed_dimmedColor (kind : f.kind = .composite .dimmedColor) : dimmedColor.Typed f where
  fails := fun _ impossible => nomatch impossible
  inner := by
    intro ns made
    cases made
    refine ⟨[_, _], rfl, ?_⟩
    simp only [List.forall_mem_cons]
    refine ⟨wired_of_no_links rfl, ?mix, ?_⟩
    case mix =>
      refine .withLink? .color (.withLink .byte ?_ ⟨_, rfl, rfl⟩
        (reaches_inner (.head _) ⟨_, rfl, rfl⟩)) ⟨_, rfl, rfl⟩
        (reaches_forwarded (accepts_composite kind rfl))
      exact wired_of_no_links rfl
    · exact List.forall_mem_nil _

theorem typed_oscillatingDimmer : oscillatingDimmer.Typed f where
  fails := fun _ impossible => nomatch impossible
  inner := by
    intro ns made
    cases made
    refine ⟨[_, _], rfl, ?_⟩
    simp only [List.forall_mem_cons]
    refine ⟨wired_of_no_links rfl, ?convert, ?_⟩
    case convert =>
      refine .withLink .float ?_ ⟨_, rfl, rfl⟩ (reaches_inner (.head _) ⟨_, rfl, rfl⟩)
      exact wired_of_no_links rfl
    · exact List.forall_mem_nil _

theorem typed_delayChain (kind : f.kind = .composite .delayChain) : delayChain.Typed f where
  fails := fun _ failed => isLocal_of_nodes (c := .delayChain) failed
  inner := by
    intro ns made
    obtain ⟨count, stage, rest, -, stageId, stageKind, stageLinks, -, restKind, restLinks,
      rfl⟩ := delayChain_eq_ok made
    have stagePorts : stage.ports = .ok (.unary .byte .byte) := by
      rw [Filter.ports, stageKind]
      rfl
    have stageWired : ∀ inner, Wired f inner stage := by
      intro inner
      have plain := (f.inner "stage" (.timedSwitch .delayOn)).ports_withLink? "value"
        (f.links.get? "value")
      refine Wired.of_links ?_ stageLinks (stagePorts.trans plain.symm)
      refine .withLink? .byte ?_ ⟨_, rfl, rfl⟩ (reaches_forwarded (accepts_composite kind rfl))
      exact wired_of_no_links rfl
    have restWired : ∀ inner, stage ∈ inner → Wired f inner rest := by
      intro inner held link linked
      rw [restLinks] at linked
      obtain rfl := List.mem_singleton.mp linked
      have provides : stage.Provides "value" .byte := ⟨_, stagePorts, rfl⟩
      have here : f.innerOutput "stage" "value" = stage.output "value" := by
        rw [Filter.output, stageId]
        rfl
      refine ⟨.byte, ⟨_, by rw [Filter.ports, restKind]; rfl, rfl⟩, ?_⟩
      rw [here]
      exact reaches_inner held provides
    by_cases long : count > 1
    · rw [if_pos long]
      refine ⟨[stage, rest], rfl, ?_⟩
      simp only [List.forall_mem_cons]
      exact ⟨stageWired _, restWired _ (.head _), List.forall_mem_nil _⟩
    · rw [if_neg long]
      refine ⟨[stage], rfl, ?_⟩
      simp only [List.forall_mem_cons]
      exact ⟨stageWired _, List.forall_mem_nil _⟩

end Recipe

theorem Composite.typed_recipe {f : Filter} {c : Composite} (kind : f.kind = .composite c) :
    c.recipe.Typed f := by
  cases c with
  | position => exact Recipe.typed_position
  | oscillator => exact Recipe.typed_oscillator
  | dimmedColor => exact Recipe.typed_dimmedColor kind
  | delayChain => exact Recipe.typed_delayChain kind
  | oscillatingDimmer => exact Recipe.typed_oscillatingDimmer

namespace RecipeBook

def Typed (book : RecipeBook) : Prop :=
  ∀ (f : Filter) (r : Recipe), f.kind.isComposite = true → book.recipe? f.kind = some r →
    r.Typed f

theorem typed_builtIn : builtIn.Typed := by
  intro f r composite registered
  obtain ⟨c, kind⟩ := exists_composite_of_isComposite composite
  rw [kind, recipe?_builtIn c] at registered
  obtain rfl := Option.some.inj registered
  exact c.typed_recipe kind

end RecipeBook

end LightShow
