import LightShow.Proofs.Assembly
import LightShow.Proofs.InnerKinds
import LightShow.Proofs.InnerLinks
import LightShow.Proofs.Rules

/-!
Which links of a scene are checked. A composite filter is not deployed, but what it is linked to
is handed on to a node made for it. A filter that repeats a singleton kind is passed by before
its links are looked at, and what it is linked to is lost.
-/

namespace LightShow

open Outcome OrderedMap

namespace Filter

variable {f : Filter}

theorem get?_links_withLink? (f : Filter) (input : String) (r : OutputRef) :
    (f.withLink? input (some r)).links.get? input = some r := by
  rw [withLink?, withLink, get?_insert, if_pos rfl]

theorem accepts_composite_iff {c : Composite} (kind : f.kind = .composite c) {input : String}
    {type : SignalType} : f.Accepts input type ↔ c.ports.inputs.get? input = some type := by
  constructor
  · rintro ⟨ports, told, declared⟩
    rw [Filter.ports, kind] at told
    cases told
    exact declared
  · exact Recipe.accepts_composite kind

theorem not_accepts_of_singleton (single : f.kind.isSingleton = true) (input : String)
    (type : SignalType) : ¬ f.Accepts input type := by
  rintro ⟨ports, told, declared⟩
  unfold Filter.ports at told
  cases kind : f.kind with
  | time | sceneTime | mainBrightness =>
    rw [kind] at told
    cases told
    cases declared
  | _ =>
    rw [kind] at single
    cases single

/-- Among these nodes is a concrete filter that is never folded and is linked to `r` on an input
    of this type. -/
def HandedOn (ns : List Node) (r : OutputRef) (type : SignalType) : Prop :=
  ∃ g, .concrete g ∈ ns ∧ g.kind.isSingleton = false ∧
    ∃ input, g.links.get? input = some r ∧ g.Accepts input type

theorem handedOn_of_nodes {c : Composite} (kind : f.kind = .composite c) {ns : List Node}
    (made : c.recipe.nodes f = .ok ns) {input : String} {r : OutputRef} {type : SignalType}
    (linked : f.links.get? input = some r) (accepts : f.Accepts input type) :
    HandedOn ns r type := by
  rw [accepts_composite_iff kind] at accepts
  have declared := get?_eq_some_iff.mp accepts
  cases c with
  | position | oscillator | oscillatingDimmer => cases declared
  | dimmedColor =>
    obtain ⟨rfl, rfl⟩ := Prod.mk.inj (List.mem_singleton.mp declared)
    cases made
    let mix := (f.inner "mix" (.conversion .dimColor)).withLink "brightness"
      (f.innerOutput "main" "value")
    refine ⟨mix.withLink? "color" (some r), ?_, rfl, "color", mix.get?_links_withLink? .., ?_⟩
    · rw [linked]
      exact .tail _ (.head _)
    · exact ⟨_, rfl, rfl⟩
  | delayChain =>
    obtain ⟨rfl, rfl⟩ := Prod.mk.inj (List.mem_singleton.mp declared)
    obtain ⟨count, stage, rest, -, -, stageKind, stageLinks, -, -, -, rfl⟩ :=
      Recipe.delayChain_eq_ok made
    have plain : Node.ofFilter stage = .concrete stage :=
      Node.ofFilter_of_plain (by rw [stageKind]; rfl)
    refine ⟨stage, ?_, by rw [stageKind]; rfl, "value", ?_, ?_⟩
    · rw [plain]
      split <;> exact .head _
    · rw [stageLinks, linked]
      exact get?_links_withLink? ..
    · exact ⟨_, by rw [Filter.ports, stageKind]; rfl, rfl⟩

end Filter

section

variable {settings : Settings} {s : Scene} {kept : List (Filter × Ports)} {folding : List Rule}
  {fs : List Filter}

/-- The link is on a declared input, and leads to an output of the same type of one of these
    filters. -/
def Filter.LinkHolds (table : Substitution) (limit : Nat) (fs : List Filter) (f : Filter)
    (link : String × OutputRef) : Prop :=
  ∃ type, f.Accepts link.1 type ∧ ∃ r, table.resolve limit link.2 = .ok r ∧
    ∃ g ∈ fs, g.id = r.filter ∧ g.Provides r.port type

/-- A concrete node of which nothing is deployed. -/
def Node.Elided (fs : List Filter) (n : Node) : Prop :=
  n.isComposite = false ∧ n.id ∉ fs.map Filter.id

theorem Deploys.linkHolds_of_kept {book : RecipeBook}
    (deploys : Deploys book settings s kept folding fs) {k : Filter × Ports} (member : k ∈ kept)
    {link : String × OutputRef} (linked : link ∈ k.1.links.entries) :
    k.1.LinkHolds (finalTable book settings s) settings.maxSubstitutionSteps fs link := by
  obtain ⟨g, -, finished⟩ := exists_right deploys.finished member
  obtain ⟨links, parameters, bound, -, -⟩ := finish_eq_ok_iff.mp finished
  obtain ⟨target, -, -, bound⟩ := exists_right (bindLinks_eq_ok_iff.mp bound) linked
  obtain ⟨type, declared, resolved, found⟩ := bindLink_eq_ok_iff.mp bound
  have declares := Filter.declaredPorts_eq_ok_iff.mp (deploys.retains.declares member)
  exact ⟨type, ⟨k.2, declares, declared⟩, target.2, resolved,
    deploys.provides_of_found found⟩

theorem Deploys.kept_or_elided {book : RecipeBook}
    (deploys : Deploys book settings s kept folding fs) {f : Filter}
    (listed : f ∈ concretesOf book settings s) :
    (∃ ports, (f, ports) ∈ kept) ∧ f.id ∈ fs.map Filter.id ∨
      f.kind.isSingleton = true ∧ f.id ∉ fs.map Filter.id := by
  by_cases emitted : f.id ∈ fs.map Filter.id
  · refine Or.inl ⟨?_, emitted⟩
    rw [deploys.map_id] at emitted
    obtain ⟨⟨g, ports⟩, member, same⟩ := List.mem_map.mp emitted
    have listed' := deploys.retains.sublist.subset (List.mem_map_of_mem member)
    obtain rfl : g = f := List.inj_on_of_nodup_map deploys.distinct listed' listed same
    exact ⟨ports, member⟩
  · refine Or.inr ⟨?_, emitted⟩
    rcases deploys.retains.kept_or_folded listed with ⟨ports, member⟩ | ⟨single, -⟩
    · rw [deploys.map_id] at emitted
      exact absurd (List.mem_map_of_mem member) emitted
    · exact single

theorem Deploys.linkHolds_of_composite (deploys : Deploys .builtIn settings s kept folding fs)
    (valid : s.Valid) {f : Filter} (member : .composite f ∈ s.nodes) {link : String × OutputRef}
    (linked : link ∈ f.links.entries) :
    f.LinkHolds (finalTable .builtIn settings s) settings.maxSubstitutionSteps fs link := by
  have composite : f.kind.isComposite = true := (valid.followsKind _ member).symm
  obtain ⟨c, kind⟩ := exists_composite_of_isComposite composite
  have met : f ∈ RecipeBook.builtIn.compositesIn settings.maxExpansionDepth (.composite f) :=
    (deploys.expandable _ member).mem_compositesIn rfl
  obtain ⟨recipe, ports, unfolds⟩ :=
    RecipeBook.exists_unfolds_of_mem_compositesIn (deploys.expandable _ member) met
  obtain rfl := unfolds.recipe_eq kind
  have declared := unfolds.linked link.1 (List.mem_map_of_mem linked)
  obtain ⟨type, declared⟩ := Option.isSome_iff_exists.mp declared
  have accepts : f.Accepts link.1 type :=
    ⟨ports, Filter.declaredPorts_eq_ok_iff.mp unfolds.declares, declared⟩
  obtain ⟨g, isInner, many, input, handed, accepts'⟩ :=
    Filter.handedOn_of_nodes kind unfolds.nodes (get?_eq_some_iff.mpr linked) accepts
  have listed : g ∈ concretesOf .builtIn settings s :=
    List.mem_flatMap.mpr ⟨_, member, RecipeBook.mem_concretesIn_of_inner met isInner⟩
  obtain ⟨ports', isKept⟩ := deploys.retains.exists_kept listed many
  obtain ⟨type', accepts'', leads⟩ :=
    deploys.linkHolds_of_kept isKept (get?_eq_some_iff.mp handed)
  obtain rfl := accepts'.unique accepts''
  exact ⟨type, accepts, leads⟩

/-- A link of an authored node holds in what is deployed unless the node was folded away. Only
    filters of a singleton kind are, and no link on one of those would hold. -/
theorem authored_link_holds_iff (settings : Settings) (s : Scene) (assembled : s.Assembled)
    (fs : List Filter) (deployed : (deployScene .builtIn settings s).outcome = .ok fs) :
    (∀ n ∈ s.nodes, n.Elided fs → n.kind.isSingleton = true) ∧
      ∀ n ∈ s.nodes, ∀ link ∈ n.filter.links.entries,
        n.filter.LinkHolds (finalTable .builtIn settings s)
            settings.maxSubstitutionSteps fs link ↔
          ¬ n.Elided fs := by
  have valid := (Scene.assembled_iff_valid s).mp assembled
  obtain ⟨kept, folding, deploys⟩ := deployScene_eq_ok_iff.mp deployed
  have listed : ∀ f, .concrete f ∈ s.nodes → f ∈ concretesOf .builtIn settings s :=
    fun f member => List.mem_flatMap.mpr
      ⟨_, member, RecipeBook.builtIn.mem_concretesIn_concrete _ f⟩
  have elided_singleton : ∀ n ∈ s.nodes, n.Elided fs → n.kind.isSingleton = true := by
    rintro n member ⟨plain, missing⟩
    cases n with
    | composite f => cases plain
    | concrete f =>
      rcases deploys.kept_or_elided (listed f member) with ⟨-, emitted⟩ | ⟨single, -⟩
      · exact absurd emitted missing
      · exact single
  refine ⟨elided_singleton, ?_⟩
  intro n member link linked
  constructor
  · rintro ⟨type, accepts, -⟩ elided
    exact Filter.not_accepts_of_singleton (elided_singleton n member elided) _ _ accepts
  · intro deployed
    cases n with
    | composite f => exact deploys.linkHolds_of_composite valid member linked
    | concrete f =>
      rcases deploys.kept_or_elided (listed f member) with
        ⟨⟨ports, isKept⟩, -⟩ | ⟨-, missing⟩
      · exact deploys.linkHolds_of_kept isKept linked
      · exact absurd ⟨rfl, missing⟩ deployed

theorem authored_link_holds_iff_dimmed_and_delayed :
    dimmedAndDelayed.Assembled ∧
      (deployScene .builtIn {} dimmedAndDelayed).outcome = .ok dimmedAndDelayedFilters ∧
      ∃ n ∈ dimmedAndDelayed.nodes, n.isComposite = true ∧
        ("value", ⟨"m", "value"⟩) ∈ n.filter.links.entries ∧
        n.filter.LinkHolds (finalTable .builtIn {} dimmedAndDelayed) 64 dimmedAndDelayedFilters
          ("value", ⟨"m", "value"⟩) := by
  have assembled : dimmedAndDelayed.Assembled := ⟨dimmedAndDelayed.filters, by cbv⟩
  have deployed :
      (deployScene .builtIn {} dimmedAndDelayed).outcome = .ok dimmedAndDelayedFilters := by
    cbv
  obtain ⟨-, holds⟩ := authored_link_holds_iff {} dimmedAndDelayed assembled _ deployed
  refine ⟨assembled, deployed, _, .tail _ (.tail _ (.head _)), rfl, .head _, ?_⟩
  refine (holds _ (.tail _ (.tail _ (.head _))) _ (.head _)).mpr ?_
  rintro ⟨plain, -⟩
  cases plain

/-- A second time source, with a link on an input that it does not have to a filter that the scene
    does not have. -/
def repeatedTime : Scene where
  id := 1
  name := "Main"
  nodes := [
    .ofFilter { id := "t1", kind := .time },
    .ofFilter { id := "t2", kind := .time,
                links := .ofList [("speed", ⟨"nowhere", "value"⟩)] }]

def repeatedTimeFilters : List Filter := [{ id := "t1", kind := .time }]

theorem repeated_time_link_unchecked :
    repeatedTime.Assembled ∧
      (deployScene .builtIn {} repeatedTime).outcome = .ok repeatedTimeFilters ∧
      ∃ n ∈ repeatedTime.nodes, ∃ link ∈ n.filter.links.entries,
        ¬ n.filter.LinkHolds (finalTable .builtIn {} repeatedTime) 64
          repeatedTimeFilters link := by
  refine ⟨⟨repeatedTime.filters, by cbv⟩, by cbv, _, .tail _ (.head _), _, .head _, ?_⟩
  rintro ⟨type, accepts, -⟩
  exact Filter.not_accepts_of_singleton rfl "speed" type accepts

end

end LightShow
