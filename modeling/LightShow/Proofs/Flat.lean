import LightShow.Proofs.Assembly
import LightShow.Proofs.Emission

/-!
Scenes without composite filters. Nothing is unfolded, so that such a scene passes through the
compiler as it is; where no filter repeats a singleton kind it is accepted exactly if it is well
formed.
-/

namespace LightShow

open Stage Outcome OrderedMap

/-- All nodes are concrete, and each has an id of its own. -/
structure Scene.Flat (s : Scene) : Prop where
  concrete : ∀ n ∈ s.nodes, n.isComposite = false
  kinds : ∀ n ∈ s.nodes, n.kind.isComposite = false
  distinct : s.ids.Nodup

def finishAll (table : Substitution) (limit : Nat) (scene : UInt32)
    (kept : List (Filter × Ports)) : Except CompileError (List Filter) :=
  kept.mapM fun k => finish table limit scene (.ofFilters kept) k.1 k.2

section

variable {book : RecipeBook} {settings : Settings} {s : Scene}

theorem RecipeBook.concretesIn_concrete (book : RecipeBook) (budget : Nat) {n : Node}
    (concrete : n.isComposite = false) : book.concretesIn budget n = [n.filter] := by
  cases n with
  | concrete f => cases budget <;> rfl
  | composite f => cases concrete

theorem RecipeBook.compositesIn_concrete (book : RecipeBook) (budget : Nat) {n : Node}
    (concrete : n.isComposite = false) : book.compositesIn budget n = [] := by
  cases n with
  | concrete f => cases budget <;> rfl
  | composite f => cases concrete

theorem RecipeBook.expandable_concrete (book : RecipeBook) (budget : Nat) {n : Node}
    (concrete : n.isComposite = false) : book.Expandable budget n := by
  cases n with
  | concrete f => cases budget <;> trivial
  | composite f => cases concrete

namespace Scene.Flat

variable (flat : s.Flat)

include flat

theorem ids_filters : (s.filters.map Filter.id).Nodup := by
  rw [map_id_filters]
  exact flat.distinct

theorem kinds_filters : ∀ f ∈ s.filters, f.kind.isComposite = false := by
  intro f member
  obtain ⟨n, listed, rfl⟩ := List.mem_map.mp member
  exact flat.kinds n listed

variable (book settings)

theorem answers_expand_flat :
    Answers (expand book s.id settings.maxExpansionDepth s.nodes) s.filters [] := by
  refine answers_expand.mpr ⟨?_, ?_, ?_⟩
  · exact fun n listed => book.expandable_concrete _ (flat.concrete n listed)
  · rw [filters, ← List.flatMap_singleton' (s.nodes.map Node.filter), List.flatMap_map]
    exact (List.flatMap_congr fun n listed =>
      book.concretesIn_concrete _ (flat.concrete n listed)).symm
  · have none : s.nodes.flatMap (book.compositesIn settings.maxExpansionDepth) = [] :=
      List.flatMap_eq_nil_iff.mpr fun n listed =>
        book.compositesIn_concrete _ (flat.concrete n listed)
    rw [none]
    rfl

theorem outcome_gather : (gather book settings s).outcome =
    ((withoutRepeats s.filters).mapM Filter.withPorts).map fun kept => (s.filters, kept) := by
  have expanded := flat.answers_expand_flat book settings
  have retained := outcome_retain_ofScene s.id flat.ids_filters flat.kinds_filters
  simp only [gather, Run.bind_eq, Run.pure_eq, Run.outcome_bind, expanded.1, ok_bind, retained]
  cases (withoutRepeats s.filters).mapM Filter.withPorts <;> rfl

theorem outcome_deployScene : (deployScene book settings s).outcome =
    (withoutRepeats s.filters).mapM Filter.withPorts >>= finishAll
      (.extend ∅ (repeatRules s.filters)) settings.maxSubstitutionSteps s.id := by
  have gathered := flat.outcome_gather book settings
  cases ports : (withoutRepeats s.filters).mapM Filter.withPorts with
  | error e =>
    rw [ports] at gathered
    simp only [deployScene, Run.bind_eq, Run.outcome_bind, gathered]
    rfl
  | ok kept =>
    rw [ports] at gathered
    obtain ⟨-, folding, gathers, -⟩ := answers_gather_iff.mp (answers_of_outcome gathered)
    have expanded := flat.answers_expand_flat book settings
    have table : Substitution.ofEntries (gather book settings s).reports =
        .extend ∅ (repeatRules s.filters) := by
      have rules := gathers.finalTable_eq_extend
      have same : concretesOf book settings s = s.filters :=
        (answers_expand.mp expanded).2.1.symm
      have unruled : Substitution.ofEntries
          (expand book s.id settings.maxExpansionDepth s.nodes).reports = ∅ :=
        congrArg (Substitution.extend ∅) expanded.2
      rw [same, unruled] at rules
      exact rules
    simp only [deployScene, Run.bind_eq, Run.outcome_bind, gathered, table]
    show (finishAll _ _ s.id kept >>= fun emitted => Except.ok emitted) = finishAll _ _ s.id kept
    cases finishAll _ settings.maxSubstitutionSteps s.id kept <;> rfl

theorem outcome_deployScene_unrepeated (unrepeated : ∀ f ∈ s.filters, ¬ f.Repeats s.filters) :
    (deployScene book settings s).outcome = s.filters.mapM Filter.withPorts >>=
      finishAll ∅ settings.maxSubstitutionSteps s.id := by
  rw [flat.outcome_deployScene book, withoutRepeats_eq_self unrepeated,
    repeatRules_eq_nil unrepeated]
  rfl

end Scene.Flat

end

section

variable {limit : Nat} {scene : UInt32} {outputs : OutputIndex} {f g : Filter} {ports : Ports}

/-- Every link is on a declared input, and leads to an output in the index of the same type. -/
def Filter.Typed (f : Filter) (ports : Ports) (outputs : OutputIndex) : Prop :=
  ∀ link ∈ f.links.entries, ∃ type, ports.inputs.get? link.1 = some type ∧
    outputs.typeOf? link.2 = some type

theorem bindLinks_unruled {inputs : PortTypes} {links : Links} :
    bindLinks ∅ limit scene f inputs outputs = .ok links ↔
      (∀ link ∈ f.links.entries, ∃ type, inputs.get? link.1 = some type ∧
        outputs.typeOf? link.2 = some type) ∧ links = f.links := by
  have one : ∀ link bound : String × OutputRef, (bound.1 = link.1 ∧
      bindLink ∅ limit scene f.id inputs outputs link.1 link.2 = .ok bound.2) ↔
      (∃ type, inputs.get? link.1 = some type ∧ outputs.typeOf? link.2 = some type) ∧
        link = bound := by
    intro link bound
    have stays : Substitution.resolve ∅ limit link.2 = .ok link.2 :=
      (Substitution.resolve_self_iff limit).mpr rfl
    rw [bindLink_eq_ok_iff, stays, Except.ok.injEq, Prod.ext_iff]
    constructor
    · rintro ⟨same, type, declared, rest, found⟩
      exact ⟨⟨type, declared, rest ▸ found⟩, same.symm, rest⟩
    · rintro ⟨⟨type, declared, found⟩, same, rest⟩
      exact ⟨same.symm, type, declared, rest, rest ▸ found⟩
  rw [bindLinks_eq_ok_iff]
  simp only [one]
  rw [List.forall₂_and_left, List.forall₂_eq_eq_eq]
  refine and_congr_right fun _ => ⟨fun same => ext_entries same.symm, ?_⟩
  intro same
  rw [same]

/-- `g` is `f` at the origin, with the value of a constant written anew. -/
def Filter.PassesAs (f g : Filter) : Prop :=
  f.Rewrites g.parameters ∧ g = { f with parameters := g.parameters, position := .origin }

theorem passesAs_of_finish (told : f.ports = .ok ports)
    (finished : finish ∅ limit scene outputs f ports = .ok g) : f.PassesAs g := by
  obtain ⟨links, parameters, bound, normal, rfl⟩ := finish_eq_ok_iff.mp finished
  obtain ⟨-, rfl⟩ := bindLinks_unruled.mp bound
  exact ⟨Filter.rewrites_of_normalParameters told normal, rfl⟩

theorem exists_finish_unruled_iff (told : f.ports = .ok ports) :
    (∃ g, finish ∅ limit scene outputs f ports = .ok g) ↔
      f.Typed ports outputs ∧ f.Readable := by
  rw [← Filter.exists_normalParameters_iff told]
  constructor
  · intro finishes
    obtain ⟨g, finished⟩ := finishes
    obtain ⟨links, parameters, bound, normal, -⟩ := finish_eq_ok_iff.mp finished
    exact ⟨(bindLinks_unruled.mp bound).1, parameters, normal⟩
  · intro both
    obtain ⟨typed, parameters, normal⟩ := both
    exact ⟨_, finish_eq_ok_iff.mpr
      ⟨f.links, parameters, bindLinks_unruled.mpr ⟨typed, rfl⟩, normal, rfl⟩⟩

end

section

variable {fs : List Filter} {kept : List (Filter × Ports)}

/-- What the engine needs of filters that it gets as they are. -/
structure WellFormed (fs : List Filter) : Prop where
  declared : ∀ f ∈ fs, ∃ ports, f.ports = .ok ports
  linked : ∀ f ∈ fs, f.WellLinked fs
  readable : ∀ f ∈ fs, f.Readable

theorem exists_withPorts_iff :
    (∃ kept, fs.mapM Filter.withPorts = .ok kept) ↔
      ∀ f ∈ fs, ∃ ports, f.ports = .ok ports := by
  rw [exists_mapM_eq_ok_iff]
  refine forall₂_congr fun f _ => ?_
  constructor
  · intro declares
    obtain ⟨k, declares⟩ := declares
    exact ⟨k.2, Filter.declaredPorts_eq_ok_iff.mp (Filter.withPorts_eq_ok_iff.mp declares).2⟩
  · intro told
    obtain ⟨ports, told⟩ := told
    exact ⟨(f, ports),
      Filter.withPorts_eq_ok_iff.mpr ⟨rfl, Filter.declaredPorts_eq_ok_iff.mpr told⟩⟩

theorem map_fst_of_withPorts (declares : fs.mapM Filter.withPorts = .ok kept) :
    kept.map Prod.fst = fs := by
  have each := mapM_eq_ok_iff.mp declares
  have same := map_eq_map (g := id) (h := Prod.fst) each fun f k found =>
    (Filter.withPorts_eq_ok_iff.mp found).1.symm
  rw [← same, List.map_id]

theorem ports_of_withPorts (declares : fs.mapM Filter.withPorts = .ok kept) :
    ∀ k ∈ kept, k.1 ∈ fs ∧ k.1.ports = .ok k.2 := by
  intro k member
  obtain ⟨f, listed, found⟩ := exists_left (mapM_eq_ok_iff.mp declares) member
  obtain ⟨rfl, told⟩ := Filter.withPorts_eq_ok_iff.mp found
  exact ⟨listed, Filter.declaredPorts_eq_ok_iff.mp told⟩

variable (declares : fs.mapM Filter.withPorts = .ok kept) (distinct : (fs.map Filter.id).Nodup)

include declares distinct

theorem typeOf?_withPorts_iff {r : OutputRef} {type : SignalType} :
    (OutputIndex.ofFilters kept).typeOf? r = some type ↔
      ∃ g ∈ fs, g.id = r.filter ∧ g.Provides r.port type := by
  have ids : (kept.map fun k => k.1.id).Nodup := by
    rw [← map_fst_of_withPorts declares, List.map_map] at distinct
    exact distinct
  rw [typeOf?_ofFilters_iff ids]
  constructor
  · intro found
    obtain ⟨k, member, id, offered⟩ := found
    obtain ⟨listed, told⟩ := ports_of_withPorts declares k member
    exact ⟨k.1, listed, id, k.2, told, offered⟩
  · intro found
    obtain ⟨g, listed, id, ports, told, offered⟩ := found
    rw [← map_fst_of_withPorts declares] at listed
    obtain ⟨k, member, rfl⟩ := List.mem_map.mp listed
    have told' := (ports_of_withPorts declares k member).2
    cases told.symm.trans told'
    exact ⟨k, member, id, offered⟩

theorem typed_iff_wellLinked {k : Filter × Ports} (member : k ∈ kept) :
    k.1.Typed k.2 (.ofFilters kept) ↔ k.1.WellLinked fs := by
  have told := (ports_of_withPorts declares k member).2
  unfold Filter.Typed Filter.WellLinked
  refine forall₂_congr fun link _ => exists_congr fun type => ?_
  have accepts : k.1.Accepts link.1 type ↔ k.2.inputs.get? link.1 = some type := by
    constructor
    · intro accepts
      obtain ⟨ports, told', offered⟩ := accepts
      cases told.symm.trans told'
      exact offered
    · exact fun offered => ⟨k.2, told, offered⟩
  rw [accepts, typeOf?_withPorts_iff declares distinct]

theorem exists_finishAll_iff {limit : Nat} {scene : UInt32} :
    (∃ gs, finishAll ∅ limit scene kept = .ok gs) ↔
      ∀ f ∈ fs, f.WellLinked fs ∧ f.Readable := by
  unfold finishAll
  rw [exists_mapM_eq_ok_iff]
  have one : ∀ k ∈ kept, (∃ g, finish ∅ limit scene (.ofFilters kept) k.1 k.2 = .ok g) ↔
      k.1.WellLinked fs ∧ k.1.Readable := by
    intro k member
    rw [exists_finish_unruled_iff (ports_of_withPorts declares k member).2,
      typed_iff_wellLinked declares distinct member]
  rw [forall₂_congr one]
  constructor
  · intro each f listed
    rw [← map_fst_of_withPorts declares] at listed
    obtain ⟨k, member, rfl⟩ := List.mem_map.mp listed
    exact each k member
  · exact fun each k member => each k.1 (ports_of_withPorts declares k member).1

end

/-- A scene of concrete filters, of which no two are of one singleton kind, is deployed exactly
    if it is well formed, and then its filters pass as they are, at the origin and with the values
    of constants written anew. -/
theorem flat_scene_deploys_iff (book : RecipeBook) (settings : Settings) (s : Scene)
    (flat : s.Flat) (single : ∀ k : Kind, k.isSingleton = true →
      s.filters.countP (fun f => f.kind = k) ≤ 1) :
    ((∃ fs, (deployScene book settings s).outcome = .ok fs) ↔ WellFormed s.filters) ∧
      ∀ fs, (deployScene book settings s).outcome = .ok fs →
        List.Forall₂ Filter.PassesAs s.filters fs := by
  have unrepeated := not_repeats_of_unique fun f member g member' kind same =>
    eq_of_countP_kind_le (single f.kind kind) member' same member rfl
  have outcome := flat.outcome_deployScene_unrepeated book settings
    unrepeated
  simp only [outcome, bind_eq_ok_iff]
  refine ⟨⟨?_, ?_⟩, ?_⟩
  · intro deployed
    obtain ⟨gs, kept, declares, finished⟩ := deployed
    have each := (exists_finishAll_iff declares flat.ids_filters).mp ⟨gs, finished⟩
    exact ⟨exists_withPorts_iff.mp ⟨kept, declares⟩, fun f member => (each f member).1,
      fun f member => (each f member).2⟩
  · intro wellFormed
    obtain ⟨kept, declares⟩ := exists_withPorts_iff.mpr wellFormed.declared
    obtain ⟨gs, finished⟩ := (exists_finishAll_iff declares flat.ids_filters).mpr
      fun f member => ⟨wellFormed.linked f member, wellFormed.readable f member⟩
    exact ⟨gs, kept, declares, finished⟩
  · intro gs deployed
    obtain ⟨kept, declares, finished⟩ := deployed
    have passes := (List.forall₂_and_left kept gs).mpr
      ⟨fun k member => (ports_of_withPorts declares k member).2, mapM_eq_ok_iff.mp finished⟩
    rw [← map_fst_of_withPorts declares, List.forall₂_map_left_iff]
    refine passes.imp fun k g both => ?_
    obtain ⟨told, finished⟩ := both
    exact passesAs_of_finish told finished

def negatedConstant : Scene where
  id := 1
  name := "Main"
  nodes := [
    .ofFilter { id := "d", kind := .debug .bool, position := ⟨30, 0⟩,
                links := .ofList [("value", ⟨"n", "value"⟩)] },
    .ofFilter { id := "n", kind := .negation, links := .ofList [("value", ⟨"c", "value"⟩)] },
    .ofFilter { id := "c", kind := .constant .bool, position := ⟨10, 20⟩,
                parameters := .ofList [("note", "on"), ("value", " 1")] },
    .ofFilter { id := "s", kind := .trigonometric .sine,
                links := .ofList [("value", ⟨"t", "value"⟩)] },
    .ofFilter { id := "t", kind := .time }]

def negatedConstantFilters : List Filter := [
  { id := "d", kind := .debug .bool, links := .ofList [("value", ⟨"n", "value"⟩)] },
  { id := "n", kind := .negation, links := .ofList [("value", ⟨"c", "value"⟩)] },
  { id := "c", kind := .constant .bool,
    parameters := .ofList [("note", "on"), ("value", "true")] },
  { id := "s", kind := .trigonometric .sine, links := .ofList [("value", ⟨"t", "value"⟩)] },
  { id := "t", kind := .time }]

theorem flat_scene_deploys_iff_negated_constant :
    negatedConstant.Flat ∧
      (∀ k : Kind, k.isSingleton = true →
        negatedConstant.filters.countP (fun f => f.kind = k) ≤ 1) ∧
      (deployScene .empty {} negatedConstant).outcome = .ok negatedConstantFilters ∧
      WellFormed negatedConstant.filters ∧
      List.Forall₂ Filter.PassesAs negatedConstant.filters negatedConstantFilters := by
  have flat : negatedConstant.Flat := by
    refine ⟨?_, ?_, ?_⟩ <;> decide
  have single : ∀ k : Kind, k.isSingleton = true →
      negatedConstant.filters.countP (fun f => f.kind = k) ≤ 1 := by
    intro k single
    cases k with
    | time | sceneTime | mainBrightness => decide
    | _ => cases single
  have deployed : (deployScene .empty {} negatedConstant).outcome = .ok negatedConstantFilters := by
    cbv
  have both := flat_scene_deploys_iff .empty {} negatedConstant flat single
  exact ⟨flat, single, deployed, both.1.mp ⟨_, deployed⟩, both.2 _ deployed⟩

end LightShow
