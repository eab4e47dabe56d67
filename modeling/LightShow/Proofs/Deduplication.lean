import LightShow.Proofs.Flat

/-!
Folding singletons is transparent. A scene of concrete filters is deployed as if the filters
that repeat a singleton kind had been taken out by hand, and the links to their outputs led to
the first filter of the kind.
-/

namespace LightShow

open Stage Outcome OrderedMap

/-- What a reference leads to once the filters that repeat a kind are gone: an output of one of
    them gives way to the same output of the first filter of its kind. -/
def standIn (fs : List Filter) (r : OutputRef) : OutputRef :=
  match fs.find? fun f => f.Repeats fs ∧ f.id = r.filter ∧ r.port ∈ f.outputNames with
  | none => r
  | some f =>
    match leader? fs f.kind with
    | none => r
    | some first => first.output r.port

def Filter.relinked (lead : OutputRef → OutputRef) (f : Filter) : Filter :=
  { f with links := f.links.mapValues lead }

/-- The scene without the nodes that repeat a singleton kind, and with all links to their outputs
    led to those of the first nodes of their kinds. -/
def Scene.deduplicated (s : Scene) : Scene :=
  let kept := s.nodes.filter fun n => ¬ n.filter.Repeats s.filters
  { s with nodes := kept.map (Node.map (Filter.relinked (standIn s.filters))) }

section

variable {fs : List Filter} {r : OutputRef}

theorem get?_repeatRules_leader (distinct : (fs.map Filter.id).Nodup) {k : Kind} {first : Filter}
    (leads : leader? fs k = some first) (port : String) :
    (Substitution.extend ∅ (repeatRules fs)).get? (first.output port) = none := by
  rw [Substitution.get?_extend_empty_eq_none_iff]
  intro rule member source
  obtain ⟨f, listed, repeats, _, _, _, _, rfl⟩ := mem_repeatRules_iff.mp member
  have ids : f.id = first.id := (OutputRef.mk.inj source).1
  obtain rfl := List.inj_on_of_nodup_map distinct listed (mem_of_leader? leads) ids
  rw [← kind_of_leader? leads] at leads
  exact repeats.2 leads

theorem get?_repeatRules (distinct : (fs.map Filter.id).Nodup) {f first : Filter}
    (listed : f ∈ fs) (repeats : f.Repeats fs) (leads : leader? fs f.kind = some first)
    {port : String} (offered : port ∈ f.outputNames) :
    (Substitution.extend ∅ (repeatRules fs)).get? (f.output port) = some (first.output port) := by
  have written := mem_repeatRules_iff.mpr ⟨f, listed, repeats, first, leads, port, offered, rfl⟩
  obtain ⟨target, ruled, written⟩ := Substitution.exists_get?_extend (t := ∅) written
  obtain ⟨f', listed', -, first', leads', port', -, same⟩ := mem_repeatRules_iff.mp written
  obtain ⟨sources, rfl⟩ := Rule.mk.inj same
  obtain ⟨ids, rfl⟩ := OutputRef.mk.inj sources
  obtain rfl := List.inj_on_of_nodup_map distinct listed listed' ids
  cases leads.symm.trans leads'
  exact ruled

theorem endsAt_standIn (distinct : (fs.map Filter.id).Nodup) {limit : Nat} (steps : 1 ≤ limit) :
    Substitution.EndsAt (.extend ∅ (repeatRules fs)) limit r (standIn fs r) := by
  unfold standIn
  split
  · rename_i found
    refine ⟨⟨0, Nat.zero_le limit, .here r⟩, ?_⟩
    rw [Substitution.get?_extend_empty_eq_none_iff]
    intro rule member source
    obtain ⟨f, listed, repeats, first, -, port, offered, rfl⟩ := mem_repeatRules_iff.mp member
    subst source
    exact List.find?_eq_none.mp found f listed (decide_eq_true ⟨repeats, rfl, offered⟩)
  · rename_i f found
    obtain ⟨repeats, id, offered⟩ :
        f.Repeats fs ∧ f.id = r.filter ∧ r.port ∈ f.outputNames := by
      simpa using List.find?_some found
    have listed := List.mem_of_find?_eq_some found
    obtain ⟨first, leads⟩ := exists_leader?_of_mem listed
    have ruled := get?_repeatRules distinct listed repeats leads offered
    have source : f.output r.port = r := by rw [Filter.output, id]
    rw [source] at ruled
    rw [leads]
    exact ⟨⟨1, steps, .step ruled (.here _)⟩, get?_repeatRules_leader distinct leads r.port⟩

end

section

variable {fs : List Filter} (distinct : (fs.map Filter.id).Nodup)

include distinct

variable {limit : Nat} {scene : UInt32} {outputs : OutputIndex} (steps : 1 ≤ limit)

include steps

theorem bindLink_standIn (filter : String) (inputs : PortTypes) (port : String) (r : OutputRef) :
    bindLink (.extend ∅ (repeatRules fs)) limit scene filter inputs outputs port r =
      bindLink ∅ limit scene filter inputs outputs port (standIn fs r) := by
  have folded : Substitution.resolve (.extend ∅ (repeatRules fs)) limit r = .ok (standIn fs r) :=
    Substitution.resolve_eq_ok_iff_endsAt.mpr (endsAt_standIn distinct steps)
  have stays : Substitution.resolve ∅ limit (standIn fs r) = .ok (standIn fs r) :=
    (Substitution.resolve_self_iff limit).mpr rfl
  unfold bindLink
  rw [folded, stays]

theorem finish_standIn (f : Filter) (ports : Ports) :
    finish (.extend ∅ (repeatRules fs)) limit scene outputs f ports =
      finish ∅ limit scene outputs (f.relinked (standIn fs)) ports := by
  have links : bindLinks (.extend ∅ (repeatRules fs)) limit scene f ports.inputs outputs =
      bindLinks ∅ limit scene (f.relinked (standIn fs)) ports.inputs outputs := by
    simp only [bindLinks, Filter.relinked, mapValues, List.mapM_map, Function.comp_def,
      bindLink_standIn distinct steps]
  unfold finish
  rw [links]
  rfl

theorem finishAll_standIn (kept : List (Filter × Ports)) :
    finishAll (.extend ∅ (repeatRules fs)) limit scene kept =
      finishAll ∅ limit scene (kept.map fun k => (k.1.relinked (standIn fs), k.2)) := by
  have index : OutputIndex.ofFilters (kept.map fun k => (k.1.relinked (standIn fs), k.2)) =
      .ofFilters kept := by
    rw [ofFilters_eq_ofList, ofFilters_eq_ofList, List.map_map]
    rfl
  simp only [finishAll, index, List.mapM_map, Function.comp_def, finish_standIn distinct steps]

end

theorem withPorts_relinked (f : Filter) (lead : OutputRef → OutputRef) :
    (f.relinked lead).withPorts = f.withPorts.map fun k => (k.1.relinked lead, k.2) := by
  have same : (f.relinked lead).declaredPorts = f.declaredPorts := rfl
  unfold Filter.withPorts
  rw [same]
  cases f.declaredPorts <;> rfl

section

variable {s : Scene}

theorem filters_deduplicated (s : Scene) : s.deduplicated.filters =
    (withoutRepeats s.filters).map (Filter.relinked (standIn s.filters)) := by
  simp only [Scene.filters, Scene.deduplicated, withoutRepeats, List.filter_map, List.map_map]
  exact List.map_congr_left fun n _ => Node.filter_map _ n

theorem Scene.Flat.deduplicated (flat : s.Flat) : s.deduplicated.Flat := by
  have origin : ∀ n ∈ s.deduplicated.nodes, ∃ m ∈ s.nodes,
      n = m.map (Filter.relinked (standIn s.filters)) := by
    intro n member
    obtain ⟨m, kept, rfl⟩ := List.mem_map.mp member
    exact ⟨m, (List.mem_filter.mp kept).1, rfl⟩
  refine ⟨?_, ?_, ?_⟩
  · intro n member
    obtain ⟨m, listed, rfl⟩ := origin n member
    rw [Node.isComposite_map]
    exact flat.concrete m listed
  · intro n member
    obtain ⟨m, listed, rfl⟩ := origin n member
    have kind : (m.map (Filter.relinked (standIn s.filters))).kind = m.kind := by
      rw [Node.kind, Node.filter_map]
      rfl
    rw [kind]
    exact flat.kinds m listed
  · have ids : s.deduplicated.ids =
        (s.nodes.filter fun n => ¬ n.filter.Repeats s.filters).map Node.id := by
      simp only [Scene.ids, Scene.deduplicated, List.map_map]
      refine List.map_congr_left fun m _ => ?_
      rw [Function.comp_apply, Node.id, Node.filter_map]
      rfl
    rw [ids]
    exact flat.distinct.sublist (List.filter_sublist.map Node.id)

theorem not_repeats_deduplicated (s : Scene) :
    ∀ f ∈ s.deduplicated.filters, ¬ f.Repeats s.deduplicated.filters := by
  rw [filters_deduplicated]
  refine not_repeats_of_unique fun f member g member' single same => ?_
  obtain ⟨f, kept, rfl⟩ := List.mem_map.mp member
  obtain ⟨g, kept', rfl⟩ := List.mem_map.mp member'
  have same : g.kind = f.kind := same
  have first := not_repeats_iff.mp (mem_withoutRepeats_iff.mp kept).2 single
  have first' := not_repeats_iff.mp (mem_withoutRepeats_iff.mp kept').2 (same ▸ single)
  rw [same, first] at first'
  rw [Option.some.inj first']

end

/-- A scene of concrete filters, each with an id of its own, is deployed, or refused, as if the
    filters that repeat a singleton kind had been taken out before. -/
theorem deduplication_transparent (book : RecipeBook) (settings : Settings) (s : Scene)
    (flat : s.Flat) (steps : 1 ≤ settings.maxSubstitutionSteps) :
    (deployScene book settings s).outcome =
      (deployScene book settings s.deduplicated).outcome := by
  rw [flat.outcome_deployScene,
    flat.deduplicated.outcome_deployScene_unrepeated book settings (not_repeats_deduplicated s),
    filters_deduplicated, List.mapM_map]
  have relinked : (withoutRepeats s.filters).mapM
      (Filter.withPorts ∘ Filter.relinked (standIn s.filters)) =
      ((withoutRepeats s.filters).mapM Filter.withPorts).map
        (List.map fun k => (k.1.relinked (standIn s.filters), k.2)) := by
    rw [← mapM_map_answer]
    exact congrArg (fun step => (withoutRepeats s.filters).mapM step)
      (funext fun f => withPorts_relinked f _)
  rw [relinked]
  cases (withoutRepeats s.filters).mapM Filter.withPorts with
  | error e => rfl
  | ok kept => exact finishAll_standIn flat.ids_filters steps kept

/-- Two filters of a singleton kind that share their id. The scene is refused, but the one without
    the second filter is deployed. -/
def timesOfOneId : Scene where
  id := 1
  name := "Main"
  nodes := [
    .ofFilter { id := "t", kind := .time },
    .ofFilter { id := "t", kind := .time, position := ⟨10, 20⟩ }]

theorem deduplication_hides_shared_id :
    (∀ n ∈ timesOfOneId.nodes, n.isComposite = false ∧ n.kind.isComposite = false) ∧
      1 ≤ ({} : Settings).maxSubstitutionSteps ∧
      timesOfOneId.deduplicated.filters = [{ id := "t", kind := .time }] ∧
      (deployScene .empty {} timesOfOneId).outcome = .error (.duplicateIdentifier 1 "t") ∧
      (deployScene .empty {} timesOfOneId.deduplicated).outcome =
        .ok [{ id := "t", kind := .time }] := by
  refine ⟨by decide, by decide, by decide, ?_, ?_⟩
  · cbv
  · cbv

def twoTimes : Scene where
  id := 1
  name := "Main"
  nodes := [
    .ofFilter { id := "early", kind := .trigonometric .sine,
                links := .ofList [("value", ⟨"t2", "value"⟩)] },
    .ofFilter { id := "t1", kind := .time },
    .ofFilter { id := "m1", kind := .mainBrightness },
    .ofFilter { id := "t2", kind := .time, position := ⟨10, 20⟩ },
    .ofFilter { id := "m2", kind := .mainBrightness },
    .ofFilter { id := "late", kind := .debug .byte,
                links := .ofList [("value", ⟨"m2", "value"⟩)] }]

def twoTimesFilters : List Filter := [
  { id := "early", kind := .trigonometric .sine,
    links := .ofList [("value", ⟨"t1", "value"⟩)] },
  { id := "t1", kind := .time },
  { id := "m1", kind := .mainBrightness },
  { id := "late", kind := .debug .byte, links := .ofList [("value", ⟨"m1", "value"⟩)] }]

theorem deduplication_transparent_two_times :
    twoTimes.Flat ∧ (deployScene .empty {} twoTimes).outcome = .ok twoTimesFilters ∧
      twoTimes.deduplicated.filters = twoTimesFilters ∧
      (deployScene .empty {} twoTimes).outcome =
        (deployScene .empty {} twoTimes.deduplicated).outcome := by
  have flat : twoTimes.Flat := by
    refine ⟨?_, ?_, ?_⟩ <;> decide
  have deployed : (deployScene .empty {} twoTimes).outcome = .ok twoTimesFilters := by
    cbv
  exact ⟨flat, deployed, by decide,
    deduplication_transparent .empty {} twoTimes flat (by decide)⟩

end LightShow
