import LightShow.Proofs.Hygiene

/-!
Scenes that go on behind another one. What is added brings rules of its own, and all of them
are in the table before the first link is bound. They start at ids that nothing else has, so
the links of what was there before end where they ended without them.
-/

namespace LightShow

open Outcome OrderedMap

theorem Retains.goes_on {s : Singletons} {fs gs : List Filter} {kept kept' : List (Filter × Ports)}
    {recorded recorded' : List Rule} (retains : Retains s fs kept recorded)
    (longer : Retains s (fs ++ gs) kept' recorded') :
    kept <+: kept' ∧ recorded <+: recorded' := by
  induction retains generalizing kept' recorded' with
  | done s => exact And.intro List.nil_prefix List.nil_prefix
  | keep unclaimed declares later ih =>
    cases longer with
    | keep unclaimed' declares' later' =>
      cases declares.symm.trans declares'
      obtain ⟨keptBefore, recordedBefore⟩ := ih later'
      exact ⟨(List.prefix_cons_inj _).mpr keptBefore, recordedBefore⟩
    | fold claimed' declares' later' => simp [unclaimed] at claimed'
  | fold claimed declares later ih =>
    cases longer with
    | keep unclaimed' declares' later' => simp [claimed] at unclaimed'
    | fold claimed' declares' later' =>
      cases claimed.symm.trans claimed'
      cases declares.symm.trans declares'
      obtain ⟨keptBefore, recordedBefore⟩ := ih later'
      exact ⟨keptBefore, (List.prefix_append_right_inj _).mpr recordedBefore⟩

section

variable {book : RecipeBook} {settings : Settings} {s t : Scene} {more : List Node}
  {kept kept' : List (Filter × Ports)} {folding folding' : List Rule}
  (gathers : Gathers book settings s kept folding)
  (gathers' : Gathers book settings t kept' folding')
  (id : t.id = s.id) (nodes : t.nodes = s.nodes ++ more)

include gathers gathers' id nodes in
theorem Gathers.goes_on : kept <+: kept' ∧ folding <+: folding' := by
  have retains := gathers'.retains
  rw [concretesOf, nodes, List.flatMap_append, id] at retains
  exact gathers.retains.goes_on retains

include gathers gathers' id nodes in
theorem Gathers.get?_goes_on (unambiguous : Unambiguous book settings t) {r target : OutputRef}
    (ruled : (finalTable book settings s).get? r = some target) :
    (finalTable book settings t).get? r = some target := by
  rw [gathers.finalTable_eq, Substitution.extend] at ruled
  rcases mem_or_get?_of_insertAll ruled with listed | ⟨-, impossible⟩
  · obtain ⟨rule, written, same⟩ := List.mem_map.mp listed
    cases same
    refine gathers'.get?_of_rule unambiguous ?_
    rcases List.mem_append.mp written with composite | folded
    · refine List.mem_append_left _ ?_
      rw [compositesOf, nodes, List.flatMap_append, List.flatMap_append]
      exact List.mem_append_left _ composite
    · exact List.mem_append_right _ ((gathers.goes_on gathers' id nodes).2.subset folded)
  · cases impossible

include gathers gathers' id nodes in
theorem Gathers.bindLink_goes_on (unambiguous : Unambiguous book settings t)
    {filter port : String} {inputs : PortTypes} {source target : OutputRef}
    (bound : bindLink (finalTable book settings s) settings.maxSubstitutionSteps s.id filter inputs
      (OutputIndex.ofFilters kept) port source = .ok target) :
    bindLink (finalTable book settings t) settings.maxSubstitutionSteps t.id filter inputs
      (OutputIndex.ofFilters kept') port source = .ok target := by
  obtain ⟨type, declared, resolved, found⟩ := bindLink_eq_ok_iff.mp bound
  obtain ⟨⟨n, few, follows⟩, -⟩ := Substitution.resolve_eq_ok_iff_endsAt.mp resolved
  obtain ⟨k, member, here, offered⟩ := (typeOf?_ofFilters_iff gathers.kept_distinct).mp found
  have member' : k ∈ kept' := (gathers.goes_on gathers' id nodes).1.subset member
  have follows' : (finalTable book settings t).Follows n source target :=
    follows.mono fun _ _ ruled => gathers.get?_goes_on gathers' id nodes unambiguous ruled
  have ended : (finalTable book settings t).get? target = none := by
    have unruled := gathers'.get?_kept unambiguous member' target.port
    rwa [Filter.output, here] at unruled
  exact bindLink_eq_ok_iff.mpr ⟨type, declared,
    Substitution.resolve_eq_ok_iff_endsAt.mpr ⟨⟨n, few, follows'⟩, ended⟩,
    (typeOf?_ofFilters_iff gathers'.kept_distinct).mpr ⟨k, member', here, offered⟩⟩

include gathers gathers' id nodes in
theorem Gathers.finish_goes_on (unambiguous : Unambiguous book settings t) {f g : Filter}
    {ports : Ports}
    (finished : finish (finalTable book settings s) settings.maxSubstitutionSteps s.id
      (OutputIndex.ofFilters kept) f ports = .ok g) :
    finish (finalTable book settings t) settings.maxSubstitutionSteps t.id
      (OutputIndex.ofFilters kept') f ports = .ok g := by
  obtain ⟨links, parameters, bound, normal, rfl⟩ := finish_eq_ok_iff.mp finished
  refine finish_eq_ok_iff.mpr ⟨links, parameters, ?_, normal, rfl⟩
  refine bindLinks_eq_ok_iff.mpr ((bindLinks_eq_ok_iff.mp bound).imp fun link target linked => ?_)
  exact ⟨linked.1, gathers.bindLink_goes_on gathers' id nodes unambiguous linked.2⟩

/-- Where no id is met twice, a scene that goes on is deployed to what it was deployed to before,
    and more. -/
theorem Deploys.goes_on {fs gs : List Filter} (deploys : Deploys book settings s kept folding fs)
    (deploys' : Deploys book settings t kept' folding' gs) (id : t.id = s.id)
    (nodes : t.nodes = s.nodes ++ more) (unambiguous : Unambiguous book settings t) :
    fs <+: gs := by
  obtain ⟨later, rfl⟩ := (deploys.toGathers.goes_on deploys'.toGathers id nodes).1
  refine prefix_of_forall₂ deploys.finished deploys'.finished ?_
  intro k _ g g' finished finished'
  have again := deploys.finish_goes_on deploys'.toGathers id nodes unambiguous finished
  exact Except.ok.inj (again.symm.trans finished')

end

/-- A node that is added at the end of a scene rewires nothing. If no id has two underscores in a
    row, what the scene was deployed to before comes first in what it is deployed to then. -/
theorem appended_node_rewires_nothing (settings : Settings) (s : Scene) (assembled : s.Assembled)
    (hygienic : ∀ m ∈ s.nodes, Hygienic m.id) (n : Filter) (named : Hygienic n.id)
    (fresh : n.id ∉ s.ids) :
    ∃ t, s.addFilter n = .ok t ∧
      ∀ fs, (deployScene .builtIn settings s).outcome = .ok fs →
        ∀ gs, (deployScene .builtIn settings t).outcome = .ok gs → fs <+: gs := by
  have added : s.addFilter n = .ok { s with nodes := s.nodes ++ [.ofFilter n] } :=
    Scene.add_eq_ok_iff.mpr ⟨by rwa [Node.id_ofFilter], rfl⟩
  refine ⟨_, added, ?_⟩
  intro fs deployed gs deployed'
  have valid := ((Scene.assembled_iff_valid s).mp assembled).addFilter added
  have hygienic' : ∀ m ∈ s.nodes ++ [.ofFilter n], Hygienic m.id := by
    intro m member
    rcases List.mem_append.mp member with before | new
    · exact hygienic m before
    · obtain rfl := List.mem_singleton.mp new
      rwa [Node.id_ofFilter]
  have unambiguous :
      Unambiguous .builtIn settings { s with nodes := s.nodes ++ [.ofFilter n] } :=
    unambiguous_of_hygienic RecipeBook.faithful_builtIn valid hygienic'
  obtain ⟨kept, folding, deploys⟩ := deployScene_eq_ok_iff.mp deployed
  obtain ⟨kept', folding', deploys'⟩ := deployScene_eq_ok_iff.mp deployed'
  exact deploys.goes_on deploys' rfl rfl unambiguous

theorem appended_node_rewires_nothing_dimmed_color :
    dimmedAndDelayed.Assembled ∧ (∀ m ∈ dimmedAndDelayed.nodes, Hygienic m.id) ∧
      Hygienic "x" ∧ "x" ∉ dimmedAndDelayed.ids ∧ ∃ t gs,
        dimmedAndDelayed.addFilter { id := "x", kind := .composite .dimmedColor } = .ok t ∧
        (deployScene .builtIn {} t).outcome = .ok gs ∧ dimmedAndDelayedFilters <+: gs := by
  have assembled : dimmedAndDelayed.Assembled := ⟨dimmedAndDelayed.filters, by cbv⟩
  have hygienic : ∀ m ∈ dimmedAndDelayed.nodes, Hygienic m.id := by decide +kernel
  have named : Hygienic "x" := by decide +kernel
  have fresh : "x" ∉ dimmedAndDelayed.ids := by decide +kernel
  obtain ⟨t, added, rewires⟩ := appended_node_rewires_nothing {} dimmedAndDelayed assembled
    hygienic { id := "x", kind := .composite .dimmedColor } named fresh
  have deployed :
      (deployScene .builtIn {} dimmedAndDelayed).outcome = .ok dimmedAndDelayedFilters := by
    cbv
  have shape : t = { dimmedAndDelayed with nodes := dimmedAndDelayed.nodes ++
      [.ofFilter { id := "x", kind := .composite .dimmedColor }] } :=
    (Scene.add_eq_ok_iff.mp added).2
  have deployed' : (deployScene .builtIn {} t).outcome = .ok (dimmedAndDelayedFilters ++
      [{ id := "x__mix", kind := .conversion .dimColor,
         links := .ofList [("brightness", ⟨"w__main", "value"⟩)] }]) := by
    rw [shape]
    cbv
  exact ⟨assembled, hygienic, named, fresh, t, _, added, deployed',
    rewires _ deployed _ deployed'⟩

end LightShow
