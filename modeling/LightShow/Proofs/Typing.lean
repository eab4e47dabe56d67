import LightShow.Proofs.Hygiene
import LightShow.Proofs.InnerLinks

/-!
Links that fit are never the reason for a failure. Where every link of a scene is on a declared
input and leads to an output of the same type, so is every link of the filters that the scene
unfolds into, and every output of any of them leads to one of the same type that is kept.
-/

namespace LightShow

open Stage Outcome OrderedMap

namespace Filter

/-- Every link is on a declared input. -/
def Plugged (f : Filter) : Prop := ∀ link ∈ f.links.entries, ∃ type, f.Accepts link.1 type

theorem WellLinked.plugged {fs : List Filter} {f : Filter} (linked : f.WellLinked fs) :
    f.Plugged := by
  intro link held
  obtain ⟨type, accepts, -⟩ := linked link held
  exact ⟨type, accepts⟩

theorem WellLinked.mono {fs gs : List Filter} {f : Filter} (linked : f.WellLinked fs)
    (subset : fs ⊆ gs) : f.WellLinked gs := by
  intro link held
  obtain ⟨type, accepts, g, member, source⟩ := linked link held
  exact ⟨type, accepts, g, subset member, source⟩

theorem Plugged.mem_keys {f : Filter} (plugged : f.Plugged) {ports : Ports}
    (declares : f.declaredPorts = .ok ports) {port : String} (linked : port ∈ f.links.keys) :
    port ∈ ports.inputs.keys := by
  obtain ⟨link, held, rfl⟩ := List.mem_map.mp linked
  obtain ⟨type, ports', told, accepted⟩ := plugged link held
  obtain rfl : ports' = ports :=
    Except.ok.inj (told.symm.trans (declaredPorts_eq_ok_iff.mp declares))
  exact mem_keys_of_get? accepted

end Filter

theorem Wired.plugged {f g : Filter} {inner : List Filter} (wired : Wired f inner g) :
    g.Plugged := by
  intro link linked
  obtain ⟨type, accepts, -⟩ := wired link linked
  exact ⟨type, accepts⟩

theorem Wired.wellLinked {f g : Filter} {inner fs : List Filter} (wired : Wired f inner g)
    (outer : f.WellLinked fs) (held : inner ⊆ fs) : g.WellLinked fs := by
  intro link linked
  obtain ⟨type, accepts, reaches⟩ := wired link linked
  rcases reaches with ⟨h, among, port, same, provides⟩ | ⟨input, forwarded, accepts'⟩
  · exact ⟨type, accepts, h, held among, by rw [same]; rfl, by rw [same]; exact provides⟩
  · obtain ⟨type', accepts'', source⟩ := outer _ (get?_eq_some_iff.mp forwarded)
    obtain rfl := accepts'.unique accepts''
    exact ⟨type, accepts, source⟩

theorem Kind.ports_of_singleton {k : Kind} (single : k.isSingleton = true)
    (configuration configuration' : Configuration) :
    k.ports configuration = k.ports configuration' := by
  cases k with
  | time | sceneTime | mainBrightness => rfl
  | _ => cases single

theorem Filter.Provides.of_singleton {f g : Filter} (single : f.kind.isSingleton = true)
    (same : g.kind = f.kind) {port : String} {type : SignalType} (provides : f.Provides port type) :
    g.Provides port type := by
  obtain ⟨ports, told, declared⟩ := provides
  refine ⟨ports, ?_, declared⟩
  rw [Filter.ports, same, Kind.ports_of_singleton single _ f.configuration]
  exact told

section

variable {book : RecipeBook} {settings : Settings} {s : Scene}

theorem RecipeBook.wired_of_inner (faithful : book.Faithful) (typed : book.Typed) {f : Filter}
    (composite : f.kind.isComposite = true) :
    ∃ inner, book.inner f = inner.map .ofFilter ∧ ∀ g ∈ inner, Wired f inner g := by
  obtain ⟨r, registered, -⟩ := faithful f composite
  cases made : r.nodes f with
  | error e =>
    refine ⟨[], ?_, List.forall_mem_nil _⟩
    simp [RecipeBook.inner, registered, made, Except.toOption]
  | ok ns =>
    obtain ⟨inner, rfl, wired⟩ := (typed f r composite registered).inner ns made
    refine ⟨inner, ?_, wired⟩
    simp [RecipeBook.inner, registered, made, Except.toOption]

theorem RecipeBook.plugged_of_compositesIn (faithful : book.Faithful) (typed : book.Typed)
    {budget : Nat} {n : Node} (follows : n.FollowsKind) (plugged : n.filter.Plugged) {f : Filter}
    (met : f ∈ book.compositesIn budget n) : f.Plugged := by
  induction budget generalizing n with
  | zero => cases n <;> cases met
  | succ budget ih =>
    cases n with
    | concrete g => cases met
    | composite g =>
      have composite : g.kind.isComposite = true := follows.symm
      rcases List.mem_cons.mp met with rfl | within
      · exact plugged
      · obtain ⟨m, member, met⟩ := List.mem_flatMap.mp within
        obtain ⟨inner, shape, wired⟩ := wired_of_inner faithful typed composite
        rw [shape] at member
        obtain ⟨h, among, rfl⟩ := List.mem_map.mp member
        refine ih (Node.ofFilter_followsKind h) ?_ met
        rw [Node.filter_ofFilter]
        exact (wired h among).plugged

/-- All filters met while the scene is unfolded. -/
def metOf (book : RecipeBook) (settings : Settings) (s : Scene) : List Filter :=
  compositesOf book settings s ++ concretesOf book settings s

theorem Covers.mem_metOf {budget : Nat} {n : Node} (covers : Covers book settings s budget n)
    (expandable : book.Expandable budget n) : n.filter ∈ metOf book settings s := by
  cases n with
  | concrete f =>
    exact List.mem_append_right _ (covers.concretes (book.mem_concretesIn_concrete budget f))
  | composite f =>
    exact List.mem_append_left _ (covers.composites (expandable.mem_compositesIn rfl))

theorem exists_of_mem_metOf {g : Filter} (met : g ∈ metOf book settings s) :
    ∃ n ∈ s.nodes, g ∈ book.metIn settings.maxExpansionDepth n := by
  rcases List.mem_append.mp met with composite | concrete
  · obtain ⟨n, member, inside⟩ := List.mem_flatMap.mp composite
    exact ⟨n, member, (book.metIn_perm _ n).mem_iff.mpr (List.mem_append_left _ inside)⟩
  · obtain ⟨n, member, inside⟩ := List.mem_flatMap.mp concrete
    exact ⟨n, member, (book.metIn_perm _ n).mem_iff.mpr (List.mem_append_right _ inside)⟩

theorem wellLinked_of_metIn (faithful : book.Faithful) (typed : book.Typed) {budget : Nat}
    {n : Node} (follows : n.FollowsKind) (expandable : book.Expandable budget n)
    (covers : Covers book settings s budget n)
    (linked : n.filter.WellLinked (metOf book settings s)) {g : Filter}
    (met : g ∈ book.metIn budget n) : g.WellLinked (metOf book settings s) := by
  induction budget generalizing n with
  | zero =>
    cases n with
    | concrete f =>
      obtain rfl := List.mem_singleton.mp met
      exact linked
    | composite f => exact expandable.elim
  | succ budget ih =>
    cases n with
    | concrete f =>
      obtain rfl := List.mem_singleton.mp met
      exact linked
    | composite f =>
      have inside := expandable.2
      rcases List.mem_cons.mp met with rfl | within
      · exact linked
      · obtain ⟨m, member, met⟩ := List.mem_flatMap.mp within
        have composite : f.kind.isComposite = true := follows.symm
        obtain ⟨inner, shape, wired⟩ := RecipeBook.wired_of_inner faithful typed composite
        have among : ∀ h ∈ inner, .ofFilter h ∈ book.inner f := by
          intro h held
          rw [shape]
          exact List.mem_map_of_mem held
        have held : inner ⊆ metOf book settings s := by
          intro h held
          have covered := (covers.inner (among h held)).mem_metOf (inside _ (among h held))
          rwa [Node.filter_ofFilter] at covered
        rw [shape] at member
        obtain ⟨h, one, rfl⟩ := List.mem_map.mp member
        refine ih (Node.ofFilter_followsKind h) (inside _ (among h one))
          (covers.inner (among h one)) ?_ met
        rw [Node.filter_ofFilter]
        exact (wired h one).wellLinked linked held

theorem wellLinked_of_mem_metOf (faithful : book.Faithful) (typed : book.Typed) (valid : s.Valid)
    (expandable : ∀ n ∈ s.nodes, book.Expandable settings.maxExpansionDepth n)
    (linked : ∀ f ∈ s.filters, f.WellLinked s.filters) {g : Filter}
    (met : g ∈ metOf book settings s) : g.WellLinked (metOf book settings s) := by
  have authored : s.filters ⊆ metOf book settings s := by
    intro f listed
    obtain ⟨n, member, rfl⟩ := List.mem_map.mp listed
    exact (covers_of_mem member).mem_metOf (expandable n member)
  obtain ⟨n, member, inside⟩ := exists_of_mem_metOf met
  exact wellLinked_of_metIn faithful typed (valid.followsKind n member) (expandable n member)
    (covers_of_mem member) ((linked _ (List.mem_map_of_mem member)).mono authored) inside

namespace Gathers

variable {kept : List (Filter × Ports)} {folding : List Rule}

theorem resolve_concrete (gathers : Gathers book settings s kept folding)
    (unambiguous : Unambiguous book settings s) (steps : 1 ≤ settings.maxSubstitutionSteps)
    {f : Filter} (listed : f ∈ concretesOf book settings s) {port : String} {type : SignalType}
    (provides : f.Provides port type) :
    ∃ k ∈ kept, ∃ q, k.2.outputs.get? q = some type ∧
      (finalTable book settings s).resolve settings.maxSubstitutionSteps (f.output port) =
        .ok (k.1.output q) := by
  rcases gathers.retains.kept_or_folded listed with ⟨ports, isKept⟩ | folded
  · have declared := (Filter.provides_iff (gathers.retains.declares isKept)).mp provides
    exact ⟨(f, ports), isKept, port, declared,
      (Substitution.resolve_self_iff _).mpr (gathers.get?_kept unambiguous isKept port)⟩
  · obtain ⟨single, first, ports, declares, led⟩ := folded
    have offered := mem_keys_of_get? ((Filter.provides_iff declares).mp provides)
    have written := led (List.mem_map.mpr ⟨port, offered, rfl⟩)
    have ruled := gathers.get?_of_rule unambiguous (List.mem_append_right _ written)
    obtain ⟨f', listed', first', ports', port', same, -, -, -, canonical, -⟩ :=
      gathers.retains.exists_folded gathers.distinct written
    obtain ⟨sources, targets⟩ := Rule.mk.inj same
    obtain ⟨ids, rfl⟩ := OutputRef.mk.inj sources
    obtain rfl := List.inj_on_of_nodup_map gathers.distinct listed listed' ids
    rcases canonical with impossible | ⟨kind, ports'', isKept⟩
    · cases impossible
    have declared := (Filter.provides_iff (gathers.retains.declares isKept)).mp
      (provides.of_singleton single kind)
    refine ⟨_, isKept, port, declared, Substitution.resolve_eq_ok_iff.mpr ?_⟩
    have ended := Substitution.chase_of_none 0 (gathers.get?_kept unambiguous isKept port)
    rw [targets] at ruled
    exact Substitution.chase_mono (Substitution.chase_of_step ruled ended) (by omega)

theorem resolve_met (gathers : Gathers book settings s kept folding) (faithful : book.Faithful)
    (unambiguous : Unambiguous book settings s) (valid : s.Valid)
    (steps : max 1 settings.maxExpansionDepth ≤ settings.maxSubstitutionSteps) {g : Filter}
    (met : g ∈ metOf book settings s) {port : String} {type : SignalType}
    (provides : g.Provides port type) :
    ∃ k ∈ kept, ∃ q, k.2.outputs.get? q = some type ∧
      (finalTable book settings s).resolve settings.maxSubstitutionSteps (g.output port) =
        .ok (k.1.output q) := by
  rcases List.mem_append.mp met with composite | concrete
  · exact gathers.resolve_composite faithful unambiguous valid (by omega) composite provides
  · exact gathers.resolve_concrete unambiguous (by omega) concrete provides

theorem exists_bindLink (gathers : Gathers book settings s kept folding)
    (faithful : book.Faithful) (unambiguous : Unambiguous book settings s) (valid : s.Valid)
    (steps : max 1 settings.maxExpansionDepth ≤ settings.maxSubstitutionSteps)
    {k : Filter × Ports} (isKept : k ∈ kept) (linked : k.1.WellLinked (metOf book settings s))
    {link : String × OutputRef} (held : link ∈ k.1.links.entries) :
    ∃ target, bindLink (finalTable book settings s) settings.maxSubstitutionSteps s.id k.1.id
      k.2.inputs (OutputIndex.ofFilters kept) link.1 link.2 = .ok target := by
  obtain ⟨type, ⟨ports, told, accepted⟩, g, met, source, provides⟩ := linked link held
  obtain rfl : ports = k.2 := Except.ok.inj (told.symm.trans
    (Filter.declaredPorts_eq_ok_iff.mp (gathers.retains.declares isKept)))
  obtain ⟨k', isKept', q, declared, resolved⟩ :=
    gathers.resolve_met faithful unambiguous valid steps met provides
  have same : g.output link.2.port = link.2 := by rw [Filter.output, source]
  rw [same] at resolved
  exact ⟨k'.1.output q, bindLink_eq_ok_iff.mpr ⟨type, accepted, resolved,
    (typeOf?_ofFilters_iff gathers.kept_distinct).mpr ⟨k', isKept', rfl, declared⟩⟩⟩

end Gathers

theorem isLocal_of_gather (faithful : book.Faithful) (typed : book.Typed) (valid : s.Valid)
    (unambiguous : Unambiguous book settings s) (plugged : ∀ f ∈ s.filters, f.Plugged)
    {e : CompileError} (failed : (gather book settings s).outcome = .error e) :
    e.isLocal = true := by
  rcases exists_of_gather_error faithful valid unambiguous failed with
    ⟨id, rfl⟩ | ⟨f, met, here⟩ | ⟨f, -, undeclared⟩
  · rfl
  · have composite := isComposite_of_mem_compositesOf faithful valid met
    rcases exists_of_unfold_error faithful composite here with
      undeclared | ⟨ports, port, declares, linked, unknown, -⟩ | ⟨r, registered, malformed⟩
    · exact Filter.isLocal_of_declaredPorts undeclared
    · obtain ⟨n, member, inside⟩ := List.mem_flatMap.mp met
      have fits := RecipeBook.plugged_of_compositesIn faithful typed (valid.followsKind n member)
        (plugged _ (List.mem_map_of_mem member)) inside
      exact absurd (fits.mem_keys declares linked) unknown
    · exact (typed f r composite registered).fails e malformed
  · exact Filter.isLocal_of_declaredPorts undeclared

/-- A scene in which every link fits is deployed, unless a node lies too deep or what it says of
    itself is malformed: links are never at fault, nor the names that the compiler makes up. -/
theorem well_linked_scene_deploys (settings : Settings) (s : Scene) (assembled : s.Assembled)
    (hygienic : ∀ n ∈ s.nodes, Hygienic n.id)
    (steps : max 1 settings.maxExpansionDepth ≤ settings.maxSubstitutionSteps)
    (linked : ∀ f ∈ s.filters, f.WellLinked s.filters) :
    (∃ fs, (deployScene .builtIn settings s).outcome = .ok fs) ∨
      ∃ e, (deployScene .builtIn settings s).outcome = .error e ∧ e.isLocal = true := by
  have faithful := RecipeBook.faithful_builtIn
  have typed := RecipeBook.typed_builtIn
  have valid := (Scene.assembled_iff_valid s).mp assembled
  have unambiguous : Unambiguous .builtIn settings s :=
    unambiguous_of_hygienic faithful valid hygienic
  cases deployed : (deployScene .builtIn settings s).outcome with
  | ok fs => exact Or.inl ⟨fs, rfl⟩
  | error e =>
    refine Or.inr ⟨e, rfl, ?_⟩
    rcases exists_of_deployScene_error deployed with
      ungathered | ⟨kept, folding, gathers, k, isKept, unfinished⟩
    · exact isLocal_of_gather faithful typed valid unambiguous
        (fun f listed => (linked f listed).plugged) ungathered
    rcases exists_of_finish_error unfinished with ⟨link, held, unbound⟩ | abnormal
    · have met := gathers.retains.sublist.subset (List.mem_map_of_mem isKept)
      obtain ⟨target, bound⟩ := gathers.exists_bindLink faithful unambiguous valid steps isKept
        (wellLinked_of_mem_metOf faithful typed valid gathers.expandable linked
          (List.mem_append_right _ met)) held
      rw [unbound] at bound
      cases bound
    · exact Filter.isLocal_of_normalParameters abnormal

theorem well_linked_scene_deploys_dimmed_and_delayed :
    dimmedAndDelayed.Assembled ∧ (∀ n ∈ dimmedAndDelayed.nodes, Hygienic n.id) ∧
      max 1 ({} : Settings).maxExpansionDepth ≤ ({} : Settings).maxSubstitutionSteps ∧
      (∀ f ∈ dimmedAndDelayed.filters, f.WellLinked dimmedAndDelayed.filters) ∧
      ((∃ fs, (deployScene .builtIn {} dimmedAndDelayed).outcome = .ok fs) ∨
        ∃ e, (deployScene .builtIn {} dimmedAndDelayed).outcome = .error e ∧
          e.isLocal = true) := by
  have assembled : dimmedAndDelayed.Assembled := ⟨dimmedAndDelayed.filters, by cbv⟩
  have hygienic : ∀ n ∈ dimmedAndDelayed.nodes, Hygienic n.id := by decide +kernel
  have linked : ∀ f ∈ dimmedAndDelayed.filters, f.WellLinked dimmedAndDelayed.filters := by
    intro f listed
    rcases listed with _ | ⟨_, _ | ⟨_, _ | ⟨_, _ | ⟨_, impossible⟩⟩⟩⟩
    · exact List.forall_mem_nil _
    · exact List.forall_mem_nil _
    · intro link held
      obtain rfl := List.mem_singleton.mp held
      exact ⟨.byte, ⟨_, rfl, rfl⟩, _, .tail _ (.head _), rfl, ⟨_, rfl, rfl⟩⟩
    · intro link held
      obtain rfl := List.mem_singleton.mp held
      exact ⟨.byte, ⟨_, rfl, rfl⟩, _, .tail _ (.tail _ (.head _)), rfl, ⟨_, rfl, rfl⟩⟩
    · cases impossible
  have steps :
      max 1 ({} : Settings).maxExpansionDepth ≤ ({} : Settings).maxSubstitutionSteps := by
    decide
  exact ⟨assembled, hygienic, steps, linked,
    well_linked_scene_deploys {} dimmedAndDelayed assembled hygienic steps linked⟩

end

end LightShow
