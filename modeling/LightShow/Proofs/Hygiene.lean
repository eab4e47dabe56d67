import LightShow.Proofs.Assembly
import LightShow.Proofs.Failures
import LightShow.Proofs.Rules

/-!
Scenes whose ids hold no two underscores in a row. The names that the compiler makes up then
never meet, so it cannot fail over them, and every output of a composite node leads to an
output of the same type of a filter that the engine gets.
-/

namespace LightShow

open Stage Outcome OrderedMap

section

variable {book : RecipeBook} {settings : Settings} {s : Scene}
  {kept : List (Filter × Ports)} {folding : List Rule}

theorem RecipeBook.Unfolds.offered_eq (faithful : book.Faithful) {f : Filter} {recipe : Recipe}
    {ports : Ports} (composite : f.kind.isComposite = true)
    (unfolds : book.Unfolds f recipe ports) : book.offered f = ports.outputs.keys := by
  obtain ⟨r, registered, does⟩ := faithful f composite
  obtain rfl : r = recipe := Option.some.inj (registered.symm.trans unfolds.registered)
  obtain ⟨outputs, offers, keys⟩ := unfolds.outputs
  rw [does.outputs, Recipe.declaredOutputs, unfolds.declares] at offers
  cases offers
  exact keys.symm

theorem RecipeBook.Unfolds.exists_source (faithful : book.Faithful) {f : Filter}
    {recipe : Recipe} {ports : Ports} (composite : f.kind.isComposite = true)
    (unfolds : book.Unfolds f recipe ports) {port : String} {type : SignalType}
    (provides : f.Provides port type) : ∃ g q, .ofFilter g ∈ book.inner f ∧
      (⟨f.output port, g.output q⟩ : Rule) ∈ book.rules f ∧ g.Provides q type ∧
      g.kind.isSingleton = false := by
  obtain ⟨r, registered, does⟩ := faithful f composite
  obtain ⟨inner, shape, -, sourced⟩ := does.inner (book.inner f) (by
    obtain rfl : r = recipe := Option.some.inj (registered.symm.trans unfolds.registered)
    exact unfolds.nodes)
  obtain ⟨g, member, q, leads, provided, many⟩ := sourced port type provides
  refine ⟨g, q, shape ▸ List.mem_map_of_mem member, ?_, provided, many⟩
  refine RecipeBook.mem_rules_iff.mpr ⟨port, ?_, g.output q, ?_, rfl⟩
  · rw [unfolds.offered_eq faithful composite]
    exact mem_keys_of_get? ((Filter.provides_iff unfolds.declares).mp provides)
  · unfold RecipeBook.source?
    rw [registered]
    exact leads

/-- All that a node unfolds into is met while the scene is unfolded. -/
structure Covers (book : RecipeBook) (settings : Settings) (s : Scene) (budget : Nat)
    (n : Node) : Prop where
  composites : book.compositesIn budget n ⊆ compositesOf book settings s
  concretes : book.concretesIn budget n ⊆ concretesOf book settings s

theorem covers_of_mem {n : Node} (member : n ∈ s.nodes) :
    Covers book settings s settings.maxExpansionDepth n where
  composites := fun _ within => List.mem_flatMap.mpr ⟨n, member, within⟩
  concretes := fun _ within => List.mem_flatMap.mpr ⟨n, member, within⟩

theorem Covers.inner {budget : Nat} {f : Filter}
    (covers : Covers book settings s (budget + 1) (.composite f)) {n : Node}
    (member : n ∈ book.inner f) : Covers book settings s budget n where
  composites := fun _ within => covers.composites
    (List.mem_cons_of_mem f (List.mem_flatMap.mpr ⟨n, member, within⟩))
  concretes := fun _ within => covers.concretes (List.mem_flatMap.mpr ⟨n, member, within⟩)

namespace Gathers

variable (gathers : Gathers book settings s kept folding) (faithful : book.Faithful)
  (unambiguous : Unambiguous book settings s)

include gathers unambiguous in
theorem get?_kept {k : Filter × Ports} (member : k ∈ kept) (port : String) :
    (finalTable book settings s).get? (k.1.output port) = none := by
  rw [gathers.get?_kept_eq_none_iff member]
  intro v met same
  have listed := gathers.retains.sublist.subset (List.mem_map_of_mem member)
  exact absurd same (unambiguous.apart met listed)

include gathers unambiguous in
theorem chase_concrete (budget : Nat) {f : Filter} (listed : f ∈ concretesOf book settings s)
    (many : f.kind.isSingleton = false) {port : String} {type : SignalType}
    (provides : f.Provides port type) :
    ∃ k ∈ kept, ∃ q, k.2.outputs.get? q = some type ∧
      (finalTable book settings s).chase (budget + 1) (f.output port) = .ok (k.1.output q) := by
  obtain ⟨ports, member⟩ := gathers.retains.exists_kept listed many
  have declared := (Filter.provides_iff (gathers.retains.declares member)).mp provides
  exact ⟨(f, ports), member, port, declared,
    Substitution.chase_of_none budget (gathers.get?_kept unambiguous member port)⟩

include gathers faithful unambiguous in
theorem chase_node {budget : Nat} {n : Node} (follows : n.FollowsKind)
    (expandable : book.Expandable budget n) (covers : Covers book settings s budget n)
    (many : n.kind.isSingleton = false) {port : String} {type : SignalType}
    (provides : n.filter.Provides port type) :
    ∃ k ∈ kept, ∃ q, k.2.outputs.get? q = some type ∧
      (finalTable book settings s).chase (budget + 1) (n.filter.output port) =
        .ok (k.1.output q) := by
  induction budget generalizing n port type with
  | zero =>
    cases n with
    | concrete f =>
      exact gathers.chase_concrete unambiguous _ (covers.concretes List.mem_cons_self) many
        provides
    | composite f => exact expandable.elim
  | succ budget ih =>
    cases n with
    | concrete f =>
      exact gathers.chase_concrete unambiguous _ (covers.concretes List.mem_cons_self) many
        provides
    | composite f =>
      have composite : f.kind.isComposite = true := follows.symm
      obtain ⟨⟨recipe, ports, unfolds⟩, inside⟩ := expandable
      obtain ⟨g, q, member, rule, provided, many⟩ :=
        unfolds.exists_source faithful composite provides
      have met : f ∈ compositesOf book settings s := covers.composites List.mem_cons_self
      have ruled := gathers.get?_of_rule unambiguous
        (List.mem_append_left _ (List.mem_flatMap.mpr ⟨f, met, rule⟩))
      obtain ⟨k, isKept, q', declared, rest⟩ := ih (Node.ofFilter_followsKind g)
        (inside _ member) (covers.inner member)
        (by rwa [Node.kind, Node.filter_ofFilter]) (by rwa [Node.filter_ofFilter])
      rw [Node.filter_ofFilter] at rest
      exact ⟨k, isKept, q', declared, Substitution.chase_of_step ruled rest⟩

include gathers faithful unambiguous in
theorem chase_met {budget : Nat} {n : Node} (follows : n.FollowsKind)
    (expandable : book.Expandable budget n) (covers : Covers book settings s budget n)
    {v : Filter} (met : v ∈ book.compositesIn budget n) {port : String} {type : SignalType}
    (provides : v.Provides port type) :
    ∃ k ∈ kept, ∃ q, k.2.outputs.get? q = some type ∧
      (finalTable book settings s).chase (budget + 1) (v.output port) = .ok (k.1.output q) := by
  induction budget generalizing n with
  | zero => cases n <;> cases met
  | succ budget ih =>
    cases n with
    | concrete f => cases met
    | composite f =>
      have composite : f.kind.isComposite = true := follows.symm
      have inside := expandable.2
      rcases List.mem_cons.mp met with rfl | within
      · have many : v.kind.isSingleton = false := by
          cases single : v.kind.isSingleton with
          | false => rfl
          | true =>
            rw [Kind.not_composite_of_singleton single] at composite
            cases composite
        exact gathers.chase_node faithful unambiguous follows expandable covers many provides
      · obtain ⟨m, member, met⟩ := List.mem_flatMap.mp within
        obtain ⟨k, isKept, q, declared, chased⟩ :=
          ih (RecipeBook.followsKind_of_inner faithful composite member) (inside m member)
            (covers.inner member) met
        exact ⟨k, isKept, q, declared, Substitution.chase_mono chased (Nat.le_succ _)⟩

include gathers faithful unambiguous in
theorem resolve_composite (valid : s.Valid)
    (steps : settings.maxExpansionDepth ≤ settings.maxSubstitutionSteps) {v : Filter}
    (met : v ∈ compositesOf book settings s) {port : String} {type : SignalType}
    (provides : v.Provides port type) :
    ∃ k ∈ kept, ∃ q, k.2.outputs.get? q = some type ∧
      (finalTable book settings s).resolve settings.maxSubstitutionSteps (v.output port) =
        .ok (k.1.output q) := by
  obtain ⟨n, member, inside⟩ := List.mem_flatMap.mp met
  obtain ⟨k, isKept, q, declared, chased⟩ :=
    gathers.chase_met faithful unambiguous (valid.followsKind n member)
      (gathers.expandable n member) (covers_of_mem member) inside provides
  exact ⟨k, isKept, q, declared, Substitution.resolve_eq_ok_iff.mpr
    (Substitution.chase_mono chased (Nat.succ_le_succ steps))⟩

include gathers faithful unambiguous in
/-- No chain of rules is longer than the number of levels, or than one for a folded filter. -/
theorem exists_resolve (valid : s.Valid)
    (steps : max 1 settings.maxExpansionDepth ≤ settings.maxSubstitutionSteps)
    (r : OutputRef) :
    ∃ final,
      (finalTable book settings s).resolve settings.maxSubstitutionSteps r = .ok final := by
  by_cases ruled : (finalTable book settings s).get? r = none
  · exact ⟨r, (Substitution.resolve_self_iff _).mpr ruled⟩
  rw [gathers.finalTable_eq, Substitution.get?_extend_empty_eq_none_iff] at ruled
  simp only [not_forall, not_not] at ruled
  obtain ⟨rule, written, rfl⟩ := ruled
  rcases List.mem_append.mp written with composite | folded
  · obtain ⟨v, met, within⟩ := List.mem_flatMap.mp composite
    obtain ⟨port, offered, target, -, rfl⟩ := RecipeBook.mem_rules_iff.mp within
    obtain ⟨recipe, ports, unfolds⟩ :=
      exists_unfolds_of_mem_compositesOf gathers.expandable met
    rw [unfolds.offered_eq faithful (isComposite_of_mem_compositesOf faithful valid met)]
      at offered
    obtain ⟨type, declared⟩ := exists_get?_of_mem_keys offered
    obtain ⟨k, -, q, -, resolved⟩ := gathers.resolve_composite faithful unambiguous valid
      (by omega) met ((Filter.provides_iff unfolds.declares).mpr declared)
    exact ⟨k.1.output q, resolved⟩
  · obtain ⟨f, -, first, ports, port, rfl, -, -, -, canonical, -⟩ :=
      gathers.retains.exists_folded gathers.distinct folded
    have ruled := gathers.get?_of_rule unambiguous (List.mem_append_right _ folded)
    rcases canonical with impossible | ⟨-, ports', isKept⟩
    · cases impossible
    · refine ⟨first.output port, Substitution.resolve_eq_ok_iff.mpr ?_⟩
      have ended := Substitution.chase_of_none 0 (gathers.get?_kept unambiguous isKept port)
      exact Substitution.chase_mono (Substitution.chase_of_step ruled ended) (by omega)

end Gathers

end

section

variable {table : Substitution} {limit : Nat} {scene : UInt32} {outputs : OutputIndex}
  {e : CompileError}

theorem isInternal_of_bindLink {filter port : String} {inputs : PortTypes} {source : OutputRef}
    (resolves : ∀ r, ∃ final, table.resolve limit r = .ok final)
    (failed : bindLink table limit scene filter inputs outputs port source = .error e) :
    e.isInternal = false := by
  unfold bindLink at failed
  split at failed
  · obtain ⟨final, resolved⟩ := resolves source
    rw [resolved] at failed
    rcases bind_eq_error_iff.mp failed with impossible | ⟨target, -, failed⟩
    · cases impossible
    · split at failed
      · split at failed
        · cases failed
        · cases failed
          rfl
      · cases failed
        rfl
  · cases failed
    rfl

theorem isInternal_of_finish {f : Filter} {ports : Ports}
    (resolves : ∀ r, ∃ final, table.resolve limit r = .ok final)
    (failed : finish table limit scene outputs f ports = .error e) : e.isInternal = false := by
  rcases exists_of_finish_error failed with ⟨link, -, unbound⟩ | abnormal
  · exact isInternal_of_bindLink resolves unbound
  · exact CompileError.isInternal_of_isLocal (Filter.isLocal_of_normalParameters abnormal)

end

section

variable {book : RecipeBook} {settings : Settings} {s : Scene}

/-- Names made up by the compiler stay out of the way of names without two underscores in a
    row: deploying such a scene fails only over what is wrong with the scene, and otherwise
    every output of an authored composite node is bound to an output of its own type. -/
theorem hygienic_scene (settings : Settings) (s : Scene) (assembled : s.Assembled)
    (hygienic : ∀ n ∈ s.nodes, Hygienic n.id)
    (steps : max 1 settings.maxExpansionDepth ≤ settings.maxSubstitutionSteps) :
    (∀ e, (deployScene .builtIn settings s).outcome = .error e → e.isInternal = false) ∧
      ∀ fs, (deployScene .builtIn settings s).outcome = .ok fs →
        ∀ v ∈ s.nodes, v.isComposite = true →
          ∀ port type, v.filter.Provides port type →
            ∃ r, (finalTable .builtIn settings s).resolve settings.maxSubstitutionSteps
                (v.filter.output port) = .ok r ∧
              ∃ f ∈ fs, f.id = r.filter ∧ f.Provides r.port type := by
  have faithful := RecipeBook.faithful_builtIn
  have valid := (Scene.assembled_iff_valid s).mp assembled
  have unambiguous : Unambiguous .builtIn settings s :=
    unambiguous_of_hygienic faithful valid hygienic
  constructor
  · intro e failed
    rcases exists_of_deployScene_error failed with
      ungathered | ⟨kept, folding, gathers, k, -, unfinished⟩
    · exact isInternal_of_gather faithful valid unambiguous ungathered
    · exact isInternal_of_finish (gathers.exists_resolve faithful unambiguous valid steps)
        unfinished
  · intro fs deployed v member composite port type provides
    obtain ⟨kept, folding, deploys⟩ := deployScene_eq_ok_iff.mp deployed
    have met : v.filter ∈ compositesOf .builtIn settings s :=
      List.mem_flatMap.mpr ⟨v, member, (deploys.expandable v member).mem_compositesIn composite⟩
    obtain ⟨k, isKept, q, declared, resolved⟩ :=
      deploys.resolve_composite faithful unambiguous valid (by omega) met provides
    obtain ⟨f, emitted, id, provided⟩ := deploys.provides isKept declared
    exact ⟨k.1.output q, resolved, f, emitted, id, provided⟩

theorem hygienic_scene_dimmed_and_delayed :
    dimmedAndDelayed.Assembled ∧ (∀ n ∈ dimmedAndDelayed.nodes, Hygienic n.id) ∧
      ∃ r, (finalTable .builtIn {} dimmedAndDelayed).resolve 64 ⟨"d", "value"⟩ = .ok r ∧
        ∃ f ∈ dimmedAndDelayedFilters, f.id = r.filter ∧ f.Provides r.port .byte := by
  have assembled : dimmedAndDelayed.Assembled := ⟨dimmedAndDelayed.filters, by cbv⟩
  have hygienic : ∀ n ∈ dimmedAndDelayed.nodes, Hygienic n.id := by decide +kernel
  have steps :
      max 1 ({} : Settings).maxExpansionDepth ≤ ({} : Settings).maxSubstitutionSteps := by
    decide
  obtain ⟨-, resolves⟩ := hygienic_scene {} dimmedAndDelayed assembled hygienic steps
  exact ⟨assembled, hygienic, resolves dimmedAndDelayedFilters (by cbv) _
    (.tail _ (.tail _ (.head _))) rfl "value" .byte ⟨_, rfl, rfl⟩⟩

end

end LightShow
