import LightShow.Proofs.Assembly
import LightShow.Proofs.Flat

/-!
What the engine gets of a scene makes up a scene of its own. Deploying that one changes nothing,
whatever recipes and limits there are, but for constants whose text is not in normal form.
-/

namespace LightShow

open Stage Outcome OrderedMap

namespace Filter

/-- The value of a constant, if there is one, reads as a value that is written just so. -/
def Normal (f : Filter) : Prop :=
  ∀ type text, f.kind = .constant type → f.parameters.get? "value" = some text →
    ∃ v, type.parse text = .ok v ∧ v.text = text

variable {f : Filter} {ports : Ports}

theorem normalParameters_eq_self_iff (told : f.ports = .ok ports) :
    f.normalParameters ports = .ok f.parameters ↔ f.Normal := by
  constructor
  · intro unchanged type text constant given
    obtain ⟨v, parsed, written⟩ :=
      (rewrites_of_normalParameters told unchanged).value type text constant given
    rw [given] at written
    exact ⟨v, parsed, (Option.some.inj written).symm⟩
  · intro normal
    by_cases family : f.kind.family = .constant
    · obtain ⟨type, constant⟩ := Kind.exists_constant family
      cases given : f.parameters.get? "value" with
      | none => exact normalParameters_of_absent given
      | some text =>
        obtain ⟨v, parsed, rfl⟩ := normal type text constant given
        rw [normalParameters_of_constant told constant given, parsed]
        exact congrArg Except.ok (insert_of_get? given)
    · exact normalParameters_of_other family

end Filter

section

variable {limit : Nat} {scene : UInt32} {outputs : OutputIndex} {f : Filter} {ports : Ports}

theorem finish_eq_self_iff (told : f.ports = .ok ports) :
    finish ∅ limit scene outputs f ports = .ok f ↔
      f.Typed ports outputs ∧ f.Normal ∧ f.position = .origin := by
  rw [finish_eq_ok_iff, ← Filter.normalParameters_eq_self_iff told]
  constructor
  · rintro ⟨links, parameters, bound, normal, same⟩
    obtain ⟨typed, -⟩ := bindLinks_unruled.mp bound
    have unchanged : f.parameters = parameters := congrArg Filter.parameters same
    rw [← unchanged] at normal
    exact ⟨typed, normal, congrArg Filter.position same⟩
  · rintro ⟨typed, normal, placed⟩
    refine ⟨f.links, f.parameters, bindLinks_unruled.mpr ⟨typed, rfl⟩, normal, ?_⟩
    rw [← placed]

end

/-- Filters about which a deployment has nothing to do. -/
structure Settled (fs : List Filter) : Prop where
  declared : ∀ f ∈ fs, ∃ ports, f.ports = .ok ports
  linked : ∀ f ∈ fs, f.WellLinked fs
  normal : ∀ f ∈ fs, f.Normal
  placed : ∀ f ∈ fs, f.position = .origin

theorem finishAll_eq_self_iff {fs : List Filter} {kept : List (Filter × Ports)} {limit : Nat}
    {scene : UInt32} (declares : fs.mapM Filter.withPorts = .ok kept)
    (distinct : (fs.map Filter.id).Nodup) :
    finishAll ∅ limit scene kept = .ok fs ↔
      ∀ f ∈ fs, f.WellLinked fs ∧ f.Normal ∧ f.position = .origin := by
  have one : ∀ k ∈ kept, finish ∅ limit scene (.ofFilters kept) k.1 k.2 = .ok k.1 ↔
      k.1.WellLinked fs ∧ k.1.Normal ∧ k.1.position = .origin := by
    intro k member
    rw [finish_eq_self_iff (ports_of_withPorts declares k member).2,
      typed_iff_wellLinked declares distinct member]
  have each : finishAll ∅ limit scene kept = .ok (kept.map Prod.fst) ↔
      ∀ k ∈ kept, finish ∅ limit scene (.ofFilters kept) k.1 k.2 = .ok k.1 := by
    rw [finishAll, mapM_eq_ok_iff, List.forall₂_map_right_iff, List.forall₂_same]
  rw [map_fst_of_withPorts declares] at each
  rw [each, forall₂_congr one]
  constructor
  · intro all f listed
    rw [← map_fst_of_withPorts declares] at listed
    obtain ⟨k, member, rfl⟩ := List.mem_map.mp listed
    exact all k member
  · exact fun all k member => all k.1 (ports_of_withPorts declares k member).1

theorem Scene.Flat.deploys_to_itself_iff {s : Scene} (flat : s.Flat) (book : RecipeBook)
    (settings : Settings) (unrepeated : ∀ f ∈ s.filters, ¬ f.Repeats s.filters) :
    (deployScene book settings s).outcome = .ok s.filters ↔ Settled s.filters := by
  rw [flat.outcome_deployScene_unrepeated book settings unrepeated, bind_eq_ok_iff]
  constructor
  · rintro ⟨kept, declares, finished⟩
    have each := (finishAll_eq_self_iff declares flat.ids_filters).mp finished
    exact ⟨exists_withPorts_iff.mp ⟨kept, declares⟩, fun f listed => (each f listed).1,
      fun f listed => (each f listed).2.1, fun f listed => (each f listed).2.2⟩
  · intro settled
    obtain ⟨kept, declares⟩ := exists_withPorts_iff.mpr settled.declared
    refine ⟨kept, declares, (finishAll_eq_self_iff declares flat.ids_filters).mpr ?_⟩
    exact fun f listed =>
      ⟨settled.linked f listed, settled.normal f listed, settled.placed f listed⟩

section

variable {fs : List Filter} (distinct : (fs.map Filter.id).Nodup)

namespace Scene

theorem filters_map_ofFilter (id : UInt32) (name : String) (fs : List Filter) :
    Scene.filters { id, name, nodes := fs.map .ofFilter } = fs := by
  rw [filters, List.map_map]
  exact (List.map_congr_left fun f _ => Node.filter_ofFilter f).trans (List.map_id fs)

include distinct

theorem ofFilters_eq_ok (id : UInt32) (name : String) :
    ofFilters id name fs = .ok { id, name, nodes := fs.map .ofFilter } :=
  foldlM_addFilter_eq_ok_iff.mpr ⟨distinct, fun _ _ => List.not_mem_nil, by simp⟩

theorem flat_map_ofFilter (concrete : ∀ f ∈ fs, f.kind.isComposite = false) (id : UInt32)
    (name : String) : Flat { id, name, nodes := fs.map .ofFilter } := by
  have kinds : ∀ n ∈ fs.map Node.ofFilter, n.kind.isComposite = false := by
    intro n member
    obtain ⟨f, listed, rfl⟩ := List.mem_map.mp member
    rw [Node.kind, Node.filter_ofFilter]
    exact concrete f listed
  refine ⟨?_, kinds, ?_⟩
  · intro n member
    obtain ⟨f, -, rfl⟩ := List.mem_map.mp member
    exact (Node.ofFilter_followsKind f).trans (kinds _ member)
  · rw [ids, List.map_map]
    exact (List.map_congr_left fun f _ => Node.id_ofFilter f).symm ▸ distinct

end Scene

end

section

variable {book : RecipeBook} {settings : Settings} {s : Scene} {kept : List (Filter × Ports)}
  {folding : List Rule} {fs : List Filter}

theorem Deploys.settled_iff (deploys : Deploys book settings s kept folding fs) :
    Settled fs ↔ ∀ f ∈ fs, f.Normal := by
  refine ⟨Settled.normal, fun normal => ⟨?_, fun f => deploys.wellLinked, normal, ?_⟩⟩
  · intro g emitted
    obtain ⟨k, isKept, -, -, same⟩ := exists_left deploys.emits emitted
    have told := Filter.declaredPorts_eq_ok_iff.mp (deploys.retains.declares isKept)
    exact ⟨k.2, same.trans told⟩
  · intro g emitted
    obtain ⟨k, -, finished⟩ := exists_left deploys.finished emitted
    obtain ⟨links, parameters, -, -, rfl⟩ := finish_eq_ok_iff.mp finished
    rfl

end

/-- The filters that the engine gets can be added to a new scene, and this one is deployed to the
    same filters, with any recipes and limits, exactly if their constants are in normal form. -/
theorem deployment_fixed_point (book : RecipeBook) (settings : Settings) (s : Scene)
    (fs : List Filter) (deployed : (deployScene book settings s).outcome = .ok fs) (id : UInt32)
    (name : String) :
    ∃ t, Scene.ofFilters id name fs = .ok t ∧ ∀ book' settings',
      (deployScene book' settings' t).outcome = .ok fs ↔ ∀ f ∈ fs, f.Normal := by
  obtain ⟨kept, folding, deploys⟩ := deployScene_eq_ok_iff.mp deployed
  obtain ⟨concrete, distinct, single, -⟩ := deploys.executable
  refine ⟨_, Scene.ofFilters_eq_ok distinct id name, fun book' settings' => ?_⟩
  have flat := Scene.flat_map_ofFilter distinct concrete id name
  have unrepeated := not_repeats_of_unique fun f member g member' kind same =>
    eq_of_countP_kind_le (single f.kind kind) member' same member rfl
  have itself := flat.deploys_to_itself_iff book' settings'
  rw [Scene.filters_map_ofFilter] at itself
  rw [itself unrepeated, deploys.settled_iff]

def foldedConstant : Scene where
  id := 1
  name := "Main"
  nodes := [
    .ofFilter { id := "m", kind := .mainBrightness },
    .ofFilter { id := "w", kind := .composite .dimmedColor, position := ⟨30, 0⟩ },
    .ofFilter { id := "out", kind := .debug .color,
                links := .ofList [("value", ⟨"w", "value"⟩)] },
    .ofFilter { id := "c", kind := .constant .bool, position := ⟨10, 20⟩,
                parameters := .ofList [("value", " 1")] },
    .ofFilter { id := "n", kind := .negation, links := .ofList [("value", ⟨"c", "value"⟩)] }]

def foldedConstantFilters : List Filter := [
  { id := "m", kind := .mainBrightness },
  { id := "w__mix", kind := .conversion .dimColor,
    links := .ofList [("brightness", ⟨"m", "value"⟩)] },
  { id := "out", kind := .debug .color, links := .ofList [("value", ⟨"w__mix", "value"⟩)] },
  { id := "c", kind := .constant .bool, parameters := .ofList [("value", "true")] },
  { id := "n", kind := .negation, links := .ofList [("value", ⟨"c", "value"⟩)] }]

theorem deployment_fixed_point_folded_constant :
    (deployScene .builtIn {} foldedConstant).outcome = .ok foldedConstantFilters ∧
      (∀ f ∈ foldedConstantFilters, f.Normal) ∧
      ∃ t, Scene.ofFilters 2 "Again" foldedConstantFilters = .ok t ∧
        (deployScene .empty { maxExpansionDepth := 0, maxSubstitutionSteps := 0 } t).outcome =
          .ok foldedConstantFilters := by
  have deployed : (deployScene .builtIn {} foldedConstant).outcome = .ok foldedConstantFilters := by
    cbv
  have normal : ∀ f ∈ foldedConstantFilters, f.Normal := by
    have other : ∀ f : Filter, f.kind.family ≠ .constant → f.Normal :=
      fun f different type _ constant _ => absurd (congrArg Kind.family constant) different
    simp only [foldedConstantFilters, List.forall_mem_cons]
    refine ⟨other _ (by decide), other _ (by decide), other _ (by decide), ?_,
      other _ (by decide), List.forall_mem_nil _⟩
    intro type text constant given
    cases constant
    cases given
    exact ⟨.bool true, by cbv, rfl⟩
  obtain ⟨t, added, again⟩ :=
    deployment_fixed_point .builtIn {} foldedConstant _ deployed 2 "Again"
  exact ⟨deployed, normal, t, added, (again .empty _).mpr normal⟩

end LightShow
