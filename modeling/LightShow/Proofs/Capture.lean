import LightShow.Proofs.Hygiene

/-!
Links to outputs of filters that the engine gets. A composite filter that is unfolded leaves
rules under its own id, and nothing keeps that id apart from the ids of the filters that
remain: where the two agree on an output, links to it are led elsewhere.
-/

namespace LightShow

open OrderedMap

section

variable {book : RecipeBook} {settings : Settings} {s : Scene}

theorem offered_iff_provides (faithful : book.Faithful) (valid : s.Valid)
    (expandable : ∀ n ∈ s.nodes, book.Expandable settings.maxExpansionDepth n) {v : Filter}
    (met : v ∈ compositesOf book settings s) {port : String} :
    port ∈ book.offered v ↔ ∃ type, v.Provides port type := by
  obtain ⟨recipe, ports, unfolds⟩ := exists_unfolds_of_mem_compositesOf expandable met
  rw [unfolds.offered_eq faithful (isComposite_of_mem_compositesOf faithful valid met)]
  constructor
  · intro member
    obtain ⟨type, declared⟩ := exists_get?_of_mem_keys member
    exact ⟨type, (Filter.provides_iff unfolds.declares).mpr declared⟩
  · rintro ⟨type, provides⟩
    exact mem_keys_of_get? ((Filter.provides_iff unfolds.declares).mp provides)

/-- A composite filter with the id of `f` and an output of this name was unfolded. -/
def Captured (settings : Settings) (s : Scene) (f : Filter) (port : String) : Prop :=
  ∃ v ∈ compositesOf .builtIn settings s, v.id = f.id ∧ ∃ type, v.Provides port type

theorem Gathers.get?_eq_none_iff_not_captured {kept : List (Filter × Ports)}
    {folding : List Rule} (gathers : Gathers .builtIn settings s kept folding) (valid : s.Valid)
    {k : Filter × Ports} (member : k ∈ kept) {f : Filter} (id : f.id = k.1.id) (port : String) :
    (finalTable .builtIn settings s).get? (f.output port) = none ↔
      ¬ Captured settings s f port := by
  have faithful := RecipeBook.faithful_builtIn
  have same : f.output port = k.1.output port := by
    rw [Filter.output, Filter.output, id]
  rw [same, gathers.get?_kept_eq_none_iff member]
  constructor
  · rintro absent ⟨v, met, ids, provided⟩
    exact absent v met (ids.trans id)
      ((offered_iff_provides faithful valid gathers.expandable met).mpr provided)
  · intro uncaptured v met ids offered
    exact uncaptured ⟨v, met, ids.trans id.symm,
      (offered_iff_provides faithful valid gathers.expandable met).mp offered⟩

theorem not_captured_of_unambiguous (unambiguous : Unambiguous .builtIn settings s)
    {f : Filter} (listed : f.id ∈ (concretesOf .builtIn settings s).map Filter.id)
    (port : String) : ¬ Captured settings s f port := by
  rintro ⟨v, met, same, -⟩
  obtain ⟨g, listed, id⟩ := List.mem_map.mp listed
  exact unambiguous.apart met listed (same.trans id.symm)

/-- Links to an output of a deployed filter stay with it exactly if it is not captured, and
    nothing is captured where no id has two underscores in a row. -/
theorem live_output_kept_iff (settings : Settings) (s : Scene) (assembled : s.Assembled)
    (fs : List Filter) (deployed : (deployScene .builtIn settings s).outcome = .ok fs) :
    (∀ f ∈ fs, ∀ port type, f.Provides port type →
      ((finalTable .builtIn settings s).get? (f.output port) = none ↔
        ¬ Captured settings s f port) ∧
      ((finalTable .builtIn settings s).resolve settings.maxSubstitutionSteps (f.output port) =
        .ok (f.output port) ↔ ¬ Captured settings s f port)) ∧
    ((∀ n ∈ s.nodes, Hygienic n.id) →
      ∀ f ∈ fs, ∀ port, ¬ Captured settings s f port) := by
  have valid := (Scene.assembled_iff_valid s).mp assembled
  obtain ⟨kept, folding, deploys⟩ := deployScene_eq_ok_iff.mp deployed
  constructor
  · intro f member port type _
    obtain ⟨k, isKept, id, -⟩ := Outcome.exists_left deploys.emits member
    rw [Substitution.resolve_self_iff]
    have exact := deploys.get?_eq_none_iff_not_captured valid isKept id port
    exact ⟨exact, exact⟩
  · intro hygienic f member port
    exact not_captured_of_unambiguous
      (unambiguous_of_hygienic RecipeBook.faithful_builtIn valid hygienic)
      (deploys.ids_sublist.subset (List.mem_map_of_mem member)) port

/-- A constant with the id under which a delay chain unfolds the rest of itself. -/
def delayedConstant : Scene where
  id := 1
  name := "Main"
  nodes := [
    .ofFilter { id := "c__rest", kind := .constant .byte },
    .ofFilter { id := "c", kind := .composite .delayChain,
                configuration := .ofList [("stages", "2")] },
    .ofFilter { id := "d", kind := .debug .byte,
                links := .ofList [("value", ⟨"c__rest", "value"⟩)] }]

def delayedConstantFilters : List Filter := [
  { id := "c__rest", kind := .constant .byte },
  { id := "c__stage", kind := .timedSwitch .delayOn },
  { id := "c__rest__stage", kind := .timedSwitch .delayOn,
    links := .ofList [("value", ⟨"c__stage", "value"⟩)] },
  { id := "d", kind := .debug .byte,
    links := .ofList [("value", ⟨"c__rest__stage", "value"⟩)] }]

theorem delayed_constant_redirected :
    delayedConstant.Assembled ∧
      (deployScene .builtIn {} delayedConstant).outcome = .ok delayedConstantFilters ∧
      ∃ f ∈ delayedConstantFilters, f.Provides "value" .byte ∧
        (finalTable .builtIn {} delayedConstant).get? (f.output "value") =
          some ⟨"c__rest__stage", "value"⟩ :=
  ⟨⟨delayedConstant.filters, by cbv⟩, by cbv, _, .head _, ⟨_, rfl, rfl⟩, by cbv⟩

theorem live_output_kept_iff_delayed_constant :
    (deployScene .builtIn {} delayedConstant).outcome = .ok delayedConstantFilters ∧
      ∃ f ∈ delayedConstantFilters, Captured {} delayedConstant f "value" := by
  have assembled : delayedConstant.Assembled := ⟨delayedConstant.filters, by cbv⟩
  have deployed :
      (deployScene .builtIn {} delayedConstant).outcome = .ok delayedConstantFilters := by
    cbv
  obtain ⟨exact, -⟩ := live_output_kept_iff {} delayedConstant assembled _ deployed
  refine ⟨deployed, _, .head _, ?_⟩
  by_contra uncaptured
  have unruled := (exact _ (.head _) "value" .byte ⟨_, rfl, rfl⟩).1.mpr uncaptured
  have ruled : (finalTable .builtIn {} delayedConstant).get? ⟨"c__rest", "value"⟩ =
      some ⟨"c__rest__stage", "value"⟩ := by
    cbv
  rw [Filter.output, ruled] at unruled
  cases unruled

end

end LightShow
