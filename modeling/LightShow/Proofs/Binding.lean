import LightShow.Compile.Deployment
import LightShow.Proofs.Outcome
import LightShow.Proofs.Substitution

/-!
When the links of a filter can be bound, and what the engine gets of a filter then.
-/

namespace LightShow

open OrderedMap Outcome

variable {table : Substitution} {limit : Nat} {scene : UInt32} {outputs : OutputIndex}

theorem bindLink_eq_ok_iff {filter port : String} {inputs : PortTypes}
    {source target : OutputRef} :
    bindLink table limit scene filter inputs outputs port source = .ok target ↔
      ∃ type, inputs.get? port = some type ∧ table.resolve limit source = .ok target ∧
        outputs.typeOf? target = some type := by
  unfold bindLink
  cases declared : inputs.get? port with
  | none => simp [throw, throwThe, MonadExceptOf.throw]
  | some expected =>
    simp only [bind_eq_ok_iff, Option.some.injEq, exists_eq_left']
    constructor
    · rintro ⟨r, resolved, bound⟩
      split at bound
      · rename_i type found
        split at bound
        · rename_i same
          cases bound
          exact ⟨resolved, same ▸ found⟩
        · cases bound
      · cases bound
    · rintro ⟨resolved, found⟩
      refine ⟨target, resolved, ?_⟩
      rw [found]
      simp [pure, Except.pure]

theorem bindLinks_eq_ok_iff {f : Filter} {inputs : PortTypes} {links : Links} :
    bindLinks table limit scene f inputs outputs = .ok links ↔
      List.Forall₂ (fun link bound => bound.1 = link.1 ∧
        bindLink table limit scene f.id inputs outputs link.1 link.2 = .ok bound.2)
        f.links.entries links.entries := by
  have one : ∀ link bound : String × OutputRef,
      (do let target ← bindLink table limit scene f.id inputs outputs link.1 link.2
          return (link.1, target) : Except CompileError (String × OutputRef)) = .ok bound ↔
        bound.1 = link.1 ∧
          bindLink table limit scene f.id inputs outputs link.1 link.2 = .ok bound.2 := by
    intro link bound
    obtain ⟨port, target⟩ := bound
    simp only [bind_eq_ok_iff, pure_eq_ok_iff, Prod.mk.injEq]
    constructor
    · rintro ⟨_, bound, rfl, rfl⟩
      exact ⟨rfl, bound⟩
    · rintro ⟨rfl, bound⟩
      exact ⟨target, bound, rfl, rfl⟩
  have keys : ∀ bound : List (String × OutputRef), List.Forall₂ (fun link b => b.1 = link.1 ∧
      bindLink table limit scene f.id inputs outputs link.1 link.2 = .ok b.2)
      f.links.entries bound → f.links.entries.map Prod.fst = bound.map Prod.fst :=
    fun bound each => map_eq_map each fun _ _ related => related.1.symm
  unfold bindLinks
  simp only [bind_eq_ok_iff, pure_eq_ok_iff, mapM_eq_ok_iff, one]
  constructor
  · rintro ⟨bound, each, rfl⟩
    rw [entries_ofList (keys bound each ▸ f.links.distinct)]
    exact each
  · intro each
    exact ⟨links.entries, each, ofList_entries links⟩

theorem exists_bindLinks_eq_ok_iff {f : Filter} {inputs : PortTypes} :
    (∃ links, bindLinks table limit scene f inputs outputs = .ok links) ↔
      ∀ link ∈ f.links.entries, ∃ target,
        bindLink table limit scene f.id inputs outputs link.1 link.2 = .ok target := by
  unfold bindLinks
  simp only [exists_bind_pure_eq_ok_iff, exists_mapM_eq_ok_iff]

theorem bindLinks_eq_error_iff {f : Filter} {inputs : PortTypes} {e : CompileError} :
    bindLinks table limit scene f inputs outputs = .error e ↔
      ∃ before link behind, f.links.entries = before ++ link :: behind ∧
        (∀ l ∈ before, ∃ target,
          bindLink table limit scene f.id inputs outputs l.1 l.2 = .ok target) ∧
        bindLink table limit scene f.id inputs outputs link.1 link.2 = .error e := by
  unfold bindLinks
  simp only [bind_pure_eq_error_iff, mapM_eq_error_iff, exists_bind_pure_eq_ok_iff]

theorem typed_of_bindLinks {f : Filter} {inputs : PortTypes} {links : Links}
    (bound : bindLinks table limit scene f inputs outputs = .ok links) {port : String}
    {target : OutputRef} (member : (port, target) ∈ links.entries) :
    ∃ type, inputs.get? port = some type ∧ outputs.typeOf? target = some type := by
  obtain ⟨link, -, same, bound⟩ := exists_left (bindLinks_eq_ok_iff.mp bound) member
  rw [← same] at bound
  obtain ⟨type, declared, -, found⟩ := bindLink_eq_ok_iff.mp bound
  exact ⟨type, declared, found⟩

theorem finish_eq_ok_iff {f g : Filter} {ports : Ports} :
    finish table limit scene outputs f ports = .ok g ↔
      ∃ links parameters, bindLinks table limit scene f ports.inputs outputs = .ok links ∧
        f.normalParameters ports = .ok parameters ∧
        g = { f with links, parameters, position := .origin } := by
  unfold finish
  simp only [bind_eq_ok_iff, pure_eq_ok_iff]
  constructor
  · rintro ⟨links, bound, parameters, normal, rfl⟩
    exact ⟨links, parameters, bound, normal, rfl⟩
  · rintro ⟨links, parameters, bound, normal, rfl⟩
    exact ⟨links, bound, parameters, normal, rfl⟩

theorem exists_of_finish_error {f : Filter} {ports : Ports} {e : CompileError}
    (failed : finish table limit scene outputs f ports = .error e) :
    (∃ link ∈ f.links.entries,
      bindLink table limit scene f.id ports.inputs outputs link.1 link.2 = .error e) ∨
      f.normalParameters ports = .error e := by
  unfold finish at failed
  rcases bind_eq_error_iff.mp failed with unbound | ⟨links, -, failed⟩
  · obtain ⟨before, link, behind, split, -, unbound⟩ := bindLinks_eq_error_iff.mp unbound
    exact Or.inl ⟨link, split ▸ List.mem_append_right before List.mem_cons_self, unbound⟩
  · exact Or.inr (bind_pure_eq_error_iff.mp failed)

theorem ofFilters_eq_ofList (kept : List (Filter × Ports)) :
    OutputIndex.ofFilters kept = ofList (kept.map fun k => (k.1.id, k.2.outputs)) := by
  unfold OutputIndex.ofFilters ofList insertAll OutputIndex.register
  rw [List.foldl_map]

theorem typeOf?_ofFilters_iff {kept : List (Filter × Ports)} {r : OutputRef} {type : SignalType}
    (distinct : (kept.map fun k => k.1.id).Nodup) :
    (OutputIndex.ofFilters kept).typeOf? r = some type ↔
      ∃ k ∈ kept, k.1.id = r.filter ∧ k.2.outputs.get? r.port = some type := by
  have keys : ((kept.map fun k => (k.1.id, k.2.outputs)).map Prod.fst).Nodup := by
    rw [List.map_map]
    exact distinct
  unfold OutputIndex.typeOf?
  rw [Option.bind_eq_some_iff, ofFilters_eq_ofList]
  constructor
  · rintro ⟨ports, found, declared⟩
    rw [get?_eq_some_iff, entries_ofList keys] at found
    obtain ⟨k, member, same⟩ := List.mem_map.mp found
    obtain ⟨here, rfl⟩ := Prod.mk.inj same
    exact ⟨k, member, here, declared⟩
  · rintro ⟨k, member, same, declared⟩
    refine ⟨k.2.outputs, ?_, declared⟩
    rw [get?_eq_some_iff, entries_ofList keys, ← same]
    exact List.mem_map.mpr ⟨k, member, rfl⟩

end LightShow
