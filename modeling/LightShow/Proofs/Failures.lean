import LightShow.Proofs.Repeats
import LightShow.Proofs.UnfoldedNames

/-!
How a deployment can fail. Where recipes do what their kinds promise and no id is met twice,
each stage fails only over something that is wrong with the show itself.
-/

namespace LightShow

open Stage Outcome OrderedMap

theorem exists_of_recordOutputs_error {recipe : Recipe} {f : Filter} {names : List String}
    {e : CompileError} (failed : (recordOutputs recipe f names).outcome = .error e) :
    ∃ port ∈ names, recipe.source? f port = none := by
  induction names with
  | nil => cases failed
  | cons port rest ih =>
    cases found : recipe.source? f port with
    | none => exact ⟨port, List.mem_cons_self, found⟩
    | some target =>
      simp only [recordOutputs, found, Run.bind_eq] at failed
      rcases Run.outcome_bind_eq_error.mp failed with impossible | ⟨_, -, failed⟩
      · cases impossible
      · obtain ⟨p, member, missing⟩ := ih failed
        exact ⟨p, List.mem_cons_of_mem port member, missing⟩

theorem Recipe.Faithful.source?_isSome {r : Recipe} {f : Filter} (does : r.Faithful f)
    {ns : List Node} (made : r.nodes f = .ok ns) {ports : Ports}
    (declares : f.declaredPorts = .ok ports) {port : String}
    (member : port ∈ ports.outputs.keys) : r.source? f port ≠ none := by
  obtain ⟨inner, -, -, sourced⟩ := does.inner ns made
  obtain ⟨type, declared⟩ := exists_get?_of_mem_keys member
  obtain ⟨g, -, q, leads, -⟩ :=
    sourced port type ((Filter.provides_iff declares).mpr declared)
  rw [leads]
  simp

section

variable {book : RecipeBook} {scene : UInt32} {limit : Nat} {e : CompileError}

theorem exists_of_unfold_error (faithful : book.Faithful) {f : Filter}
    (composite : f.kind.isComposite = true)
    (failed : (unfold book scene f).outcome = .error e) :
    f.declaredPorts = .error e ∨
      (∃ ports port, f.declaredPorts = .ok ports ∧ port ∈ f.links.keys ∧
        port ∉ ports.inputs.keys ∧ e = .undeclaredInput scene f.id port) ∨
      ∃ r, book.recipe? f.kind = some r ∧ r.nodes f = .error e := by
  obtain ⟨r, registered, does⟩ := faithful f composite
  simp only [unfold, registered, Run.bind_eq, Run.pure_eq] at failed
  rcases Run.outcome_bind_eq_error.mp failed with undeclared | ⟨ports, declares, failed⟩
  · exact Or.inl undeclared
  split at failed
  · rename_i port found
    cases failed
    have unknown : port ∉ ports.inputs.keys := by
      have missing := List.find?_some found
      rw [← isSome_get?_iff]
      simpa [contains] using missing
    exact Or.inr (Or.inl ⟨ports, port, declares, List.mem_of_find?_eq_some found, unknown, rfl⟩)
  rcases Run.outcome_bind_eq_error.mp failed with malformed | ⟨ns, made, failed⟩
  · exact Or.inr (Or.inr ⟨r, registered, malformed⟩)
  have offers : r.outputs f = .ok ports.outputs := by
    have declares : f.declaredPorts = .ok ports := declares
    rw [does.outputs, Recipe.declaredOutputs, declares]
    rfl
  rcases Run.outcome_bind_eq_error.mp failed with undeclared | ⟨outputs, offered, failed⟩
  · rw [Run.ofExcept, offers] at undeclared
    cases undeclared
  obtain rfl : ports.outputs = outputs := Except.ok.inj (offers.symm.trans offered)
  rcases Run.outcome_bind_eq_error.mp failed with unrecorded | ⟨_, -, failed⟩
  · obtain ⟨port, member, missing⟩ := exists_of_recordOutputs_error unrecorded
    exact absurd missing (does.source?_isSome made declares member)
  · rcases Run.outcome_bind_eq_error.mp failed with impossible | ⟨_, -, impossible⟩ <;>
      cases impossible

theorem isInternal_of_unfold (faithful : book.Faithful) {f : Filter}
    (composite : f.kind.isComposite = true)
    (failed : (unfold book scene f).outcome = .error e) : e.isInternal = false := by
  rcases exists_of_unfold_error faithful composite failed with
    undeclared | ⟨ports, port, -, -, -, rfl⟩ | ⟨r, registered, malformed⟩
  · exact CompileError.isInternal_of_isLocal (Filter.isLocal_of_declaredPorts undeclared)
  · rfl
  · obtain ⟨r', registered', does⟩ := faithful f composite
    obtain rfl : r' = r := Option.some.inj (registered'.symm.trans registered)
    exact does.fails e malformed

theorem exists_of_concat_error {α : Type} {rs : List (Stage (List α))}
    (failed : (concat rs).outcome = .error e) : ∃ r ∈ rs, r.outcome = .error e := by
  induction rs with
  | nil => cases failed
  | cons r rs ih =>
    rw [concat_cons] at failed
    rcases Run.outcome_bind_eq_error.mp failed with here | ⟨_, -, failed⟩
    · exact ⟨r, List.mem_cons_self, here⟩
    · obtain ⟨r', member, found⟩ := ih (Run.outcome_bind_answer_eq_error.mp failed)
      exact ⟨r', List.mem_cons_of_mem r member, found⟩

theorem exists_of_expandNode_error {budget : Nat} {n : Node}
    (failed : (expandNode book scene limit budget n).outcome = .error e) :
    (∃ id, e = .expansionDepthExceeded scene id limit) ∨
      ∃ f ∈ book.compositesIn budget n, (unfold book scene f).outcome = .error e := by
  induction budget generalizing n with
  | zero =>
    cases n with
    | concrete f => cases failed
    | composite f =>
      cases failed
      exact Or.inl ⟨f.id, rfl⟩
  | succ budget ih =>
    cases n with
    | concrete f => cases failed
    | composite f =>
      simp only [expandNode, Run.bind_eq] at failed
      rcases Run.outcome_bind_eq_error.mp failed with here | ⟨ns, unfolded, failed⟩
      · exact Or.inr ⟨f, List.mem_cons_self, here⟩
      · obtain ⟨-, rfl, -⟩ := answers_unfold.mp (answers_of_outcome unfolded)
        obtain ⟨r, member, inside⟩ := exists_of_concat_error failed
        obtain ⟨m, isInner, rfl⟩ := List.mem_map.mp member
        rcases ih inside with deep | ⟨g, met, further⟩
        · exact Or.inl deep
        · exact Or.inr ⟨g, List.mem_cons_of_mem f (List.mem_flatMap.mpr ⟨m, isInner, met⟩),
            further⟩

theorem exists_of_expand_error {nodes : List Node}
    (failed : (expand book scene limit nodes).outcome = .error e) :
    (∃ id, e = .expansionDepthExceeded scene id limit) ∨
      ∃ f ∈ nodes.flatMap (book.compositesIn limit),
        (unfold book scene f).outcome = .error e := by
  rw [expand_concat] at failed
  obtain ⟨r, member, inside⟩ := exists_of_concat_error failed
  obtain ⟨n, listed, rfl⟩ := List.mem_map.mp member
  rcases exists_of_expandNode_error inside with deep | ⟨f, met, here⟩
  · exact Or.inl deep
  · exact Or.inr ⟨f, List.mem_flatMap.mpr ⟨n, listed, met⟩, here⟩

theorem exists_of_retain_error {fs : List Filter} (distinct : (fs.map Filter.id).Nodup)
    (concrete : ∀ f ∈ fs, f.kind.isComposite = false)
    (failed : (retain scene [] (.ofScene scene) fs).outcome = .error e) :
    ∃ f ∈ fs, f.declaredPorts = .error e := by
  rw [outcome_retain_ofScene scene distinct concrete] at failed
  obtain ⟨f, kept, undeclared⟩ := exists_of_mapM_eq_error failed
  exact ⟨f, List.mem_of_mem_filter kept, Filter.withPorts_eq_error_iff.mp undeclared⟩

end

theorem Filter.isLocal_of_normalParameters {f : Filter} {ports : Ports} {e : CompileError}
    (failed : f.normalParameters ports = .error e) : e.isLocal = true := by
  unfold normalParameters at failed
  split at failed
  · cases failed
  · split at failed
    · split at failed
      · cases failed
      · cases failed
        rfl
    · cases failed

section

variable {book : RecipeBook} {settings : Settings} {s : Scene} {e : CompileError}

theorem exists_of_gather_error (faithful : book.Faithful) (valid : s.Valid)
    (unambiguous : Unambiguous book settings s)
    (failed : (gather book settings s).outcome = .error e) :
    (∃ id, e = .expansionDepthExceeded s.id id settings.maxExpansionDepth) ∨
      (∃ f ∈ compositesOf book settings s, (unfold book s.id f).outcome = .error e) ∨
      ∃ f ∈ concretesOf book settings s, f.declaredPorts = .error e := by
  unfold gather at failed
  rcases Run.outcome_bind_eq_error.mp failed with unexpanded | ⟨es, expanded, failed⟩
  · rcases exists_of_expand_error unexpanded with deep | here
    · exact Or.inl deep
    · exact Or.inr (Or.inl here)
  · obtain ⟨-, rfl, -⟩ := answers_expand.mp (answers_of_outcome expanded)
    exact Or.inr (Or.inr (exists_of_retain_error unambiguous.concretes
      (fun f listed => isComposite_of_mem_concretesOf faithful valid listed)
      (Run.outcome_bind_answer_eq_error.mp failed)))

theorem exists_of_deployScene_error (failed : (deployScene book settings s).outcome = .error e) :
    (gather book settings s).outcome = .error e ∨
      ∃ kept folding, Gathers book settings s kept folding ∧
        ∃ k ∈ kept, finish (finalTable book settings s) settings.maxSubstitutionSteps s.id
          (OutputIndex.ofFilters kept) k.1 k.2 = .error e := by
  unfold deployScene at failed
  rcases Run.outcome_bind_eq_error.mp failed with
    ungathered | ⟨⟨es, kept⟩, gathered, failed⟩
  · exact Or.inl ungathered
  obtain ⟨-, folding, gathers, -⟩ := answers_gather_iff.mp (answers_of_outcome gathered)
  rcases Run.outcome_bind_eq_error.mp failed with unfinished | ⟨_, -, failed⟩
  · obtain ⟨k, isKept, unfinished⟩ := exists_of_mapM_eq_error unfinished
    exact Or.inr ⟨kept, folding, gathers, k, isKept, unfinished⟩
  · rcases Run.outcome_bind_eq_error.mp failed with impossible | ⟨_, -, impossible⟩ <;>
      cases impossible

theorem isInternal_of_gather (faithful : book.Faithful) (valid : s.Valid)
    (unambiguous : Unambiguous book settings s)
    (failed : (gather book settings s).outcome = .error e) : e.isInternal = false := by
  rcases exists_of_gather_error faithful valid unambiguous failed with
    ⟨id, rfl⟩ | ⟨f, met, here⟩ | ⟨f, -, undeclared⟩
  · rfl
  · exact isInternal_of_unfold faithful (isComposite_of_mem_compositesOf faithful valid met) here
  · exact CompileError.isInternal_of_isLocal (Filter.isLocal_of_declaredPorts undeclared)

end

end LightShow
