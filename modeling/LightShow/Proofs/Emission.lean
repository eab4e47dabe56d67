import LightShow.Proofs.Deployment
import LightShow.Proofs.Repeats

/-!
What a scene is deployed to. It is what the scene unfolds into, less the filters that repeat a
singleton kind; every filter that is left has its links led to where their rules end and its
constant written in normal form, and is otherwise the same.
-/

namespace LightShow

open Stage Outcome OrderedMap

theorem Kind.exists_constant {k : Kind} (constant : k.family = .constant) :
    ∃ type, k = .constant type := by
  cases k with
  | constant type => exact ⟨type, rfl⟩
  | _ => cases constant

namespace Filter

/-- `written` are the starting parameters of `f`, the value of a constant written anew. -/
structure Rewrites (f : Filter) (written : Parameters) : Prop where
  keys : written.keys = f.parameters.keys
  others : ∀ key, (f.kind.family = .constant → key ≠ "value") →
    written.get? key = f.parameters.get? key
  value : ∀ type text, f.kind = .constant type → f.parameters.get? "value" = some text →
    ∃ v, type.parse text = .ok v ∧ written.get? "value" = some v.text

/-- The value of a constant, if there is one, is a value of its type. -/
def Readable (f : Filter) : Prop :=
  ∀ type text, f.kind = .constant type → f.parameters.get? "value" = some text →
    ∃ v, type.parse text = .ok v

variable {f : Filter} {ports : Ports} {type : SignalType} {written : Parameters}

theorem normalParameters_of_other (other : f.kind.family ≠ .constant) :
    f.normalParameters ports = .ok f.parameters := by
  rw [normalParameters, if_pos other]

theorem normalParameters_of_absent (absent : f.parameters.get? "value" = none) :
    f.normalParameters ports = .ok f.parameters := by
  simp [normalParameters, absent]

theorem normalParameters_of_constant (told : f.ports = .ok ports)
    (constant : f.kind = .constant type) {text : String}
    (given : f.parameters.get? "value" = some text) :
    f.normalParameters ports = match type.parse text with
      | .ok v => .ok (f.parameters.insert "value" v.text)
      | .error e => .error (.invalidValue f.id "value" e) := by
  have declared : ports.outputs.get? "value" = some type := by
    rw [Filter.ports, constant] at told
    cases told
    rfl
  have family : f.kind.family = .constant := congrArg Kind.family constant
  cases parsed : type.parse text <;> simp [normalParameters, family, declared, given, parsed]

theorem rewrites_of_normalParameters (told : f.ports = .ok ports)
    (normal : f.normalParameters ports = .ok written) : f.Rewrites written := by
  by_cases family : f.kind.family = .constant
  · obtain ⟨type, constant⟩ := Kind.exists_constant family
    cases given : f.parameters.get? "value" with
    | none =>
      rw [normalParameters_of_absent given] at normal
      cases normal
      refine ⟨rfl, fun _ _ => rfl, ?_⟩
      intro type' text _ present
      rw [given] at present
      cases present
    | some text =>
      rw [normalParameters_of_constant told constant given] at normal
      split at normal
      · rename_i v parsed
        cases normal
        refine ⟨?_, ?_, ?_⟩
        · rw [keys_insert, if_pos (mem_keys_of_get? given)]
        · intro key different
          rw [get?_insert, if_neg (Ne.symm (different family))]
        · intro type' text' constant' given'
          cases constant.symm.trans constant'
          cases given.symm.trans given'
          exact ⟨v, parsed, by rw [get?_insert, if_pos rfl]⟩
      · cases normal
  · rw [normalParameters_of_other family] at normal
    cases normal
    refine ⟨rfl, fun _ _ => rfl, ?_⟩
    intro type text constant _
    rw [constant] at family
    exact absurd rfl family

theorem exists_normalParameters_iff (told : f.ports = .ok ports) :
    (∃ written, f.normalParameters ports = .ok written) ↔ f.Readable := by
  constructor
  · intro normal type text constant given
    obtain ⟨written, normal⟩ := normal
    obtain ⟨v, parsed, -⟩ :=
      (rewrites_of_normalParameters told normal).value type text constant given
    exact ⟨v, parsed⟩
  · intro readable
    by_cases family : f.kind.family = .constant
    · obtain ⟨type, constant⟩ := Kind.exists_constant family
      cases given : f.parameters.get? "value" with
      | none => exact ⟨_, normalParameters_of_absent given⟩
      | some text =>
        obtain ⟨v, parsed⟩ := readable type text constant given
        rw [normalParameters_of_constant told constant given, parsed]
        exact ⟨_, rfl⟩
    · exact ⟨_, normalParameters_of_other family⟩

/-- `g` is what the engine gets of `f` under these rules. -/
structure EmittedAs (table : Substitution) (limit : Nat) (f g : Filter) : Prop where
  id : g.id = f.id
  kind : g.kind = f.kind
  configuration : g.configuration = f.configuration
  parameters : f.Rewrites g.parameters
  position : g.position = .origin
  links : List.Forall₂ (fun link bound => bound.1 = link.1 ∧
    table.EndsAt limit link.2 bound.2) f.links.entries g.links.entries

theorem emittedAs_of_finish {table : Substitution} {limit : Nat} {scene : UInt32}
    {outputs : OutputIndex} {g : Filter} (told : f.ports = .ok ports)
    (finished : finish table limit scene outputs f ports = .ok g) : f.EmittedAs table limit g := by
  obtain ⟨links, parameters, bound, normal, rfl⟩ := finish_eq_ok_iff.mp finished
  refine ⟨rfl, rfl, rfl, rewrites_of_normalParameters told normal, rfl, ?_⟩
  refine (bindLinks_eq_ok_iff.mp bound).imp fun link bound linked => ?_
  obtain ⟨same, linked⟩ := linked
  obtain ⟨type, -, resolved, -⟩ := bindLink_eq_ok_iff.mp linked
  exact ⟨same, Substitution.resolve_eq_ok_iff_endsAt.mp resolved⟩

end Filter

section

variable {book : RecipeBook} {settings : Settings} {s : Scene} {kept : List (Filter × Ports)}
  {folding : List Rule}

theorem Gathers.eq_repeats (gathers : Gathers book settings s kept folding) :
    kept.map Prod.fst = withoutRepeats (concretesOf book settings s) ∧
      folding = repeatRules (concretesOf book settings s) :=
  gathers.retains.eq_repeats (Singletons.knows_ofScene s.id) rfl gathers.distinct.of_map

theorem Gathers.finalTable_eq_extend (gathers : Gathers book settings s kept folding) :
    finalTable book settings s =
      (Substitution.ofEntries
        (expand book s.id settings.maxExpansionDepth s.nodes).reports).extend
          (repeatRules (concretesOf book settings s)) := by
  have expanded : Answers (expand book s.id settings.maxExpansionDepth s.nodes) _ _ :=
    answers_expand.mpr ⟨gathers.expandable, rfl, rfl⟩
  have unfolding : Substitution.ofEntries
      (expand book s.id settings.maxExpansionDepth s.nodes).reports =
        .extend ∅ ((compositesOf book settings s).flatMap book.rules) :=
    congrArg (Substitution.extend ∅) expanded.2
  rw [gathers.finalTable_eq, gathers.eq_repeats.2, Substitution.extend_append, unfolding]

end

/-- A scene is deployed to what it unfolds into, filters with ids of their own, less those that
    repeat a singleton kind, each with its links led to where they end under the rules of the
    unfolded filters and those from the outputs of the repeating filters to those of the first
    ones of their kinds. -/
theorem deployment_shape (book : RecipeBook) (settings : Settings) (s : Scene)
    (fs : List Filter) (deployed : (deployScene book settings s).outcome = .ok fs) :
    ∃ es, (expand book s.id settings.maxExpansionDepth s.nodes).outcome = .ok es ∧
      (es.map Filter.id).Nodup ∧ List.Forall₂ (Filter.EmittedAs
        ((Substitution.ofEntries
          (expand book s.id settings.maxExpansionDepth s.nodes).reports).extend (repeatRules es))
        settings.maxSubstitutionSteps) (withoutRepeats es) fs := by
  obtain ⟨kept, folding, deploys⟩ := deployScene_eq_ok_iff.mp deployed
  have expanded : Answers (expand book s.id settings.maxExpansionDepth s.nodes) _ _ :=
    answers_expand.mpr ⟨deploys.expandable, rfl, rfl⟩
  refine ⟨concretesOf book settings s, expanded.1, deploys.distinct, ?_⟩
  rw [← deploys.eq_repeats.1, ← deploys.finalTable_eq_extend, List.forall₂_map_left_iff]
  have declares : ∀ k ∈ kept, k.1.ports = .ok k.2 := fun k member =>
    Filter.declaredPorts_eq_ok_iff.mp (deploys.retains.declares member)
  have each := (List.forall₂_and_left kept fs).mpr ⟨declares, deploys.finished⟩
  refine each.imp fun k g both => ?_
  obtain ⟨told, finished⟩ := both
  exact Filter.emittedAs_of_finish told finished

theorem deployment_shape_dimmed_and_delayed :
    (deployScene .builtIn {} dimmedAndDelayed).outcome = .ok dimmedAndDelayedFilters ∧
      ∃ es, (expand .builtIn 1 32 dimmedAndDelayed.nodes).outcome = .ok es ∧
        (es.map Filter.id).Nodup ∧ List.Forall₂ (Filter.EmittedAs ((Substitution.ofEntries
          (expand .builtIn 1 32 dimmedAndDelayed.nodes).reports).extend (repeatRules es)) 64)
          (withoutRepeats es) dimmedAndDelayedFilters := by
  have deployed :
      (deployScene .builtIn {} dimmedAndDelayed).outcome = .ok dimmedAndDelayedFilters := by
    cbv
  exact ⟨deployed, deployment_shape .builtIn {} dimmedAndDelayed _ deployed⟩

end LightShow
