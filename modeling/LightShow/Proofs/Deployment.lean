import Mathlib
import LightShow.Proofs.Binding
import LightShow.Proofs.Expansion
import LightShow.Proofs.Retention

/-!
A successful deployment, stage by stage, and what it guarantees to the engine whatever the
recipes do: no composite filters, distinct ids, one filter of each singleton kind, and links
that lead to outputs of the right type.
-/

namespace LightShow

open Stage Outcome OrderedMap

namespace Filter

/-- The filter declares an output of this name and type. -/
def Provides (f : Filter) (port : String) (type : SignalType) : Prop :=
  ∃ ports, f.ports = .ok ports ∧ ports.outputs.get? port = some type

def Accepts (f : Filter) (port : String) (type : SignalType) : Prop :=
  ∃ ports, f.ports = .ok ports ∧ ports.inputs.get? port = some type

/-- Every link is on a declared input and leads to an output of the same type of one of the
    given filters. -/
def WellLinked (fs : List Filter) (f : Filter) : Prop :=
  ∀ link ∈ f.links.entries, ∃ type, f.Accepts link.1 type ∧
    ∃ g ∈ fs, g.id = link.2.filter ∧ g.Provides link.2.port type

theorem declaredPorts_eq_ok_iff {f : Filter} {ports : Ports} :
    f.declaredPorts = .ok ports ↔ f.ports = .ok ports :=
  mapError_eq_ok_iff

theorem provides_iff {f : Filter} {ports : Ports} (declares : f.declaredPorts = .ok ports)
    {port : String} {type : SignalType} :
    f.Provides port type ↔ ports.outputs.get? port = some type := by
  have told := declaredPorts_eq_ok_iff.mp declares
  constructor
  · rintro ⟨ports', told', declared⟩
    obtain rfl : ports' = ports := Except.ok.inj (told'.symm.trans told)
    exact declared
  · intro declared
    exact ⟨ports, told, declared⟩

end Filter

section

variable {book : RecipeBook} {settings : Settings} {s : Scene}

theorem answers_gather {es : List Filter} {kept : List (Filter × Ports)}
    {recorded : List Rule} :
    Answers (gather book settings s) (es, kept) recorded ↔
      ∃ unfolding folding,
        Answers (expand book s.id settings.maxExpansionDepth s.nodes) es unfolding ∧
        Answers (retain s.id [] (.ofScene s.id) es) kept folding ∧
        recorded = unfolding ++ folding := by
  unfold gather
  simp only [Run.bind_eq, Run.pure_eq]
  rw [answers_bind]
  simp only [answers_bind_answer, Prod.mk.injEq]
  constructor
  · rintro ⟨_, unfolding, folding, expanded, ⟨_, retained, rfl, rfl⟩, rfl⟩
    exact ⟨unfolding, folding, expanded, retained, rfl⟩
  · rintro ⟨unfolding, folding, expanded, retained, rfl⟩
    exact ⟨es, unfolding, folding, expanded, ⟨kept, retained, rfl, rfl⟩, rfl⟩

def compositesOf (book : RecipeBook) (settings : Settings) (s : Scene) : List Filter :=
  s.nodes.flatMap (book.compositesIn settings.maxExpansionDepth)

def concretesOf (book : RecipeBook) (settings : Settings) (s : Scene) : List Filter :=
  s.nodes.flatMap (book.concretesIn settings.maxExpansionDepth)

/-- No filter that is met while the scene is unfolded has the id of another one. -/
def Unambiguous (book : RecipeBook) (settings : Settings) (s : Scene) : Prop :=
  ((compositesOf book settings s ++ concretesOf book settings s).map Filter.id).Nodup

theorem Unambiguous.concretes (unambiguous : Unambiguous book settings s) :
    ((concretesOf book settings s).map Filter.id).Nodup := by
  unfold Unambiguous at unambiguous
  rw [List.map_append, List.nodup_append] at unambiguous
  exact unambiguous.2.1

theorem Unambiguous.apart (unambiguous : Unambiguous book settings s) {v f : Filter}
    (met : v ∈ compositesOf book settings s) (listed : f ∈ concretesOf book settings s) :
    v.id ≠ f.id := by
  unfold Unambiguous at unambiguous
  rw [List.map_append, List.nodup_append] at unambiguous
  exact unambiguous.2.2 v.id (List.mem_map_of_mem met) f.id (List.mem_map_of_mem listed)

/-- A scene is unfolded, and of the filters that it unfolds into `kept` are kept while the
    others leave the rules `folding`. -/
structure Gathers (book : RecipeBook) (settings : Settings) (s : Scene)
    (kept : List (Filter × Ports)) (folding : List Rule) : Prop where
  expandable : ∀ n ∈ s.nodes, book.Expandable settings.maxExpansionDepth n
  distinct : ((concretesOf book settings s).map Filter.id).Nodup
  concrete : ∀ f ∈ concretesOf book settings s, f.kind.isComposite = false
  retains : Retains (.ofScene s.id) (concretesOf book settings s) kept folding

/-- What is kept is finished, and `fs` goes to the engine. -/
structure Deploys (book : RecipeBook) (settings : Settings) (s : Scene)
    (kept : List (Filter × Ports)) (folding : List Rule) (fs : List Filter) : Prop
    extends Gathers book settings s kept folding where
  finished : List.Forall₂ (fun k g => finish (finalTable book settings s)
    settings.maxSubstitutionSteps s.id (OutputIndex.ofFilters kept) k.1 k.2 = .ok g) kept fs

theorem answers_gather_iff {es : List Filter} {kept : List (Filter × Ports)}
    {recorded : List Rule} :
    Answers (gather book settings s) (es, kept) recorded ↔
      es = concretesOf book settings s ∧ ∃ folding, Gathers book settings s kept folding ∧
        recorded = (compositesOf book settings s).flatMap book.rules ++ folding := by
  rw [answers_gather]
  constructor
  · rintro ⟨unfolding, folding, expanded, retained, rfl⟩
    obtain ⟨expandable, rfl, rfl⟩ := answers_expand.mp expanded
    obtain ⟨distinct, fresh, retains⟩ :=
      (answers_retain (Singletons.tracks_ofScene s.id)).mp retained
    exact ⟨rfl, folding, ⟨expandable, distinct, fun f member => (fresh f member).2, retains⟩,
      rfl⟩
  · rintro ⟨rfl, folding, gathers, rfl⟩
    have expanded : Answers (expand book s.id settings.maxExpansionDepth s.nodes) _ _ :=
      answers_expand.mpr ⟨gathers.expandable, rfl, rfl⟩
    have retained := (answers_retain (Singletons.tracks_ofScene s.id)).mpr
      ⟨gathers.distinct, fun f member => ⟨List.not_mem_nil, gathers.concrete f member⟩,
        gathers.retains⟩
    exact ⟨_, folding, expanded, retained, rfl⟩

theorem Gathers.finalTable_eq {kept : List (Filter × Ports)} {folding : List Rule}
    (gathers : Gathers book settings s kept folding) :
    finalTable book settings s =
      Substitution.extend ∅ ((compositesOf book settings s).flatMap book.rules ++ folding) := by
  have gathered := answers_gather_iff.mpr ⟨rfl, folding, gathers, rfl⟩
  rw [← gathered.2]
  rfl

theorem Gathers.kept_distinct {kept : List (Filter × Ports)} {folding : List Rule}
    (gathers : Gathers book settings s kept folding) : (kept.map fun k => k.1.id).Nodup := by
  have sublist := gathers.retains.sublist.map Filter.id
  rw [List.map_map] at sublist
  exact gathers.distinct.sublist sublist

theorem deployScene_eq_ok_iff {fs : List Filter} :
    (deployScene book settings s).outcome = .ok fs ↔
      ∃ kept folding, Deploys book settings s kept folding fs := by
  unfold deployScene
  simp only [Run.bind_eq, Run.pure_eq, Run.outcome_bind_eq_ok]
  constructor
  · rintro ⟨⟨es, kept⟩, gathered, emitted, finished, _, -, ended⟩
    cases ended
    obtain ⟨-, folding, gathers, -⟩ := answers_gather_iff.mp (answers_of_outcome gathered)
    exact ⟨kept, folding, gathers, mapM_eq_ok_iff.mp finished⟩
  · rintro ⟨kept, folding, deploys⟩
    have gathered := answers_gather_iff.mpr ⟨rfl, folding, deploys.toGathers, rfl⟩
    exact ⟨_, gathered.1, fs, mapM_eq_ok_iff.mpr deploys.finished, (), rfl, rfl⟩

namespace Deploys

variable {kept : List (Filter × Ports)} {folding : List Rule} {fs : List Filter}

theorem emits (deploys : Deploys book settings s kept folding fs) :
    List.Forall₂ (fun k g => g.id = k.1.id ∧ g.kind = k.1.kind ∧ g.ports = k.1.ports)
      kept fs := by
  refine deploys.finished.imp fun k g finished => ?_
  obtain ⟨links, parameters, -, -, rfl⟩ := finish_eq_ok_iff.mp finished
  exact ⟨rfl, rfl, rfl⟩

theorem map_id (deploys : Deploys book settings s kept folding fs) :
    fs.map Filter.id = kept.map fun k => k.1.id :=
  (map_eq_map deploys.emits fun _ _ emits => emits.1.symm).symm

theorem map_kind (deploys : Deploys book settings s kept folding fs) :
    fs.map Filter.kind = kept.map fun k => k.1.kind :=
  (map_eq_map deploys.emits fun _ _ emits => emits.2.1.symm).symm

theorem ids_sublist (deploys : Deploys book settings s kept folding fs) :
    (fs.map Filter.id).Sublist ((concretesOf book settings s).map Filter.id) := by
  have sublist := deploys.retains.sublist.map Filter.id
  rw [List.map_map] at sublist
  rw [deploys.map_id]
  exact sublist

theorem provides (deploys : Deploys book settings s kept folding fs) {k : Filter × Ports}
    (member : k ∈ kept) {port : String} {type : SignalType}
    (declared : k.2.outputs.get? port = some type) :
    ∃ g ∈ fs, g.id = k.1.id ∧ g.Provides port type := by
  obtain ⟨g, emitted, id, -, ports⟩ := exists_right deploys.emits member
  have declares := Filter.declaredPorts_eq_ok_iff.mp (deploys.retains.declares member)
  exact ⟨g, emitted, id, k.2, ports.trans declares, declared⟩

theorem provides_of_found (deploys : Deploys book settings s kept folding fs) {r : OutputRef}
    {type : SignalType} (found : (OutputIndex.ofFilters kept).typeOf? r = some type) :
    ∃ g ∈ fs, g.id = r.filter ∧ g.Provides r.port type := by
  obtain ⟨k, member, id, declared⟩ := (typeOf?_ofFilters_iff deploys.kept_distinct).mp found
  obtain ⟨g, emitted, same, provides⟩ := deploys.provides member declared
  exact ⟨g, emitted, same.trans id, provides⟩

theorem wellLinked (deploys : Deploys book settings s kept folding fs) {g : Filter}
    (member : g ∈ fs) : g.WellLinked fs := by
  intro link linked
  obtain ⟨k, here, finished⟩ := exists_left deploys.finished member
  obtain ⟨links, parameters, bound, -, rfl⟩ := finish_eq_ok_iff.mp finished
  obtain ⟨type, accepted, found⟩ := typed_of_bindLinks bound linked
  have declares := Filter.declaredPorts_eq_ok_iff.mp (deploys.retains.declares here)
  exact ⟨type, ⟨k.2, declares, accepted⟩, deploys.provides_of_found found⟩

end Deploys

/-- What the engine takes for granted about the filters of a scene. -/
structure Executable (fs : List Filter) : Prop where
  concrete : ∀ f ∈ fs, f.kind.isComposite = false
  distinct : (fs.map Filter.id).Nodup
  single : ∀ k : Kind, k.isSingleton = true → fs.countP (fun f => f.kind = k) ≤ 1
  linked : ∀ f ∈ fs, f.WellLinked fs

theorem Deploys.executable {kept : List (Filter × Ports)} {folding : List Rule}
    {fs : List Filter} (deploys : Deploys book settings s kept folding fs) : Executable fs := by
  constructor
  · intro f member
    obtain ⟨k, here, -, kind, -⟩ := exists_left deploys.emits member
    rw [kind]
    exact deploys.concrete k.1 (deploys.retains.sublist.subset (List.mem_map_of_mem here))
  · exact deploys.distinct.sublist deploys.ids_sublist
  · intro k single
    have once := deploys.retains.countP_kind_le single
    have count : fs.countP (fun f => f.kind = k) = kept.countP (fun p => p.1.kind = k) := by
      have emitted := List.countP_map (p := fun j => decide (j = k)) (f := Filter.kind) (l := fs)
      rw [deploys.map_kind, List.countP_map] at emitted
      exact emitted.symm
    rw [count]
    exact once
  · exact fun f member => deploys.wellLinked member

/-- Whatever the recipes do, the engine gets what it takes for granted, and the scene did not
    unfold into two filters of one id, those that were folded away included. -/
theorem deployment_sound (book : RecipeBook) (settings : Settings) (s : Scene)
    (fs : List Filter) (deployed : (deployScene book settings s).outcome = .ok fs) :
    Executable fs ∧ ∃ expanded,
      (expand book s.id settings.maxExpansionDepth s.nodes).outcome = .ok expanded ∧
        (expanded.map Filter.id).Nodup ∧
        (fs.map Filter.id).Sublist (expanded.map Filter.id) := by
  obtain ⟨kept, folding, deploys⟩ := deployScene_eq_ok_iff.mp deployed
  have expanded : Answers (expand book s.id settings.maxExpansionDepth s.nodes) _ _ :=
    answers_expand.mpr ⟨deploys.expandable, rfl, rfl⟩
  exact ⟨deploys.executable, concretesOf book settings s, expanded.1, deploys.distinct,
    deploys.ids_sublist⟩

def dimmedAndDelayed : Scene where
  id := 1
  name := "Main"
  nodes := [
    .ofFilter { id := "w", kind := .composite .dimmedColor },
    .ofFilter { id := "m", kind := .mainBrightness },
    .ofFilter { id := "d", kind := .composite .delayChain,
                links := .ofList [("value", ⟨"m", "value"⟩)],
                configuration := .ofList [("stages", "2")] },
    .ofFilter { id := "out", kind := .debug .byte,
                links := .ofList [("value", ⟨"d", "value"⟩)] }]

def dimmedAndDelayedFilters : List Filter := [
  { id := "w__main", kind := .mainBrightness },
  { id := "w__mix", kind := .conversion .dimColor,
    links := .ofList [("brightness", ⟨"w__main", "value"⟩)] },
  { id := "d__stage", kind := .timedSwitch .delayOn,
    links := .ofList [("value", ⟨"w__main", "value"⟩)] },
  { id := "d__rest__stage", kind := .timedSwitch .delayOn,
    links := .ofList [("value", ⟨"d__stage", "value"⟩)] },
  { id := "out", kind := .debug .byte,
    links := .ofList [("value", ⟨"d__rest__stage", "value"⟩)] }]

theorem deployment_sound_dimmed_and_delayed :
    (deployScene .builtIn {} dimmedAndDelayed).outcome = .ok dimmedAndDelayedFilters ∧
      Executable dimmedAndDelayedFilters := by
  have deployed :
      (deployScene .builtIn {} dimmedAndDelayed).outcome = .ok dimmedAndDelayedFilters := by
    cbv
  exact ⟨deployed, (deployment_sound .builtIn {} dimmedAndDelayed _ deployed).1⟩

end

end LightShow
