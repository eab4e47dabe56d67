import Mathlib.Data.List.Nodup
import LightShow.Proofs.Outcome
import LightShow.Proofs.Retention

/-!
Of the filters of a singleton kind only the first one is kept. Which filters are left out, and
which rules they leave behind, is said here of a list as a whole; offering its filters one by
one comes to the same.
-/

namespace LightShow

open Stage Outcome OrderedMap

/-- The first filter of a kind. -/
def leader? (fs : List Filter) (k : Kind) : Option Filter := fs.find? fun f => f.kind = k

theorem leader?_cons (f : Filter) (fs : List Filter) (k : Kind) :
    leader? (f :: fs) k = if f.kind = k then some f else leader? fs k := by
  by_cases same : f.kind = k <;> simp [leader?, same]

theorem leader?_append (fs gs : List Filter) (k : Kind) :
    leader? (fs ++ gs) k = (leader? fs k).or (leader? gs k) :=
  List.find?_append

theorem mem_of_leader? {fs : List Filter} {k : Kind} {first : Filter}
    (found : leader? fs k = some first) : first ∈ fs :=
  List.mem_of_find?_eq_some found

theorem kind_of_leader? {fs : List Filter} {k : Kind} {first : Filter}
    (found : leader? fs k = some first) : first.kind = k := by
  simpa using List.find?_some found

theorem exists_leader?_of_mem {fs : List Filter} {f : Filter} (member : f ∈ fs) :
    ∃ first, leader? fs f.kind = some first := by
  cases found : leader? fs f.kind with
  | none => exact absurd (decide_eq_true rfl) (List.find?_eq_none.mp found f member)
  | some first => exact ⟨first, rfl⟩

namespace Filter

/-- The filter is of a singleton kind, and not the first one of it. -/
def Repeats (f : Filter) (fs : List Filter) : Prop :=
  f.kind.isSingleton = true ∧ leader? fs f.kind ≠ some f

instance (f : Filter) (fs : List Filter) : Decidable (f.Repeats fs) := by
  unfold Repeats
  infer_instance

def outputNames (f : Filter) : List String :=
  match f.declaredPorts with
  | .ok ports => ports.outputs.keys
  | .error _ => []

/-- Rules from the outputs of a filter to those of the first one of its kind. -/
def foldingRules (f : Filter) (fs : List Filter) : List Rule :=
  match leader? fs f.kind with
  | some first => f.outputNames.map fun port => ⟨f.output port, first.output port⟩
  | none => []

end Filter

/-- The filters without those that repeat a singleton kind. -/
def withoutRepeats (fs : List Filter) : List Filter := fs.filter fun f => ¬ f.Repeats fs

/-- What the filters that repeat a singleton kind leave behind. -/
def repeatRules (fs : List Filter) : List Rule :=
  (fs.filter fun f => f.Repeats fs).flatMap fun f => f.foldingRules fs

theorem not_repeats_iff {fs : List Filter} {f : Filter} :
    ¬ f.Repeats fs ↔ (f.kind.isSingleton = true → leader? fs f.kind = some f) := by
  unfold Filter.Repeats
  rw [not_and, not_not]

theorem not_repeats_of_unique {fs : List Filter} (unique : ∀ f ∈ fs, ∀ g ∈ fs,
    f.kind.isSingleton = true → g.kind = f.kind → g = f) : ∀ f ∈ fs, ¬ f.Repeats fs := by
  intro f member
  rw [not_repeats_iff]
  intro single
  obtain ⟨first, found⟩ := exists_leader?_of_mem member
  rw [found, unique f member first (mem_of_leader? found) single (kind_of_leader? found)]

theorem withoutRepeats_eq_self {fs : List Filter} (unrepeated : ∀ f ∈ fs, ¬ f.Repeats fs) :
    withoutRepeats fs = fs :=
  List.filter_eq_self.mpr fun f member => decide_eq_true (unrepeated f member)

theorem repeatRules_eq_nil {fs : List Filter} (unrepeated : ∀ f ∈ fs, ¬ f.Repeats fs) :
    repeatRules fs = [] := by
  have none : fs.filter (fun f => f.Repeats fs) = [] :=
    List.filter_eq_nil_iff.mpr fun f member => by simpa using unrepeated f member
  rw [repeatRules, none, List.flatMap_nil]

theorem mem_withoutRepeats_iff {fs : List Filter} {f : Filter} :
    f ∈ withoutRepeats fs ↔ f ∈ fs ∧ ¬ f.Repeats fs := by
  rw [withoutRepeats, List.mem_filter, decide_eq_true_eq]

theorem mem_repeatRules_iff {fs : List Filter} {rule : Rule} :
    rule ∈ repeatRules fs ↔
      ∃ f ∈ fs, f.Repeats fs ∧ ∃ first, leader? fs f.kind = some first ∧
      ∃ port ∈ f.outputNames, rule = ⟨f.output port, first.output port⟩ := by
  have one : ∀ f : Filter, rule ∈ f.foldingRules fs ↔ ∃ first,
      leader? fs f.kind = some first ∧
      ∃ port ∈ f.outputNames, rule = ⟨f.output port, first.output port⟩ := by
    intro f
    unfold Filter.foldingRules
    cases leader? fs f.kind with
    | none => simp
    | some first => simp [eq_comm]
  simp only [repeatRules, List.mem_flatMap, List.mem_filter, decide_eq_true_eq, one, and_assoc]

namespace Singletons

def Knows (s : Singletons) (before : List Filter) : Prop :=
  ∀ k : Kind, k.isSingleton = true → s.canonical? k = leader? before k

theorem knows_ofScene (scene : UInt32) : Knows (ofScene scene) [] :=
  fun _ _ => rfl

variable {s : Singletons} {fs before rest : List Filter} {f : Filter}

theorem Knows.keep (knows : s.Knows before) (unclaimed : s.claimed? f = none) :
    (s.keep f).Knows (before ++ [f]) := by
  intro k single
  rw [canonical?_keep, knows k single, leader?_append, leader?_cons]
  by_cases same : f.kind = k
  · have absent : leader? before k = none := by
      rw [← knows k single]
      simpa [claimed?, same, single] using unclaimed
    simp [same, single, absent]
  · simp [same, leader?]

theorem Knows.fold {first : Filter} (knows : s.Knows before)
    (claimed : s.claimed? f = some first) : s.Knows (before ++ [f]) := by
  obtain ⟨-, canonical⟩ := claimed?_eq_some_iff.mp claimed
  intro k single
  rw [leader?_append, leader?_cons, ← knows k single]
  by_cases same : f.kind = k
  · rw [← same, canonical]
    rfl
  · simp [same, leader?]

theorem Knows.claimed?_eq (knows : s.Knows before) (whole : fs = before ++ f :: rest)
    (distinct : fs.Nodup) :
    s.claimed? f = if f.Repeats fs then leader? fs f.kind else none := by
  by_cases single : f.kind.isSingleton = true
  · have found : leader? fs f.kind = (leader? before f.kind).or (some f) := by
      rw [whole, leader?_append, leader?_cons, if_pos rfl]
    have claim : s.claimed? f = leader? before f.kind := by
      rw [claimed?, if_pos single, knows f.kind single]
    cases earlier : leader? before f.kind with
    | none =>
      rw [earlier] at found claim
      have first : ¬ f.Repeats fs := fun repeats => repeats.2 found
      rw [if_neg first, claim]
    | some first =>
      rw [earlier] at found claim
      have different : first ≠ f := by
        intro same
        rw [whole] at distinct
        have apart := (List.nodup_append.mp distinct).2.2
        exact apart first (mem_of_leader? earlier) f List.mem_cons_self same
      have repeats : f.Repeats fs := by
        refine ⟨single, ?_⟩
        rw [found]
        exact fun same => different (Option.some.inj same)
      rw [if_pos repeats, claim, found]
      rfl
  · have first : ¬ f.Repeats fs := fun repeats => single repeats.1
    rw [if_neg first, claimed?, if_neg single]

theorem Knows.claimed?_eq_none_iff (knows : s.Knows before) (whole : fs = before ++ f :: rest)
    (distinct : fs.Nodup) : s.claimed? f = none ↔ ¬ f.Repeats fs := by
  rw [knows.claimed?_eq whole distinct]
  by_cases repeats : f.Repeats fs
  · have listed : f ∈ fs := by
      rw [whole]
      exact List.mem_append_right _ List.mem_cons_self
    obtain ⟨first, known⟩ := exists_leader?_of_mem listed
    simp [repeats, known]
  · simp [repeats]

end Singletons

theorem Filter.foldingRules_eq {fs : List Filter} {f first : Filter} {ports : Ports}
    (leads : leader? fs f.kind = some first) (declares : f.declaredPorts = .ok ports) :
    f.foldingRules fs = f.redirect first ports := by
  simp [foldingRules, outputNames, leads, declares, redirect]

theorem Retains.eq_repeats {s : Singletons} {fs before rest : List Filter}
    {kept : List (Filter × Ports)} {recorded : List Rule} (retains : Retains s rest kept recorded)
    (knows : s.Knows before) (whole : fs = before ++ rest) (distinct : fs.Nodup) :
    kept.map Prod.fst = rest.filter (fun f => ¬ f.Repeats fs) ∧
      recorded = (rest.filter fun f => f.Repeats fs).flatMap fun f => f.foldingRules fs := by
  induction retains generalizing before with
  | done => exact ⟨rfl, rfl⟩
  | @keep s f rest ports kept recorded unclaimed declares later ih =>
    have first : ¬ f.Repeats fs := (knows.claimed?_eq_none_iff whole distinct).mp unclaimed
    obtain ⟨isKept, rules⟩ := ih (knows.keep unclaimed) (whole.trans (List.append_cons ..))
    simp [first, isKept, rules]
  | @fold s f first rest ports kept recorded claimed declares later ih =>
    have claim := knows.claimed?_eq whole distinct
    rw [claimed] at claim
    split at claim
    · rename_i repeats
      obtain ⟨isKept, rules⟩ := ih (knows.fold claimed) (whole.trans (List.append_cons ..))
      simp [repeats, isKept, rules, Filter.foldingRules_eq claim.symm declares]
    · cases claim

def Filter.withPorts (f : Filter) : Except CompileError (Filter × Ports) :=
  f.declaredPorts.map fun ports => (f, ports)

theorem Filter.withPorts_eq_ok_iff {f : Filter} {k : Filter × Ports} :
    f.withPorts = .ok k ↔ k.1 = f ∧ f.declaredPorts = .ok k.2 := by
  unfold withPorts
  cases f.declaredPorts with
  | error e => simp [Except.map]
  | ok ports => simp [Except.map, Prod.ext_iff, eq_comm]

theorem Filter.withPorts_eq_error_iff {f : Filter} {e : CompileError} :
    f.withPorts = .error e ↔ f.declaredPorts = .error e := by
  unfold withPorts
  cases f.declaredPorts <;> simp [Except.map]

theorem Filter.exists_declaredPorts_of_singleton {f : Filter} (single : f.kind.isSingleton = true) :
    ∃ ports, f.declaredPorts = .ok ports := by
  unfold declaredPorts Filter.ports
  cases kind : f.kind with
  | time | sceneTime | mainBrightness => exact ⟨_, rfl⟩
  | _ => simp [kind, Kind.isSingleton] at single

theorem outcome_retain {scene : UInt32} {s : Singletons} {seen : List String}
    {fs before rest : List Filter} (tracks : s.Tracks scene seen) (knows : s.Knows before)
    (whole : fs = before ++ rest) (distinct : (fs.map Filter.id).Nodup)
    (fresh : ∀ f ∈ rest, f.id ∉ seen ∧ f.kind.isComposite = false) :
    (retain scene seen s rest).outcome =
      (rest.filter fun f => ¬ f.Repeats fs).mapM Filter.withPorts := by
  induction rest generalizing before seen s with
  | nil => rfl
  | cons f rest ih =>
    obtain ⟨⟨unseen, plain⟩, others⟩ := List.forall_mem_cons.mp fresh
    have apart : ∀ g ∈ rest, g.id ≠ f.id := by
      intro g member same
      rw [whole, List.map_append, List.map_cons] at distinct
      have once := (List.nodup_cons.mp (List.nodup_append.mp distinct).2.1).1
      exact once (same ▸ List.mem_map_of_mem member)
    have later : ∀ g ∈ rest, g.id ∉ f.id :: seen ∧ g.kind.isComposite = false := by
      intro g member
      refine ⟨?_, (others g member).2⟩
      rw [List.mem_cons, not_or]
      exact ⟨apart g member, (others g member).1⟩
    have whole' : fs = (before ++ [f]) ++ rest := whole.trans (List.append_cons ..)
    cases claim : s.claimed? f with
    | none =>
      have first : ¬ f.Repeats fs :=
        (knows.claimed?_eq_none_iff whole distinct.of_map).mp claim
      rw [retain_unclaimed tracks unseen plain claim,
        List.filter_cons_of_pos (by simpa using first),
        List.mapM_cons, ← ih (tracks.keep f) (knows.keep claim) whole' later]
      simp only [Run.outcome_bind, Filter.withPorts]
      cases f.declaredPorts <;> rfl
    | some first =>
      have repeats : f.Repeats fs := by
        by_contra kept
        rw [← knows.claimed?_eq_none_iff whole distinct.of_map, claim] at kept
        cases kept
      obtain ⟨single, canonical⟩ := Singletons.claimed?_eq_some_iff.mp claim
      obtain ⟨ports, declares⟩ := Filter.exists_declaredPorts_of_singleton single
      have substituted : (substitute first f).outcome = .ok () :=
        ((answers_substitute (tracks.kinds f.kind first canonical)).mpr
          ⟨ports, declares, rfl⟩).1
      rw [retain_claimed tracks unseen plain claim,
        List.filter_cons_of_neg (by simpa using repeats),
        ← ih (tracks.fold f.id) (knows.fold claim) whole' later]
      simp only [Run.outcome_bind, substituted]
      rfl

theorem outcome_retain_ofScene (scene : UInt32) {fs : List Filter}
    (distinct : (fs.map Filter.id).Nodup) (concrete : ∀ f ∈ fs, f.kind.isComposite = false) :
    (retain scene [] (.ofScene scene) fs).outcome = (withoutRepeats fs).mapM Filter.withPorts :=
  outcome_retain (Singletons.tracks_ofScene scene) (Singletons.knows_ofScene scene)
    (List.nil_append fs).symm distinct fun f listed => ⟨List.not_mem_nil, concrete f listed⟩

end LightShow
