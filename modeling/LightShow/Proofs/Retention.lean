import LightShow.Compile.Deployment
import LightShow.Proofs.Stage

/-!
Which of the unfolded filters of a scene are kept, and which rules the others leave behind.
-/

namespace LightShow

open Stage

def Filter.redirect (f first : Filter) (ports : Ports) : List Rule :=
  ports.outputs.keys.map fun port => ⟨f.output port, first.output port⟩

namespace Singletons

/-- The filter that `f` is to be folded into, if there is one. -/
def claimed? (s : Singletons) (f : Filter) : Option Filter :=
  if f.kind.isSingleton then s.canonical? f.kind else none

def keep (s : Singletons) (f : Filter) : Singletons :=
  if f.kind.isSingleton then { s with canonical := s.canonical.insert f.kind f } else s

/-- The canonical filters have the kinds under which they are kept, and ids already seen. -/
structure Tracks (s : Singletons) (scene : UInt32) (seen : List String) : Prop where
  scene : scene = s.scene
  kinds : ∀ k first, s.canonical? k = some first → first.kind = k
  ids : ∀ k first, s.canonical? k = some first → first.id ∈ seen

theorem tracks_ofScene (scene : UInt32) : Tracks (ofScene scene) scene [] := by
  constructor
  · rfl
  · intro k first found
    cases found
  · intro k first found
    cases found

theorem canonical?_keep (s : Singletons) (f : Filter) (k : Kind) :
    (s.keep f).canonical? k =
      if f.kind.isSingleton ∧ f.kind = k then some f else s.canonical? k := by
  by_cases single : f.kind.isSingleton
  · simp [keep, canonical?, single, OrderedMap.get?_insert]
  · simp [keep, single]

theorem Tracks.keep {s : Singletons} {scene : UInt32} {seen : List String}
    (tracks : s.Tracks scene seen) (f : Filter) : (s.keep f).Tracks scene (f.id :: seen) := by
  constructor
  · rw [tracks.scene]
    unfold Singletons.keep
    split <;> rfl
  · intro k first found
    rw [canonical?_keep] at found
    split at found
    · rename_i here
      cases found
      exact here.2
    · exact tracks.kinds k first found
  · intro k first found
    rw [canonical?_keep] at found
    split at found
    · cases found
      exact List.mem_cons_self
    · exact List.mem_cons_of_mem f.id (tracks.ids k first found)

theorem Tracks.fold {s : Singletons} {scene : UInt32} {seen : List String}
    (tracks : s.Tracks scene seen) (id : String) : s.Tracks scene (id :: seen) :=
  ⟨tracks.scene, tracks.kinds, fun k first found =>
    List.mem_cons_of_mem id (tracks.ids k first found)⟩

theorem claimed?_eq_some_iff {s : Singletons} {f first : Filter} :
    s.claimed? f = some first ↔
      f.kind.isSingleton = true ∧ s.canonical? f.kind = some first := by
  by_cases single : f.kind.isSingleton <;> simp [claimed?, single]

theorem offer_unclaimed {s : Singletons} {scene : UInt32} {seen : List String} {f : Filter}
    (tracks : s.Tracks scene seen) (plain : f.kind.isComposite = false)
    (unclaimed : s.claimed? f = none) :
    s.offer scene (.concrete f) = .answer (false, s.keep f) := by
  have scene := tracks.scene
  by_cases single : f.kind.isSingleton
  · have absent : s.canonical? f.kind = none := by simpa [claimed?, single] using unclaimed
    simp [offer, Node.isComposite, Node.filter, plain, scene, single, absent, Singletons.keep]
  · simp [offer, Node.isComposite, Node.filter, plain, scene, single, Singletons.keep]

theorem offer_claimed {s : Singletons} {scene : UInt32} {seen : List String} {f first : Filter}
    (tracks : s.Tracks scene seen) (plain : f.kind.isComposite = false)
    (fresh : f.id ∉ seen) (claimed : s.claimed? f = some first) :
    s.offer scene (.concrete f) = (substitute first f).bind fun _ =>
      (tell (.folded scene f.kind f.id first.id)).bind fun _ => .answer (true, s) := by
  obtain ⟨single, canonical⟩ := claimed?_eq_some_iff.mp claimed
  have different : first.id ≠ f.id := by
    intro same
    exact fresh (same ▸ tracks.ids f.kind first canonical)
  have scene := tracks.scene
  simp [offer, Node.isComposite, Node.filter, plain, scene, single, canonical, different]

theorem offer_composite {s : Singletons} {scene : UInt32} {f : Filter}
    (composite : f.kind.isComposite = true) :
    s.offer scene (.concrete f) = .fail (.unexpanded f) := by
  simp [offer, Node.filter, composite]

end Singletons

theorem answers_substitute {first f : Filter} {a : Unit} {recorded : List Rule}
    (same : first.kind = f.kind) :
    Answers (substitute first f) a recorded ↔
      ∃ ports, f.declaredPorts = .ok ports ∧ recorded = f.redirect first ports := by
  have rules : ∀ ports : Ports, (ports.outputs.keys.map fun port =>
      Entry.rule ⟨f.output port, first.output port⟩).filterMap Entry.rule? =
        f.redirect first ports := by
    intro ports
    rw [List.filterMap_map]
    exact congrFun List.filterMap_eq_map _
  simp only [substitute, same, ne_eq, not_true_eq_false, if_false, Run.bind_eq,
    answers_ofExcept_bind]
  constructor
  · rintro ⟨ports, declares, -, rfl⟩
    exact ⟨ports, declares, rules ports⟩
  · rintro ⟨ports, declares, rfl⟩
    exact ⟨ports, declares, rfl, rules ports⟩

theorem eq_of_countP_kind_le {fs : List Filter} {k : Kind}
    (few : fs.countP (fun f => f.kind = k) ≤ 1) {f g : Filter} (member : f ∈ fs)
    (kind : f.kind = k) (member' : g ∈ fs) (kind' : g.kind = k) : f = g := by
  have among : f ∈ fs.filter fun h => h.kind = k :=
    List.mem_filter.mpr ⟨member, decide_eq_true kind⟩
  have among' : g ∈ fs.filter fun h => h.kind = k :=
    List.mem_filter.mpr ⟨member', decide_eq_true kind'⟩
  rw [List.countP_eq_length_filter] at few
  obtain ⟨h, only⟩ :=
    List.length_eq_one_iff.mp (Nat.le_antisymm few (List.length_pos_of_mem among))
  rw [only] at among among'
  exact (List.mem_singleton.mp among).trans (List.mem_singleton.mp among').symm

/-- The filters that are kept, with their ports, and the rules that the others leave. -/
inductive Retains :
    Singletons → List Filter → List (Filter × Ports) → List Rule → Prop where
  | done (s : Singletons) : Retains s [] [] []
  | keep {s : Singletons} {f : Filter} {rest : List Filter} {ports : Ports}
      {kept : List (Filter × Ports)} {recorded : List Rule}
      (unclaimed : s.claimed? f = none) (declares : f.declaredPorts = .ok ports)
      (later : Retains (s.keep f) rest kept recorded) :
      Retains s (f :: rest) ((f, ports) :: kept) recorded
  | fold {s : Singletons} {f first : Filter} {rest : List Filter} {ports : Ports}
      {kept : List (Filter × Ports)} {recorded : List Rule}
      (claimed : s.claimed? f = some first) (declares : f.declaredPorts = .ok ports)
      (later : Retains s rest kept recorded) :
      Retains s (f :: rest) kept (f.redirect first ports ++ recorded)

section

variable {scene : UInt32} {kept : List (Filter × Ports)} {recorded : List Rule}

theorem retain_unclaimed {f : Filter} {rest : List Filter} {seen : List String}
    {s : Singletons} (tracks : s.Tracks scene seen) (fresh : f.id ∉ seen)
    (plain : f.kind.isComposite = false) (unclaimed : s.claimed? f = none) :
    retain scene seen s (f :: rest) =
      (Run.ofExcept f.declaredPorts).bind fun ports =>
        (retain scene (f.id :: seen) (s.keep f) rest).bind fun kept =>
          .answer ((f, ports) :: kept) := by
  simp [retain, fresh, Singletons.offer_unclaimed tracks plain unclaimed]

theorem retain_claimed {f first : Filter} {rest : List Filter} {seen : List String}
    {s : Singletons} (tracks : s.Tracks scene seen) (fresh : f.id ∉ seen)
    (plain : f.kind.isComposite = false) (claimed : s.claimed? f = some first) :
    retain scene seen s (f :: rest) =
      (substitute first f).bind fun _ =>
        (tell (.folded scene f.kind f.id first.id)).bind fun _ =>
          retain scene (f.id :: seen) s rest := by
  simp [retain, fresh, Singletons.offer_claimed tracks plain fresh claimed, Run.bind_assoc]

theorem answers_retain {fs : List Filter} {seen : List String} {s : Singletons}
    (tracks : s.Tracks scene seen) :
    Answers (retain scene seen s fs) kept recorded ↔
      (fs.map Filter.id).Nodup ∧ (∀ f ∈ fs, f.id ∉ seen ∧ f.kind.isComposite = false) ∧
        Retains s fs kept recorded := by
  induction fs generalizing seen s kept recorded with
  | nil =>
    simp only [retain, answers_answer]
    constructor
    · rintro ⟨rfl, rfl⟩
      exact ⟨List.nodup_nil, by simp, .done s⟩
    · rintro ⟨-, -, retains⟩
      cases retains
      exact ⟨rfl, rfl⟩
  | cons f rest ih =>
    by_cases known : f.id ∈ seen
    · simp [retain, known]
    by_cases composite : f.kind.isComposite = true
    · simp [retain, known, composite, Singletons.offer_composite composite, Run.bind, Run.fail,
        Answers]
    have plain : f.kind.isComposite = false := by simpa using composite
    have distinct : ((f :: rest).map Filter.id).Nodup ↔
        (rest.map Filter.id).Nodup ∧ ∀ g ∈ rest, g.id ≠ f.id := by
      simp only [List.map_cons, List.nodup_cons, List.mem_map, not_exists, not_and]
      exact and_comm
    have fresh : (∀ g ∈ f :: rest, g.id ∉ seen ∧ g.kind.isComposite = false) ↔
        ∀ g ∈ rest, g.id ∉ seen ∧ g.kind.isComposite = false := by
      simp [known, plain]
    have later : (∀ g ∈ rest, g.id ∉ f.id :: seen ∧ g.kind.isComposite = false) ↔
        (∀ g ∈ rest, g.id ≠ f.id) ∧
          ∀ g ∈ rest, g.id ∉ seen ∧ g.kind.isComposite = false := by
      simp only [List.mem_cons, not_or]
      grind
    rw [distinct, fresh]
    cases claim : s.claimed? f with
    | none =>
      rw [retain_unclaimed tracks known plain claim, answers_ofExcept_bind]
      simp only [answers_bind_answer, ih (tracks.keep f), later]
      constructor
      · rintro ⟨ports, declares, others, ⟨ids, ⟨away, good⟩, retains⟩, rfl⟩
        exact ⟨⟨ids, away⟩, good, .keep claim declares retains⟩
      · rintro ⟨⟨ids, away⟩, good, retains⟩
        cases retains with
        | keep _ declares retains =>
          exact ⟨_, declares, _, ⟨ids, ⟨away, good⟩, retains⟩, rfl⟩
        | fold claimed _ _ => simp [claim] at claimed
    | some first =>
      have same : first.kind = f.kind := by
        obtain ⟨-, canonical⟩ := Singletons.claimed?_eq_some_iff.mp claim
        exact tracks.kinds f.kind first canonical
      rw [retain_claimed tracks known plain claim, answers_bind]
      simp only [answers_tell_bind, answers_substitute same, ih (tracks.fold f.id), later]
      constructor
      · rintro ⟨-, _, _, ⟨ports, declares, rfl⟩, ⟨ids, ⟨away, good⟩, retains⟩, rfl⟩
        exact ⟨⟨ids, away⟩, good, .fold claim declares retains⟩
      · rintro ⟨⟨ids, away⟩, good, retains⟩
        cases retains with
        | keep unclaimed _ _ => simp [claim] at unclaimed
        | fold claimed declares retains =>
          cases claim.symm.trans claimed
          exact ⟨(), _, _, ⟨_, declares, rfl⟩, ⟨ids, ⟨away, good⟩, retains⟩, rfl⟩

variable {s : Singletons} {fs : List Filter}

namespace Retains

theorem sublist (retains : Retains s fs kept recorded) :
    (kept.map Prod.fst).Sublist fs := by
  induction retains with
  | done => exact .slnil
  | keep _ _ _ ih => exact ih.cons_cons _
  | fold _ _ _ ih => exact ih.cons _

theorem declares (retains : Retains s fs kept recorded) {f : Filter} {ports : Ports}
    (member : (f, ports) ∈ kept) : f.declaredPorts = .ok ports := by
  induction retains with
  | done => cases member
  | keep _ declares _ ih =>
    rcases List.mem_cons.mp member with here | later
    · cases here
      exact declares
    · exact ih later
  | fold _ _ _ ih => exact ih member

theorem kept_or_folded (retains : Retains s fs kept recorded) {f : Filter} (member : f ∈ fs) :
    (∃ ports, (f, ports) ∈ kept) ∨
      f.kind.isSingleton = true ∧ ∃ first ports, f.declaredPorts = .ok ports ∧
        f.redirect first ports ⊆ recorded := by
  induction retains with
  | done => cases member
  | keep _ _ _ ih =>
    rcases List.mem_cons.mp member with rfl | later
    · exact Or.inl ⟨_, List.mem_cons_self⟩
    · rcases ih later with ⟨ports, found⟩ | folded
      · exact Or.inl ⟨ports, List.mem_cons_of_mem _ found⟩
      · exact Or.inr folded
  | fold claimed declares _ ih =>
    rcases List.mem_cons.mp member with rfl | later
    · have single := (Singletons.claimed?_eq_some_iff.mp claimed).1
      exact Or.inr ⟨single, _, _, declares, List.subset_append_left ..⟩
    · rcases ih later with found | ⟨single, first, ports, declares, led⟩
      · exact Or.inl found
      · exact Or.inr ⟨single, first, ports, declares,
          List.Subset.trans led (List.subset_append_right ..)⟩

theorem exists_kept (retains : Retains s fs kept recorded) {f : Filter} (member : f ∈ fs)
    (many : f.kind.isSingleton = false) : ∃ ports, (f, ports) ∈ kept := by
  rcases retains.kept_or_folded member with found | ⟨single, -⟩
  · exact found
  · rw [many] at single
    cases single

theorem countP_kind_le (retains : Retains s fs kept recorded) {k : Kind}
    (single : k.isSingleton = true) :
    kept.countP (fun p => p.1.kind = k) ≤ if (s.canonical? k).isSome then 0 else 1 := by
  induction retains with
  | done => simp
  | @keep s f rest ports kept recorded unclaimed declares later ih =>
    by_cases same : f.kind = k
    · have absent : s.canonical? k = none := by
        simpa [Singletons.claimed?, same, single] using unclaimed
      have held : (s.keep f).canonical? k = some f := by
        rw [Singletons.canonical?_keep, if_pos ⟨same ▸ single, same⟩]
      rw [held] at ih
      simp only [Option.isSome_some, if_true, Nat.le_zero_eq] at ih
      simp [same, absent, ih]
    · have kept : (s.keep f).canonical? k = s.canonical? k := by
        simp [Singletons.canonical?_keep, same]
      rw [kept] at ih
      simpa [same] using ih
  | fold _ _ _ ih => exact ih

end Retains

end

end LightShow
