import LightShow.Proofs.Deduplication
import LightShow.Proofs.Folding
import LightShow.Proofs.Rules

/-!
Nodes offered one after another to the singletons of a scene, with a table that begins empty.
Offers that are refused may stand between the others and leave no trace. After any offers the
table leads the outputs of the filters that were folded to those of the first ones of their
kinds, in one step, and holds nothing else.
-/

namespace LightShow

open Stage OrderedMap

section

variable {fs gs : List Filter} {f g : Filter}

theorem leader?_append_of_mem (member : g ∈ fs) :
    leader? (fs ++ gs) g.kind = leader? fs g.kind := by
  obtain ⟨first, found⟩ := exists_leader?_of_mem member
  rw [leader?_append, found]
  rfl

theorem Filter.repeats_append_iff (member : g ∈ fs) : g.Repeats (fs ++ gs) ↔ g.Repeats fs := by
  rw [Filter.Repeats, Filter.Repeats, leader?_append_of_mem member]

theorem Filter.repeats_concat_iff (fresh : f ∉ fs) :
    f.Repeats (fs ++ [f]) ↔ f.kind.isSingleton = true ∧ ∃ g ∈ fs, g.kind = f.kind := by
  rw [Filter.Repeats, leader?_append, leader?_cons, if_pos rfl]
  apply and_congr_right
  intro single
  cases found : leader? fs f.kind with
  | none =>
    have absent : ∀ g ∈ fs, ¬ g.kind = f.kind := by
      intro g member
      simpa using List.find?_eq_none.mp found g member
    simpa using absent
  | some first =>
    have listed := mem_of_leader? found
    have different : first ≠ f := by
      rintro rfl
      exact fresh listed
    simpa [different] using ⟨first, listed, kind_of_leader? found⟩

theorem filter_repeats_concat (fs : List Filter) (f : Filter) (folded : Bool) :
    (fs ++ [f]).filter (fun g => decide (g.Repeats (fs ++ [f])) = folded) =
      fs.filter (fun g => decide (g.Repeats fs) = folded) ++
        if decide (f.Repeats (fs ++ [f])) = folded then [f] else [] := by
  rw [List.filter_append, List.filter_singleton]
  congr 1
  · apply List.filter_congr
    intro g member
    simp only [Filter.repeats_append_iff member]
  · simp

theorem repeatRules_concat (fs : List Filter) (f : Filter) :
    repeatRules (fs ++ [f]) =
      repeatRules fs ++ if f.Repeats (fs ++ [f]) then f.foldingRules (fs ++ [f]) else [] := by
  have earlier : ∀ g ∈ fs.filter (fun g => g.Repeats fs),
      g.foldingRules (fs ++ [f]) = g.foldingRules fs := by
    intro g member
    rw [Filter.foldingRules, Filter.foldingRules,
      leader?_append_of_mem (List.mem_of_mem_filter member)]
  have split := filter_repeats_concat fs f true
  simp only [decide_eq_true_eq] at split
  rw [repeatRules, split, List.flatMap_append, List.flatMap_congr earlier]
  congr 1
  by_cases repeats : f.Repeats (fs ++ [f]) <;> simp [repeats]

end

namespace Offer

/-- The node has to be unfolded first, or belongs to another scene. -/
def Refused (o : Offer) (scene : UInt32) : Prop :=
  o.node.isComposite = true ∨ o.node.kind.isComposite = true ∨ o.scene ≠ scene

instance (o : Offer) (scene : UInt32) : Decidable (o.Refused scene) := by
  unfold Refused
  infer_instance

/-- The filters of the offers that are not refused. -/
def accepted (scene : UInt32) (offers : List Offer) : List Filter :=
  (offers.filter fun o => ¬ o.Refused scene).map fun o => o.node.filter

end Offer

namespace Folding

/-- The filters of the offers that get the given answer. -/
def answered (folded : Bool) : Folding → List Offer → List Filter
  | _, [] => []
  | st, o :: rest =>
    if st.answer o = .ok folded then o.node.filter :: answered folded (st.take o) rest
    else answered folded (st.take o) rest

variable {st : Folding} {scene : UInt32} {fs : List Filter} {f : Filter}

/-- The canonical filters are the first ones of their kinds, and the table holds what the
    filters that repeat a kind leave behind. -/
structure Reflects (st : Folding) (scene : UInt32) (fs : List Filter) : Prop where
  scene : scene = st.singletons.scene
  knows : st.singletons.Knows fs
  others : ∀ k : Kind, k.isSingleton = false → st.singletons.canonical? k = none
  table : st.table = .extend ∅ (repeatRules fs)

theorem reflects_ofScene (scene : UInt32) : (ofScene scene).Reflects scene [] :=
  ⟨rfl, Singletons.knows_ofScene scene, fun _ _ => rfl, rfl⟩

theorem Reflects.canonical?_eq (reflects : st.Reflects scene fs) (k : Kind) :
    st.singletons.canonical? k = if k.isSingleton then leader? fs k else none := by
  cases single : k.isSingleton with
  | true => rw [reflects.knows k single, if_pos rfl]
  | false => rw [reflects.others k single, if_neg Bool.false_ne_true]

theorem Reflects.tracks (reflects : st.Reflects scene fs) :
    st.singletons.Tracks scene (fs.map Filter.id) := by
  have leads : ∀ k first, st.singletons.canonical? k = some first →
      leader? fs k = some first := by
    intro k first found
    rw [reflects.canonical?_eq] at found
    split at found
    · exact found
    · cases found
  constructor
  · exact reflects.scene
  · intro k first found
    exact kind_of_leader? (leads k first found)
  · intro k first found
    exact List.mem_map_of_mem (mem_of_leader? (leads k first found))

theorem of_refused {o : Offer} (refused : o.Refused st.singletons.scene) :
    (∃ e, st.answer o = .error e) ∧ st.take o = st := by
  have fails : ∃ e, st.singletons.offer o.scene o.node = .fail e := by
    unfold Singletons.offer
    by_cases composite : o.node.isComposite = true ∨ o.node.kind.isComposite = true
    · exact ⟨_, if_pos composite⟩
    · have foreign : o.scene ≠ st.singletons.scene := by
        rcases refused with variant | kind | foreign
        · exact absurd (Or.inl variant) composite
        · exact absurd (Or.inr kind) composite
        · exact foreign
      exact ⟨_, (if_neg composite).trans (if_pos foreign)⟩
  obtain ⟨e, fails⟩ := fails
  have answered : st.answer o = .error e := (of_failed (by rw [fails]; rfl)).1
  exact ⟨⟨e, answered⟩, take_of_error answered⟩

theorem Reflects.keep (reflects : st.Reflects scene fs) (distinct : (fs ++ [f]).Nodup)
    (plain : f.kind.isComposite = false) (claimed : st.singletons.claimed? f = none) :
    st.answer ⟨scene, .concrete f⟩ = .ok (decide (f.Repeats (fs ++ [f]))) ∧
      (st.take ⟨scene, .concrete f⟩).Reflects scene (fs ++ [f]) := by
  have tracks := reflects.tracks
  have whole : fs ++ [f] = fs ++ f :: [] := rfl
  have first := (reflects.knows.claimed?_eq_none_iff whole distinct).mp claimed
  have kept : Answers (st.singletons.offer scene (.concrete f))
      (false, st.singletons.keep f) [] := by
    rw [Singletons.offer_unclaimed tracks plain claimed]
    exact answers_answer.mpr ⟨rfl, rfl⟩
  obtain ⟨answers, left⟩ := of_answers (o := ⟨scene, .concrete f⟩) kept
  rw [decide_eq_false first, left]
  refine ⟨answers, (tracks.keep f).scene, reflects.knows.keep claimed, ?_, ?_⟩
  · intro k many
    rw [Singletons.canonical?_keep, if_neg, reflects.others k many]
    rintro ⟨single, rfl⟩
    rw [many] at single
    cases single
  · rw [repeatRules_concat, if_neg first, List.append_nil, ← reflects.table]
    rfl

theorem Reflects.fold (reflects : st.Reflects scene fs) (distinct : (fs ++ [f]).Nodup)
    (fresh : f.id ∉ fs.map Filter.id) (plain : f.kind.isComposite = false) {first : Filter}
    (claimed : st.singletons.claimed? f = some first) :
    st.answer ⟨scene, .concrete f⟩ = .ok (decide (f.Repeats (fs ++ [f]))) ∧
      (st.take ⟨scene, .concrete f⟩).Reflects scene (fs ++ [f]) := by
  have tracks := reflects.tracks
  have whole : fs ++ [f] = fs ++ f :: [] := rfl
  have claim := reflects.knows.claimed?_eq whole distinct
  rw [claimed] at claim
  split at claim
  · rename_i repeats
    obtain ⟨ports, declares⟩ := Filter.exists_declaredPorts_of_singleton repeats.1
    have canonical := (Singletons.claimed?_eq_some_iff.mp claimed).2
    have folds : Answers (substitute first f) () (f.redirect first ports) :=
      (answers_substitute (tracks.kinds f.kind first canonical)).mpr ⟨ports, declares, rfl⟩
    have folded : Answers (st.singletons.offer scene (.concrete f)) (true, st.singletons)
        (f.redirect first ports) := by
      rw [Singletons.offer_claimed tracks plain fresh claimed, answers_bind]
      exact ⟨(), _, [], folds,
        answers_tell_bind.mpr (answers_answer.mpr ⟨rfl, rfl⟩), (List.append_nil _).symm⟩
    obtain ⟨answers, left⟩ := of_answers (o := ⟨scene, .concrete f⟩) folded
    rw [decide_eq_true repeats, left]
    refine ⟨answers, reflects.scene, reflects.knows.fold claimed, reflects.others, ?_⟩
    rw [repeatRules_concat, if_pos repeats, Substitution.extend_append, ← reflects.table,
      Filter.foldingRules_eq claim.symm declares]
  · cases claim

theorem Reflects.step (reflects : st.Reflects scene fs)
    (distinct : ((fs ++ [f]).map Filter.id).Nodup) (plain : f.kind.isComposite = false) :
    st.answer ⟨scene, .concrete f⟩ = .ok (decide (f.Repeats (fs ++ [f]))) ∧
      (st.take ⟨scene, .concrete f⟩).Reflects scene (fs ++ [f]) := by
  have fresh : f.id ∉ fs.map Filter.id := by
    rw [List.map_append, List.map_singleton, List.nodup_append] at distinct
    intro known
    exact distinct.2.2 f.id known f.id List.mem_cons_self rfl
  cases claimed : st.singletons.claimed? f with
  | none => exact reflects.keep distinct.of_map plain claimed
  | some first => exact reflects.fold distinct.of_map fresh plain claimed

theorem after_concat (st : Folding) (offers : List Offer) (o : Offer) :
    st.after (offers ++ [o]) = (st.after offers).take o := by
  rw [after, List.foldl_append]
  rfl

theorem answered_concat (folded : Bool) (st : Folding) (offers : List Offer) (o : Offer) :
    answered folded st (offers ++ [o]) = answered folded st offers ++
      if (st.after offers).answer o = .ok folded then [o.node.filter] else [] := by
  induction offers generalizing st with
  | nil => rfl
  | cons first rest ih =>
    have later : st.after (first :: rest) = (st.take first).after rest := rfl
    rw [List.cons_append, answered, answered, ih, later]
    split <;> rfl

end Folding

namespace Offer

theorem accepted_concat (scene : UInt32) (offers : List Offer) (o : Offer) :
    accepted scene (offers ++ [o]) =
      accepted scene offers ++ if o.Refused scene then [] else [o.node.filter] := by
  by_cases refused : o.Refused scene <;> simp [accepted, refused]

theorem accepted_distinct (scene : UInt32) {offers : List Offer}
    (distinct : (offers.map fun o => o.node.id).Nodup) :
    ((accepted scene offers).map Filter.id).Nodup := by
  rw [accepted, List.map_map]
  exact distinct.sublist (List.filter_sublist.map _)

theorem exists_accepted_kind_iff {scene : UInt32} {offers : List Offer} (k : Kind) :
    (∃ g ∈ accepted scene offers, g.kind = k) ↔
      ∃ o ∈ offers, ¬ o.Refused scene ∧ o.node.kind = k := by
  constructor
  · rintro ⟨g, member, same⟩
    obtain ⟨o, taken, rfl⟩ := List.mem_map.mp member
    obtain ⟨listed, taken⟩ := List.mem_filter.mp taken
    exact ⟨o, listed, of_decide_eq_true taken, same⟩
  · rintro ⟨o, listed, taken, same⟩
    refine ⟨o.node.filter, List.mem_map_of_mem ?_, same⟩
    exact List.mem_filter.mpr ⟨listed, decide_eq_true taken⟩

theorem exists_of_not_refused {scene : UInt32} {o : Offer} (taken : ¬ o.Refused scene) :
    ∃ f : Filter, o = ⟨scene, .concrete f⟩ ∧ f.kind.isComposite = false := by
  obtain ⟨belongs, n⟩ := o
  simp only [Refused, not_or, not_not, Bool.not_eq_true] at taken
  obtain ⟨variant, plain, rfl⟩ := taken
  cases n with
  | concrete f => exact ⟨f, rfl, plain⟩
  | composite f => cases variant

end Offer

theorem reflects_after (scene : UInt32) {offers : List Offer}
    (distinct : (offers.map fun o => o.node.id).Nodup) :
    let fs := Offer.accepted scene offers
    ((Folding.ofScene scene).after offers).Reflects scene fs ∧
      ∀ folded, Folding.answered folded (.ofScene scene) offers =
        fs.filter fun g => decide (g.Repeats fs) = folded := by
  induction offers using List.reverseRecOn with
  | nil => exact ⟨Folding.reflects_ofScene scene, fun _ => rfl⟩
  | append_singleton offers o ih =>
    have ids := distinct
    rw [List.map_append, List.nodup_append] at ids
    obtain ⟨reflects, answers⟩ := ih ids.1
    simp only [Folding.after_concat, Folding.answered_concat, Offer.accepted_concat]
    by_cases refused : o.Refused scene
    · have foreign := refused
      rw [reflects.scene] at foreign
      obtain ⟨⟨e, fails⟩, same⟩ := Folding.of_refused foreign
      rw [if_pos refused, List.append_nil, same]
      refine ⟨reflects, fun folded => ?_⟩
      rw [fails, if_neg (by simp), List.append_nil]
      exact answers folded
    · have apart := Offer.accepted_distinct scene distinct
      rw [Offer.accepted_concat, if_neg refused] at apart
      obtain ⟨f, rfl, plain⟩ := Offer.exists_of_not_refused refused
      obtain ⟨answer, next⟩ := reflects.step (f := f) apart plain
      rw [if_neg refused]
      refine ⟨next, fun folded => ?_⟩
      rw [answer, answers folded]
      simp only [Except.ok.injEq]
      exact (filter_repeats_concat _ f folded).symm

section

variable {fs : List Filter}

theorem sources_repeatRules (fs : List Filter) :
    (repeatRules fs).map Rule.source =
      (fs.filter fun g => g.Repeats fs).flatMap fun g => g.outputNames.map g.output := by
  rw [repeatRules, List.map_flatMap]
  apply List.flatMap_congr
  intro g member
  obtain ⟨first, leads⟩ := exists_leader?_of_mem (List.mem_of_mem_filter member)
  simp [Filter.foldingRules, leads]

theorem outputs_nodup (distinct : (fs.map Filter.id).Nodup) :
    (fs.flatMap fun f => f.outputNames.map f.output).Nodup := by
  rw [List.nodup_flatMap]
  constructor
  · intro f member
    apply List.Nodup.map f.output_injective
    unfold Filter.outputNames
    split
    · rename_i ports _
      exact ports.outputs.distinct
    · exact List.nodup_nil
  · refine (List.pairwise_map.mp distinct).imp ?_
    intro f g different r here there
    obtain ⟨_, -, rfl⟩ := List.mem_map.mp here
    obtain ⟨_, -, same⟩ := List.mem_map.mp there
    exact different (OutputRef.mk.inj same).1.symm

theorem keys_repeatRules (distinct : (fs.map Filter.id).Nodup) :
    OrderedMap.keys (Substitution.extend ∅ (repeatRules fs)) =
      (fs.filter fun g => g.Repeats fs).flatMap fun g => g.outputNames.map g.output := by
  have apart : ((repeatRules fs).map Rule.source).Nodup := by
    rw [sources_repeatRules]
    exact outputs_nodup (distinct.sublist (List.filter_sublist.map _))
  rw [Substitution.keys_extend_empty apart, sources_repeatRules]

end

/-- What an offer comes to after others. -/
structure Offer.Settled (o : Offer) (scene : UInt32) (before : List Offer) (st : Folding) :
    Prop where
  refused : (∃ e, st.answer o = .error e) ↔ o.Refused scene
  unchanged : o.Refused scene → st.take o = st
  folded : ¬ o.Refused scene → ∃ folded, st.answer o = .ok folded ∧
    (folded = true ↔ o.node.kind.isSingleton = true ∧
      ∃ p ∈ before, ¬ p.Refused scene ∧ p.node.kind = o.node.kind)
  lasting : ∀ k first, st.singletons.canonical? k = some first →
    (st.take o).singletons.canonical? k = some first

/-- What the table and the canonical filters are after some offers, of which some filters were
    kept and others folded. -/
structure Folding.Flat (st : Folding) (accepted kept folded : List Filter) : Prop where
  canonical : ∀ k, st.singletons.canonical? k = if k.isSingleton then leader? accepted k else none
  keys : st.table.keys = folded.flatMap fun f => f.outputNames.map f.output
  leads : ∀ f ∈ folded, ∃ first ∈ kept, st.singletons.canonical? f.kind = some first ∧
    ∀ port ∈ f.outputNames, st.table.get? (f.output port) = some (first.output port)
  apart : ∀ f ∈ kept, ∀ r ∈ st.table.keys, r.filter ≠ f.id
  ended : ∀ r target, st.table.get? r = some target → st.table.get? target = none

section

variable {st : Folding} {scene : UInt32} {fs : List Filter}

theorem Folding.Reflects.exists_source (reflects : st.Reflects scene fs)
    (distinct : (fs.map Filter.id).Nodup) {r : OutputRef} (listed : r ∈ st.table.keys) :
    ∃ g ∈ fs, g.Repeats fs ∧ ∃ port ∈ g.outputNames, r = g.output port := by
  rw [reflects.table, keys_repeatRules distinct] at listed
  obtain ⟨g, member, among⟩ := List.mem_flatMap.mp listed
  obtain ⟨port, offered, rfl⟩ := List.mem_map.mp among
  obtain ⟨member, repeats⟩ := List.mem_filter.mp member
  exact ⟨g, member, of_decide_eq_true repeats, port, offered, rfl⟩

theorem Folding.Reflects.flat (reflects : st.Reflects scene fs)
    (distinct : (fs.map Filter.id).Nodup) :
    st.Flat fs (fs.filter fun g => decide (g.Repeats fs) = false)
      (fs.filter fun g => decide (g.Repeats fs) = true) := by
  have leads : ∀ g ∈ fs, g.Repeats fs → ∃ first, leader? fs g.kind = some first ∧
      ∀ port ∈ g.outputNames, st.table.get? (g.output port) = some (first.output port) := by
    intro g member repeats
    obtain ⟨first, found⟩ := exists_leader?_of_mem member
    refine ⟨first, found, ?_⟩
    intro port offered
    rw [reflects.table]
    exact get?_repeatRules distinct member repeats found offered
  constructor
  · exact reflects.canonical?_eq
  · rw [reflects.table, keys_repeatRules distinct]
    simp
  · intro f member
    obtain ⟨listed, repeats⟩ := List.mem_filter.mp member
    have repeats : f.Repeats fs := by simpa using repeats
    obtain ⟨first, found, ruled⟩ := leads f listed repeats
    refine ⟨first, List.mem_filter.mpr ⟨mem_of_leader? found, ?_⟩, ?_, ruled⟩
    · rw [← kind_of_leader? found] at found
      simp [Filter.Repeats, found]
    · rw [reflects.canonical?_eq, if_pos repeats.1, found]
  · intro f member r ruled same
    obtain ⟨listed, single⟩ := List.mem_filter.mp member
    obtain ⟨g, other, repeats, port, -, rfl⟩ := reflects.exists_source distinct ruled
    obtain rfl := List.inj_on_of_nodup_map distinct other listed same
    simp [repeats] at single
  · intro r target ruled
    obtain ⟨g, member, repeats, port, offered, rfl⟩ :=
      reflects.exists_source distinct (mem_keys_of_get? ruled)
    obtain ⟨first, found, leads⟩ := leads g member repeats
    rw [leads port offered] at ruled
    cases ruled
    rw [reflects.table]
    exact get?_repeatRules_leader distinct found port

variable {before : List Offer} {o : Offer}

theorem settled_of_refused (refused : o.Refused st.singletons.scene) :
    o.Settled st.singletons.scene before st := by
  obtain ⟨fails, same⟩ := Folding.of_refused refused
  constructor
  · exact iff_of_true fails refused
  · exact fun _ => same
  · exact fun taken => absurd refused taken
  · intro k first canonical
    rw [same]
    exact canonical

theorem settled_of_reflects (reflects : st.Reflects scene (Offer.accepted scene before))
    (distinct : ((before ++ [o]).map fun o => o.node.id).Nodup) :
    o.Settled scene before st := by
  by_cases refused : o.Refused scene
  · have same := reflects.scene
    subst same
    exact settled_of_refused refused
  · have apart := Offer.accepted_distinct scene distinct
    rw [Offer.accepted_concat, if_neg refused] at apart
    obtain ⟨f, rfl, plain⟩ := Offer.exists_of_not_refused refused
    obtain ⟨answer, next⟩ := reflects.step (f := f) apart plain
    have fresh : f ∉ Offer.accepted scene before := by
      intro member
      rw [List.map_append, List.nodup_append] at apart
      exact apart.2.2 f.id (List.mem_map_of_mem member) f.id List.mem_cons_self rfl
    constructor
    · refine iff_of_false ?_ refused
      rintro ⟨e, fails⟩
      rw [answer] at fails
      cases fails
    · exact fun taken => absurd taken refused
    · intro _
      refine ⟨_, answer, ?_⟩
      rw [decide_eq_true_eq, Filter.repeats_concat_iff fresh]
      exact and_congr_right fun _ => Offer.exists_accepted_kind_iff f.kind
    · intro k first canonical
      rw [reflects.canonical?_eq] at canonical
      rw [next.canonical?_eq, leader?_append]
      split at canonical
      · rename_i single
        rw [if_pos single, canonical]
        rfl
      · cases canonical

end

/-- Of the nodes offered to the singletons of a scene the composite ones and those for another
    scene are refused, without a trace. Of the others a node is folded exactly if it is of a
    singleton kind of which one was taken before. The first one stays canonical, and the table
    holds one rule for each output of a folded node, straight to the same output of the
    canonical node of its kind. -/
theorem offers_fold_onto_first (scene : UInt32) (offers : List Offer)
    (distinct : (offers.map fun o => o.node.id).Nodup) :
    (∀ before o behind, offers = before ++ o :: behind →
      o.Settled scene before ((Folding.ofScene scene).after before)) ∧
    ∀ before, before <+: offers →
      ((Folding.ofScene scene).after before).Flat (Offer.accepted scene before)
        (Folding.answered false (.ofScene scene) before)
        (Folding.answered true (.ofScene scene) before) := by
  have earlier : ∀ before, before <+: offers → (before.map fun o => o.node.id).Nodup := by
    intro before first
    exact distinct.sublist (first.sublist.map _)
  constructor
  · intro before o behind whole
    have upTo : before ++ [o] <+: offers := ⟨behind, by simp [whole]⟩
    have first : before <+: offers := (List.prefix_append before [o]).trans upTo
    exact settled_of_reflects (reflects_after scene (earlier before first)).1 (earlier _ upTo)
  · intro before first
    obtain ⟨reflects, answers⟩ := reflects_after scene (earlier before first)
    rw [answers false, answers true]
    exact reflects.flat (Offer.accepted_distinct scene (earlier before first))

def offersInTurns : List Offer := [
  ⟨1, .composite { id := "c", kind := .time }⟩,
  ⟨1, .concrete { id := "t1", kind := .time }⟩,
  ⟨1, .concrete { id := "m1", kind := .mainBrightness }⟩,
  ⟨2, .concrete { id := "t2", kind := .time }⟩,
  ⟨1, .concrete { id := "d", kind := .debug .byte }⟩,
  ⟨1, .concrete { id := "t3", kind := .time }⟩,
  ⟨1, .concrete { id := "m2", kind := .mainBrightness }⟩]

theorem offers_fold_onto_first_in_turns :
    (offersInTurns.map fun o => o.node.id).Nodup ∧
      (Folding.answered true (.ofScene 1) offersInTurns).map Filter.id = ["t3", "m2"] ∧
      (Folding.answered false (.ofScene 1) offersInTurns).map Filter.id = ["t1", "m1", "d"] ∧
      ((Folding.ofScene 1).after offersInTurns).Flat (Offer.accepted 1 offersInTurns)
        (Folding.answered false (.ofScene 1) offersInTurns)
        (Folding.answered true (.ofScene 1) offersInTurns) := by
  have distinct : (offersInTurns.map fun o => o.node.id).Nodup := by decide
  have folded : (Folding.answered true (.ofScene 1) offersInTurns).map Filter.id =
      ["t3", "m2"] := by
    cbv
  have kept : (Folding.answered false (.ofScene 1) offersInTurns).map Filter.id =
      ["t1", "m1", "d"] := by
    cbv
  exact ⟨distinct, folded, kept,
    (offers_fold_onto_first 1 offersInTurns distinct).2 offersInTurns List.prefix_rfl⟩

end LightShow
