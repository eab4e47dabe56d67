import Mathlib.Data.List.Nodup
import LightShow.Proofs.Deployment

/-!
The rules in force when the links of a scene are bound. They start at the outputs of the
composite filters and at those of the filters that were folded away.
-/

namespace LightShow

open OrderedMap

theorem Filter.output_injective (f : Filter) : Function.Injective f.output :=
  fun _ _ same => congrArg OutputRef.port same

namespace RecipeBook

variable {book : RecipeBook} {f : Filter}

theorem mem_rules_iff {rule : Rule} :
    rule ∈ book.rules f ↔ ∃ port ∈ book.offered f, ∃ r, book.source? f port = some r ∧
      rule = ⟨f.output port, r⟩ := by
  unfold rules
  simp only [List.mem_filterMap, Option.map_eq_some_iff]
  constructor
  · rintro ⟨port, member, r, leads, rfl⟩
    exact ⟨port, member, r, leads, rfl⟩
  · rintro ⟨port, member, r, leads, rfl⟩
    exact ⟨port, member, r, leads, rfl⟩

theorem offered_nodup (book : RecipeBook) (f : Filter) : (book.offered f).Nodup := by
  unfold offered
  split
  · exact List.nodup_nil
  · rename_i recipe _
    cases recipe.outputs f with
    | error e => exact List.nodup_nil
    | ok outputs => exact outputs.distinct

theorem sources_rules_nodup (book : RecipeBook) (f : Filter) :
    ((book.rules f).map Rule.source).Nodup := by
  have starts : ((book.rules f).map Rule.source).Sublist ((book.offered f).map f.output) := by
    unfold rules
    induction book.offered f with
    | nil => exact .slnil
    | cons port rest ih =>
      cases leads : book.source? f port with
      | none => simpa [leads] using ih.cons (f.output port)
      | some r => simpa [leads] using ih.cons_cons (f.output port)
  exact ((book.offered_nodup f).map f.output_injective).sublist starts

theorem Unfolds.mem_sources_iff {recipe : Recipe} {ports : Ports}
    (unfolds : book.Unfolds f recipe ports) {r : OutputRef} :
    (∃ rule ∈ book.rules f, rule.source = r) ↔
      ∃ port ∈ book.offered f, f.output port = r := by
  constructor
  · rintro ⟨rule, member, rfl⟩
    obtain ⟨port, offered, target, -, rfl⟩ := mem_rules_iff.mp member
    exact ⟨port, offered, rfl⟩
  · rintro ⟨port, offered, rfl⟩
    obtain ⟨target, leads⟩ := Option.isSome_iff_exists.mp (unfolds.sources port offered)
    exact ⟨_, mem_rules_iff.mpr ⟨port, offered, target, leads, rfl⟩, rfl⟩

theorem exists_unfolds_of_mem_compositesIn {budget : Nat} {n : Node}
    (expandable : book.Expandable budget n) (member : f ∈ book.compositesIn budget n) :
    ∃ recipe ports, book.Unfolds f recipe ports := by
  induction budget generalizing n with
  | zero => cases n <;> cases member
  | succ budget ih =>
    cases n with
    | concrete g => cases member
    | composite g =>
      obtain ⟨unfolds, inside⟩ := expandable
      rcases List.mem_cons.mp member with rfl | further
      · exact unfolds
      · obtain ⟨m, isInner, found⟩ := List.mem_flatMap.mp further
        exact ih (inside m isInner) found

end RecipeBook

namespace Retains

variable {s : Singletons} {fs : List Filter} {kept : List (Filter × Ports)}
  {recorded : List Rule}

theorem exists_folded (retains : Retains s fs kept recorded)
    (distinct : (fs.map Filter.id).Nodup) {rule : Rule} (member : rule ∈ recorded) :
    ∃ f ∈ fs, ∃ first ports port, rule = ⟨f.output port, first.output port⟩ ∧
      f.declaredPorts = .ok ports ∧ port ∈ ports.outputs.keys ∧ f.kind.isSingleton = true ∧
      (s.canonical? f.kind = some first ∨
        first.kind = f.kind ∧ ∃ ports', (first, ports') ∈ kept) ∧
      ∀ k ∈ kept, k.1.id ≠ f.id := by
  induction retains with
  | done => cases member
  | @keep s g rest ports kept recorded unclaimed declares later ih =>
    rw [List.map_cons, List.nodup_cons] at distinct
    obtain ⟨f, listed, first, ports', port, rfl, declares', offered, single, canonical, away⟩ :=
      ih distinct.2 member
    refine ⟨f, List.mem_cons_of_mem g listed, first, ports', port, rfl, declares', offered,
      single, ?_, ?_⟩
    · rcases canonical with canonical | ⟨kind, ports, found⟩
      · rw [Singletons.canonical?_keep] at canonical
        split at canonical
        · rename_i here
          cases canonical
          exact Or.inr ⟨here.2, ports, List.mem_cons_self⟩
        · exact Or.inl canonical
      · exact Or.inr ⟨kind, ports, List.mem_cons_of_mem _ found⟩
    · intro k among
      rcases List.mem_cons.mp among with rfl | further
      · intro same
        exact distinct.1 (same ▸ List.mem_map_of_mem listed)
      · exact away k further
  | @fold s g first rest ports kept recorded claimed declares later ih =>
    rw [List.map_cons, List.nodup_cons] at distinct
    rcases List.mem_append.mp member with here | further
    · obtain ⟨port, offered, rfl⟩ := List.mem_map.mp here
      obtain ⟨single, canonical⟩ := Singletons.claimed?_eq_some_iff.mp claimed
      refine ⟨g, List.mem_cons_self, first, ports, port, rfl, declares, offered, single,
        Or.inl canonical, ?_⟩
      intro k among same
      have listed := later.sublist.subset (List.mem_map_of_mem among)
      exact distinct.1 (same ▸ List.mem_map_of_mem listed)
    · obtain ⟨f, listed, rest⟩ := ih distinct.2 further
      exact ⟨f, List.mem_cons_of_mem g listed, rest⟩

theorem source_mem (retains : Retains s fs kept recorded)
    (distinct : (fs.map Filter.id).Nodup) {rule : Rule} (member : rule ∈ recorded) :
    rule.source.filter ∈ fs.map Filter.id := by
  obtain ⟨f, listed, first, ports, port, rfl, -⟩ := retains.exists_folded distinct member
  exact List.mem_map_of_mem listed

theorem sources_nodup (retains : Retains s fs kept recorded)
    (distinct : (fs.map Filter.id).Nodup) : (recorded.map Rule.source).Nodup := by
  induction retains with
  | done => exact List.nodup_nil
  | keep _ _ _ ih =>
    rw [List.map_cons, List.nodup_cons] at distinct
    exact ih distinct.2
  | @fold s f first rest ports kept recorded _ _ later ih =>
    rw [List.map_cons, List.nodup_cons] at distinct
    have starts : (f.redirect first ports).map Rule.source = ports.outputs.keys.map f.output := by
      unfold Filter.redirect
      rw [List.map_map]
      rfl
    rw [List.map_append, List.nodup_append, starts]
    refine ⟨List.Nodup.map f.output_injective ports.outputs.distinct, ih distinct.2, ?_⟩
    intro r here r' there same
    obtain ⟨port, -, rfl⟩ := List.mem_map.mp here
    obtain ⟨rule, member, rfl⟩ := List.mem_map.mp there
    have elsewhere := later.source_mem distinct.2 member
    rw [← same] at elsewhere
    exact distinct.1 elsewhere

end Retains

section

variable {book : RecipeBook} {settings : Settings} {s : Scene}
  {kept : List (Filter × Ports)} {folding : List Rule}

theorem exists_unfolds_of_mem_compositesOf
    (expandable : ∀ n ∈ s.nodes, book.Expandable settings.maxExpansionDepth n) {v : Filter}
    (met : v ∈ compositesOf book settings s) : ∃ recipe ports, book.Unfolds v recipe ports := by
  obtain ⟨n, member, inside⟩ := List.mem_flatMap.mp met
  exact RecipeBook.exists_unfolds_of_mem_compositesIn (expandable n member) inside

namespace Gathers

theorem get?_kept_eq_none_iff (gathers : Gathers book settings s kept folding)
    {k : Filter × Ports} (member : k ∈ kept) {port : String} :
    (finalTable book settings s).get? (k.1.output port) = none ↔
      ∀ v ∈ compositesOf book settings s, v.id = k.1.id → port ∉ book.offered v := by
  rw [gathers.finalTable_eq, Substitution.get?_extend_empty_eq_none_iff]
  constructor
  · intro unruled v met same offered
    obtain ⟨recipe, ports, unfolds⟩ :=
      exists_unfolds_of_mem_compositesOf gathers.expandable met
    obtain ⟨rule, written, source⟩ := unfolds.mem_sources_iff.mpr ⟨port, offered, rfl⟩
    refine unruled rule (List.mem_append_left _ (List.mem_flatMap.mpr ⟨v, met, written⟩)) ?_
    rw [source, Filter.output, Filter.output, same]
  · intro others rule written source
    rcases List.mem_append.mp written with composite | folded
    · obtain ⟨v, met, written⟩ := List.mem_flatMap.mp composite
      obtain ⟨port', offered, target, -, rfl⟩ := RecipeBook.mem_rules_iff.mp written
      have parts := OutputRef.mk.inj source
      exact others v met parts.1 (parts.2 ▸ offered)
    · obtain ⟨f, -, first, ports, port', rfl, -, -, -, -, away⟩ :=
        gathers.retains.exists_folded gathers.distinct folded
      exact away k member (OutputRef.mk.inj source).1.symm

theorem get?_of_rule (gathers : Gathers book settings s kept folding)
    (unambiguous : Unambiguous book settings s) {rule : Rule}
    (written : rule ∈ (compositesOf book settings s).flatMap book.rules ++ folding) :
    (finalTable book settings s).get? rule.source = some rule.target := by
  have composites := unambiguous
  unfold Unambiguous at composites
  rw [List.map_append] at composites
  have composites := (List.nodup_append.mp composites).1
  have start : ∀ v : Filter, ∀ rule ∈ book.rules v, rule.source.filter = v.id := by
    intro v rule member
    obtain ⟨port, -, target, -, rfl⟩ := RecipeBook.mem_rules_iff.mp member
    rfl
  have unfolding : (((compositesOf book settings s).flatMap book.rules).map
      Rule.source).Nodup := by
    rw [List.map_flatMap, List.nodup_flatMap]
    refine ⟨fun v _ => book.sources_rules_nodup v, ?_⟩
    have different := List.pairwise_map.mp composites
    refine different.imp ?_
    intro v w ids r here there
    obtain ⟨rule, member, rfl⟩ := List.mem_map.mp here
    obtain ⟨rule', member', same⟩ := List.mem_map.mp there
    rw [← start v rule member, ← start w rule' member', same] at ids
    exact ids rfl
  rw [gathers.finalTable_eq]
  refine Substitution.get?_extend_of_mem ?_ written
  rw [List.map_append, List.nodup_append]
  refine ⟨unfolding, gathers.retains.sources_nodup gathers.distinct, ?_⟩
  intro r here r' there same
  obtain ⟨rule, member, rfl⟩ := List.mem_map.mp here
  obtain ⟨rule', member', rfl⟩ := List.mem_map.mp there
  obtain ⟨v, met, written⟩ := List.mem_flatMap.mp member
  have folded := gathers.retains.source_mem gathers.distinct member'
  obtain ⟨f, listed, id⟩ := List.mem_map.mp folded
  rw [← same, start v rule written] at id
  exact unambiguous.apart met listed id.symm

end Gathers

end

end LightShow
