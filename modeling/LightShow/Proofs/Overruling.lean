import LightShow.Proofs.Capture
import LightShow.Proofs.InnerKinds

/-!
The rule that an output of an authored composite filter ends up with. It is the filter's own
unless another filter of the same id leaves one later: a composite filter that a node further
on unfolds into, or a filter that is folded. Nothing but hygienic names keeps these ids apart.
-/

namespace LightShow

open Outcome OrderedMap InnerName

theorem Executable.eq_of_singleton {fs : List Filter} (executable : Executable fs) {k : Kind}
    (single : k.isSingleton = true) {f g : Filter} (emitted : f ∈ fs) (kind : f.kind = k)
    (emitted' : g ∈ fs) (kind' : g.kind = k) : f = g :=
  eq_of_countP_kind_le (executable.single k single) emitted kind emitted' kind'

section

variable {settings : Settings} {s : Scene}

def compositesOfNodes (settings : Settings) (nodes : List Node) : List Filter :=
  nodes.flatMap (RecipeBook.builtIn.compositesIn settings.maxExpansionDepth)

section

variable {before after : List Node} {v : Filter}
  (nodes : s.nodes = before ++ .composite v :: after) (valid : s.Valid)

include nodes valid in
theorem eq_of_authored_id {n : Node} (member : n ∈ s.nodes) (same : n.id = v.id) :
    n = .composite v := by
  have here : .composite v ∈ s.nodes := by simp [nodes]
  exact List.inj_on_of_nodup_map valid.distinct member here same

include nodes valid in
theorem id_ne_of_behind {n : Node} (member : n ∈ after) : n.id ≠ v.id := by
  have distinct := valid.distinct
  rw [Scene.ids, nodes, List.map_append, List.map_cons, List.nodup_append] at distinct
  intro same
  exact (List.nodup_cons.mp distinct.2.1).1
    (List.mem_map.mpr ⟨n, member, same⟩)

include nodes valid in
theorem concrete_id_ne {w : Filter} (met : w ∈ compositesOfNodes settings after)
    (same : w.id = v.id) {f : Filter} (listed : f ∈ concretesOf .builtIn settings s) :
    f.id ≠ v.id := by
  have faithful := RecipeBook.faithful_builtIn
  intro same'
  obtain ⟨n, member, inside⟩ := List.mem_flatMap.mp met
  have authored : n ∈ s.nodes := by simp [nodes, member]
  obtain ⟨m, member', inside'⟩ := List.mem_flatMap.mp listed
  have met : w ∈ RecipeBook.builtIn.metIn settings.maxExpansionDepth n :=
    (RecipeBook.metIn_perm _ _ n).mem_iff.mpr (List.mem_append_left _ inside)
  have met' : f ∈ RecipeBook.builtIn.metIn settings.maxExpansionDepth m :=
    (RecipeBook.metIn_perm _ _ m).mem_iff.mpr (List.mem_append_right _ inside')
  have plain := isComposite_of_mem_concretesOf faithful valid listed
  rcases RecipeBook.eq_or_exists_inner faithful (valid.followsKind n authored) met with
    rfl | ⟨u, parent, made⟩
  · exact id_ne_of_behind nodes valid member same
  rcases RecipeBook.eq_or_exists_inner faithful (valid.followsKind m member') met' with
    rfl | ⟨u', parent', made'⟩
  · have composite : v.kind.isComposite = true :=
      (valid.followsKind (.composite v) (by simp [nodes])).symm
    rw [eq_of_authored_id nodes valid member' same'] at plain
    exact absurd (plain.symm.trans composite) (by decide)
  have kinds := RecipeBook.kind_eq_of_id_eq
    (RecipeBook.isComposite_of_mem_compositesIn faithful (valid.followsKind n authored) parent)
    (RecipeBook.isComposite_of_mem_compositesIn faithful (valid.followsKind m member') parent')
    made made' (by rw [Node.id_ofFilter, Node.id_ofFilter, same, same'])
  have composite :=
    RecipeBook.isComposite_of_mem_compositesIn faithful (valid.followsKind n authored) inside
  rw [Node.kind, Node.kind, Node.filter_ofFilter, Node.filter_ofFilter] at kinds
  rw [kinds, plain] at composite
  cases composite

end

section

variable {kept : List (Filter × Ports)} {folding : List Rule} {fs : List Filter}
  {before after : List Node} {v : Filter}

theorem Gathers.exists_sure (gathers : Gathers .builtIn settings s kept folding) {n : Node}
    (member : n ∈ s.nodes) {u : Filter}
    (met : u ∈ RecipeBook.builtIn.compositesIn settings.maxExpansionDepth n) {c : Composite}
    (kind : u.kind = .composite c) :
    ∃ g ∈ RecipeBook.builtIn.concretesIn settings.maxExpansionDepth n,
      g.id = child u.id c.sureRole := by
  obtain ⟨recipe, ports, unfolds⟩ :=
    RecipeBook.exists_unfolds_of_mem_compositesIn (gathers.expandable n member) met
  obtain ⟨g, made, id⟩ := unfolds.exists_sure kind
  exact ⟨g, RecipeBook.mem_concretesIn_of_inner met made, id⟩

theorem Gathers.exists_rule (gathers : Gathers .builtIn settings s kept folding) (valid : s.Valid)
    {w : Filter} (met : w ∈ compositesOf .builtIn settings s) {port : String} {type : SignalType}
    (provides : w.Provides port type) :
    ∃ target, RecipeBook.builtIn.source? w port = some target ∧
      ⟨w.output port, target⟩ ∈ RecipeBook.builtIn.rules w := by
  have offered := (offered_iff_provides RecipeBook.faithful_builtIn valid gathers.expandable
    met).mpr ⟨type, provides⟩
  obtain ⟨recipe, ports, unfolds⟩ := exists_unfolds_of_mem_compositesOf gathers.expandable met
  obtain ⟨target, leads⟩ := Option.isSome_iff_exists.mp (unfolds.sources port offered)
  exact ⟨target, leads, RecipeBook.mem_rules_iff.mpr ⟨port, offered, target, leads, rfl⟩⟩

variable (nodes : s.nodes = before ++ .composite v :: after) (valid : s.Valid)

include nodes valid in
theorem Gathers.source_ne (gathers : Gathers .builtIn settings s kept folding) {w : Filter}
    (met : w ∈ compositesOfNodes settings after) (same : w.id = v.id) {port port' : String}
    {target target' : OutputRef}
    (leads : RecipeBook.builtIn.source? v port = some target)
    (leads' : RecipeBook.builtIn.source? w port' = some target') : target' ≠ target := by
  have faithful := RecipeBook.faithful_builtIn
  obtain ⟨n, member, inside⟩ := List.mem_flatMap.mp met
  have here : .composite v ∈ s.nodes := by simp [nodes]
  have there : n ∈ s.nodes := by simp [nodes, member]
  have composite : v.kind.isComposite = true := (valid.followsKind _ here).symm
  obtain ⟨c, kind⟩ := exists_composite_of_isComposite composite
  obtain ⟨c', kind'⟩ := exists_composite_of_isComposite
    (RecipeBook.isComposite_of_mem_compositesIn faithful (valid.followsKind n there) inside)
  have expandable := gathers.expandable _ here
  rintro rfl
  rw [RecipeBook.source?, kind, recipe?_builtIn] at leads
  rw [RecipeBook.source?, kind', recipe?_builtIn] at leads'
  obtain ⟨role, held, id⟩ := c.role_of_source leads
  obtain ⟨role', held', id'⟩ := c'.role_of_source leads'
  have ids : child v.id role = child v.id role' := by
    rw [Filter.innerId, same] at id'
    exact id.symm.trans id'
  obtain ⟨-, rfl⟩ :=
    child_injective (c.roles_fit.2 role held) (c'.roles_fit.2 role' held') ids
  obtain rfl := Composite.eq_of_role held held'
  obtain ⟨f, listed, f_id⟩ :=
    gathers.exists_sure here (expandable.mem_compositesIn rfl) kind
  obtain ⟨g, listed', g_id⟩ := gathers.exists_sure there inside kind'
  have distinct := gathers.distinct
  rw [concretesOf, nodes, List.flatMap_append, List.flatMap_cons, List.map_append,
    List.map_append, List.nodup_append, List.nodup_append] at distinct
  refine distinct.2.1.2.2 f.id (List.mem_map_of_mem listed) g.id
    (List.mem_map_of_mem (List.mem_flatMap.mpr ⟨n, member, listed'⟩)) ?_
  rw [f_id, g_id, same]
  rfl

/-- The rules of what is further on in the scene, and of what is folded. -/
def laterRules (settings : Settings) (after : List Node) (folding : List Rule) : List Rule :=
  (compositesOfNodes settings after).flatMap RecipeBook.builtIn.rules ++ folding

include nodes valid in
theorem Gathers.exists_extend (gathers : Gathers .builtIn settings s kept folding) :
    ∃ earlier : Substitution,
      finalTable .builtIn settings s = earlier.extend (laterRules settings after folding) ∧
      ∀ rule ∈ RecipeBook.builtIn.rules v, earlier.get? rule.source = some rule.target := by
  have faithful := RecipeBook.faithful_builtIn
  have here : .composite v ∈ s.nodes := by simp [nodes]
  obtain ⟨depth, levels⟩ : ∃ depth, settings.maxExpansionDepth = depth + 1 := by
    have expandable := gathers.expandable _ here
    cases levels : settings.maxExpansionDepth with
    | zero =>
      rw [levels] at expandable
      exact expandable.elim
    | succ depth => exact ⟨depth, rfl⟩
  let inside := (RecipeBook.builtIn.inner v).flatMap (RecipeBook.builtIn.compositesIn depth)
  have split : compositesOf .builtIn settings s =
      compositesOfNodes settings before ++ (v :: inside) ++ compositesOfNodes settings after := by
    simp [compositesOf, compositesOfNodes, nodes, levels, RecipeBook.compositesIn, inside]
  have longer : ∀ w ∈ inside, w.id ≠ v.id := by
    intro w within same
    have distinct : ((RecipeBook.builtIn.metIn (depth + 1) (.composite v)).map Filter.id).Nodup :=
      RecipeBook.ids_metIn_nodup faithful (valid.followsKind _ here)
    obtain ⟨m, member, met⟩ := List.mem_flatMap.mp within
    refine (List.nodup_cons.mp distinct).1 (List.mem_map.mpr ⟨w, ?_, same⟩)
    exact List.mem_flatMap.mpr ⟨m, member,
      (RecipeBook.metIn_perm _ _ m).mem_iff.mpr (List.mem_append_left _ met)⟩
  let first := (compositesOfNodes settings before).flatMap RecipeBook.builtIn.rules
  refine ⟨((Substitution.extend ∅ first).extend (RecipeBook.builtIn.rules v)).extend
    (inside.flatMap RecipeBook.builtIn.rules), ?_, ?_⟩
  · rw [gathers.finalTable_eq, split]
    simp only [List.flatMap_append, List.flatMap_cons, Substitution.extend_append, laterRules,
      first]
  · intro rule own
    obtain ⟨port, -, target, -, rfl⟩ := RecipeBook.mem_rules_iff.mp own
    rw [Substitution.get?_extend_of_absent]
    · exact Substitution.get?_extend_of_mem (RecipeBook.builtIn.sources_rules_nodup v) own
    · intro rule written source
      obtain ⟨w, within, written⟩ := List.mem_flatMap.mp written
      obtain ⟨port', -, target', -, rfl⟩ := RecipeBook.mem_rules_iff.mp written
      exact longer w within (OutputRef.mk.inj source).1

theorem Deploys.folded_of_rule (deploys : Deploys .builtIn settings s kept folding fs)
    {port : String} {target : OutputRef} (written : ⟨v.output port, target⟩ ∈ folding) :
    ∃ f ∈ concretesOf .builtIn settings s, f.id = v.id ∧ f.kind.isSingleton = true ∧
      (∃ type, f.Provides port type) ∧
        ∃ g ∈ fs, g.kind = f.kind ∧ g.id ≠ f.id ∧ target = g.output port := by
  obtain ⟨f, listed, first, ports, port', same, declares, offered, single, canonical, away⟩ :=
    deploys.retains.exists_folded deploys.distinct written
  obtain ⟨sources, rfl⟩ := Rule.mk.inj same
  obtain ⟨ids, rfl⟩ := OutputRef.mk.inj sources
  obtain ⟨type, declared⟩ := exists_get?_of_mem_keys offered
  rcases canonical with impossible | ⟨kind, ports', isKept⟩
  · cases impossible
  obtain ⟨g, emitted, id, kind', -⟩ := exists_right deploys.emits isKept
  refine ⟨f, listed, ids.symm, single, ⟨type, (Filter.provides_iff declares).mpr declared⟩,
    g, emitted, kind'.trans kind, ?_, ?_⟩
  · rw [id]
    exact away _ isKept
  · rw [Filter.output, Filter.output, id]

theorem Deploys.exists_rule_of_folded (deploys : Deploys .builtIn settings s kept folding fs)
    {f g : Filter} (listed : f ∈ concretesOf .builtIn settings s)
    (single : f.kind.isSingleton = true) {port : String} {type : SignalType}
    (provides : f.Provides port type) (emitted : g ∈ fs) (kind : g.kind = f.kind)
    (different : g.id ≠ f.id) : ∃ target, ⟨f.output port, target⟩ ∈ folding := by
  rcases deploys.retains.kept_or_folded listed with
    ⟨ports, isKept⟩ | ⟨-, first, ports, declares, led⟩
  · obtain ⟨g', emitted', id, kind', -⟩ := exists_right deploys.emits isKept
    have same := deploys.executable.eq_of_singleton single emitted kind emitted' kind'
    exact absurd (same ▸ id) different
  · have offered := mem_keys_of_get? ((Filter.provides_iff declares).mp provides)
    exact ⟨_, led (List.mem_map.mpr ⟨port, offered, rfl⟩)⟩

end

/-- Behind `v` another rule is left for an output of its id: by a composite filter that a later
    node unfolds into, or by a filter that is folded into one where `target` is not found. -/
def Overruled (settings : Settings) (s : Scene) (fs : List Filter) (after : List Node)
    (v : Filter) (port : String) (target : OutputRef) : Prop :=
  (∃ w ∈ compositesOfNodes settings after, w.id = v.id ∧ ∃ type, w.Provides port type) ∨
    ∃ f ∈ concretesOf .builtIn settings s, f.id = v.id ∧ f.kind.isSingleton = true ∧
      (∃ type, f.Provides port type) ∧
        ∃ g ∈ fs, g.kind = f.kind ∧ g.id ≠ f.id ∧ target ≠ g.output port

section

variable {kept : List (Filter × Ports)} {folding : List Rule} {fs : List Filter}
  {before after : List Node} {v : Filter} {port : String} {target found : OutputRef}
  (deploys : Deploys .builtIn settings s kept folding fs) (valid : s.Valid)
  (nodes : s.nodes = before ++ .composite v :: after)

include nodes in
theorem compositesOfNodes_subset :
    compositesOfNodes settings after ⊆ compositesOf .builtIn settings s := by
  intro w met
  rw [compositesOf, nodes, List.flatMap_append, List.flatMap_cons]
  exact List.mem_append_right _ (List.mem_append_right _ met)

include deploys valid nodes in
theorem Deploys.origin_of_later (leads : RecipeBook.builtIn.source? v port = some target)
    (written : ⟨v.output port, found⟩ ∈ laterRules settings after folding) :
    (∃ w ∈ compositesOfNodes settings after, w.id = v.id ∧
      (∃ type, w.Provides port type) ∧
      found ≠ target) ∨ ⟨v.output port, found⟩ ∈ folding := by
  have gathers := deploys.toGathers
  rcases List.mem_append.mp written with composite | folded
  · obtain ⟨w, met, written⟩ := List.mem_flatMap.mp composite
    obtain ⟨port', offered, found', leads', same⟩ := RecipeBook.mem_rules_iff.mp written
    obtain ⟨sources, rfl⟩ := Rule.mk.inj same
    obtain ⟨ids, rfl⟩ := OutputRef.mk.inj sources
    have provides := (offered_iff_provides RecipeBook.faithful_builtIn valid gathers.expandable
      (compositesOfNodes_subset nodes met)).mp offered
    exact Or.inl ⟨w, met, ids.symm, provides,
      gathers.source_ne nodes valid met ids.symm leads leads'⟩
  · exact Or.inr folded

include deploys valid nodes in
theorem Deploys.exists_later_of_overruled
    (overruled : Overruled settings s fs after v port target) :
    ∃ found, ⟨v.output port, found⟩ ∈ laterRules settings after folding := by
  have gathers := deploys.toGathers
  rcases overruled with ⟨w, met, same, type, provides⟩ |
    ⟨f, listed, same, single, ⟨type, provides⟩, g, emitted, kind, different, -⟩
  · obtain ⟨found, -, written⟩ :=
      gathers.exists_rule valid (compositesOfNodes_subset nodes met) provides
    have here : v.output port = w.output port := by rw [Filter.output, Filter.output, same]
    rw [here]
    exact ⟨found, List.mem_append_left _ (List.mem_flatMap.mpr ⟨w, met, written⟩)⟩
  · obtain ⟨found, written⟩ :=
      deploys.exists_rule_of_folded listed single provides emitted kind different
    have here : v.output port = f.output port := by rw [Filter.output, Filter.output, same]
    rw [here]
    exact ⟨found, List.mem_append_right _ written⟩

include deploys valid nodes in
theorem Deploys.not_overruled_of_folded (folded : ⟨v.output port, target⟩ ∈ folding) :
    ¬ Overruled settings s fs after v port target := by
  obtain ⟨f, listed, same, single, -, g, emitted, kind, -, rfl⟩ := deploys.folded_of_rule folded
  rintro (⟨w, met, same', -⟩ |
    ⟨f', listed', same', -, -, g', emitted', kind', -, elsewhere⟩)
  · exact concrete_id_ne nodes valid met same' listed same
  · obtain rfl :=
      List.inj_on_of_nodup_map deploys.distinct listed listed' (same.trans same'.symm)
    obtain rfl := deploys.executable.eq_of_singleton single emitted kind emitted' kind'
    exact elsewhere rfl

include deploys valid nodes in
theorem Deploys.overruled_of_later (leads : RecipeBook.builtIn.source? v port = some target)
    (written : ⟨v.output port, found⟩ ∈ laterRules settings after folding)
    (elsewhere : target ≠ found) : Overruled settings s fs after v port target := by
  rcases deploys.origin_of_later valid nodes leads written with
    ⟨w, met, same, provides, -⟩ | folded
  · exact Or.inl ⟨w, met, same, provides⟩
  · obtain ⟨f, listed, same, single, provides, g, emitted, kind, different, rfl⟩ :=
      deploys.folded_of_rule folded
    exact Or.inr ⟨f, listed, same, single, provides, g, emitted, kind, different, elsewhere⟩

include deploys valid nodes in
theorem Deploys.get?_own_iff (leads : RecipeBook.builtIn.source? v port = some target)
    (own : ⟨v.output port, target⟩ ∈ RecipeBook.builtIn.rules v) :
    (finalTable .builtIn settings s).get? (v.output port) = some target ↔
      ¬ Overruled settings s fs after v port target := by
  obtain ⟨earlier, table, kept⟩ := deploys.toGathers.exists_extend nodes valid
  rw [table]
  by_cases later : ∃ other, ⟨v.output port, other⟩ ∈ laterRules settings after folding
  · obtain ⟨other, written⟩ := later
    obtain ⟨found, inForce, written⟩ := Substitution.exists_get?_extend (t := earlier) written
    rw [inForce, Option.some.injEq]
    constructor
    · rintro rfl
      rcases deploys.origin_of_later valid nodes leads written with
        ⟨w, -, -, -, different⟩ | folded
      · exact absurd rfl different
      · exact deploys.not_overruled_of_folded valid nodes folded
    · intro free
      by_contra different
      exact free (deploys.overruled_of_later valid nodes leads written (Ne.symm different))
  · rw [Substitution.get?_extend_of_absent]
    · refine iff_of_true (kept _ own) fun overruled => later ?_
      exact deploys.exists_later_of_overruled valid nodes overruled
    · rintro ⟨source, other⟩ written rfl
      exact later ⟨other, written⟩

end

/-- An output of an authored composite filter is led to what its own recipe says exactly if it is
    not overruled, and nothing is overruled where no id has two underscores in a row. -/
theorem own_target_kept_iff (settings : Settings) (s : Scene) (assembled : s.Assembled)
    (fs : List Filter) (deployed : (deployScene .builtIn settings s).outcome = .ok fs) :
    (∀ before v after, s.nodes = before ++ .composite v :: after →
      ∀ port type, v.Provides port type →
        ∃ target, RecipeBook.builtIn.source? v port = some target ∧
          ((finalTable .builtIn settings s).get? (v.output port) = some target ↔
            ¬ Overruled settings s fs after v port target)) ∧
    ((∀ n ∈ s.nodes, Hygienic n.id) →
      ∀ v, .composite v ∈ s.nodes → ∀ port type, v.Provides port type →
        ∃ target, RecipeBook.builtIn.source? v port = some target ∧
          (finalTable .builtIn settings s).get? (v.output port) = some target) := by
  have faithful := RecipeBook.faithful_builtIn
  have valid := (Scene.assembled_iff_valid s).mp assembled
  obtain ⟨kept, folding, deploys⟩ := deployScene_eq_ok_iff.mp deployed
  have gathers := deploys.toGathers
  have own : ∀ v, .composite v ∈ s.nodes → v ∈ compositesOf .builtIn settings s := by
    intro v member
    exact List.mem_flatMap.mpr ⟨_, member, (gathers.expandable _ member).mem_compositesIn rfl⟩
  constructor
  · intro before v after nodes port type provides
    obtain ⟨target, leads, written⟩ :=
      gathers.exists_rule valid (own v (by simp [nodes])) provides
    exact ⟨target, leads, deploys.get?_own_iff valid nodes leads written⟩
  · intro hygienic v member port type provides
    obtain ⟨target, leads, written⟩ := gathers.exists_rule valid (own v member) provides
    exact ⟨target, leads, gathers.get?_of_rule (unambiguous_of_hygienic faithful valid hygienic)
      (List.mem_append_left _ (List.mem_flatMap.mpr ⟨v, own v member, written⟩))⟩

/-- A delay with the id under which a dimmed color has its main brightness, which is folded into
    the authored one. -/
def delayedMain : Scene where
  id := 1
  name := "Main"
  nodes := [
    .ofFilter { id := "m", kind := .mainBrightness },
    .ofFilter { id := "w__main", kind := .composite .delayChain,
                links := .ofList [("value", ⟨"m", "value"⟩)] },
    .ofFilter { id := "w", kind := .composite .dimmedColor },
    .ofFilter { id := "d", kind := .debug .byte,
                links := .ofList [("value", ⟨"w__main", "value"⟩)] }]

def delayedMainFilters : List Filter := [
  { id := "m", kind := .mainBrightness },
  { id := "w__main__stage", kind := .timedSwitch .delayOn,
    links := .ofList [("value", ⟨"m", "value"⟩)] },
  { id := "w__mix", kind := .conversion .dimColor,
    links := .ofList [("brightness", ⟨"m", "value"⟩)] },
  { id := "d", kind := .debug .byte, links := .ofList [("value", ⟨"m", "value"⟩)] }]

theorem delayed_main_overruled :
    delayedMain.Assembled ∧
      (deployScene .builtIn {} delayedMain).outcome = .ok delayedMainFilters ∧
      ∃ v, .composite v ∈ delayedMain.nodes ∧ v.Provides "value" .byte ∧
        RecipeBook.builtIn.source? v "value" = some ⟨"w__main__stage", "value"⟩ ∧
        (finalTable .builtIn {} delayedMain).get? (v.output "value") = some ⟨"m", "value"⟩ :=
  ⟨⟨delayedMain.filters, by cbv⟩, by cbv, _, .tail _ (.head _), ⟨_, rfl, rfl⟩, by cbv,
    by cbv⟩

theorem own_target_kept_iff_delayed_main :
    delayedMain.Assembled ∧
      (deployScene .builtIn {} delayedMain).outcome = .ok delayedMainFilters ∧
      ∃ before v after target, delayedMain.nodes = before ++ .composite v :: after ∧
        RecipeBook.builtIn.source? v "value" = some target ∧
        Overruled {} delayedMain delayedMainFilters after v "value" target := by
  have assembled : delayedMain.Assembled := ⟨delayedMain.filters, by cbv⟩
  have deployed : (deployScene .builtIn {} delayedMain).outcome = .ok delayedMainFilters := by
    cbv
  obtain ⟨keeps, -⟩ := own_target_kept_iff {} delayedMain assembled _ deployed
  obtain ⟨target, leads, kept⟩ := keeps [_] _ [_, _] rfl "value" .byte ⟨_, rfl, rfl⟩
  refine ⟨assembled, deployed, [_], _, [_, _], target, rfl, leads, ?_⟩
  by_contra free
  have ruled : (finalTable .builtIn {} delayedMain).get? ⟨"w__main", "value"⟩ =
      some ⟨"m", "value"⟩ := by
    cbv
  have own : RecipeBook.builtIn.source?
      { id := "w__main", kind := .composite .delayChain,
        links := .ofList [("value", ⟨"m", "value"⟩)] } "value" =
      some ⟨"w__main__stage", "value"⟩ := by
    cbv
  obtain rfl := Option.some.inj (own.symm.trans leads)
  have unruled := kept.mpr free
  rw [Filter.output, ruled] at unruled
  exact absurd unruled (by decide)

end

end LightShow
