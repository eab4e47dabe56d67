import LightShow.Proofs.UnfoldedNames

/-!
An inner node is known by its role: the last role in its id tells its kind. Some role of each
composite kind is always filled, by a concrete filter.
-/

namespace LightShow

open Outcome OrderedMap InnerName

/-- The kind of the inner node that has this role. -/
def roleKind : String → Kind
  | "pan_value" | "tilt_value" => .constant .word
  | "pan" | "tilt" => .conversion .wordToBytes
  | "time" => .time
  | "omega" => .constant .float
  | "phase" => .arithmetic .multiplication
  | "sin" => .trigonometric .sine
  | "scale" => .floatFunction .multiplyAdd
  | "main" => .mainBrightness
  | "mix" => .conversion .dimColor
  | "stage" => .timedSwitch .delayOn
  | "rest" => .composite .delayChain
  | "osc" => .composite .oscillator
  | _ => .conversion .floatToByte

theorem Node.ofFilter_of_plain {f : Filter} (plain : f.kind.isComposite = false) :
    Node.ofFilter f = .concrete f := by
  simp [Node.ofFilter, plain]

namespace Composite

/-- A role that is filled however the filter is configured, by a concrete filter. -/
def sureRole : Composite → String
  | .position => "pan"
  | .oscillator => "time"
  | .dimmedColor => "main"
  | .delayChain => "stage"
  | .oscillatingDimmer => "convert"

theorem sureRole_concrete (c : Composite) : (roleKind c.sureRole).isComposite = false := by
  cases c <;> rfl

theorem eq_of_role {c c' : Composite} {role : String} (held : role ∈ c.roles)
    (held' : role ∈ c'.roles) : c = c' := by
  revert role
  cases c <;> cases c' <;> decide

theorem shape_of_nodes (c : Composite) {f : Filter} {ns : List Node}
    (made : c.recipe.nodes f = .ok ns) :
    ∃ (inner : List Filter) (roles : List String), ns = inner.map .ofFilter ∧
      roles ⊆ c.roles ∧ c.sureRole ∈ roles ∧
      inner.map (fun g => (g.id, g.kind)) =
        roles.map fun role => (f.innerId role, roleKind role) := by
  cases c with
  | position =>
    obtain ⟨pan, panMade, made⟩ := bind_eq_ok_iff.mp made
    obtain ⟨tilt, tiltMade, made⟩ := bind_eq_ok_iff.mp made
    obtain ⟨x, -, rfl⟩ := Recipe.axis_eq_ok panMade
    obtain ⟨y, -, rfl⟩ := Recipe.axis_eq_ok tiltMade
    cases made
    exact ⟨_, _, List.map_append.symm, List.Subset.refl _, by decide, rfl⟩
  | oscillator =>
    obtain ⟨period, -, made⟩ := bind_eq_ok_iff.mp made
    split at made
    · cases made
    obtain ⟨amplitude, -, made⟩ := bind_eq_ok_iff.mp made
    obtain ⟨offset, -, made⟩ := bind_eq_ok_iff.mp made
    cases made
    exact ⟨_, _, rfl, List.Subset.refl _, by decide, rfl⟩
  | dimmedColor =>
    cases made
    refine ⟨[_, _], _, rfl, List.Subset.refl _, by decide, ?_⟩
    simp [roles, roleKind, Filter.kind_withLink?, Filter.withLink, Filter.inner]
  | delayChain =>
    obtain ⟨count, stage, rest, -, stageId, stageKind, -, restId, restKind, -, rfl⟩ :=
      Recipe.delayChain_eq_ok made
    by_cases long : count > 1
    · refine ⟨[stage, rest], _, if_pos long, List.Subset.refl _, by decide, ?_⟩
      simp [roles, roleKind, stageId, stageKind, restId, restKind]
    · refine ⟨[stage], ["stage"], if_neg long, by simp [roles], by decide, ?_⟩
      simp [roleKind, stageId, stageKind]
  | oscillatingDimmer =>
    cases made
    exact ⟨[_, _], _, rfl, List.Subset.refl _, by decide, rfl⟩

theorem exists_role_of_nodes {c : Composite} {f : Filter} {ns : List Node}
    (made : c.recipe.nodes f = .ok ns) {n : Node} (member : n ∈ ns) :
    ∃ role ∈ c.roles, n.id = f.innerId role ∧ n.kind = roleKind role := by
  obtain ⟨inner, roles, rfl, sub, -, shape⟩ := c.shape_of_nodes made
  obtain ⟨g, held, rfl⟩ := List.mem_map.mp member
  have listed := List.mem_map_of_mem (f := fun g => (g.id, g.kind)) held
  rw [shape] at listed
  obtain ⟨role, isOne, same⟩ := List.mem_map.mp listed
  obtain ⟨ids, kinds⟩ := Prod.mk.inj same
  refine ⟨role, sub isOne, ?_, ?_⟩
  · rw [Node.id_ofFilter, ids]
  · rw [Node.kind, Node.filter_ofFilter, kinds]

theorem role_of_source (c : Composite) {f : Filter} {port : String} {target : OutputRef}
    (leads : c.recipe.source? f port = some target) :
    ∃ role ∈ c.roles, target.filter = f.innerId role := by
  cases c with
  | position =>
    simp only [recipe, Recipe.position] at leads
    split at leads <;> cases leads
    · exact ⟨"pan", by decide, rfl⟩
    · exact ⟨"pan", by decide, rfl⟩
    · exact ⟨"tilt", by decide, rfl⟩
    · exact ⟨"tilt", by decide, rfl⟩
  | oscillator =>
    obtain ⟨-, leads⟩ := Option.ite_none_right_eq_some.mp leads
    cases leads
    exact ⟨"scale", by decide, rfl⟩
  | dimmedColor =>
    obtain ⟨-, leads⟩ := Option.ite_none_right_eq_some.mp leads
    cases leads
    exact ⟨"mix", by decide, rfl⟩
  | delayChain =>
    obtain ⟨-, leads⟩ := Option.ite_none_right_eq_some.mp leads
    split at leads <;> cases leads
    · exact ⟨"stage", by decide, rfl⟩
    · exact ⟨"rest", by decide, rfl⟩
  | oscillatingDimmer =>
    obtain ⟨-, leads⟩ := Option.ite_none_right_eq_some.mp leads
    cases leads
    exact ⟨"convert", by decide, rfl⟩

end Composite

namespace RecipeBook

theorem exists_role {f : Filter} {c : Composite} (kind : f.kind = .composite c) {n : Node}
    (member : n ∈ builtIn.inner f) :
    ∃ role ∈ c.roles, n.id = child f.id role ∧ n.kind = roleKind role := by
  have registered : builtIn.recipe? f.kind = some c.recipe := by rw [kind, recipe?_builtIn]
  cases made : c.recipe.nodes f with
  | error e => simp [inner, registered, made, Except.toOption] at member
  | ok ns =>
    have member : n ∈ ns := by
      simpa [RecipeBook.inner, registered, made, Except.toOption] using member
    exact Composite.exists_role_of_nodes made member

theorem kind_eq_of_id_eq {f g : Filter} (composite : f.kind.isComposite = true)
    (composite' : g.kind.isComposite = true) {n m : Node} (member : n ∈ builtIn.inner f)
    (member' : m ∈ builtIn.inner g) (same : n.id = m.id) : n.kind = m.kind := by
  obtain ⟨c, kind⟩ := exists_composite_of_isComposite composite
  obtain ⟨c', kind'⟩ := exists_composite_of_isComposite composite'
  obtain ⟨role, held, id, ofRole⟩ := exists_role kind member
  obtain ⟨role', held', id', ofRole'⟩ := exists_role kind' member'
  rw [id, id'] at same
  obtain ⟨-, rfl⟩ :=
    child_injective (c.roles_fit.2 role held) (c'.roles_fit.2 role' held') same
  rw [ofRole, ofRole']

theorem Unfolds.recipe_eq {f : Filter} {c : Composite} (kind : f.kind = .composite c)
    {recipe : Recipe} {ports : Ports} (unfolds : builtIn.Unfolds f recipe ports) :
    recipe = c.recipe := by
  have registered := unfolds.registered
  rw [kind, recipe?_builtIn] at registered
  exact (Option.some.inj registered).symm

theorem Unfolds.exists_sure {f : Filter} {c : Composite} (kind : f.kind = .composite c)
    {recipe : Recipe} {ports : Ports} (unfolds : builtIn.Unfolds f recipe ports) :
    ∃ g, .concrete g ∈ builtIn.inner f ∧ g.id = child f.id c.sureRole := by
  obtain rfl := unfolds.recipe_eq kind
  obtain ⟨inner, roles, made, -, sure, shape⟩ := c.shape_of_nodes unfolds.nodes
  have listed := List.mem_map_of_mem (f := fun role => (f.innerId role, roleKind role)) sure
  rw [← shape] at listed
  obtain ⟨g, held, same⟩ := List.mem_map.mp listed
  obtain ⟨ids, kinds⟩ := Prod.mk.inj same
  have plain : Node.ofFilter g = .concrete g :=
    Node.ofFilter_of_plain (kinds ▸ c.sureRole_concrete)
  refine ⟨g, ?_, ids⟩
  rw [made, ← plain]
  exact List.mem_map_of_mem held

section

variable {book : RecipeBook}

theorem mem_concretesIn_of_inner {budget : Nat} {n : Node} {u g : Filter}
    (met : u ∈ book.compositesIn budget n) (member : .concrete g ∈ book.inner u) :
    g ∈ book.concretesIn budget n := by
  induction budget generalizing n with
  | zero => cases n <;> cases met
  | succ budget ih =>
    cases n with
    | concrete f => cases met
    | composite f =>
      rcases List.mem_cons.mp met with rfl | within
      · exact List.mem_flatMap.mpr ⟨_, member, book.mem_concretesIn_concrete budget g⟩
      · obtain ⟨m, inside, met⟩ := List.mem_flatMap.mp within
        exact List.mem_flatMap.mpr ⟨m, inside, ih met⟩

theorem eq_or_exists_inner (faithful : book.Faithful) {budget : Nat} {n : Node}
    (follows : n.FollowsKind) {g : Filter} (met : g ∈ book.metIn budget n) :
    g = n.filter ∨ ∃ u ∈ book.compositesIn budget n, .ofFilter g ∈ book.inner u := by
  induction budget generalizing n with
  | zero =>
    cases n with
    | concrete f => exact Or.inl (List.mem_singleton.mp met)
    | composite f => cases met
  | succ budget ih =>
    cases n with
    | concrete f => exact Or.inl (List.mem_singleton.mp met)
    | composite f =>
      rcases List.mem_cons.mp met with rfl | within
      · exact Or.inl rfl
      obtain ⟨m, member, met⟩ := List.mem_flatMap.mp within
      have composite : f.kind.isComposite = true := follows.symm
      have followsKind := followsKind_of_inner faithful composite member
      rcases ih followsKind met with rfl | ⟨u, met, held⟩
      · refine Or.inr ⟨f, List.mem_cons_self, ?_⟩
        rwa [← (Node.followsKind_iff m).mp followsKind]
      · exact Or.inr ⟨u, List.mem_cons_of_mem f (List.mem_flatMap.mpr ⟨m, member, met⟩),
          held⟩

end

end RecipeBook

end LightShow
