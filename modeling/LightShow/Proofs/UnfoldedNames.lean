import Mathlib.Data.List.Nodup
import Mathlib.Data.List.Perm.Basic
import LightShow.Proofs.BuiltIn

/-!
The ids of all filters met while a scene is unfolded, the composite ones and those that they
unfold into: each is the id of an authored node with a way of roles behind it, so no two are
the same where the authored ids are distinct and hold no such way themselves.
-/

namespace LightShow

open InnerName

/-- The id of `f` is that of a node, or leads from it through roles. -/
def Filter.IsIn (f : Filter) (id : String) : Prop :=
  ∃ roles, (∀ role ∈ roles, IsRole role) ∧ f.id = descend id roles

/-- No filter in one of the nodes has the id of a filter in the other. -/
def Separate (id id' : String) : Prop :=
  ∀ f g : Filter, f.IsIn id → g.IsIn id' → f.id ≠ g.id

theorem Filter.isIn_self (f : Filter) : f.IsIn f.id := ⟨[], by simp, rfl⟩

theorem separate_of_roles (id : String) {role role' : String} (isRole : IsRole role)
    (isRole' : IsRole role') (different : role ≠ role') :
    Separate (child id role) (child id role') := by
  rintro f g ⟨roles, areRoles, f_id⟩ ⟨roles', areRoles', g_id⟩ same
  rw [f_id, g_id, ← descend_cons, ← descend_cons] at same
  obtain ⟨-, ways⟩ := descend_injective (apart_self id)
    (List.forall_mem_cons.mpr ⟨isRole, areRoles⟩)
    (List.forall_mem_cons.mpr ⟨isRole', areRoles'⟩)
    same
  cases ways
  exact different rfl

theorem separate_of_hygienic {id id' : String} (hygienic : Hygienic id)
    (hygienic' : Hygienic id') (different : id ≠ id') : Separate id id' := by
  rintro f g ⟨roles, areRoles, f_id⟩ ⟨roles', areRoles', g_id⟩ same
  rw [f_id, g_id] at same
  exact different
    (descend_injective (apart_of_hygienic hygienic hygienic') areRoles areRoles' same).1

namespace RecipeBook

section

variable (book : RecipeBook)

def metIn : Nat → Node → List Filter
  | _, .concrete f => [f]
  | 0, .composite _ => []
  | budget + 1, .composite f => f :: (book.inner f).flatMap (metIn budget)

theorem metIn_perm (budget : Nat) (n : Node) :
    (book.metIn budget n).Perm (book.compositesIn budget n ++ book.concretesIn budget n) := by
  induction budget generalizing n with
  | zero => cases n <;> simp [metIn, compositesIn, concretesIn]
  | succ budget ih =>
    cases n with
    | concrete f => simp [metIn, compositesIn, concretesIn]
    | composite f =>
      have inside := List.Perm.flatMap_left (book.inner f) fun m _ => ih m
      exact (inside.trans (List.flatMap_append_perm _ _ _).symm).cons f

end

variable {book : RecipeBook}

theorem inner_of_faithful (faithful : book.Faithful) {f : Filter}
    (composite : f.kind.isComposite = true) :
    ∃ inner, book.inner f = inner.map .ofFilter ∧ RoleNamed f inner := by
  obtain ⟨r, registered, does⟩ := faithful f composite
  cases made : r.nodes f with
  | error e =>
    refine ⟨[], ?_, [], List.nodup_nil, by simp, rfl⟩
    simp [RecipeBook.inner, registered, made, Except.toOption]
  | ok ns =>
    obtain ⟨inner, rfl, named, -⟩ := does.inner ns made
    refine ⟨inner, ?_, named⟩
    simp [RecipeBook.inner, registered, made, Except.toOption]

theorem followsKind_of_inner (faithful : book.Faithful) {f : Filter}
    (composite : f.kind.isComposite = true) {n : Node} (member : n ∈ book.inner f) :
    n.FollowsKind := by
  obtain ⟨inner, shape, -⟩ := inner_of_faithful faithful composite
  rw [shape] at member
  obtain ⟨g, -, rfl⟩ := List.mem_map.mp member
  exact Node.ofFilter_followsKind g

theorem ids_of_inner (faithful : book.Faithful) {f : Filter}
    (composite : f.kind.isComposite = true) :
    ∃ roles : List String, roles.Nodup ∧ (∀ role ∈ roles, IsRole role) ∧
      (book.inner f).map Node.id = roles.map (child f.id) := by
  obtain ⟨inner, shape, roles, distinct, areRoles, ids⟩ := inner_of_faithful faithful composite
  refine ⟨roles, distinct, areRoles, ?_⟩
  rw [shape, List.map_map]
  exact (List.map_congr_left fun g _ => Node.id_ofFilter g).trans ids

theorem isComposite_of_mem_compositesIn (faithful : book.Faithful) {budget : Nat} {n : Node}
    (follows : n.FollowsKind) {v : Filter} (met : v ∈ book.compositesIn budget n) :
    v.kind.isComposite = true := by
  induction budget generalizing n with
  | zero => cases n <;> cases met
  | succ budget ih =>
    cases n with
    | concrete f => cases met
    | composite f =>
      have composite : f.kind.isComposite = true := follows.symm
      rcases List.mem_cons.mp met with rfl | within
      · exact composite
      · obtain ⟨m, member, met⟩ := List.mem_flatMap.mp within
        exact ih (followsKind_of_inner faithful composite member) met

theorem isComposite_of_mem_concretesIn (faithful : book.Faithful) {budget : Nat} {n : Node}
    (follows : n.FollowsKind) {f : Filter} (listed : f ∈ book.concretesIn budget n) :
    f.kind.isComposite = false := by
  induction budget generalizing n with
  | zero =>
    cases n with
    | concrete g =>
      obtain rfl := List.mem_singleton.mp listed
      exact follows.symm
    | composite g => cases listed
  | succ budget ih =>
    cases n with
    | concrete g =>
      obtain rfl := List.mem_singleton.mp listed
      exact follows.symm
    | composite g =>
      obtain ⟨m, member, listed⟩ := List.mem_flatMap.mp listed
      exact ih (followsKind_of_inner faithful follows.symm member) listed

theorem isIn_of_metIn (faithful : book.Faithful) {budget : Nat} {n : Node}
    (follows : n.FollowsKind) {g : Filter} (met : g ∈ book.metIn budget n) : g.IsIn n.id := by
  induction budget generalizing n with
  | zero =>
    cases n with
    | concrete f =>
      obtain rfl := List.mem_singleton.mp met
      exact g.isIn_self
    | composite f => cases met
  | succ budget ih =>
    cases n with
    | concrete f =>
      obtain rfl := List.mem_singleton.mp met
      exact g.isIn_self
    | composite f =>
      rcases List.mem_cons.mp met with rfl | inside
      · exact g.isIn_self
      · obtain ⟨m, member, met⟩ := List.mem_flatMap.mp inside
        have composite : f.kind.isComposite = true := follows.symm
        obtain ⟨roles, -, areRoles, ids⟩ := ids_of_inner faithful composite
        obtain ⟨role, isOne, here⟩ : ∃ role ∈ roles, child f.id role = m.id := by
          have listed := List.mem_map_of_mem (f := Node.id) member
          rwa [ids, List.mem_map] at listed
        obtain ⟨further, areFurther, named⟩ :=
          ih (followsKind_of_inner faithful composite member) met
        refine ⟨role :: further, List.forall_mem_cons.mpr ⟨areRoles role isOne, areFurther⟩,
          ?_⟩
        rw [named, ← here]
        rfl

theorem ids_flatMap_nodup (faithful : book.Faithful) (budget : Nat) {ns : List Node}
    (follow : ∀ n ∈ ns, n.FollowsKind)
    (each : ∀ n ∈ ns, ((book.metIn budget n).map Filter.id).Nodup)
    (separate : (ns.map Node.id).Pairwise Separate) :
    ((ns.flatMap (book.metIn budget)).map Filter.id).Nodup := by
  rw [List.map_flatMap, List.nodup_flatMap]
  refine ⟨each, ?_⟩
  rw [List.pairwise_map] at separate
  refine separate.imp_of_mem ?_
  intro n m member member' apart id here there
  obtain ⟨f, met, rfl⟩ := List.mem_map.mp here
  obtain ⟨g, met', same⟩ := List.mem_map.mp there
  exact apart f g (isIn_of_metIn faithful (follow n member) met)
    (isIn_of_metIn faithful (follow m member') met') same.symm

theorem ids_metIn_nodup (faithful : book.Faithful) {budget : Nat} {n : Node}
    (follows : n.FollowsKind) : ((book.metIn budget n).map Filter.id).Nodup := by
  induction budget generalizing n with
  | zero => cases n <;> simp [metIn]
  | succ budget ih =>
    cases n with
    | concrete f => simp [metIn]
    | composite f =>
      have composite : f.kind.isComposite = true := follows.symm
      have follow := fun m member => followsKind_of_inner faithful composite (n := m) member
      obtain ⟨roles, distinct, areRoles, ids⟩ := ids_of_inner faithful composite
      have separate : ((book.inner f).map Node.id).Pairwise Separate := by
        rw [ids, List.pairwise_map]
        exact distinct.imp_of_mem fun {r s} isOne isOther different =>
          separate_of_roles f.id (areRoles r isOne) (areRoles s isOther) different
      refine List.nodup_cons.mpr ⟨?_, ids_flatMap_nodup faithful budget follow
        (fun m member => ih (follow m member)) separate⟩
      intro again
      obtain ⟨g, inside, same⟩ := List.mem_map.mp again
      obtain ⟨m, member, met⟩ := List.mem_flatMap.mp inside
      obtain ⟨further, -, named⟩ := isIn_of_metIn faithful (follow m member) met
      have listed := List.mem_map_of_mem (f := Node.id) member
      rw [ids] at listed
      obtain ⟨role, -, here⟩ := List.mem_map.mp listed
      rw [named, ← here, ← descend_cons] at same
      exact descend_ne_self f.id role further same

end RecipeBook

section

variable {book : RecipeBook} {settings : Settings} {s : Scene}

theorem isComposite_of_mem_compositesOf (faithful : book.Faithful) (valid : s.Valid)
    {v : Filter} (met : v ∈ compositesOf book settings s) : v.kind.isComposite = true := by
  obtain ⟨n, member, inside⟩ := List.mem_flatMap.mp met
  exact RecipeBook.isComposite_of_mem_compositesIn faithful (valid.followsKind n member) inside

theorem isComposite_of_mem_concretesOf (faithful : book.Faithful) (valid : s.Valid)
    {f : Filter} (listed : f ∈ concretesOf book settings s) : f.kind.isComposite = false := by
  obtain ⟨n, member, inside⟩ := List.mem_flatMap.mp listed
  exact RecipeBook.isComposite_of_mem_concretesIn faithful (valid.followsKind n member) inside

theorem unambiguous_of_hygienic (faithful : book.Faithful) (valid : s.Valid)
    (hygienic : ∀ n ∈ s.nodes, Hygienic n.id) : Unambiguous book settings s := by
  have separate : (s.nodes.map Node.id).Pairwise Separate := by
    have distinct := valid.distinct
    unfold Scene.ids at distinct
    refine distinct.imp_of_mem ?_
    intro id id' member member' different
    obtain ⟨n, here, rfl⟩ := List.mem_map.mp member
    obtain ⟨m, there, rfl⟩ := List.mem_map.mp member'
    exact separate_of_hygienic (hygienic n here) (hygienic m there) different
  have together := RecipeBook.ids_flatMap_nodup faithful settings.maxExpansionDepth
    valid.followsKind
    (fun n member => RecipeBook.ids_metIn_nodup faithful (valid.followsKind n member)) separate
  have split : (s.nodes.flatMap (book.metIn settings.maxExpansionDepth)).Perm
      (compositesOf book settings s ++ concretesOf book settings s) :=
    (List.Perm.flatMap_left s.nodes fun n _ => book.metIn_perm _ n).trans
      (List.flatMap_append_perm _ _ _).symm
  exact (split.map Filter.id).nodup_iff.mp together

end

end LightShow
