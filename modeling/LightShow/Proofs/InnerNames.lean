import Mathlib.Data.List.Induction
import Mathlib.Data.List.Infix
import LightShow.Compile.BuiltIn

/-!
Names of inner nodes. A role holds no two underscores in a row and does not begin with one,
so the last two underscores in a row of a name are those before its last role, and the name
tells the whole way on which the node came into being.
-/

namespace LightShow

/-- The text holds two underscores in a row. -/
def Divided (cs : List Char) : Prop := ['_', '_'] <:+: cs

instance (cs : List Char) : Decidable (Divided cs) := by unfold Divided; infer_instance

/-- A name in which no inner node can be named. -/
def Hygienic (id : String) : Prop := ¬ Divided id.toList

instance (id : String) : Decidable (Hygienic id) := by unfold Hygienic; infer_instance

def IsRole (role : String) : Prop := Hygienic role ∧ role.toList.head? ≠ some '_'

instance (role : String) : Decidable (IsRole role) := by unfold IsRole; infer_instance

namespace InnerName

def child (id role : String) : String := id ++ "__" ++ role

/-- The name of a node that is found in `id` through the given roles, the outermost first. -/
def descend (id : String) (roles : List String) : String := roles.foldl child id

@[simp] theorem descend_nil (id : String) : descend id [] = id := rfl

@[simp] theorem descend_cons (id role : String) (roles : List String) :
    descend id (role :: roles) = descend (child id role) roles := rfl

@[simp] theorem descend_concat (id role : String) (roles : List String) :
    descend id (roles ++ [role]) = child (descend id roles) role := by
  simp [descend]

theorem toList_child (id role : String) :
    (child id role).toList = id.toList ++ '_' :: '_' :: role.toList := by
  simp [child]

theorem divided_child (id role : String) : Divided (child id role).toList := by
  rw [toList_child]
  exact ⟨id.toList, role.toList, by simp⟩

theorem length_child (id role : String) : id.length < (child id role).length := by
  simp only [child, String.length_append]
  have : "__".length = 2 := rfl
  omega

theorem eq_of_append_eq {a b r s : List Char} (undivided : ¬ Divided r)
    (start : r.head? ≠ some '_')
    (same : a ++ '_' :: '_' :: r = b ++ '_' :: '_' :: s) (le : a.length ≤ b.length) :
    a = b ∧ r = s := by
  obtain ⟨c, rfl, cut⟩ | ⟨c, rfl, cut⟩ := List.append_eq_append_iff.mp same
  · match c, cut with
    | [], cut => exact ⟨by simp, by simpa using cut⟩
    | [_], cut =>
      simp only [List.cons_append, List.nil_append, List.cons.injEq] at cut
      rw [cut.2.2] at start
      exact absurd rfl start
    | _ :: _ :: c, cut =>
      simp only [List.cons_append, List.cons.injEq] at cut
      rw [cut.2.2] at undivided
      exact absurd ⟨c, s, by simp⟩ undivided
  · have nothing : c = [] := by
      rw [← List.length_eq_zero_iff]
      simp only [List.length_append] at le
      omega
    subst nothing
    exact ⟨by simp, by simpa using cut.symm⟩

theorem child_injective {id id' role role' : String} (isRole : IsRole role)
    (isRole' : IsRole role') (same : child id role = child id' role') :
    id = id' ∧ role = role' := by
  have chars := congrArg String.toList same
  rw [toList_child, toList_child] at chars
  have parts : id.toList = id'.toList ∧ role.toList = role'.toList := by
    rcases Nat.le_total id.toList.length id'.toList.length with le | le
    · exact eq_of_append_eq isRole.1 isRole.2 chars le
    · obtain ⟨ids, roles⟩ := eq_of_append_eq isRole'.1 isRole'.2 chars.symm le
      exact ⟨ids.symm, roles.symm⟩
  exact ⟨String.toList_inj.mp parts.1, String.toList_inj.mp parts.2⟩

theorem length_le_descend (id : String) (roles : List String) :
    id.length ≤ (descend id roles).length := by
  induction roles generalizing id with
  | nil => exact Nat.le_refl _
  | cons role roles ih =>
    have step := length_child id role
    have rest := ih (child id role)
    rw [descend_cons]
    omega

theorem descend_ne_self (id role : String) (roles : List String) :
    descend id (role :: roles) ≠ id := by
  intro same
  have step := length_child id role
  have rest := length_le_descend (child id role) roles
  rw [descend_cons] at same
  rw [same] at rest
  omega

theorem divided_descend (id role : String) (roles : List String) :
    Divided (descend id (role :: roles)).toList := by
  rcases List.eq_nil_or_concat (role :: roles) with none | ⟨before, last, split⟩
  · cases none
  · rw [split, List.concat_eq_append, descend_concat]
    exact divided_child _ last

def Apart (id id' : String) : Prop :=
  ∀ role roles, descend id (role :: roles) ≠ id' ∧ descend id' (role :: roles) ≠ id

theorem apart_self (id : String) : Apart id id :=
  fun role roles => ⟨descend_ne_self id role roles, descend_ne_self id role roles⟩

theorem apart_of_hygienic {id id' : String} (h : Hygienic id) (h' : Hygienic id') :
    Apart id id' := by
  intro role roles
  constructor
  · rintro rfl
    exact h' (divided_descend id role roles)
  · rintro rfl
    exact h (divided_descend id' role roles)

theorem descend_injective {id id' : String} (apart : Apart id id') {roles roles' : List String}
    (areRoles : ∀ role ∈ roles, IsRole role) (areRoles' : ∀ role ∈ roles', IsRole role)
    (same : descend id roles = descend id' roles') : id = id' ∧ roles = roles' := by
  induction roles using List.reverseRecOn generalizing roles' with
  | nil =>
    cases roles' with
    | nil => exact ⟨same, rfl⟩
    | cons role' roles' => exact absurd same.symm (apart role' roles').2
  | append_singleton roles role ih =>
    rcases List.eq_nil_or_concat roles' with rfl | ⟨before, role', rfl⟩
    · cases first : roles ++ [role] with
      | nil => simp at first
      | cons head tail =>
        rw [first] at same
        exact absurd same (apart head tail).1
    · rw [List.concat_eq_append] at same areRoles' ⊢
      simp only [List.mem_append, List.mem_singleton] at areRoles areRoles'
      rw [descend_concat, descend_concat] at same
      obtain ⟨ids, rfl⟩ := child_injective (areRoles role (Or.inr rfl))
        (areRoles' role' (Or.inr rfl)) same
      obtain ⟨rfl, rfl⟩ := ih (fun r member => areRoles r (Or.inl member))
        (fun r member => areRoles' r (Or.inl member)) ids
      exact ⟨rfl, rfl⟩

end InnerName
end LightShow
