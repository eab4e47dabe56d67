import Mathlib.Data.List.Chain
import Mathlib.Data.List.NodupEquivFin
import LightShow.Proofs.Substitution

/-!
When references cannot be resolved. The error holds all references met on the way. If the limit
is no smaller than the table, so many cannot be met without meeting one of them twice, and rules
that come back to a reference never end.
-/

namespace LightShow.Substitution

open OrderedMap

variable {t : Substitution} {r x y final : OutputRef} {m n : Nat}

theorem Follows.le_of_ended (whole : t.Follows n r final) (ended : t.get? final = none)
    (follows : t.Follows m r x) : m ≤ n := by
  induction follows generalizing n with
  | here r => exact Nat.zero_le n
  | step ruled rest ih =>
    cases whole with
    | here r =>
      rw [ended] at ruled
      cases ruled
    | step ruled' whole =>
      rw [ruled] at ruled'
      cases ruled'
      have less := ih whole
      omega

theorem Follows.unique (follows : t.Follows n r x) (again : t.Follows n r y) : x = y := by
  induction follows with
  | here r =>
    cases again
    rfl
  | step ruled rest ih =>
    cases again with
    | step ruled' rest' =>
      rw [ruled] at ruled'
      cases ruled'
      exact ih rest'

theorem Follows.rest (whole : t.Follows n r final) (le : m ≤ n) (follows : t.Follows m r x) :
    t.Follows (n - m) x final := by
  induction follows generalizing n with
  | here r => exact whole
  | step ruled rest ih =>
    cases whole with
    | here r => omega
    | step ruled' whole =>
      rw [ruled] at ruled'
      cases ruled'
      rw [Nat.add_sub_add_right]
      exact ih whole (by omega)

/-- The rules that start at `r` meet some reference twice. -/
def Revisits (t : Substitution) (r : OutputRef) : Prop :=
  ∃ m n x, m < n ∧ t.Follows m r x ∧ t.Follows n r x

theorem Revisits.not_endsAt (revisits : t.Revisits r) (limit : Nat) (final : OutputRef) :
    ¬ t.EndsAt limit r final := by
  obtain ⟨m, n, x, later, first, second⟩ := revisits
  intro ends
  obtain ⟨⟨k, -, whole⟩, ended⟩ := ends
  have reached : n ≤ k := whole.le_of_ended ended second
  have far : t.Follows (k - m) x final := whole.rest (by omega) first
  have near : t.Follows (k - n) x final := whole.rest reached second
  have shorter : k - m ≤ k - n := near.le_of_ended ended far
  omega

/-- The references start at `r`, and each is the table's replacement of the one before. -/
def Trail (t : Substitution) (r : OutputRef) (chain : List OutputRef) : Prop :=
  chain.head? = some r ∧ chain.IsChain fun a b => t.get? a = some b

variable {chain : List OutputRef}

theorem trail_of_chase {fuel : Nat} (failed : t.chase fuel r = .error chain) :
    t.Trail r chain ∧ chain.length = fuel + 1 := by
  induction fuel generalizing r chain with
  | zero =>
    cases failed
    exact ⟨⟨rfl, .singleton r⟩, rfl⟩
  | succ fuel ih =>
    cases ruled : t.get? r with
    | none =>
      rw [chase_of_none fuel ruled] at failed
      cases failed
    | some next =>
      rw [chase_of_some fuel ruled] at failed
      obtain ⟨rest, later, rfl⟩ := Outcome.mapError_eq_error_iff.mp failed
      obtain ⟨⟨starts, linked⟩, length⟩ := ih later
      refine ⟨⟨rfl, List.isChain_cons.mpr ⟨?_, linked⟩⟩, ?_⟩
      · intro second among
        rw [starts] at among
        cases among
        exact ruled
      · rw [List.length_cons, length]

theorem Trail.follows (trail : t.Trail r chain) {i : Nat} (met : chain[i]? = some x) :
    t.Follows i r x := by
  induction i generalizing r chain with
  | zero =>
    have starts := trail.1
    rw [List.head?_eq_getElem?, met] at starts
    cases starts
    exact .here _
  | succ i ih =>
    obtain ⟨starts, linked⟩ := trail
    cases chain with
    | nil => cases starts
    | cons first rest =>
      cases starts
      cases rest with
      | nil => cases met
      | cons second others =>
        obtain ⟨ruled, linked⟩ := List.isChain_cons_cons.mp linked
        exact .step ruled (ih ⟨rfl, linked⟩ met)

theorem Trail.unique (trail : t.Trail r chain) {other : List OutputRef}
    (again : t.Trail r other) (same : chain.length = other.length) : chain = other := by
  apply List.ext_getElem same
  intro i inside inside'
  have met := trail.follows (List.getElem?_eq_getElem inside)
  exact met.unique (again.follows (List.getElem?_eq_getElem inside'))

theorem Trail.dropLast_subset (trail : t.Trail r chain) : chain.dropLast ⊆ t.keys := by
  intro x member
  obtain ⟨i, inside, rfl⟩ := List.mem_iff_getElem.mp member
  rw [List.length_dropLast] at inside
  have ruled := List.isChain_iff_getElem.mp trail.2 i (by omega)
  rw [List.getElem_dropLast]
  exact mem_keys_of_get? ruled

/-- A trail longer than the table can account for meets a reference twice. -/
theorem Trail.revisits (trail : t.Trail r chain) (long : t.size + 1 < chain.length) :
    t.Revisits r := by
  by_contra once
  have distinct : chain.dropLast.Nodup := by
    rw [List.nodup_iff_getElem?_ne_getElem?]
    intro i j before inside same
    rw [List.length_dropLast] at inside
    rw [List.getElem?_dropLast, List.getElem?_dropLast, if_pos (by omega), if_pos inside] at same
    have met := List.getElem?_eq_getElem (show j < chain.length by omega)
    exact once ⟨i, j, chain[j], before, trail.follows (same.trans met), trail.follows met⟩
  have few := distinct.length_le_of_subset trail.dropLast_subset
  rw [List.length_dropLast, OrderedMap.keys, List.length_map] at few
  unfold OrderedMap.size at long
  omega

theorem exists_trail_of_resolve {limit : Nat} {e : CompileError}
    (failed : t.resolve limit r = .error e) :
    ∃ chain, e = .cyclicSubstitution chain ∧ t.Trail r chain ∧ chain.length = limit + 2 := by
  obtain ⟨chain, endless, rfl⟩ := Outcome.mapError_eq_error_iff.mp failed
  obtain ⟨trail, length⟩ := trail_of_chase endless
  exact ⟨chain, rfl, trail, length⟩

theorem resolve_eq_error_iff {limit : Nat} {e : CompileError} :
    t.resolve limit r = .error e ↔
      (∀ final, ¬ t.EndsAt limit r final) ∧
        ∃ chain, e = .cyclicSubstitution chain ∧ t.Trail r chain ∧
          chain.length = limit + 2 := by
  constructor
  · intro failed
    refine ⟨?_, exists_trail_of_resolve failed⟩
    intro final ends
    rw [resolve_eq_ok_iff_endsAt.mpr ends] at failed
    cases failed
  · intro refused
    obtain ⟨endless, chain, rfl, trail, length⟩ := refused
    cases resolved : t.resolve limit r with
    | ok final => exact absurd (resolve_eq_ok_iff_endsAt.mp resolved) (endless final)
    | error e =>
      obtain ⟨met, rfl, trail', length'⟩ := exists_trail_of_resolve resolved
      rw [trail'.unique trail (length'.trans length.symm)]

/-- A reference is resolved to where its rules end, if they end within the limit, and is refused
    with the trail of one step more otherwise. With a limit no smaller than the table it is
    refused only if its rules go round in a circle. What was resolved resolves to itself. -/
theorem resolution_is_exact (t : Substitution) (limit : Nat) (r : OutputRef) :
    (∀ final, t.resolve limit r = .ok final ↔ t.EndsAt limit r final) ∧
    ((∀ final, ¬ t.EndsAt limit r final) → ∃ chain,
      t.resolve limit r = .error (.cyclicSubstitution chain) ∧
        t.Trail r chain ∧ chain.length = limit + 2) ∧
    (t.size ≤ limit → ((∃ e, t.resolve limit r = .error e) ↔ t.Revisits r)) ∧
    ∀ final, t.resolve limit r = .ok final → ∀ again, t.resolve again final = .ok final := by
  have refused :
      (∀ final, ¬ t.EndsAt limit r final) → ∃ e, t.resolve limit r = .error e := by
    intro endless
    cases resolved : t.resolve limit r with
    | ok final => exact absurd (resolve_eq_ok_iff_endsAt.mp resolved) (endless final)
    | error e => exact ⟨e, rfl⟩
  refine ⟨fun final => resolve_eq_ok_iff_endsAt, ?_, ?_, ?_⟩
  · intro endless
    obtain ⟨e, failed⟩ := refused endless
    obtain ⟨chain, rfl, trail, length⟩ := exists_trail_of_resolve failed
    exact ⟨chain, failed, trail, length⟩
  · intro enough
    constructor
    · intro fails
      obtain ⟨e, failed⟩ := fails
      obtain ⟨chain, -, trail, length⟩ := exists_trail_of_resolve failed
      exact trail.revisits (by omega)
    · intro revisits
      exact refused (revisits.not_endsAt limit)
  · intro final resolved again
    have ends := resolve_eq_ok_iff_endsAt.mp resolved
    exact (resolve_self_iff again).mpr ends.2

end LightShow.Substitution
