import LightShow.Compile.Substitution
import LightShow.Proofs.Outcome
import LightShow.Proofs.OrderedMap

/-!
Following rules: a reference without a rule stands for itself, and a reference whose rules
end soon enough is resolved.
-/

namespace LightShow.Substitution

open OrderedMap

variable {t : Substitution} {r : OutputRef}

theorem chase_of_none (fuel : Nat) (ended : t.get? r = none) :
    t.chase (fuel + 1) r = .ok r := by
  simp [chase, ended]

theorem chase_of_some (fuel : Nat) {next : OutputRef} (ruled : t.get? r = some next) :
    t.chase (fuel + 1) r = (t.chase fuel next).mapError (r :: ·) := by
  simp [chase, ruled]

theorem chase_of_step {fuel : Nat} {next final : OutputRef} (ruled : t.get? r = some next)
    (rest : t.chase fuel next = .ok final) : t.chase (fuel + 1) r = .ok final := by
  rw [chase_of_some fuel ruled, rest]
  rfl

theorem chase_mono {fuel more : Nat} {final : OutputRef} (done : t.chase fuel r = .ok final)
    (le : fuel ≤ more) : t.chase more r = .ok final := by
  induction fuel generalizing r more with
  | zero => cases done
  | succ fuel ih =>
    obtain ⟨more, rfl⟩ : ∃ m, more = m + 1 := ⟨more - 1, by omega⟩
    cases ruled : t.get? r with
    | none =>
      rw [chase_of_none fuel ruled] at done
      rw [chase_of_none more ruled, done]
    | some next =>
      rw [chase_of_some fuel ruled] at done
      cases rest : t.chase fuel next with
      | error chain => simp [rest, Except.mapError] at done
      | ok found =>
        rw [rest] at done
        cases done
        exact chase_of_step ruled (ih rest (Nat.le_of_succ_le_succ le))

theorem get?_of_chase {fuel : Nat} {final : OutputRef} (done : t.chase fuel r = .ok final) :
    t.get? final = none := by
  induction fuel generalizing r with
  | zero => cases done
  | succ fuel ih =>
    cases ruled : t.get? r with
    | none =>
      rw [chase_of_none fuel ruled] at done
      cases done
      exact ruled
    | some next =>
      rw [chase_of_some fuel ruled] at done
      cases rest : t.chase fuel next with
      | error chain => simp [rest, Except.mapError] at done
      | ok found =>
        rw [rest] at done
        cases done
        exact ih rest

theorem resolve_eq_ok_iff {limit : Nat} {final : OutputRef} :
    t.resolve limit r = .ok final ↔ t.chase (limit + 1) r = .ok final :=
  Outcome.mapError_eq_ok_iff

theorem resolve_self_iff (limit : Nat) : t.resolve limit r = .ok r ↔ t.get? r = none := by
  rw [resolve_eq_ok_iff]
  exact ⟨get?_of_chase, chase_of_none limit⟩

/-- That many rules, one after another, lead from one reference to another. -/
inductive Follows (t : Substitution) : Nat → OutputRef → OutputRef → Prop where
  | here (r : OutputRef) : Follows t 0 r r
  | step {n : Nat} {r next final : OutputRef} (ruled : t.get? r = some next)
      (rest : Follows t n next final) : Follows t (n + 1) r final

theorem Follows.mono {t' : Substitution} {n : Nat} {final : OutputRef}
    (more : ∀ r target, t.get? r = some target → t'.get? r = some target)
    (follows : t.Follows n r final) : t'.Follows n r final := by
  induction follows with
  | here r => exact .here r
  | step ruled rest ih => exact .step (more _ _ ruled) ih

/-- The rules that start at `r` end at `final`, after at most `limit` of them. -/
def EndsAt (t : Substitution) (limit : Nat) (r final : OutputRef) : Prop :=
  (∃ n, n ≤ limit ∧ t.Follows n r final) ∧ t.get? final = none

theorem exists_follows_of_chase {fuel : Nat} {final : OutputRef}
    (done : t.chase fuel r = .ok final) : ∃ n, n < fuel ∧ t.Follows n r final := by
  induction fuel generalizing r with
  | zero => cases done
  | succ fuel ih =>
    cases ruled : t.get? r with
    | none =>
      rw [chase_of_none fuel ruled] at done
      cases done
      exact ⟨0, Nat.succ_pos fuel, .here _⟩
    | some next =>
      rw [chase_of_some fuel ruled] at done
      obtain ⟨n, few, rest⟩ := ih (Outcome.mapError_eq_ok_iff.mp done)
      exact ⟨n + 1, Nat.succ_lt_succ few, .step ruled rest⟩

theorem chase_of_follows {n : Nat} {final : OutputRef} (follows : t.Follows n r final)
    (ended : t.get? final = none) : t.chase (n + 1) r = .ok final := by
  induction follows with
  | here r => exact chase_of_none 0 ended
  | step ruled _ ih => exact chase_of_step ruled (ih ended)

theorem resolve_eq_ok_iff_endsAt {limit : Nat} {final : OutputRef} :
    t.resolve limit r = .ok final ↔ t.EndsAt limit r final := by
  rw [resolve_eq_ok_iff]
  constructor
  · intro done
    obtain ⟨n, few, follows⟩ := exists_follows_of_chase done
    exact ⟨⟨n, Nat.le_of_lt_succ few, follows⟩, get?_of_chase done⟩
  · intro ends
    obtain ⟨⟨n, few, follows⟩, ended⟩ := ends
    exact chase_mono (chase_of_follows follows ended) (Nat.succ_le_succ few)

theorem get?_extend_of_mem {rules : List Rule} {rule : Rule}
    (distinct : (rules.map Rule.source).Nodup) (member : rule ∈ rules) :
    (t.extend rules).get? rule.source = some rule.target := by
  apply get?_insertAll_of_mem
  · simpa [Function.comp_def] using distinct
  · exact List.mem_map.mpr ⟨rule, member, rfl⟩

theorem extend_append (t : Substitution) (rules later : List Rule) :
    t.extend (rules ++ later) = (t.extend rules).extend later := by
  unfold extend insertAll
  rw [List.map_append, List.foldl_append]

theorem get?_extend_of_absent {rules : List Rule} (absent : ∀ rule ∈ rules, rule.source ≠ r) :
    (t.extend rules).get? r = t.get? r := by
  refine get?_insertAll_of_not_mem ?_
  rw [List.map_map]
  rintro listed
  obtain ⟨rule, member, same⟩ := List.mem_map.mp listed
  exact absent rule member same

theorem exists_get?_extend {rules : List Rule} {rule : Rule} (member : rule ∈ rules) :
    ∃ target, (t.extend rules).get? rule.source = some target ∧
      ⟨rule.source, target⟩ ∈ rules := by
  have among : rule.source ∈ (rules.map fun r => (r.source, r.target)).map Prod.fst := by
    rw [List.map_map]
    exact List.mem_map_of_mem member
  obtain ⟨target, found⟩ :=
    exists_get?_of_mem_keys (mem_keys_insertAll (m := t).mpr (Or.inr among))
  refine ⟨target, found, ?_⟩
  rcases mem_or_get?_of_insertAll found with listed | ⟨absent, -⟩
  · obtain ⟨other, member, same⟩ := List.mem_map.mp listed
    obtain ⟨sources, targets⟩ := Prod.mk.inj same
    rw [← sources, ← targets]
    exact member
  · exact absurd among absent

theorem get?_extend_empty_eq_none_iff {rules : List Rule} :
    (extend ∅ rules).get? r = none ↔ ∀ rule ∈ rules, rule.source ≠ r := by
  rw [get?_eq_none_iff, extend, mem_keys_insertAll]
  simp [OrderedMap.keys]

theorem keys_extend_empty {rules : List Rule} (distinct : (rules.map Rule.source).Nodup) :
    (extend ∅ rules).keys = rules.map Rule.source := by
  have apart : ((rules.map fun r => (r.source, r.target)).map Prod.fst).Nodup := by
    rw [List.map_map]
    exact distinct
  rw [OrderedMap.keys, extend, ← ofList, entries_ofList apart, List.map_map]
  rfl

end LightShow.Substitution
