import LightShow.Compile.Substitution

/-!
What a stage of a compilation says when it succeeds: its answer and the rules it recorded.
Notes to the operator are left aside.
-/

namespace LightShow.Stage

variable {α β : Type}

def rules (r : Stage α) : List Rule := r.reports.filterMap Entry.rule?

/-- The stage succeeds with this answer and these rules. -/
def Answers (r : Stage α) (a : α) (recorded : List Rule) : Prop :=
  r.outcome = .ok a ∧ r.rules = recorded

theorem answers_of_outcome {r : Stage α} {a : α} (ok : r.outcome = .ok a) :
    r.Answers a r.rules :=
  ⟨ok, rfl⟩

@[simp] theorem answers_answer {a b : α} {recorded : List Rule} :
    Answers (.answer a) b recorded ↔ b = a ∧ recorded = [] := by
  simp only [Answers, Run.answer, rules, List.filterMap_nil, Except.ok.injEq]
  exact ⟨fun h => ⟨h.1.symm, h.2.symm⟩, fun h => ⟨h.1.symm, h.2.symm⟩⟩

@[simp] theorem not_answers_fail {e : CompileError} {a : α} {recorded : List Rule} :
    ¬ Answers (.fail e) a recorded := by
  intro h
  simp [Answers, Run.fail] at h

@[simp] theorem answers_ofExcept {r : Except CompileError α} {a : α} {recorded : List Rule} :
    Answers (.ofExcept r) a recorded ↔ r = .ok a ∧ recorded = [] := by
  simp only [Answers, Run.ofExcept, rules, List.filterMap_nil]
  exact ⟨fun h => ⟨h.1, h.2.symm⟩, fun h => ⟨h.1, h.2.symm⟩⟩

@[simp] theorem answers_record {source target : OutputRef} {a : Unit} {recorded : List Rule} :
    Answers (record source target) a recorded ↔ recorded = [⟨source, target⟩] := by
  exact ⟨fun h => h.2.symm, fun h => ⟨rfl, h.symm⟩⟩

@[simp] theorem answers_tell {n : Note} {a : Unit} {recorded : List Rule} :
    Answers (tell n) a recorded ↔ recorded = [] := by
  exact ⟨fun h => h.2.symm, fun h => ⟨rfl, h.symm⟩⟩

theorem answers_bind {r : Stage α} {next : α → Stage β} {b : β} {recorded : List Rule} :
    Answers (r.bind next) b recorded ↔
      ∃ a first later, r.Answers a first ∧ (next a).Answers b later ∧
        recorded = first ++ later := by
  cases h : r.outcome with
  | error e =>
    rw [Run.bind_of_error h]
    constructor
    · rintro ⟨impossible, -⟩
      cases impossible
    · rintro ⟨a, first, later, ⟨ok, -⟩, -, -⟩
      rw [h] at ok
      cases ok
  | ok a =>
    rw [Run.bind_of_ok h]
    constructor
    · rintro ⟨ok, rfl⟩
      exact ⟨a, r.rules, (next a).rules, ⟨h, rfl⟩, ⟨ok, rfl⟩, by simp [rules]⟩
    · rintro ⟨a', first, later, ⟨ok, rfl⟩, ⟨ok', rfl⟩, rfl⟩
      have same : a = a' := by simpa [h] using ok
      subst same
      exact ⟨ok', by simp [rules]⟩

@[simp] theorem answers_ofExcept_bind {r : Except CompileError α} {next : α → Stage β} {b : β}
    {recorded : List Rule} :
    Answers ((Run.ofExcept r).bind next) b recorded ↔
      ∃ a, r = .ok a ∧ (next a).Answers b recorded := by
  rw [answers_bind]
  constructor
  · rintro ⟨a, first, later, answered, after, rfl⟩
    obtain ⟨ok, rfl⟩ := answers_ofExcept.mp answered
    exact ⟨a, ok, after⟩
  · rintro ⟨a, ok, after⟩
    exact ⟨a, [], recorded, answers_ofExcept.mpr ⟨ok, rfl⟩, after, rfl⟩

@[simp] theorem answers_tell_bind {n : Note} {next : Unit → Stage β} {b : β}
    {recorded : List Rule} :
    Answers ((tell n).bind next) b recorded ↔ (next ()).Answers b recorded := by
  rw [answers_bind]
  constructor
  · rintro ⟨_, first, later, told, after, rfl⟩
    rw [answers_tell.mp told]
    exact after
  · intro after
    exact ⟨(), [], recorded, answers_tell.mpr rfl, after, rfl⟩

@[simp] theorem answers_bind_answer {r : Stage α} {g : α → β} {b : β} {recorded : List Rule} :
    Answers (r.bind fun a => .answer (g a)) b recorded ↔
      ∃ a, r.Answers a recorded ∧ b = g a := by
  rw [answers_bind]
  constructor
  · rintro ⟨a, first, later, answered, after, rfl⟩
    obtain ⟨rfl, rfl⟩ := answers_answer.mp after
    exact ⟨a, by simpa using answered, rfl⟩
  · rintro ⟨a, answered, rfl⟩
    exact ⟨a, recorded, [], answered, answers_answer.mpr ⟨rfl, rfl⟩, by simp⟩

end LightShow.Stage
