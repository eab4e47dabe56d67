import LightShow.Compile.Folding
import LightShow.Proofs.Outcome
import LightShow.Proofs.Retention

/-!
Calls that change the singletons and the table in place, and calls that answer with what they
would change: they come to the same, and a call that fails leaves everything as it was.
-/

namespace LightShow

open Stage Outcome

namespace Folds

variable {canonical duplicate : Filter}

theorem lead_eq (ports : List String) (st : Folding) :
    lead canonical duplicate ports st = .ok () { st with
      table := st.table.extend (ports.map fun port =>
        ⟨duplicate.output port, canonical.output port⟩) } := by
  induction ports generalizing st with
  | nil => rfl
  | cons port rest ih =>
    have first : record (duplicate.output port) (canonical.output port) st =
        .ok () { st with table :=
          st.table.insert (duplicate.output port) (canonical.output port) } := rfl
    rw [lead, result_bind_of_ok first, ih]
    rfl

theorem substitute_unlike (other : canonical.kind ≠ duplicate.kind) (st : Folding) :
    substitute canonical duplicate st = .error (.unlike canonical duplicate) st := by
  rw [substitute, if_pos other]
  rfl

theorem substitute_undeclared (same : canonical.kind = duplicate.kind) {e : CompileError}
    (undeclared : duplicate.declaredPorts = .error e) (st : Folding) :
    substitute canonical duplicate st = .error e st := by
  have failed : attempt duplicate.declaredPorts st = .error e st := by
    rw [undeclared]
    rfl
  rw [substitute, if_neg (fun other => other same), result_bind_of_error failed]

theorem substitute_declared (same : canonical.kind = duplicate.kind) {ports : Ports}
    (declares : duplicate.declaredPorts = .ok ports) (st : Folding) :
    substitute canonical duplicate st =
      .ok () { st with table := st.table.extend (duplicate.redirect canonical ports) } := by
  have ok : attempt duplicate.declaredPorts st = .ok ports st := by
    rw [declares]
    rfl
  rw [substitute, if_neg (fun other => other same), result_bind_of_ok ok, lead_eq]
  rfl

end Folds

/-- What becomes of a state when a call answers with what it would change. -/
def Folding.ended {α : Type} (st : Folding) (r : Stage (α × Singletons)) :
    EStateM.Result CompileError Folding α :=
  match r.outcome with
  | .ok (a, singletons) => .ok a ⟨singletons, st.table.extend r.rules⟩
  | .error e => .error e st

namespace Folds

variable (scene : UInt32) (st : Folding)

theorem substitute_ended (canonical duplicate : Filter) (note : Note) :
    (substitute canonical duplicate >>= fun _ => pure true : Folds Bool) st =
      st.ended ((LightShow.substitute canonical duplicate).bind fun _ =>
        (tell note).bind fun _ => .answer (true, st.singletons)) := by
  by_cases same : canonical.kind = duplicate.kind
  · cases declares : duplicate.declaredPorts with
    | error e =>
      rw [result_bind_of_error (substitute_undeclared same declares st)]
      simp only [LightShow.substitute, declares, ne_eq, same, not_true_eq_false, if_false]
      rfl
    | ok ports =>
      have told : Answers ((LightShow.substitute canonical duplicate).bind fun _ =>
          (tell note).bind fun _ => .answer (true, st.singletons)) (true, st.singletons)
          (duplicate.redirect canonical ports) := by
        rw [answers_bind]
        exact ⟨(), _, [], (answers_substitute same).mpr ⟨ports, declares, rfl⟩,
          answers_tell_bind.mpr (answers_answer.mpr ⟨rfl, rfl⟩), (List.append_nil _).symm⟩
      rw [result_bind_of_ok (substitute_declared same declares st), Folding.ended, told.1, told.2]
      rfl
  · rw [result_bind_of_error (substitute_unlike same st), LightShow.substitute, if_pos same]
    rfl

/-- Both calls come to the same. -/
theorem offer_eq (n : Node) : offer scene n st = st.ended (st.singletons.offer scene n) := by
  rw [offer, get_bind, Singletons.offer]
  by_cases composite : n.isComposite = true ∨ n.filter.kind.isComposite = true
  · rw [if_pos composite, if_pos composite]
    rfl
  by_cases foreign : scene ≠ st.singletons.scene
  · rw [if_neg composite, if_neg composite, if_pos foreign, if_pos foreign]
    rfl
  by_cases many : (!n.filter.kind.isSingleton) = true
  · rw [if_neg composite, if_neg composite, if_neg foreign, if_neg foreign, if_pos many,
      if_pos many]
    rfl
  rw [if_neg composite, if_neg composite, if_neg foreign, if_neg foreign, if_neg many,
    if_neg many]
  cases found : st.singletons.canonical? n.filter.kind with
  | none => rfl
  | some first =>
    by_cases same : first.id = n.filter.id
    · simp only [if_pos same]
      rfl
    · simp only [if_neg same]
      exact substitute_ended st first n.filter _

end Folds

namespace Folding

variable {st : Folding} {o : Offer}

theorem of_failed {e : CompileError}
    (failed : (st.singletons.offer o.scene o.node).outcome = .error e) :
    st.answer o = .error e ∧ st.take o = st := by
  have same := Folds.offer_eq o.scene st o.node
  rw [ended, failed] at same
  rw [answer, take, same]
  exact ⟨rfl, rfl⟩

theorem of_answers {folded : Bool} {singletons : Singletons} {recorded : List Rule}
    (answers : Answers (st.singletons.offer o.scene o.node) (folded, singletons) recorded) :
    st.answer o = .ok folded ∧ st.take o = ⟨singletons, st.table.extend recorded⟩ := by
  have same := Folds.offer_eq o.scene st o.node
  rw [ended, answers.1, answers.2] at same
  rw [answer, take, same]
  exact ⟨rfl, rfl⟩

theorem take_of_error {e : CompileError} (refused : st.answer o = .error e) : st.take o = st := by
  cases outcome : (st.singletons.offer o.scene o.node).outcome with
  | error cause => exact (of_failed outcome).2
  | ok told =>
    have accepted := (of_answers ⟨outcome, rfl⟩).1
    rw [refused] at accepted
    cases accepted

end Folding
end LightShow
