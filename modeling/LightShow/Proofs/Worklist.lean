import LightShow.Compile.Worklist
import LightShow.Proofs.Expansion

/-!
The work list of the unfolding runs empty after finitely many turns, no turn takes a level where
none is left, and in the end the work has come to what unfolding the nodes depth first comes to.
-/

namespace LightShow

open Stage

namespace Worklist

theorem push_eq (nodes : List Node) (budget : Nat) (stack : List (Node × Nat)) :
    push nodes budget stack = nodes.map (·, budget) ++ stack := by
  induction nodes with
  | nil => rfl
  | cons n rest ih =>
    have last : push (n :: rest) budget stack = (n, budget) :: push rest budget stack := by
      simp [push]
    rw [last, ih]
    rfl

section

variable (book : RecipeBook) (scene : UInt32) (limit : Nat)

/-- What the work comes to when all that waits is unfolded depth first. -/
def yields (w : Worklist) : Stage (List Filter) :=
  Run.bind ⟨w.reports, .ok w.emitted⟩ fun done =>
    (concat (w.waiting.map fun p => expandNode book scene limit p.2 p.1)).bind fun later =>
      .answer (done ++ later)

variable {book scene limit} {stack : List (Node × Nat)} {emitted : List Filter}
  {reports : List Entry}

theorem yields_nil :
    yields book scene limit ⟨[], emitted, reports⟩ = ⟨reports, .ok emitted⟩ := by
  simp [yields, concat, Run.bind, Run.answer]

theorem yields_concrete (f : Filter) (budget : Nat) :
    yields book scene limit ⟨(.concrete f, budget) :: stack, emitted, reports⟩ =
      yields book scene limit ⟨stack, emitted ++ [f], reports⟩ := by
  have alone : expandNode book scene limit budget (.concrete f) = .answer [f] := by
    cases budget <;> rfl
  simp only [yields, List.map_cons, concat_cons, alone, Run.answer_bind, Run.bind_assoc]
  simp [Run.bind]

theorem yields_no_level (f : Filter) :
    yields book scene limit ⟨(.composite f, 0) :: stack, emitted, reports⟩ =
      ⟨reports, .error (.expansionDepthExceeded scene f.id limit)⟩ := by
  simp [yields, concat_cons, expandNode, Run.bind, Run.fail]

theorem yields_of_error {f : Filter} {budget : Nat} {told : List Entry} {e : CompileError}
    (failed : unfold book scene f = ⟨told, .error e⟩) :
    yields book scene limit ⟨(.composite f, budget + 1) :: stack, emitted, reports⟩ =
      ⟨reports ++ told, .error e⟩ := by
  simp [yields, concat_cons, expandNode, failed, Run.bind]

theorem yields_of_ok {f : Filter} {budget : Nat} {told : List Entry} {nodes : List Node}
    (unfolded : unfold book scene f = ⟨told, .ok nodes⟩) :
    yields book scene limit ⟨(.composite f, budget + 1) :: stack, emitted, reports⟩ =
      yields book scene limit ⟨push nodes budget stack, emitted, reports ++ told⟩ := by
  simp only [yields, push_eq, List.map_cons, List.map_append, List.map_map, Function.comp_def,
    concat_cons, concat_append, expandNode, Run.bind_eq, unfolded, Run.bind_assoc]
  simp [Run.bind]

variable (book scene limit)

theorem turn_cases (w : Worklist) :
    (∃ w', w.turn book scene limit = .next w' ∧
      w'.yields book scene limit = w.yields book scene limit ∧
      Pending.Shrinks ⟨w'.waiting⟩ ⟨w.waiting⟩) ∨
    w.turn book scene limit = .ended ((w.yields book scene limit).mapError .compilation) := by
  obtain ⟨waiting, emitted, reports⟩ := w
  match waiting with
  | [] =>
    right
    rw [yields_nil]
    rfl
  | (.concrete f, budget) :: rest =>
    left
    exact ⟨_, rfl, (yields_concrete f budget).symm, .drop _ budget rest⟩
  | (.composite f, 0) :: rest =>
    right
    rw [yields_no_level]
    simp only [turn, unfoldWithin, if_pos, Run.fail, List.append_nil]
    rfl
  | (.composite f, budget + 1) :: rest =>
    cases unfolded : unfold book scene f with
    | mk told outcome =>
      cases outcome with
      | error e =>
        right
        rw [yields_of_error unfolded]
        simp only [turn, unfoldWithin, if_neg budget.succ_ne_zero, unfolded]
        rfl
      | ok nodes =>
        left
        have goes :
            turn book scene limit ⟨(.composite f, budget + 1) :: rest, emitted, reports⟩ =
              .next ⟨push nodes budget rest, emitted, reports ++ told⟩ := by
          simp [turn, unfoldWithin, unfolded, lower]
        refine ⟨_, goes, (yields_of_ok unfolded).symm, ?_⟩
        rw [push_eq]
        apply Pending.Shrinks.pop
        intro p pushed
        obtain ⟨n, -, rfl⟩ := List.mem_map.mp pushed
        exact Nat.lt_succ_self budget

theorem exists_after_eq_ended (w : Worklist) : ∃ turns,
    w.after book scene limit turns =
      .ended ((w.yields book scene limit).mapError .compilation) := by
  generalize here : (⟨w.waiting⟩ : Pending) = p
  induction Pending.acc p generalizing w with
  | intro p _ ih =>
    subst here
    rcases turn_cases book scene limit w with ⟨w', goes, same, smaller⟩ | ends
    · obtain ⟨turns, later⟩ := ih _ smaller w' rfl
      refine ⟨turns + 1, ?_⟩
      rw [after, goes, ← same]
      exact later
    · refine ⟨1, ?_⟩
      rw [after, ends]

end

end Worklist

/-- The work list unfolds depth first, each node with all that is in it before the next one.
    Begun with any table, the work ends after finitely many turns, without ever taking a level
    below zero, with the filters or the first error of the recursion, and has added the
    recursion's rules to the table in the same order. -/
theorem expansion_is_depth_first (book : RecipeBook) (scene : UInt32) (limit : Nat)
    (nodes : List Node) (before : List Entry) :
    let depthFirst := concat (nodes.map (expandNode book scene limit limit))
    expand book scene limit nodes = depthFirst ∧
    ∃ turns, (Worklist.start nodes limit before).after book scene limit turns =
      .ended ⟨before ++ depthFirst.reports, depthFirst.outcome.mapError .compilation⟩ := by
  intro depthFirst
  have whole : (Worklist.start nodes limit before).yields book scene limit =
      ⟨before ++ depthFirst.reports, depthFirst.outcome⟩ := by
    have waiting : (Worklist.push nodes limit []).map
        (fun p => expandNode book scene limit p.2 p.1) =
          nodes.map (expandNode book scene limit limit) := by
      simp [Worklist.push_eq, Function.comp_def]
    simp only [Worklist.start, Worklist.yields, waiting]
    rw [Run.bind_of_ok rfl]
    simp [depthFirst]
  constructor
  · exact expand_concat book scene limit nodes
  · obtain ⟨turns, ends⟩ := Worklist.exists_after_eq_ended book scene limit
      (.start nodes limit before)
    rw [whole] at ends
    exact ⟨turns, ends⟩

end LightShow
