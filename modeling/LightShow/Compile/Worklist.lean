import LightShow.Compile.Expansion

/-!
The unfolding as a list of work. A turn emits the next waiting node, or puts what it unfolds into
in its place, with one level less.
-/

namespace LightShow

/-- The work between two turns. The reports hold the rules recorded so far, those of the table
    it began with among them. -/
structure Worklist where
  waiting : List (Node × Nat)
  emitted : List Filter
  reports : List Entry

namespace Worklist

inductive Fault where
  | compilation (e : CompileError)
  | levelBelowZero

inductive Turn where
  | next (w : Worklist)
  | ended (r : Run Entry Fault (List Filter))

def lower (budget : Nat) : Except Fault Nat :=
  if budget = 0 then .error .levelBelowZero else .ok (budget - 1)

def push (nodes : List Node) (budget : Nat) (stack : List (Node × Nat)) : List (Node × Nat) :=
  nodes.reverse.foldl (fun stack n => (n, budget) :: stack) stack

def start (nodes : List Node) (limit : Nat) (reports : List Entry) : Worklist :=
  ⟨push nodes limit [], [], reports⟩

section

variable (book : RecipeBook) (scene : UInt32) (limit : Nat)

def unfoldWithin (f : Filter) (budget : Nat) : Stage (List Node) :=
  if budget = 0 then .fail (.expansionDepthExceeded scene f.id limit) else unfold book scene f

def turn (w : Worklist) : Turn :=
  match w.waiting with
  | [] => .ended ⟨w.reports, .ok w.emitted⟩
  | (.concrete f, _) :: rest => .next { w with waiting := rest, emitted := w.emitted ++ [f] }
  | (.composite f, budget) :: rest =>
    let produced := unfoldWithin book scene limit f budget
    let reports := w.reports ++ produced.reports
    match produced.outcome with
    | .error e => .ended ⟨reports, .error (.compilation e)⟩
    | .ok nodes =>
      match lower budget with
      | .error fault => .ended ⟨reports, .error fault⟩
      | .ok less => .next { w with waiting := push nodes less rest, reports }

def after : Nat → Worklist → Turn
  | 0, w => .next w
  | turns + 1, w =>
    match w.turn book scene limit with
    | .next w' => after turns w'
    | .ended r => .ended r

end

end Worklist

end LightShow
