import LightShow.Compile.Expansion
import LightShow.Proofs.Stage

/-!
What unfolding the nodes of a scene yields: the filters that stand at the end, the composite
filters met on the way, and one rule for each output of each of them.
-/

namespace LightShow

open Stage

namespace Stage

variable {α : Type}

theorem concat_append (xs ys : List (Stage (List α))) :
    concat (xs ++ ys) = (concat xs).bind fun first =>
      (concat ys).bind fun later => .answer (first ++ later) := by
  induction xs with
  | nil => simp [concat]
  | cons x xs ih => simp [concat, ih, Run.bind_assoc]

theorem concat_cons (x : Stage (List α)) (xs : List (Stage (List α))) :
    concat (x :: xs) = x.bind fun first =>
      (concat xs).bind fun later => .answer (first ++ later) := by
  simp [concat]

end Stage

section

variable (book : RecipeBook) (scene : UInt32) (limit : Nat)

theorem expandPending_concat (waiting : Pending) :
    expandPending book scene limit waiting =
      concat (waiting.stack.map fun p => expandNode book scene limit p.2 p.1) := by
  fun_induction expandPending book scene limit waiting with
  | case1 => rfl
  | case2 f budget rest ih => simp [ih, concat_cons, expandNode]
  | case3 f rest => simp [concat_cons, expandNode, Run.bind, Run.fail]
  | case4 f budget rest ih =>
    simp only [List.map_cons, concat_cons, expandNode, Run.bind_eq, Run.bind_assoc]
    congr 1
    funext nodes
    rw [ih nodes, List.map_append, concat_append]
    simp [Function.comp_def]

theorem expand_concat (nodes : List Node) :
    expand book scene limit nodes = concat (nodes.map (expandNode book scene limit limit)) := by
  simp [expand, expandPending_concat, Function.comp_def]

theorem expand_singleton (n : Node) :
    expand book scene limit [n] = expandNode book scene limit limit n := by
  rw [expand_concat]
  simp [concat_cons, concat]

end

namespace RecipeBook

variable (book : RecipeBook)

def inner (f : Filter) : List Node :=
  match book.recipe? f.kind with
  | none => []
  | some recipe => (recipe.nodes f).toOption.getD []

def offered (f : Filter) : List String :=
  match book.recipe? f.kind with
  | none => []
  | some recipe => ((recipe.outputs f).toOption.map OrderedMap.keys).getD []

def source? (f : Filter) (port : String) : Option OutputRef :=
  (book.recipe? f.kind).bind fun recipe => recipe.source? f port

def rules (f : Filter) : List Rule :=
  (book.offered f).filterMap fun port => (book.source? f port).map fun r => ⟨f.output port, r⟩

/-- All that must be in order for a composite filter to be unfolded. -/
structure Unfolds (f : Filter) (recipe : Recipe) (ports : Ports) : Prop where
  registered : book.recipe? f.kind = some recipe
  declares : f.declaredPorts = .ok ports
  linked : ∀ port ∈ f.links.keys, ports.inputs.contains port = true
  nodes : recipe.nodes f = .ok (book.inner f)
  outputs : ∃ outputs, recipe.outputs f = .ok outputs ∧ outputs.keys = book.offered f
  sources : ∀ port ∈ book.offered f, (book.source? f port).isSome

/-- The composite filters met while a node is unfolded, each before those in it. -/
def compositesIn : Nat → Node → List Filter
  | _, .concrete _ => []
  | 0, .composite _ => []
  | budget + 1, .composite f => f :: (book.inner f).flatMap (compositesIn budget)

/-- The concrete filters that a node stands for in the end. -/
def concretesIn : Nat → Node → List Filter
  | _, .concrete f => [f]
  | 0, .composite _ => []
  | budget + 1, .composite f => (book.inner f).flatMap (concretesIn budget)

theorem mem_concretesIn_concrete (budget : Nat) (f : Filter) :
    f ∈ book.concretesIn budget (.concrete f) := by
  cases budget <;> exact List.mem_cons_self

/-- The budget suffices for a node, and every composite filter met can be unfolded. -/
def Expandable : Nat → Node → Prop
  | _, .concrete _ => True
  | 0, .composite _ => False
  | budget + 1, .composite f =>
    (∃ recipe ports, book.Unfolds f recipe ports) ∧ ∀ n ∈ book.inner f, Expandable budget n

theorem Expandable.mem_compositesIn {book : RecipeBook} {budget : Nat} {n : Node}
    (expandable : book.Expandable budget n) (composite : n.isComposite = true) :
    n.filter ∈ book.compositesIn budget n := by
  cases n with
  | concrete f => cases composite
  | composite f =>
    cases budget with
    | zero => exact expandable.elim
    | succ budget => exact List.mem_cons_self

end RecipeBook

theorem answers_recordOutputs {recipe : Recipe} {f : Filter} {names : List String} {a : Unit}
    {recorded : List Rule} :
    Answers (recordOutputs recipe f names) a recorded ↔
      (∀ port ∈ names, (recipe.source? f port).isSome) ∧
        recorded = names.filterMap fun port =>
          (recipe.source? f port).map fun r => ⟨f.output port, r⟩ := by
  induction names generalizing recorded with
  | nil => simp [recordOutputs]
  | cons port rest ih =>
    cases found : recipe.source? f port with
    | none => simp [recordOutputs, found]
    | some target =>
      simp only [recordOutputs, found, Run.bind_eq, answers_bind, answers_record, ih]
      constructor
      · rintro ⟨_, _, later, rfl, ⟨sources, rfl⟩, rfl⟩
        simpa [found] using sources
      · rintro ⟨sources, rfl⟩
        refine ⟨(), _, _, rfl, ⟨fun p hp => sources p (List.mem_cons_of_mem port hp), rfl⟩,
          ?_⟩
        simp [found]

theorem answers_unfold {book : RecipeBook} {scene : UInt32} {f : Filter} {nodes : List Node}
    {recorded : List Rule} :
    Answers (unfold book scene f) nodes recorded ↔
      (∃ recipe ports, book.Unfolds f recipe ports) ∧ nodes = book.inner f ∧
        recorded = book.rules f := by
  cases found : book.recipe? f.kind with
  | none =>
    simp only [unfold, found, not_answers_fail, false_iff]
    rintro ⟨⟨recipe, ports, unfolds⟩, -⟩
    have registered := unfolds.registered
    rw [found] at registered
    cases registered
  | some recipe =>
    have source : book.source? f = recipe.source? f := by
      funext port
      simp [RecipeBook.source?, found]
    simp only [unfold, found, Run.bind_eq, answers_ofExcept_bind]
    constructor
    · rintro ⟨ports, declares, answered⟩
      split at answered
      · exact absurd answered not_answers_fail
      · rename_i linked
        simp only [Run.pure_eq, answers_ofExcept_bind] at answered
        obtain ⟨inner, nodesOk, outputs, outputsOk, answered⟩ := answered
        obtain ⟨_, _, _, taken, told, rfl⟩ := answers_bind.mp answered
        obtain ⟨sources, rfl⟩ := answers_recordOutputs.mp taken
        have ended := answers_tell_bind.mp told
        obtain ⟨rfl, rfl⟩ := answers_answer.mp ended
        have innerEq : book.inner f = nodes := by
          simp [RecipeBook.inner, found, nodesOk, Except.toOption]
        have offeredEq : book.offered f = outputs.keys := by
          simp [RecipeBook.offered, found, outputsOk, Except.toOption]
        refine ⟨⟨recipe, ports, ⟨found, declares, ?_, ?_, ?_, ?_⟩⟩, innerEq.symm, ?_⟩
        · intro port member
          simpa using List.find?_eq_none.mp linked port member
        · rw [innerEq]
          exact nodesOk
        · exact ⟨outputs, outputsOk, offeredEq.symm⟩
        · rw [offeredEq, source]
          exact sources
        · simp [RecipeBook.rules, offeredEq, source]
    · rintro ⟨⟨recipe', ports, unfolds⟩, rfl, rfl⟩
      have same : recipe = recipe' := by simpa [found] using unfolds.registered
      subst same
      obtain ⟨outputs, outputsOk, offeredEq⟩ := unfolds.outputs
      have linked : f.links.keys.find? (fun port => !ports.inputs.contains port) = none := by
        rw [List.find?_eq_none]
        intro port member
        simpa using unfolds.linked port member
      have taken : Answers (recordOutputs recipe f outputs.keys) () (book.rules f) := by
        have sources := unfolds.sources
        rw [← offeredEq, source] at sources
        rw [answers_recordOutputs]
        exact ⟨sources, by simp [RecipeBook.rules, offeredEq, source]⟩
      refine ⟨ports, unfolds.declares, ?_⟩
      simp only [linked, Run.pure_eq, answers_ofExcept_bind]
      refine ⟨book.inner f, unfolds.nodes, outputs, outputsOk, ?_⟩
      exact answers_bind.mpr ⟨(), _, [], taken,
        answers_tell_bind.mpr (answers_answer.mpr ⟨rfl, rfl⟩), by simp⟩

theorem answers_concat_map {α β : Type} {xs : List β} {run : β → Stage (List α)}
    {good : β → Prop} {answer : β → List α} {written : β → List Rule}
    (each : ∀ x ∈ xs, ∀ as recorded, (run x).Answers as recorded ↔
      good x ∧ as = answer x ∧ recorded = written x) {as : List α} {recorded : List Rule} :
    Answers (concat (xs.map run)) as recorded ↔
      (∀ x ∈ xs, good x) ∧ as = xs.flatMap answer ∧ recorded = xs.flatMap written := by
  induction xs generalizing as recorded with
  | nil => simp [concat]
  | cons x xs ih =>
    have others := fun y member => each y (List.mem_cons_of_mem x member)
    rw [List.map_cons, concat_cons, answers_bind]
    simp only [answers_bind_answer]
    constructor
    · rintro ⟨_, _, _, now, ⟨_, later, rfl⟩, rfl⟩
      obtain ⟨good, rfl, rfl⟩ := (each x (by simp) _ _).mp now
      obtain ⟨goods, rfl, rfl⟩ := (ih others).mp later
      exact ⟨List.forall_mem_cons.mpr ⟨good, goods⟩, rfl, rfl⟩
    · rintro ⟨goods, rfl, rfl⟩
      obtain ⟨good, goods⟩ := List.forall_mem_cons.mp goods
      have now := (each x (by simp) _ _).mpr ⟨good, rfl, rfl⟩
      have later := (ih others).mpr ⟨goods, rfl, rfl⟩
      exact ⟨_, _, _, now, ⟨_, later, rfl⟩, rfl⟩

section

variable {book : RecipeBook} {scene : UInt32} {limit : Nat}

theorem answers_expandNode {budget : Nat} {n : Node} {fs : List Filter}
    {recorded : List Rule} :
    Answers (expandNode book scene limit budget n) fs recorded ↔
      book.Expandable budget n ∧ fs = book.concretesIn budget n ∧
        recorded = (book.compositesIn budget n).flatMap book.rules := by
  induction budget generalizing n fs recorded with
  | zero =>
    cases n with
    | concrete f =>
      simp [expandNode, RecipeBook.Expandable, RecipeBook.concretesIn, RecipeBook.compositesIn]
    | composite f => simp [expandNode, RecipeBook.Expandable]
  | succ budget ih =>
    cases n with
    | concrete f =>
      simp [expandNode, RecipeBook.Expandable, RecipeBook.concretesIn, RecipeBook.compositesIn]
    | composite f =>
      simp only [expandNode, Run.bind_eq, RecipeBook.Expandable, RecipeBook.concretesIn,
        RecipeBook.compositesIn, List.flatMap_cons, List.flatMap_assoc]
      rw [answers_bind]
      constructor
      · rintro ⟨nodes, _, _, now, later, rfl⟩
        obtain ⟨unfolds, rfl, rfl⟩ := answers_unfold.mp now
        obtain ⟨expandable, rfl, rfl⟩ := (answers_concat_map fun n _ _ _ => ih).mp later
        exact ⟨⟨unfolds, expandable⟩, rfl, rfl⟩
      · rintro ⟨⟨unfolds, expandable⟩, rfl, rfl⟩
        have now : Answers (unfold book scene f) _ _ := answers_unfold.mpr ⟨unfolds, rfl, rfl⟩
        have later := (answers_concat_map fun n _ _ _ => ih).mpr ⟨expandable, rfl, rfl⟩
        exact ⟨_, _, _, now, later, rfl⟩

theorem answers_expand {nodes : List Node} {fs : List Filter} {recorded : List Rule} :
    Answers (expand book scene limit nodes) fs recorded ↔
      (∀ n ∈ nodes, book.Expandable limit n) ∧ fs = nodes.flatMap (book.concretesIn limit) ∧
        recorded = (nodes.flatMap (book.compositesIn limit)).flatMap book.rules := by
  rw [expand_concat, List.flatMap_assoc]
  exact answers_concat_map fun n _ _ _ => answers_expandNode

end

end LightShow
