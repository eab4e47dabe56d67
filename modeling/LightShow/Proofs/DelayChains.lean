import LightShow.Proofs.BuiltIn
import LightShow.Proofs.Cycles
import LightShow.Proofs.Numerals

/-!
What a delay chain unfolds into. Each unfolding leaves one stage and a chain that is shorter by
one, so the stages come one after another, each fed by the one before, and as many rules lead
from the output of the chain to the last of them as there are stages.
-/

namespace LightShow

open InnerName OrderedMap Stage

def OrderedMap.alone {ν : Type} (m : OrderedMap String ν) (key : String) : OrderedMap String ν :=
  match m.get? key with
  | none => ∅
  | some v => .ofList [(key, v)]

namespace DelayChain

/-- The number of stages that the configuration asks for: one where it says nothing. -/
inductive Asks (configuration : Configuration) : Nat → Prop where
  | unsaid (absent : configuration.get? "stages" = none) : Asks configuration 1
  | said {text : String} {n : Nat} (told : configuration.get? "stages" = some text)
      (read : Text.naturalBelow? UInt32.size (String.ofList (Text.trim text.toList)) = some n)
      (positive : 1 ≤ n) : Asks configuration n

end DelayChain

/-- The filter is a delay chain of so many stages, linked at its only input or not at all. -/
structure DelayChain (d : Filter) (n : Nat) : Prop where
  kind : d.kind = .composite .delayChain
  linked : ∀ port ∈ d.links.keys, port = "value"
  asks : DelayChain.Asks d.configuration n

namespace DelayChain

def restId (d : Filter) (k : Nat) : String := descend d.id (List.replicate k "rest")

def stageId (d : Filter) (k : Nat) : String := child (restId d k) "stage"

/-- The source of stage `k`: that of the chain, if there is one, or the stage before. -/
def stageLinks (d : Filter) : Nat → Links
  | 0 => d.links.alone "value"
  | k + 1 => .ofList [("value", ⟨stageId d k, "value"⟩)]

def stage (d : Filter) (k : Nat) : Filter where
  id := stageId d k
  kind := .timedSwitch .delayOn
  links := stageLinks d k
  parameters := d.parameters.alone "delay"
  position := d.position

/-- The chain of `m` stages that is left when the first stage is taken away. -/
def rest (d : Filter) (m : Nat) : Filter where
  id := d.innerId "rest"
  kind := .composite .delayChain
  links := .ofList [("value", d.innerOutput "stage" "value")]
  configuration := .ofList [("stages", Text.ofNat m)]
  parameters := d.parameters
  position := d.position

def link (d : Filter) (n k : Nat) : Rule where
  source := ⟨restId d k, "value"⟩
  target := if k = n then (stage d k).output "value" else ⟨restId d (k + 1), "value"⟩

variable {d : Filter} {n : Nat}

theorem Asks.positive {configuration : Configuration} (asks : Asks configuration n) : 1 ≤ n := by
  cases asks with
  | unsaid => exact Nat.le_refl 1
  | said told read positive => exact positive

theorem Asks.small {configuration : Configuration} (asks : Asks configuration n) :
    n < UInt32.size := by
  cases asks with
  | unsaid => decide
  | said told read positive => simpa using (Option.filter_eq_some_iff.mp read).2

theorem Asks.stages_eq (asks : Asks d.configuration n) : Recipe.stages d = .ok n := by
  cases asks with
  | unsaid absent => simp [Recipe.stages, absent]
  | said told read positive =>
    obtain ⟨m, rfl⟩ : ∃ m, n = m + 1 := ⟨n - 1, by omega⟩
    simp [Recipe.stages, told, read]

theorem rest_isChain (d : Filter) {m : Nat} (positive : 1 ≤ m) (small : m < UInt32.size) :
    DelayChain (rest d m) m where
  kind := rfl
  linked := by
    intro port listed
    exact List.mem_singleton.mp listed
  asks := by
    have told : (rest d m).configuration.get? "stages" = some (Text.ofNat m) := rfl
    refine .said told ?_ positive
    rw [Text.ofNat, String.toList_ofList, Text.trim_decimal]
    exact Text.naturalBelow?_ofNat small

theorem stage_rest (d : Filter) (m k : Nat) : stage (rest d m) k = stage d (k + 1) := by
  cases k <;> rfl

theorem link_rest (d : Filter) (m n k : Nat) : link (rest d m) n k = link d (n + 1) (k + 1) := by
  simp only [link, stage_rest, Nat.add_right_cancel_iff]
  rfl

def parts (d : Filter) (n : Nat) : List Node :=
  if n = 0 then [.concrete (stage d 0)] else [.concrete (stage d 0), .composite (rest d n)]

theorem nodes_eq (asks : Asks d.configuration (n + 1)) :
    Recipe.delayChain.nodes d = .ok (parts d n) := by
  simp only [Recipe.delayChain, asks.stages_eq, Outcome.ok_bind]
  unfold parts stage stageLinks OrderedMap.alone
  cases d.links.get? "value" <;> cases d.parameters.get? "delay" <;> cases n <;> rfl

theorem source?_eq (asks : Asks d.configuration (n + 1)) :
    Recipe.delayChain.source? d "value" = some (link d n 0).target := by
  simp only [Recipe.delayChain, asks.stages_eq, if_true]
  cases n with
  | zero => rfl
  | succ n => rfl

theorem recipe?_eq (chain : DelayChain d n) :
    RecipeBook.builtIn.recipe? d.kind = some .delayChain := by
  rw [chain.kind]
  exact recipe?_builtIn .delayChain

theorem declaredPorts_eq (chain : DelayChain d n) :
    d.declaredPorts = .ok (.unary .byte .byte) := by
  unfold Filter.declaredPorts Filter.ports
  rw [chain.kind]
  rfl

theorem outputs_eq (chain : DelayChain d n) :
    Recipe.delayChain.outputs d = .ok (Ports.unary .byte .byte).outputs := by
  show d.declaredPorts.map Ports.outputs = _
  rw [chain.declaredPorts_eq]
  rfl

theorem inner_eq (chain : DelayChain d (n + 1)) : RecipeBook.builtIn.inner d = parts d n := by
  simp only [RecipeBook.inner, chain.recipe?_eq, nodes_eq chain.asks, Except.toOption,
    Option.getD_some]

theorem offered_eq (chain : DelayChain d n) : RecipeBook.builtIn.offered d = ["value"] := by
  simp only [RecipeBook.offered, chain.recipe?_eq, chain.outputs_eq]
  rfl

theorem stands_for (chain : DelayChain d (n + 1)) :
    RecipeBook.builtIn.source? d "value" = some (link d n 0).target := by
  simp only [RecipeBook.source?, chain.recipe?_eq, Option.bind_some, source?_eq chain.asks]

theorem unfolds (chain : DelayChain d (n + 1)) :
    RecipeBook.builtIn.Unfolds d .delayChain (.unary .byte .byte) where
  registered := chain.recipe?_eq
  declares := chain.declaredPorts_eq
  linked := by
    intro port listed
    rw [chain.linked port listed]
    rfl
  nodes := by
    rw [chain.inner_eq]
    exact nodes_eq chain.asks
  outputs := ⟨_, chain.outputs_eq, chain.offered_eq.symm⟩
  sources := by
    rw [chain.offered_eq]
    simp [chain.stands_for]

theorem answers_unfold_chain (chain : DelayChain d (n + 1)) (scene : UInt32) :
    Answers (unfold .builtIn scene d) (parts d n) [link d n 0] := by
  apply answers_unfold.mpr
  refine ⟨⟨_, _, chain.unfolds⟩, chain.inner_eq.symm, ?_⟩
  simp only [RecipeBook.rules, chain.offered_eq, List.filterMap_cons, chain.stands_for,
    Option.map_some, List.filterMap_nil]
  rfl

section

variable {scene : UInt32} {limit budget : Nat}

theorem concat_parts :
    concat ((parts d (n + 1)).map (expandNode .builtIn scene limit budget)) =
      (expandNode .builtIn scene limit budget (.composite (rest d (n + 1)))).bind
        fun later => .answer (stage d 0 :: later) := by
  simp [parts, concat_cons, concat, expandNode]

theorem map_stage_succ (d : Filter) (n m : Nat) :
    (List.range (n + 1)).map (stage d) = stage d 0 :: (List.range n).map (stage (rest d m)) := by
  rw [List.range_succ_eq_map, List.map_cons, List.map_map]
  exact congrArg _ (List.map_congr_left fun k _ => (stage_rest d m k).symm)

theorem map_link_succ (d : Filter) (n m : Nat) :
    (List.range (n + 2)).map (link d (n + 1)) =
      link d (n + 1) 0 :: (List.range (n + 1)).map (link (rest d m) n) := by
  rw [List.range_succ_eq_map, List.map_cons, List.map_map]
  exact congrArg _ (List.map_congr_left fun k _ => (link_rest d m n k).symm)

theorem shorter (chain : DelayChain d (n + 2)) :
    DelayChain (rest d (n + 1)) (n + 1) := by
  have small := chain.asks.small
  exact rest_isChain d (Nat.succ_pos n) (by omega)

theorem answers_expandNode_chain (chain : DelayChain d (n + 1)) (enough : n < budget) :
    Answers (expandNode .builtIn scene limit budget (.composite d))
      ((List.range (n + 1)).map (stage d)) ((List.range (n + 1)).map (link d n)) := by
  induction n generalizing d budget with
  | zero =>
    obtain ⟨budget, rfl⟩ : ∃ b, budget = b + 1 := ⟨budget - 1, by omega⟩
    refine answers_bind.mpr ⟨_, _, [], answers_unfold_chain chain scene, ?_, rfl⟩
    simp [parts, concat_cons, concat, expandNode]
  | succ n ih =>
    obtain ⟨budget, rfl⟩ : ∃ b, budget = b + 1 := ⟨budget - 1, by omega⟩
    have later := ih chain.shorter (Nat.lt_of_succ_lt_succ enough)
    rw [map_stage_succ d (n + 1) (n + 1), map_link_succ d n (n + 1)]
    refine answers_bind.mpr ⟨_, [_], _, answers_unfold_chain chain scene, ?_, rfl⟩
    rw [concat_parts]
    exact answers_bind_answer.mpr ⟨_, later, rfl⟩

theorem expandNode_chain_exceeded (chain : DelayChain d (n + 1)) (few : budget ≤ n) :
    (expandNode .builtIn scene limit budget (.composite d)).outcome =
      .error (.expansionDepthExceeded scene (restId d budget) limit) := by
  induction budget generalizing d n with
  | zero => rfl
  | succ budget ih =>
    obtain ⟨n, rfl⟩ : ∃ m, n = m + 1 := ⟨n - 1, by omega⟩
    have later := ih chain.shorter (Nat.le_of_succ_le_succ few)
    have now := (answers_unfold_chain chain scene).1
    apply Run.outcome_bind_eq_error.mpr
    refine Or.inr ⟨_, now, ?_⟩
    rw [concat_parts]
    exact Run.outcome_bind_answer_eq_error.mpr later

end

theorem isRole {role : String} (listed : role ∈ ["stage", "rest"]) : IsRole role :=
  Composite.delayChain.roles_fit.2 role listed

theorem isRole_of_mem_replicate {k : Nat} {role : String}
    (member : role ∈ List.replicate k "rest") : IsRole role := by
  rw [List.eq_of_mem_replicate member]
  exact isRole (by decide)

theorem restId_injective {j k : Nat} (same : restId d j = restId d k) : j = k := by
  obtain ⟨-, roles⟩ := descend_injective (apart_self d.id)
    (fun _ => isRole_of_mem_replicate) (fun _ => isRole_of_mem_replicate) same
  simpa using congrArg List.length roles

theorem stageId_ne_restId (d : Filter) (k j : Nat) : stageId d k ≠ restId d j := by
  intro same
  have path : ∀ role ∈ List.replicate k "rest" ++ ["stage"], IsRole role := by
    intro role member
    rcases List.mem_append.mp member with before | last
    · exact isRole_of_mem_replicate before
    · exact isRole (List.mem_cons.mpr (Or.inl (List.mem_singleton.mp last)))
  rw [stageId, restId, ← descend_concat] at same
  obtain ⟨-, roles⟩ :=
    descend_injective (apart_self d.id) path (fun _ => isRole_of_mem_replicate) same
  have stage : "stage" ∈ List.replicate j "rest" := by
    rw [← roles]
    exact List.mem_append_right _ List.mem_cons_self
  exact absurd (List.eq_of_mem_replicate stage) (by decide)

def table (d : Filter) (n : Nat) : Substitution :=
  .extend ∅ ((List.range (n + 1)).map (link d n))

theorem get?_table {k : Nat} (le : k ≤ n) :
    (table d n).get? ⟨restId d k, "value"⟩ = some (link d n k).target := by
  have distinct : (((List.range (n + 1)).map (link d n)).map Rule.source).Nodup := by
    rw [List.map_map]
    refine List.nodup_range.map ?_
    intro j k same
    exact restId_injective (congrArg OutputRef.filter same)
  exact Substitution.get?_extend_of_mem distinct
    (List.mem_map.mpr ⟨k, List.mem_range.mpr (Nat.lt_succ_of_le le), rfl⟩)

theorem get?_table_stage (d : Filter) (n k : Nat) :
    (table d n).get? ((stage d k).output "value") = none := by
  apply Substitution.get?_extend_empty_eq_none_iff.mpr
  intro rule member same
  obtain ⟨j, -, rfl⟩ := List.mem_map.mp member
  exact stageId_ne_restId d k j (congrArg OutputRef.filter same).symm

theorem follows_table (j : Nat) {k : Nat} (sum : k + j = n) :
    (table d n).Follows (j + 1) ⟨restId d k, "value"⟩ ((stage d n).output "value") := by
  induction j generalizing k with
  | zero =>
    obtain rfl : k = n := sum
    have ruled := get?_table (d := d) (Nat.le_refl k)
    rw [link, if_pos rfl] at ruled
    exact .step ruled (.here _)
  | succ j ih =>
    have ruled := get?_table (d := d) (show k ≤ n by omega)
    rw [link, if_neg (by omega)] at ruled
    exact .step ruled (ih (by omega))

theorem resolve_table_iff {steps : Nat} :
    (table d n).resolve steps (d.output "value") = .ok ((stage d n).output "value") ↔
      n + 1 ≤ steps := by
  have whole : (table d n).Follows (n + 1) (d.output "value") ((stage d n).output "value") :=
    follows_table n (Nat.zero_add n)
  have ended := get?_table_stage d n n
  rw [Substitution.resolve_eq_ok_iff_endsAt]
  constructor
  · intro ends
    obtain ⟨⟨m, within, follows⟩, -⟩ := ends
    exact (follows.le_of_ended ended whole).trans within
  · intro enough
    exact ⟨⟨n + 1, enough, whole⟩, ended⟩

/-- A delay chain of `n` stages unfolds into them, in series and in order, if there is a level
    for each of them, and its output is then that of the last one, `n` rules away. Otherwise
    the unfolding stops where the levels end. -/
theorem unfolds_to_stages (chain : DelayChain d n) (scene : UInt32) (limit : Nat) :
    (n ≤ limit →
      (expand .builtIn scene limit [.ofFilter d]).outcome = .ok ((List.range n).map (stage d)) ∧
      ∀ steps, (Substitution.ofEntries
          (expand .builtIn scene limit [.ofFilter d]).reports).resolve steps (d.output "value") =
            .ok ((stage d (n - 1)).output "value") ↔ n ≤ steps) ∧
    (limit < n → (expand .builtIn scene limit [.ofFilter d]).outcome =
      .error (.expansionDepthExceeded scene (restId d limit) limit)) := by
  obtain ⟨n, rfl⟩ : ∃ m, n = m + 1 := ⟨n - 1, by have := chain.asks.positive; omega⟩
  have node : Node.ofFilter d = .composite d := by
    rw [Node.ofFilter, chain.kind]
    rfl
  rw [node, expand_singleton]
  constructor
  · intro enough
    have unfolded : Answers (expandNode .builtIn scene limit limit (.composite d)) _ _ :=
      answers_expandNode_chain chain enough
    refine ⟨unfolded.1, ?_⟩
    intro steps
    have rules : Substitution.ofEntries
        (expandNode .builtIn scene limit limit (.composite d)).reports = table d n :=
      congrArg (Substitution.extend ∅) unfolded.2
    rw [rules]
    exact resolve_table_iff
  · intro few
    exact expandNode_chain_exceeded chain (Nat.le_of_lt_succ few)

def threeDelays : Filter where
  id := "d"
  kind := .composite .delayChain
  links := .ofList [("value", ⟨"button", "value"⟩)]
  configuration := .ofList [("stages", " 3 ")]
  parameters := .ofList [("delay", "100")]

theorem unfolds_to_stages_three :
    (expand .builtIn 1 3 [.ofFilter threeDelays]).outcome =
        .ok [stage threeDelays 0, stage threeDelays 1, stage threeDelays 2] ∧
      (expand .builtIn 1 2 [.ofFilter threeDelays]).outcome =
        .error (.expansionDepthExceeded 1 "d__rest__rest" 2) := by
  have chain : DelayChain threeDelays 3 := by
    have told : threeDelays.configuration.get? "stages" = some " 3 " := rfl
    refine ⟨rfl, ?_, .said told (by decide) (by decide)⟩
    intro port listed
    exact List.mem_singleton.mp listed
  exact ⟨((unfolds_to_stages chain 1 3).1 (by decide)).1,
    (unfolds_to_stages chain 1 2).2 (by decide)⟩

end DelayChain
end LightShow
