import LightShow.Proofs.Deployment

/-!
Raising the limits of the compiler. A run that does not end over a limit takes the same steps
under larger ones, so it reports the same and ends in the same way.
-/

namespace LightShow

open Stage Outcome

/-- Errors over a limit that the settings name. -/
def CompileError.isOverLimit : CompileError → Bool
  | .expansionDepthExceeded .. | .cyclicSubstitution .. => true
  | _ => false

namespace Outcome

variable {α β : Type}

def OverLimit (r : Except CompileError α) : Prop := ∃ e, r = .error e ∧ e.isOverLimit = true

/-- The second result is the first one, unless the first one is an error over a limit. -/
def Keeps (r r' : Except CompileError α) : Prop := OverLimit r ∨ r' = r

theorem keeps_refl (r : Except CompileError α) : Keeps r r := Or.inr rfl

theorem Keeps.bind {r r' : Except CompileError α} {next next' : α → Except CompileError β}
    (first : Keeps r r') (later : ∀ a, Keeps (next a) (next' a)) :
    Keeps (r >>= next) (r' >>= next') := by
  rcases first with ⟨e, rfl, beyond⟩ | rfl
  · exact Or.inl ⟨e, rfl, beyond⟩
  · cases r' with
    | error e => exact keeps_refl _
    | ok a => exact later a

theorem keeps_mapM {f f' : α → Except CompileError β} (each : ∀ x, Keeps (f x) (f' x))
    (xs : List α) : Keeps (xs.mapM f) (xs.mapM f') := by
  induction xs with
  | nil => exact keeps_refl _
  | cons x xs ih =>
    simp only [List.mapM_cons]
    exact (each x).bind fun y => ih.bind fun ys => keeps_refl _

end Outcome

namespace Stage

variable {α β : Type}

/-- The second run is the first one, its reports included, unless the first one ends over a
    limit. -/
def Keeps (r r' : Stage α) : Prop := OverLimit r.outcome ∨ r' = r

theorem keeps_refl (r : Stage α) : r.Keeps r := Or.inr rfl

theorem keeps_ofExcept {r r' : Except CompileError α} (same : Outcome.Keeps r r') :
    Keeps (.ofExcept r) (.ofExcept r') :=
  same.imp id (congrArg Run.ofExcept)

theorem Keeps.bind {r r' : Stage α} {next next' : α → Stage β} (first : r.Keeps r')
    (later : ∀ a, (next a).Keeps (next' a)) : Keeps (r.bind next) (r'.bind next') := by
  rcases first with ⟨e, failed, beyond⟩ | rfl
  · rw [Run.bind_of_error failed]
    exact Or.inl ⟨e, rfl, beyond⟩
  · cases ended : r'.outcome with
    | error e =>
      rw [Run.bind_of_error ended, Run.bind_of_error ended]
      exact keeps_refl _
    | ok a =>
      rw [Run.bind_of_ok ended, Run.bind_of_ok ended]
      rcases later a with beyond | same
      · exact Or.inl beyond
      · rw [same]
        exact keeps_refl _

theorem keeps_concat_map {f f' : β → Stage (List α)} (each : ∀ x, (f x).Keeps (f' x))
    (xs : List β) : Keeps (concat (xs.map f)) (concat (xs.map f')) := by
  induction xs with
  | nil => exact keeps_refl _
  | cons x xs ih =>
    simp only [List.map_cons, concat_cons]
    exact (each x).bind fun first => ih.bind fun later => keeps_refl _

end Stage

section

variable {table : Substitution} {limit limit' : Nat} (le : limit ≤ limit')

include le

theorem keeps_resolve (r : OutputRef) :
    Outcome.Keeps (table.resolve limit r) (table.resolve limit' r) := by
  cases resolved : table.resolve limit r with
  | ok final =>
    have done := Substitution.resolve_eq_ok_iff.mp resolved
    have more := Substitution.chase_mono done (Nat.succ_le_succ le)
    exact Or.inr (Substitution.resolve_eq_ok_iff.mpr more)
  | error e =>
    obtain ⟨chain, -, rfl⟩ := mapError_eq_error_iff.mp resolved
    exact Or.inl ⟨_, rfl, rfl⟩

variable {scene : UInt32} {outputs : OutputIndex}

theorem keeps_bindLink (filter : String) (inputs : PortTypes) (port : String) (r : OutputRef) :
    Outcome.Keeps (bindLink table limit scene filter inputs outputs port r)
      (bindLink table limit' scene filter inputs outputs port r) := by
  unfold bindLink
  cases inputs.get? port with
  | none => exact Outcome.keeps_refl _
  | some expected => exact (keeps_resolve le r).bind fun _ => Outcome.keeps_refl _

theorem keeps_bindLinks (f : Filter) (inputs : PortTypes) :
    Outcome.Keeps (bindLinks table limit scene f inputs outputs)
      (bindLinks table limit' scene f inputs outputs) := by
  refine (keeps_mapM ?_ _).bind fun _ => Outcome.keeps_refl _
  intro link
  exact (keeps_bindLink le f.id inputs link.1 link.2).bind fun _ => Outcome.keeps_refl _

theorem keeps_finish (f : Filter) (ports : Ports) :
    Outcome.Keeps (finish table limit scene outputs f ports)
      (finish table limit' scene outputs f ports) :=
  (keeps_bindLinks le f ports.inputs).bind fun _ => Outcome.keeps_refl _

end

section

variable (book : RecipeBook) (scene : UInt32) (limit limit' : Nat)

theorem keeps_expandNode {budget budget' : Nat} (le : budget ≤ budget') (n : Node) :
    Stage.Keeps (expandNode book scene limit budget n)
      (expandNode book scene limit' budget' n) := by
  induction budget generalizing budget' n with
  | zero =>
    cases n with
    | concrete f => cases budget' <;> exact Stage.keeps_refl _
    | composite f => exact Or.inl ⟨_, rfl, rfl⟩
  | succ budget ih =>
    obtain ⟨budget', rfl⟩ : ∃ b, budget' = b + 1 := ⟨budget' - 1, by omega⟩
    cases n with
    | concrete f => exact Stage.keeps_refl _
    | composite f =>
      refine (Stage.keeps_refl (unfold book scene f)).bind fun nodes => ?_
      exact Stage.keeps_concat_map (ih (Nat.le_of_succ_le_succ le)) nodes

theorem keeps_expand (le : limit ≤ limit') (nodes : List Node) :
    Stage.Keeps (expand book scene limit nodes) (expand book scene limit' nodes) := by
  rw [expand_concat, expand_concat]
  exact Stage.keeps_concat_map (keeps_expandNode book scene limit limit' le) nodes

end

section

variable (book : RecipeBook) {settings settings' : Settings} (s : Scene)
  (depth : settings.maxExpansionDepth ≤ settings'.maxExpansionDepth)

include depth

theorem keeps_gather : Stage.Keeps (gather book settings s) (gather book settings' s) :=
  (keeps_expand book s.id _ _ depth s.nodes).bind fun _ => Stage.keeps_refl _

variable (steps : settings.maxSubstitutionSteps ≤ settings'.maxSubstitutionSteps)

include steps

theorem keeps_deployScene :
    Stage.Keeps (deployScene book settings s) (deployScene book settings' s) := by
  rcases keeps_gather book s depth with ⟨e, failed, beyond⟩ | same
  · refine Or.inl ⟨e, ?_, beyond⟩
    rw [deployScene, Run.bind_eq, Run.bind_of_error failed]
  · unfold deployScene
    rw [same]
    refine (Stage.keeps_refl _).bind fun gathered => ?_
    refine (Stage.keeps_ofExcept ?_).bind fun _ => Stage.keeps_refl _
    exact keeps_mapM (fun k => keeps_finish steps k.1 k.2) gathered.2

end

/-- Raising the limits changes no result: what a scene is deployed to stays the same, and so does
    the error with which it is refused, unless this is an error over a limit. -/
theorem raised_limits_change_nothing (book : RecipeBook) (settings settings' : Settings)
    (s : Scene) (depth : settings.maxExpansionDepth ≤ settings'.maxExpansionDepth)
    (steps : settings.maxSubstitutionSteps ≤ settings'.maxSubstitutionSteps) :
    (∀ fs, (deployScene book settings s).outcome = .ok fs →
      (deployScene book settings' s).outcome = .ok fs) ∧
    ∀ e, (deployScene book settings s).outcome = .error e → e.isOverLimit = false →
      (deployScene book settings' s).outcome = .error e := by
  rcases keeps_deployScene book s depth steps with ⟨e, failed, beyond⟩ | same
  · rw [failed]
    refine ⟨fun fs impossible => (nomatch impossible), ?_⟩
    intro e' failed' clear
    cases failed'
    rw [beyond] at clear
    cases clear
  · rw [same]
    exact ⟨fun fs deployed => deployed, fun e failed _ => failed⟩

def emptyDelay : Scene where
  id := 1
  name := "Main"
  nodes := [
    .ofFilter { id := "d", kind := .composite .delayChain },
    .ofFilter { id := "e", kind := .composite .delayChain,
                links := .ofList [("value", ⟨"d", "value"⟩)],
                configuration := .ofList [("stages", "0")] }]

theorem raised_limits_change_nothing_dimmed_and_delayed :
    (deployScene .builtIn { maxExpansionDepth := 2, maxSubstitutionSteps := 2 }
        dimmedAndDelayed).outcome = .ok dimmedAndDelayedFilters ∧
      (deployScene .builtIn {} dimmedAndDelayed).outcome = .ok dimmedAndDelayedFilters ∧
      (deployScene .builtIn { maxExpansionDepth := 1, maxSubstitutionSteps := 0 }
        emptyDelay).outcome = .error (.invalidConfiguration "e" "stages" "0") ∧
      (deployScene .builtIn {} emptyDelay).outcome =
        .error (.invalidConfiguration "e" "stages" "0") := by
  have deployed : (deployScene .builtIn { maxExpansionDepth := 2, maxSubstitutionSteps := 2 }
      dimmedAndDelayed).outcome = .ok dimmedAndDelayedFilters := by
    cbv
  have failed : (deployScene .builtIn { maxExpansionDepth := 1, maxSubstitutionSteps := 0 }
      emptyDelay).outcome = .error (.invalidConfiguration "e" "stages" "0") := by
    cbv
  obtain ⟨kept, -⟩ := raised_limits_change_nothing .builtIn
    { maxExpansionDepth := 2, maxSubstitutionSteps := 2 } {} dimmedAndDelayed (by decide)
    (by decide)
  obtain ⟨-, refused⟩ := raised_limits_change_nothing .builtIn
    { maxExpansionDepth := 1, maxSubstitutionSteps := 0 } {} emptyDelay (by decide) (by decide)
  exact ⟨deployed, kept _ deployed, failed, refused _ failed rfl⟩

end LightShow
