import LightShow.Proofs.Binding
import LightShow.Proofs.Cycles

/-!
Why the links of a filter are bound or refused. Every link either leads to an output of the type
of its input or has one fault, and a filter is refused over the first of its links that has one.
-/

namespace LightShow

open OrderedMap Outcome

section

variable (table : Substitution) (limit : Nat) (inputs : PortTypes) (outputs : OutputIndex)

/-- The link is on a declared input, and its source ends at an output of the same type. -/
def Binds (link : String × OutputRef) (target : OutputRef) : Prop :=
  ∃ type, inputs.get? link.1 = some type ∧ table.EndsAt limit link.2 target ∧
    outputs.typeOf? target = some type

/-- What is wrong with a link. Nothing that comes before it in this list is. -/
inductive LinkFault (scene : UInt32) (filter port : String) (source : OutputRef) :
    CompileError → Prop where
  | undeclared (absent : inputs.get? port = none) :
      LinkFault scene filter port source (.undeclaredInput scene filter port)
  | endless {type : SignalType} {chain : List OutputRef}
      (declared : inputs.get? port = some type)
      (endless : ∀ target, ¬ table.EndsAt limit source target)
      (trail : table.Trail source chain) (length : chain.length = limit + 2) :
      LinkFault scene filter port source (.cyclicSubstitution chain)
  | unresolved {type : SignalType} {target : OutputRef}
      (declared : inputs.get? port = some type) (ends : table.EndsAt limit source target)
      (absent : outputs.typeOf? target = none) :
      LinkFault scene filter port source (.unresolvedReference scene filter port target)
  | mismatched {expected found : SignalType} {target : OutputRef}
      (declared : inputs.get? port = some expected) (ends : table.EndsAt limit source target)
      (provided : outputs.typeOf? target = some found) (different : found ≠ expected) :
      LinkFault scene filter port source
        (.typeMismatch scene filter port expected target found)

end

section

variable {table : Substitution} {limit : Nat} {inputs : PortTypes} {outputs : OutputIndex}
  {scene : UInt32} {filter port : String} {source : OutputRef}

theorem bindLink_eq_ok_iff_binds {target : OutputRef} :
    bindLink table limit scene filter inputs outputs port source = .ok target ↔
      Binds table limit inputs outputs (port, source) target := by
  simp only [bindLink_eq_ok_iff, Substitution.resolve_eq_ok_iff_endsAt, Binds]

theorem bindLink_of_linkFault {e : CompileError}
    (fault : LinkFault table limit inputs outputs scene filter port source e) :
    bindLink table limit scene filter inputs outputs port source = .error e := by
  unfold bindLink
  cases fault with
  | undeclared absent =>
    rw [absent]
    rfl
  | endless declared endless trail length =>
    have failed := Substitution.resolve_eq_error_iff.mpr ⟨endless, _, rfl, trail, length⟩
    rw [declared, failed]
    rfl
  | unresolved declared ends absent =>
    have resolved := Substitution.resolve_eq_ok_iff_endsAt.mpr ends
    simp only [declared, resolved, ok_bind, absent]
    rfl
  | mismatched declared ends provided different =>
    have resolved := Substitution.resolve_eq_ok_iff_endsAt.mpr ends
    simp only [declared, resolved, ok_bind, provided, if_neg different]
    rfl

theorem binds_or_linkFault (table : Substitution) (limit : Nat) (inputs : PortTypes)
    (outputs : OutputIndex) (scene : UInt32) (filter port : String) (source : OutputRef) :
    (∃ target, Binds table limit inputs outputs (port, source) target) ∨
      ∃ e, LinkFault table limit inputs outputs scene filter port source e := by
  cases declared : inputs.get? port with
  | none => exact Or.inr ⟨_, .undeclared declared⟩
  | some expected =>
    cases resolved : table.resolve limit source with
    | error e =>
      obtain ⟨endless, chain, -, trail, length⟩ := Substitution.resolve_eq_error_iff.mp resolved
      exact Or.inr ⟨_, .endless declared endless trail length⟩
    | ok target =>
      have ends := Substitution.resolve_eq_ok_iff_endsAt.mp resolved
      cases provided : outputs.typeOf? target with
      | none => exact Or.inr ⟨_, .unresolved declared ends provided⟩
      | some found =>
        by_cases same : found = expected
        · exact Or.inl ⟨target, expected, declared, ends, same ▸ provided⟩
        · exact Or.inr ⟨_, .mismatched declared ends provided same⟩

theorem bindLink_eq_error_iff_linkFault {e : CompileError} :
    bindLink table limit scene filter inputs outputs port source = .error e ↔
      LinkFault table limit inputs outputs scene filter port source e := by
  refine ⟨?_, bindLink_of_linkFault⟩
  intro failed
  rcases binds_or_linkFault table limit inputs outputs scene filter port source with
    ⟨target, binds⟩ | ⟨e', fault⟩
  · rw [bindLink_eq_ok_iff_binds.mpr binds] at failed
    cases failed
  · rw [bindLink_of_linkFault fault] at failed
    cases failed
    exact fault

end

/-- The links of a filter are bound exactly if each of them is on a declared input and ends at an
    output of the same type; they are bound to these outputs then, in their order. Otherwise the
    filter is refused over the fault of the first link that does not. -/
theorem links_bind_or_first_fault (table : Substitution) (limit : Nat) (scene : UInt32)
    (f : Filter) (inputs : PortTypes) (outputs : OutputIndex) :
    (∀ bound, bindLinks table limit scene f inputs outputs = .ok bound ↔
      List.Forall₂ (fun link b => b.1 = link.1 ∧ Binds table limit inputs outputs link b.2)
        f.links.entries bound.entries) ∧
    ((∃ bound, bindLinks table limit scene f inputs outputs = .ok bound) ↔
      ∀ link ∈ f.links.entries, ∃ target, Binds table limit inputs outputs link target) ∧
    ∀ e, bindLinks table limit scene f inputs outputs = .error e ↔
      ∃ before link behind, f.links.entries = before ++ link :: behind ∧
        (∀ l ∈ before, ∃ target, Binds table limit inputs outputs l target) ∧
        LinkFault table limit inputs outputs scene f.id link.1 link.2 e := by
  refine ⟨?_, ?_, ?_⟩
  · intro bound
    simp only [bindLinks_eq_ok_iff, bindLink_eq_ok_iff_binds]
  · simp only [exists_bindLinks_eq_ok_iff, bindLink_eq_ok_iff_binds]
  · intro e
    simp only [bindLinks_eq_error_iff, bindLink_eq_ok_iff_binds, bindLink_eq_error_iff_linkFault]

end LightShow
