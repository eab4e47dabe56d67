/-!
A run reports items one after another and ends with an answer or an error. What it has
reported stays when it ends in an error.
-/

namespace LightShow

structure Run (ω ε α : Type) where
  reports : List ω
  outcome : Except ε α

namespace Run

variable {ω ε α β : Type}

def ofExcept (r : Except ε α) : Run ω ε α := ⟨[], r⟩
def answer (a : α) : Run ω ε α := ⟨[], .ok a⟩
def fail (e : ε) : Run ω ε α := ⟨[], .error e⟩
def report (w : ω) : Run ω ε Unit := ⟨[w], .ok ()⟩

def bind (r : Run ω ε α) (next : α → Run ω ε β) : Run ω ε β :=
  match r.outcome with
  | .ok a =>
    let later := next a
    ⟨r.reports ++ later.reports, later.outcome⟩
  | .error e => ⟨r.reports, .error e⟩

instance : Monad (Run ω ε) where
  pure := answer
  bind := bind

def filterMap (f : ω → Option β) (r : Run ω ε α) : Run β ε α :=
  ⟨r.reports.filterMap f, r.outcome⟩

def mapError {ε' : Type} (f : ε → ε') (r : Run ω ε α) : Run ω ε' α :=
  ⟨r.reports, r.outcome.mapError f⟩

def map (g : α → β) (r : Run ω ε α) : Run ω ε β := ⟨r.reports, r.outcome.map g⟩

@[simp] theorem pure_eq (a : α) : (pure a : Run ω ε α) = answer a := rfl
@[simp] theorem bind_eq (r : Run ω ε α) (next : α → Run ω ε β) :
    r >>= next = r.bind next := rfl

theorem bind_of_ok {r : Run ω ε α} {a : α} (h : r.outcome = .ok a)
    (next : α → Run ω ε β) :
    r.bind next = ⟨r.reports ++ (next a).reports, (next a).outcome⟩ := by
  simp [bind, h]

theorem bind_of_error {r : Run ω ε α} {e : ε} (h : r.outcome = .error e)
    (next : α → Run ω ε β) : r.bind next = ⟨r.reports, .error e⟩ := by
  simp [bind, h]

theorem outcome_bind (r : Run ω ε α) (next : α → Run ω ε β) :
    (r.bind next).outcome = r.outcome >>= fun a => (next a).outcome := by
  cases h : r.outcome with
  | ok a => rw [bind_of_ok h]; rfl
  | error e => rw [bind_of_error h]; rfl

theorem outcome_bind_eq_ok {r : Run ω ε α} {next : α → Run ω ε β} {b : β} :
    (r.bind next).outcome = .ok b ↔ ∃ a, r.outcome = .ok a ∧ (next a).outcome = .ok b := by
  cases h : r.outcome with
  | ok a => simp [bind_of_ok h]
  | error e => simp [bind_of_error h]

theorem outcome_bind_eq_error {r : Run ω ε α} {next : α → Run ω ε β} {e : ε} :
    (r.bind next).outcome = .error e ↔
      r.outcome = .error e ∨ ∃ a, r.outcome = .ok a ∧ (next a).outcome = .error e := by
  cases h : r.outcome with
  | ok a => simp [bind_of_ok h]
  | error e => simp [bind_of_error h]

theorem outcome_bind_answer_eq_error {r : Run ω ε α} {g : α → β} {e : ε} :
    (r.bind fun a => answer (g a)).outcome = .error e ↔ r.outcome = .error e := by
  cases h : r.outcome with
  | ok a => simp [bind_of_ok h, answer]
  | error e => simp [bind_of_error h]

@[simp] theorem answer_bind (a : α) (next : α → Run ω ε β) :
    (answer a).bind next = next a := by
  simp [bind, answer]

@[simp] theorem bind_answer (r : Run ω ε α) : r.bind answer = r := by
  obtain ⟨reports, outcome⟩ := r
  cases outcome <;> simp [bind, answer]

section

variable {γ : Type}

theorem map_bind (g : β → γ) (r : Run ω ε α) (next : α → Run ω ε β) :
    (r.bind next).map g = r.bind fun a => (next a).map g := by
  cases h : r.outcome with
  | ok a => rw [bind_of_ok h, bind_of_ok h]; rfl
  | error e => rw [bind_of_error h, bind_of_error h]; rfl

theorem map_ite (g : α → β) (c : Prop) [Decidable c] (r r' : Run ω ε α) :
    (if c then r else r').map g = if c then r.map g else r'.map g :=
  apply_ite (map g) c r r'

theorem bind_map (g : α → β) (r : Run ω ε α) (next : β → Run ω ε γ) :
    (r.map g).bind next = r.bind fun a => next (g a) := by
  obtain ⟨reports, outcome⟩ := r
  cases outcome <;> rfl

end

theorem bind_assoc {γ : Type} (r : Run ω ε α) (f : α → Run ω ε β)
    (g : β → Run ω ε γ) :
    (r.bind f).bind g = r.bind fun a => (f a).bind g := by
  cases h : r.outcome with
  | error e => simp [bind, h]
  | ok a => cases hf : (f a).outcome <;> simp [bind, h, hf]

end Run
end LightShow
