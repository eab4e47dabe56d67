import Mathlib.Data.List.Forall2

/-!
When steps that may fail succeed one after another, and what makes them fail, also where they
leave a state behind.
-/

namespace LightShow.Outcome

variable {ε α β : Type}

@[simp] theorem ok_bind (a : α) (next : α → Except ε β) : (Except.ok a >>= next) = next a :=
  rfl

theorem bind_eq_ok_iff {r : Except ε α} {next : α → Except ε β} {b : β} :
    (r >>= next) = .ok b ↔ ∃ a, r = .ok a ∧ next a = .ok b := by
  cases r <;> simp [bind, Except.bind]

theorem bind_eq_error_iff {r : Except ε α} {next : α → Except ε β} {e : ε} :
    (r >>= next) = .error e ↔ r = .error e ∨ ∃ a, r = .ok a ∧ next a = .error e := by
  cases r <;> simp [bind, Except.bind]

theorem bind_pure_eq_error_iff {r : Except ε α} {g : α → β} {e : ε} :
    (r >>= fun a => pure (g a)) = .error e ↔ r = .error e := by
  cases r <;> simp [bind, Except.bind, pure, Except.pure]

theorem exists_bind_pure_eq_ok_iff {r : Except ε α} {g : α → β} :
    (∃ b, (r >>= fun a => pure (g a)) = .ok b) ↔ ∃ a, r = .ok a := by
  cases r <;> simp [bind, Except.bind, pure, Except.pure]

theorem pure_eq_ok_iff {a b : α} : (pure a : Except ε α) = .ok b ↔ a = b := by
  simp [pure, Except.pure]

theorem map_eq_map_iff {γ : Type} {r : Except ε α} {r' : Except ε β} {g : α → γ}
    {g' : β → γ} :
    r.map g = r'.map g' ↔
      (∃ e, r = .error e ∧ r' = .error e) ∨
        ∃ a b, r = .ok a ∧ r' = .ok b ∧ g a = g' b := by
  cases r <;> cases r' <;> simp [Except.map, eq_comm]

theorem mapError_eq_ok_iff {ε' : Type} {g : ε → ε'} {r : Except ε α} {a : α} :
    r.mapError g = .ok a ↔ r = .ok a := by
  cases r <;> simp [Except.mapError]

theorem mapError_eq_error_iff {ε' : Type} {g : ε → ε'} {r : Except ε α} {e : ε'} :
    r.mapError g = .error e ↔ ∃ cause, r = .error cause ∧ g cause = e := by
  cases r <;> simp [Except.mapError]

theorem mapM_eq_ok_iff {f : α → Except ε β} {xs : List α} {ys : List β} :
    xs.mapM f = .ok ys ↔ List.Forall₂ (fun x y => f x = .ok y) xs ys := by
  induction xs generalizing ys with
  | nil =>
    rw [List.mapM_nil, pure_eq_ok_iff, List.forall₂_nil_left_iff]
    exact eq_comm
  | cons x xs ih =>
    simp only [List.mapM_cons, bind_eq_ok_iff, pure_eq_ok_iff, List.forall₂_cons_left_iff, ih]
    constructor
    · rintro ⟨y, first, others, rest, rfl⟩
      exact ⟨y, others, first, rest, rfl⟩
    · rintro ⟨y, others, first, rest, rfl⟩
      exact ⟨y, first, others, rest, rfl⟩

theorem mapM_eq_error_iff {f : α → Except ε β} {xs : List α} {e : ε} :
    xs.mapM f = .error e ↔ ∃ before x behind, xs = before ++ x :: behind ∧
      (∀ y ∈ before, ∃ b, f y = .ok b) ∧ f x = .error e := by
  induction xs with
  | nil =>
    constructor
    · intro failed
      cases failed
    · intro first
      obtain ⟨before, x, behind, split, -⟩ := first
      cases before <;> cases split
  | cons x xs ih =>
    rw [List.mapM_cons, bind_eq_error_iff]
    constructor
    · intro failed
      rcases failed with here | ⟨b, passed, later⟩
      · exact ⟨[], x, xs, rfl, List.forall_mem_nil _, here⟩
      · obtain ⟨before, y, behind, rfl, fine, failed⟩ :=
          ih.mp (bind_pure_eq_error_iff.mp later)
        exact ⟨x :: before, y, behind, rfl, List.forall_mem_cons.mpr ⟨⟨b, passed⟩, fine⟩,
          failed⟩
    · intro first
      obtain ⟨before, y, behind, split, fine, failed⟩ := first
      cases before with
      | nil =>
        cases split
        exact Or.inl failed
      | cons z before =>
        cases split
        obtain ⟨⟨b, passed⟩, fine⟩ := List.forall_mem_cons.mp fine
        have later := ih.mpr ⟨before, y, behind, rfl, fine, failed⟩
        exact Or.inr ⟨b, passed, bind_pure_eq_error_iff.mpr later⟩

theorem exists_of_mapM_eq_error {f : α → Except ε β} {xs : List α} {e : ε}
    (failed : xs.mapM f = .error e) : ∃ x ∈ xs, f x = .error e := by
  obtain ⟨before, x, behind, rfl, -, failed⟩ := mapM_eq_error_iff.mp failed
  exact ⟨x, List.mem_append_right _ List.mem_cons_self, failed⟩

section

variable {R : α → β → Prop} {xs : List α} {ys : List β}

theorem exists_left (related : List.Forall₂ R xs ys) {y : β} (member : y ∈ ys) :
    ∃ x ∈ xs, R x y := by
  induction related with
  | nil => cases member
  | cons first _ ih =>
    rcases List.mem_cons.mp member with rfl | later
    · exact ⟨_, List.mem_cons_self, first⟩
    · obtain ⟨x, member, found⟩ := ih later
      exact ⟨x, List.mem_cons_of_mem _ member, found⟩

theorem exists_right (related : List.Forall₂ R xs ys) {x : α} (member : x ∈ xs) :
    ∃ y ∈ ys, R x y :=
  exists_left (R := fun y x => R x y) related.flip member

theorem exists_mapM_eq_ok_iff {f : α → Except ε β} {xs : List α} :
    (∃ ys, xs.mapM f = .ok ys) ↔ ∀ x ∈ xs, ∃ y, f x = .ok y := by
  constructor
  · intro succeeds x member
    obtain ⟨ys, all⟩ := succeeds
    obtain ⟨y, -, found⟩ := exists_right (mapM_eq_ok_iff.mp all) member
    exact ⟨y, found⟩
  · intro each
    cases all : xs.mapM f with
    | ok ys => exact ⟨ys, rfl⟩
    | error e =>
      obtain ⟨x, member, failed⟩ := exists_of_mapM_eq_error all
      obtain ⟨y, found⟩ := each x member
      rw [failed] at found
      cases found

theorem mapM_map_answer {γ : Type} {f : α → Except ε β} {g : β → γ} {xs : List α} :
    xs.mapM (fun x => (f x).map g) = (xs.mapM f).map (List.map g) := by
  induction xs with
  | nil => rfl
  | cons x xs ih =>
    rw [List.mapM_cons, List.mapM_cons, ih]
    cases f x with
    | error e => rfl
    | ok y => cases xs.mapM f <;> rfl

theorem prefix_of_forall₂ {R' : α → β → Prop} {more : List α} {zs : List β}
    (related : List.Forall₂ R xs ys) (whole : List.Forall₂ R' (xs ++ more) zs)
    (same : ∀ x ∈ xs, ∀ y z, R x y → R' x z → y = z) : ys <+: zs := by
  induction related generalizing zs with
  | nil => exact List.nil_prefix
  | cons first _ ih =>
    obtain ⟨z, zs, first', later, rfl⟩ := List.forall₂_cons_left_iff.mp whole
    obtain rfl := same _ List.mem_cons_self _ _ first first'
    exact List.prefix_cons_inj _ |>.mpr
      (ih later fun x member => same x (List.mem_cons_of_mem _ member))

theorem map_eq_map {γ : Type} {g : α → γ} {h : β → γ} (related : List.Forall₂ R xs ys)
    (same : ∀ x y, R x y → g x = h y) : xs.map g = ys.map h := by
  induction related with
  | nil => rfl
  | cons first _ ih => simp [same _ _ first, ih]

end

section

variable {σ : Type}

theorem get_bind (next : σ → EStateM ε σ β) (s : σ) :
    ((get : EStateM ε σ σ) >>= next) s = next s s := rfl

theorem set_bind (s' : σ) (next : PUnit → EStateM ε σ β) (s : σ) :
    ((set s' : EStateM ε σ PUnit) >>= next) s = next () s' := rfl

variable {m : EStateM ε σ α} {s s' : σ}

theorem result_bind_of_ok {a : α} (ok : m s = .ok a s') (next : α → EStateM ε σ β) :
    (m >>= next) s = next a s' := by
  show EStateM.bind m next s = _
  rw [EStateM.bind, ok]

theorem result_bind_of_error {e : ε} (failed : m s = .error e s')
    (next : α → EStateM ε σ β) :
    (m >>= next) s = .error e s' := by
  show EStateM.bind m next s = _
  rw [EStateM.bind, failed]

end

end LightShow.Outcome
