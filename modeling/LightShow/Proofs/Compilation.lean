import LightShow.Compile.Deployment
import LightShow.Proofs.Outcome

/-!
A show is compiled scene by scene. This succeeds exactly if no scene id comes twice and each
scene compiles by itself.
-/

namespace LightShow

open Outcome

variable {book : RecipeBook} {settings : Settings} {mode : Mode}

theorem compileScenes_eq_ok_iff {seen : List UInt32} {scenes : List Scene}
    {compiled : List CompiledScene} :
    (compileScenes book settings mode seen scenes).outcome = .ok compiled ↔
      (scenes.map Scene.id).Nodup ∧ (∀ s ∈ scenes, s.id ∉ seen) ∧
        List.Forall₂ (fun s c => (compileScene book settings mode s).outcome = .ok c)
          scenes compiled := by
  induction scenes generalizing seen compiled with
  | nil =>
    simp [compileScenes, Run.answer, eq_comm]
  | cons s rest ih =>
    by_cases known : s.id ∈ seen
    · simp [compileScenes, known, Run.fail]
    have distinct : ((s :: rest).map Scene.id).Nodup ↔
        (rest.map Scene.id).Nodup ∧ ∀ t ∈ rest, t.id ≠ s.id := by
      simp only [List.map_cons, List.nodup_cons, List.mem_map, not_exists, not_and]
      exact and_comm
    have fresh : (∀ t ∈ rest, t.id ∉ s.id :: seen) ↔
        (∀ t ∈ rest, t.id ≠ s.id) ∧ ∀ t ∈ rest, t.id ∉ seen := by
      simp only [List.mem_cons, not_or]
      exact forall₂_and
    simp only [compileScenes, known, if_false, Run.bind_eq, Run.pure_eq, Run.outcome_bind_eq_ok,
      ih, fresh, distinct, List.forall_mem_cons, not_false_eq_true, true_and,
      List.forall₂_cons_left_iff]
    constructor
    · rintro ⟨c, first, others, ⟨ids, ⟨away, unseen⟩, later⟩, ended⟩
      cases ended
      exact ⟨⟨ids, away⟩, unseen, c, others, first, later, rfl⟩
    · rintro ⟨⟨ids, away⟩, unseen, c, others, first, later, rfl⟩
      exact ⟨c, first, others, ⟨ids, ⟨away, unseen⟩, later⟩, rfl⟩

theorem compile_eq_ok_iff {d : Show} {c : CompiledShow} :
    (compile book settings mode d).outcome = .ok c ↔
      (d.scenes.map Scene.id).Nodup ∧ c.mode = mode ∧ c.document = d ∧
        List.Forall₂ (fun s t => (compileScene book settings mode s).outcome = .ok t)
          d.scenes c.scenes := by
  have compiles : ((compileScenes book settings mode [] d.scenes).bind fun scenes =>
      (Stage.tell (.showCompiled d.name mode scenes.length
        (CompiledShow.mk mode d scenes).filterCount)).bind fun _ =>
          .answer ⟨mode, d, scenes⟩).outcome = .ok c ↔
      (d.scenes.map Scene.id).Nodup ∧ c.mode = mode ∧ c.document = d ∧
        List.Forall₂ (fun s t => (compileScene book settings mode s).outcome = .ok t)
          d.scenes c.scenes := by
    simp only [Run.outcome_bind_eq_ok, compileScenes_eq_ok_iff]
    constructor
    · rintro ⟨scenes, ⟨distinct, -, each⟩, _, -, ended⟩
      cases ended
      exact ⟨distinct, rfl, rfl, each⟩
    · rintro ⟨distinct, rfl, rfl, each⟩
      exact ⟨c.scenes, ⟨distinct, fun _ _ => List.not_mem_nil, each⟩, (), rfl, rfl⟩
  unfold compile
  simp only [Run.bind_eq, Run.pure_eq]
  split
  · rw [Run.bind_of_ok rfl]
    exact compiles
  · exact compiles

theorem compileScene_deployment_eq_ok_iff {s : Scene} {t : CompiledScene} :
    (compileScene book settings .deployment s).outcome = .ok t ↔
      t.scene = s ∧ (deployScene book settings s).outcome = .ok t.filters := by
  simp only [compileScene, Run.bind_eq, Run.pure_eq, Run.outcome_bind_eq_ok]
  constructor
  · rintro ⟨fs, deployed, ended⟩
    cases ended
    exact ⟨rfl, deployed⟩
  · rintro ⟨rfl, deployed⟩
    exact ⟨t.filters, deployed, rfl⟩

theorem deployed_of_compile {d : Show} {c : CompiledShow}
    (compiled : (compile book settings .deployment d).outcome = .ok c) {t : CompiledScene}
    (member : t ∈ c.scenes) :
    t.scene ∈ d.scenes ∧ (deployScene book settings t.scene).outcome = .ok t.filters := by
  obtain ⟨-, -, -, each⟩ := compile_eq_ok_iff.mp compiled
  obtain ⟨s, listed, compiled⟩ := exists_left each member
  obtain ⟨rfl, deployed⟩ := compileScene_deployment_eq_ok_iff.mp compiled
  exact ⟨listed, deployed⟩

/-- The show compiled for authoring: its scenes keep their filters. -/
def Show.authored (d : Show) : CompiledShow :=
  ⟨.authoring, d, d.scenes.map fun s => ⟨s, s.filters⟩⟩

theorem compile_authoring {d : Show} (distinct : (d.scenes.map Scene.id).Nodup) :
    (compile book settings .authoring d).outcome = .ok d.authored := by
  refine compile_eq_ok_iff.mpr ⟨distinct, rfl, rfl, ?_⟩
  exact List.forall₂_map_right_iff.mpr (List.forall₂_same.mpr fun s _ => rfl)

end LightShow
