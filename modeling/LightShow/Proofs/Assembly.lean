import Mathlib.Data.List.Nodup
import LightShow.Proofs.Outcome
import LightShow.Scene

/-!
Scenes that come into being by adding filters one after another are those with distinct ids
in which every node follows its kind.
-/

namespace LightShow.Scene

open Outcome

/-- The scene can be put together by adding filters to an empty one. -/
def Assembled (s : Scene) : Prop :=
  ∃ fs : List Filter, fs.foldlM addFilter { s with nodes := [] } = .ok s

theorem add_eq_ok_iff {s t : Scene} {n : Node} :
    s.add n = .ok t ↔ n.id ∉ s.ids ∧ t = { s with nodes := s.nodes ++ [n] } := by
  unfold add
  by_cases known : n.id ∈ s.ids
  · simp [known]
  · simp [known, eq_comm]

theorem foldlM_addFilter_eq_ok_iff {fs : List Filter} {s t : Scene} :
    fs.foldlM addFilter s = .ok t ↔
      (fs.map Filter.id).Nodup ∧ (∀ f ∈ fs, f.id ∉ s.ids) ∧
        t = { s with nodes := s.nodes ++ fs.map Node.ofFilter } := by
  induction fs generalizing s with
  | nil =>
    rw [List.foldlM_nil, pure_eq_ok_iff]
    simp [eq_comm]
  | cons f rest ih =>
    have step : ∀ u, s.addFilter f = .ok u ↔
        f.id ∉ s.ids ∧ u = { s with nodes := s.nodes ++ [.ofFilter f] } := by
      intro u
      unfold addFilter
      rw [add_eq_ok_iff, Node.id_ofFilter]
    rw [List.foldlM_cons, bind_eq_ok_iff]
    simp only [step, ih, List.map_cons, List.nodup_cons, List.forall_mem_cons]
    constructor
    · rintro ⟨u, ⟨fresh, rfl⟩, distinct, others, rfl⟩
      simp only [ids, List.map_append, List.map_cons, List.map_nil, Node.id_ofFilter,
        List.mem_append, List.mem_singleton, not_or] at others
      refine ⟨⟨?_, distinct⟩, ⟨fresh, fun g member => (others g member).1⟩, by simp⟩
      intro again
      obtain ⟨g, member, same⟩ := List.mem_map.mp again
      exact (others g member).2 same
    · rintro ⟨⟨once, distinct⟩, ⟨fresh, others⟩, rfl⟩
      refine ⟨_, ⟨fresh, rfl⟩, distinct, ?_, by simp⟩
      intro g member
      simp only [ids, List.map_append, List.map_cons, List.map_nil, Node.id_ofFilter,
        List.mem_append, List.mem_singleton, not_or]
      refine ⟨others g member, ?_⟩
      intro same
      exact once (same ▸ List.mem_map_of_mem member)

theorem map_id_filters (s : Scene) : s.filters.map Filter.id = s.ids := by
  rw [filters, List.map_map]
  rfl

theorem Valid.distinct_filters {s : Scene} (valid : s.Valid) :
    (s.filters.map Filter.id).Nodup := by
  rw [map_id_filters]
  exact valid.distinct

theorem Valid.map_ofFilter {s : Scene} (valid : s.Valid) :
    s.filters.map Node.ofFilter = s.nodes := by
  have same : ∀ n ∈ s.nodes, Node.ofFilter n.filter = n := fun n member =>
    ((Node.followsKind_iff n).mp (valid.followsKind n member)).symm
  rw [filters, List.map_map]
  exact (List.map_congr_left same).trans (List.map_id _)

theorem assembled_iff_valid (s : Scene) : s.Assembled ↔ s.Valid := by
  constructor
  · rintro ⟨fs, assembled⟩
    obtain ⟨distinct, -, shape⟩ := foldlM_addFilter_eq_ok_iff.mp assembled
    have nodes : s.nodes = fs.map Node.ofFilter := by
      simpa using congrArg Scene.nodes shape
    constructor
    · unfold ids
      rw [nodes, List.map_map]
      simpa [Function.comp_def] using distinct
    · intro n member
      rw [nodes] at member
      obtain ⟨f, -, rfl⟩ := List.mem_map.mp member
      exact Node.ofFilter_followsKind f
  · intro valid
    refine ⟨s.filters,
      foldlM_addFilter_eq_ok_iff.mpr ⟨valid.distinct_filters, by simp [ids], ?_⟩⟩
    simp [valid.map_ofFilter]

theorem Valid.addFilter {s t : Scene} {f : Filter} (valid : s.Valid)
    (added : s.addFilter f = .ok t) : t.Valid := by
  obtain ⟨fresh, rfl⟩ := add_eq_ok_iff.mp added
  rw [Node.id_ofFilter] at fresh
  constructor
  · have longer := valid.distinct.concat fresh
    simpa [ids] using longer
  · intro n member
    rcases List.mem_append.mp member with before | new
    · exact valid.followsKind n before
    · obtain rfl := List.mem_singleton.mp new
      exact Node.ofFilter_followsKind f

end LightShow.Scene
