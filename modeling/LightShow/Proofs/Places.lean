import LightShow.OrderedMap.Place
import LightShow.Proofs.OrderedMap

/-!
What reading, replacing, removing and inserting an entry by its place does to the entries of an
ordered map, said around the entry in question.
-/

namespace LightShow.OrderedMap

variable {κ ν : Type}

section

variable {m : OrderedMap κ ν} {before behind : List (κ × ν)} {k : κ} {v : ν}

theorem key_ne_of_not_mem {es : List (κ × ν)} (absent : k ∉ es.map Prod.fst) {e : κ × ν}
    (among : e ∈ es) : e.1 ≠ k := by
  rintro rfl
  exact absent (List.mem_map_of_mem among)

theorem not_mem_around (parts : m.entries = before ++ (k, v) :: behind) :
    k ∉ (before ++ behind).map Prod.fst := by
  have distinct := m.distinct
  rw [parts] at distinct
  have first : ((k, v) :: (before ++ behind)).map Prod.fst |>.Nodup :=
    (List.perm_middle.map Prod.fst).nodup_iff.mp distinct
  exact (List.nodup_cons.mp first).1

theorem mem_around_iff (parts : m.entries = before ++ (k, v) :: behind) (k' : κ) :
    k' ∈ (before ++ behind).map Prod.fst ↔ k' ≠ k ∧ k' ∈ m.keys := by
  have known : k' ∈ m.keys ↔ k' = k ∨ k' ∈ (before ++ behind).map Prod.fst := by
    rw [OrderedMap.keys, parts]
    simp only [List.map_append, List.map_cons, List.mem_append, List.mem_cons]
    exact or_left_comm
  rw [known]
  constructor
  · intro among
    refine ⟨?_, Or.inr among⟩
    rintro rfl
    exact not_mem_around parts among
  · rintro ⟨other, same | among⟩
    · exact absurd same other
    · exact among

theorem entryAt?_parts (parts : m.entries = before ++ (k, v) :: behind) :
    m.entryAt? before.length = some (k, v) := by
  simp [entryAt?, parts]

theorem removeAt_parts (parts : m.entries = before ++ (k, v) :: behind) :
    (m.removeAt before.length).entries = before ++ behind := by
  simp [removeAt, parts, List.eraseIdx_append_of_length_le]

theorem replaceAt?_parts (parts : m.entries = before ++ (k, v) :: behind) (v' : ν) :
    ∃ m', m.replaceAt? before.length v' = some m' ∧
      m'.entries = before ++ (k, v') :: behind := by
  have inside : before.length < m.entries.length := by
    rw [parts, List.length_append, List.length_cons]
    omega
  refine ⟨_, dif_pos inside, ?_⟩
  simp [parts]

theorem exists_parts_of_mem_keys (member : k ∈ m.keys) :
    ∃ before v behind, m.entries = before ++ (k, v) :: behind := by
  obtain ⟨e, among, rfl⟩ := List.mem_map.mp member
  obtain ⟨before, behind, parts⟩ := List.append_of_mem among
  exact ⟨before, e.2, behind, parts⟩

variable [DecidableEq κ]

theorem placeOf?_eq_none (absent : k ∉ m.keys) : m.placeOf? k = none := by
  rw [placeOf?, List.findIdx?_eq_none_iff]
  intro e among
  exact decide_eq_false (key_ne_of_not_mem absent among)

theorem placeOf?_parts (parts : m.entries = before ++ (k, v) :: behind) :
    m.placeOf? k = some before.length := by
  have earlier : before.findIdx? (fun e => e.1 = k) = none := by
    rw [List.findIdx?_eq_none_iff]
    intro e among
    exact decide_eq_false
      (key_ne_of_not_mem (not_mem_around parts) (List.mem_append_left behind among))
  simp [placeOf?, parts, List.findIdx?_append, earlier, List.findIdx?_cons]

theorem get?_parts (parts : m.entries = before ++ (k, v) :: behind) : m.get? k = some v := by
  rw [get?_eq_some_iff, parts]
  exact List.mem_append_right before List.mem_cons_self

theorem erase_eq_self (absent : k ∉ m.keys) : m.erase k = m := by
  apply ext_entries
  rw [erase, List.filter_eq_self]
  intro e among
  exact decide_eq_true (key_ne_of_not_mem absent among)

theorem erase_parts (parts : m.entries = before ++ (k, v) :: behind) :
    (m.erase k).entries = before ++ behind := by
  have apart : (before ++ behind).filter (fun e => e.1 ≠ k) = before ++ behind := by
    rw [List.filter_eq_self]
    intro e among
    exact decide_eq_true (key_ne_of_not_mem (not_mem_around parts) among)
  show m.entries.filter (fun e => e.1 ≠ k) = before ++ behind
  rw [parts, List.filter_append, List.filter_cons_of_neg (by simp), ← List.filter_append]
  exact apart

theorem insertAt?_of_not_mem (parts : m.entries = before ++ behind) (absent : k ∉ m.keys)
    (v : ν) : ∃ m', m.insertAt? before.length k v = some m' ∧
      m'.entries = before ++ (k, v) :: behind := by
  have same := erase_eq_self absent
  have inside : before.length ≤ (m.erase k).entries.length := by
    rw [same, parts, List.length_append]
    omega
  refine ⟨_, dif_pos inside, ?_⟩
  show (m.erase k).entries.insertIdx before.length (k, v) = _
  rw [same, parts]
  clear * -
  induction before with
  | nil => rfl
  | cons e rest ih => simp [ih]

end

end LightShow.OrderedMap
