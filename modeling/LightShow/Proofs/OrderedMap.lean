import Mathlib.Logic.Basic
import LightShow.OrderedMap

/-!
Which keys a map has after many insertions, and what it holds under them.
-/

namespace LightShow.OrderedMap

variable {κ ν : Type} [DecidableEq κ]

theorem lookup_of_mem {k : κ} {v : ν} {es : List (κ × ν)} (distinct : (es.map Prod.fst).Nodup)
    (member : (k, v) ∈ es) : lookup k es = some v := by
  induction es with
  | nil => cases member
  | cons e rest ih =>
    obtain ⟨a, b⟩ := e
    simp only [List.map_cons, List.nodup_cons] at distinct
    rcases List.mem_cons.mp member with here | later
    · cases here
      simp [lookup]
    · have different : a ≠ k := by
        rintro rfl
        exact distinct.1 (List.mem_map_of_mem later)
      simp [lookup, different, ih distinct.2 later]

theorem get?_eq_some_iff {m : OrderedMap κ ν} {k : κ} {v : ν} :
    m.get? k = some v ↔ (k, v) ∈ m.entries :=
  ⟨mem_entries_of_get?, lookup_of_mem m.distinct⟩

theorem isSome_get?_iff {m : OrderedMap κ ν} {k : κ} : (m.get? k).isSome ↔ k ∈ m.keys := by
  rw [← not_iff_not, Bool.not_eq_true, Option.isSome_eq_false_iff, Option.isNone_iff_eq_none]
  exact get?_eq_none_iff m k

theorem exists_get?_of_mem_keys {m : OrderedMap κ ν} {k : κ} (member : k ∈ m.keys) :
    ∃ v, m.get? k = some v :=
  Option.isSome_iff_exists.mp (isSome_get?_iff.mpr member)

theorem mem_keys_of_get? {m : OrderedMap κ ν} {k : κ} {v : ν} (found : m.get? k = some v) :
    k ∈ m.keys :=
  isSome_get?_iff.mp (by simp [found])

theorem mem_put {k : κ} {v : ν} {es : List (κ × ν)} {e : κ × ν}
    (member : e ∈ put k v es) :
    e = (k, v) ∨ e ∈ es := by
  induction es with
  | nil => exact Or.inl (List.mem_singleton.mp member)
  | cons head rest ih =>
    unfold put at member
    split at member
    · rename_i same
      rcases List.mem_cons.mp member with rfl | later
      · exact Or.inl (by rw [same])
      · exact Or.inr (List.mem_cons_of_mem _ later)
    · rcases List.mem_cons.mp member with rfl | later
      · exact Or.inr List.mem_cons_self
      · exact (ih later).imp_right (List.mem_cons_of_mem _)

theorem mem_entries_insert {m : OrderedMap κ ν} {k : κ} {v : ν} {e : κ × ν}
    (member : e ∈ (m.insert k v).entries) : e = (k, v) ∨ e ∈ m.entries :=
  mem_put member

theorem insertAll_cons (m : OrderedMap κ ν) (e : κ × ν) (es : List (κ × ν)) :
    m.insertAll (e :: es) = (m.insert e.1 e.2).insertAll es := rfl

theorem mem_keys_insertAll {m : OrderedMap κ ν} {es : List (κ × ν)} {k : κ} :
    k ∈ (m.insertAll es).keys ↔ k ∈ m.keys ∨ k ∈ es.map Prod.fst := by
  induction es generalizing m with
  | nil => simp [insertAll]
  | cons e es ih =>
    rw [insertAll_cons, ih, keys_insert]
    by_cases known : e.1 ∈ m.keys
    · simp only [known, if_true, List.map_cons, List.mem_cons]
      constructor
      · rintro (old | new)
        · exact Or.inl old
        · exact Or.inr (Or.inr new)
      · rintro (old | rfl | new)
        · exact Or.inl old
        · exact Or.inl known
        · exact Or.inr new
    · simp [known, or_assoc]

theorem get?_insertAll_of_not_mem {m : OrderedMap κ ν} {es : List (κ × ν)} {k : κ}
    (absent : k ∉ es.map Prod.fst) : (m.insertAll es).get? k = m.get? k := by
  induction es generalizing m with
  | nil => rfl
  | cons e es ih =>
    simp only [List.map_cons, List.mem_cons, not_or] at absent
    rw [insertAll_cons, ih absent.2, get?_insert, if_neg (Ne.symm absent.1)]

theorem get?_insertAll_of_mem {m : OrderedMap κ ν} {es : List (κ × ν)} {k : κ} {v : ν}
    (distinct : (es.map Prod.fst).Nodup) (member : (k, v) ∈ es) :
    (m.insertAll es).get? k = some v := by
  induction es generalizing m with
  | nil => cases member
  | cons e es ih =>
    simp only [List.map_cons, List.nodup_cons] at distinct
    rw [insertAll_cons]
    rcases List.mem_cons.mp member with rfl | later
    · rw [get?_insertAll_of_not_mem distinct.1, get?_insert, if_pos rfl]
    · exact ih distinct.2 later

theorem mem_or_get?_of_insertAll {m : OrderedMap κ ν} {es : List (κ × ν)} {k : κ} {v : ν}
    (found : (m.insertAll es).get? k = some v) :
    (k, v) ∈ es ∨ k ∉ es.map Prod.fst ∧ m.get? k = some v := by
  induction es generalizing m with
  | nil => exact Or.inr ⟨List.not_mem_nil, found⟩
  | cons e es ih =>
    rw [insertAll_cons] at found
    rcases ih found with later | ⟨absent, found⟩
    · exact Or.inl (List.mem_cons_of_mem e later)
    rw [get?_insert] at found
    split at found
    · rename_i here
      cases found
      exact Or.inl (here ▸ List.mem_cons_self)
    · rename_i elsewhere
      refine Or.inr ⟨?_, found⟩
      rw [List.map_cons, List.mem_cons, not_or]
      exact ⟨Ne.symm elsewhere, absent⟩

theorem entries_ofList {es : List (κ × ν)} (distinct : (es.map Prod.fst).Nodup) :
    (ofList es).entries = es := by
  have appended := entries_insertAll (∅ : OrderedMap κ ν) es (by simpa using distinct)
  simpa [ofList] using appended

theorem mem_of_mem_ofList {es : List (κ × ν)} {e : κ × ν}
    (member : e ∈ (ofList es).entries) :
    e ∈ es := by
  rcases mem_or_get?_of_insertAll (get?_eq_some_iff.mpr member) with listed | ⟨-, before⟩
  · exact listed
  · cases before

def mapValues {μ : Type} (g : ν → μ) (m : OrderedMap κ ν) : OrderedMap κ μ :=
  ⟨m.entries.map fun e => (e.1, g e.2), by
    rw [List.map_map]
    exact m.distinct⟩

section

variable {μ : Type} (g : ν → μ)

theorem get?_mapValues (m : OrderedMap κ ν) (k : κ) :
    (m.mapValues g).get? k = (m.get? k).map g := by
  obtain ⟨es, distinct⟩ := m
  show lookup k (es.map fun e => (e.1, g e.2)) = (lookup k es).map g
  clear distinct
  induction es with
  | nil => rfl
  | cons e rest ih =>
    obtain ⟨k', v⟩ := e
    by_cases h : k' = k <;> simp [lookup, h, ih]

theorem mapValues_insert (m : OrderedMap κ ν) (k : κ) (v : ν) :
    (m.insert k v).mapValues g = (m.mapValues g).insert k (g v) := by
  obtain ⟨es, distinct⟩ := m
  apply ext_entries
  show (put k v es).map (fun e => (e.1, g e.2)) = put k (g v) (es.map fun e => (e.1, g e.2))
  clear distinct
  induction es with
  | nil => rfl
  | cons e rest ih =>
    obtain ⟨k', v'⟩ := e
    by_cases h : k' = k <;> simp [put, h, ih]

end

theorem put_of_lookup {k : κ} {v : ν} {es : List (κ × ν)} (found : lookup k es = some v) :
    put k v es = es := by
  induction es with
  | nil => cases found
  | cons e rest ih =>
    obtain ⟨k', v'⟩ := e
    by_cases here : k' = k
    · have same : v' = v := by simpa [lookup, here] using found
      simp [put, here, same]
    · have later : lookup k rest = some v := by simpa [lookup, here] using found
      simp [put, here, ih later]

theorem insert_of_get? {m : OrderedMap κ ν} {k : κ} {v : ν} (found : m.get? k = some v) :
    m.insert k v = m :=
  ext_entries (put_of_lookup found)

theorem ofList_concat (es : List (κ × ν)) (k : κ) (v : ν) :
    ofList (es ++ [(k, v)]) = (ofList es).insert k v := by
  simp [ofList, insertAll]

end LightShow.OrderedMap
