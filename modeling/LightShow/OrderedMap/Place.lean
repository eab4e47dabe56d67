import Mathlib.Data.List.InsertIdx
import LightShow.OrderedMap

/-!
The places of an ordered map. An entry is read, replaced, removed or inserted by its place, a
number that may also lie beyond the entries.
-/

namespace LightShow.OrderedMap

variable {κ ν : Type}

def entryAt? (m : OrderedMap κ ν) (i : Nat) : Option (κ × ν) := m.entries[i]?

def replaceAt? (m : OrderedMap κ ν) (i : Nat) (v : ν) : Option (OrderedMap κ ν) :=
  if inside : i < m.entries.length then
    some ⟨m.entries.set i (m.entries[i].1, v), by
      have place : i < (m.entries.map Prod.fst).length := by rwa [List.length_map]
      rw [List.map_set, ← List.getElem_map Prod.fst (h := place), List.set_getElem_self]
      exact m.distinct⟩
  else none

def removeAt (m : OrderedMap κ ν) (i : Nat) : OrderedMap κ ν :=
  ⟨m.entries.eraseIdx i, m.distinct.sublist ((List.eraseIdx_sublist ..).map _)⟩

section

variable [DecidableEq κ]

def placeOf? (m : OrderedMap κ ν) (k : κ) : Option Nat := m.entries.findIdx? fun e => e.1 = k

def erase (m : OrderedMap κ ν) (k : κ) : OrderedMap κ ν :=
  ⟨m.entries.filter fun e => e.1 ≠ k, m.distinct.sublist (List.filter_sublist.map _)⟩

theorem not_mem_keys_erase (m : OrderedMap κ ν) (k : κ) : k ∉ (m.erase k).keys := by
  intro member
  obtain ⟨e, among, same⟩ := List.mem_map.mp member
  have other := (List.mem_filter.mp among).2
  simp [same] at other

/-- Inserts an entry at a place, or behind the last one. A key that is there already moves to
    the place. -/
def insertAt? (m : OrderedMap κ ν) (i : Nat) (k : κ) (v : ν) : Option (OrderedMap κ ν) :=
  if inside : i ≤ (m.erase k).entries.length then
    some ⟨(m.erase k).entries.insertIdx i (k, v), by
      have moved := (List.perm_insertIdx (k, v) (m.erase k).entries inside).map Prod.fst
      rw [moved.nodup_iff, List.map_cons, List.nodup_cons]
      exact ⟨m.not_mem_keys_erase k, (m.erase k).distinct⟩⟩
  else none

end

end LightShow.OrderedMap
