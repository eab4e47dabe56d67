import LightShow.KeyedScene
import LightShow.Proofs.Assembly
import LightShow.Proofs.Places

/-!
A scene under edits that work on keys and places. Whatever the calls are, every node stays under
its own id, no call uses a place that is not there, and a call does what it does to a plain list
of nodes.
-/

namespace LightShow

open OrderedMap Outcome Editing

theorem Editing.within_bind {α β : Type} (a : α) (next : α → Editing β) (k : KeyedScene) :
    (within (some a) >>= next) k = next a k := rfl

namespace KeyedScene

variable {k : KeyedScene} {n : Node} {id : String}

theorem contains_iff : k.nodes.contains id = true ↔ id ∈ k.nodes.keys :=
  isSome_get?_iff

theorem add_taken (taken : n.id ∈ k.nodes.keys) :
    add n k = .error (.refused (.duplicateFilter k.id n.id)) k := by
  rw [add, get_bind, if_pos (contains_iff.mpr taken)]
  rfl

theorem add_new (fresh : n.id ∉ k.nodes.keys) :
    add n k = .ok () { k with nodes := k.nodes.insert n.id n } := by
  rw [add, get_bind, if_neg (mt contains_iff.mp fresh)]
  rfl

theorem remove_eq : remove id k = .ok (k.nodes.get? id) { k with nodes := k.nodes.erase id } :=
  rfl

theorem update_unknown (absent : id ∉ k.nodes.keys) (change : Filter → Filter) :
    update id change k = .error (.refused (.unknownFilter k.id id)) k := by
  rw [update, get_bind, placeOf?_eq_none absent]
  rfl

section

variable {before behind : List (String × Node)}

theorem update_taken (parts : k.nodes.entries = before ++ (id, n) :: behind)
    {change : Filter → Filter}
    (taken : (change n.filter).id ∈ (before ++ behind).map Prod.fst) :
    update id change k = .error (.refused (.duplicateFilter k.id (change n.filter).id)) k := by
  obtain ⟨other, known⟩ := (mem_around_iff parts _).mp taken
  rw [update, get_bind, placeOf?_parts parts]
  dsimp only
  rw [entryAt?_parts parts, within_bind]
  dsimp only
  rw [if_pos ⟨other, contains_iff.mpr known⟩]
  rfl

theorem update_free (parts : k.nodes.entries = before ++ (id, n) :: behind)
    {change : Filter → Filter}
    (free : (change n.filter).id ∉ (before ++ behind).map Prod.fst) :
    ∃ nodes, update id change k = .ok () { k with nodes } ∧
      nodes.entries = before ++ ((change n.filter).id, .ofFilter (change n.filter)) :: behind := by
  have allowed :
      ¬ ((change n.filter).id ≠ id ∧ k.nodes.contains (change n.filter).id = true) := by
    rintro ⟨other, known⟩
    exact free ((mem_around_iff parts _).mpr ⟨other, contains_iff.mp known⟩)
  rw [update, get_bind, placeOf?_parts parts]
  dsimp only
  rw [entryAt?_parts parts, within_bind]
  dsimp only
  rw [if_neg allowed, Node.id_ofFilter]
  by_cases same : (change n.filter).id = id
  · obtain ⟨nodes, replaced, entries⟩ := replaceAt?_parts parts (.ofFilter (change n.filter))
    rw [if_pos same, replaced, within_bind]
    exact ⟨nodes, rfl, by rw [entries, same]⟩
  · have fewer := removeAt_parts parts
    have absent : (change n.filter).id ∉ (k.nodes.removeAt before.length).keys := by
      rw [OrderedMap.keys, fewer]
      exact free
    obtain ⟨nodes, inserted, entries⟩ :=
      insertAt?_of_not_mem fewer absent (.ofFilter (change n.filter))
    rw [if_neg same, set_bind, inserted, within_bind]
    exact ⟨nodes, rfl, entries⟩

end

end KeyedScene

namespace Edit

def Leaves (k : KeyedScene) (r : Result) (removed : Option Node)
    (entries : List (String × Node)) : Prop :=
  ∃ k' : KeyedScene, r = .ok removed k' ∧ k'.id = k.id ∧ k'.nodes.entries = entries

/-- What a call has to come to. A new node goes to the end; a removed one goes without a trace;
    an edited one stays where it is, under its new id. A call that is refused changes nothing. -/
def ComesTo (k : KeyedScene) (r : Result) : Edit → Prop
  | .add f =>
    if f.id ∈ k.nodes.keys then r = .error (.refused (.duplicateFilter k.id f.id)) k
    else Leaves k r none (k.nodes.entries ++ [(f.id, .ofFilter f)])
  | .remove id =>
    Leaves k r (k.nodes.get? id) (k.nodes.entries.filter fun e => e.1 ≠ id)
  | .update id change =>
    (id ∉ k.nodes.keys → r = .error (.refused (.unknownFilter k.id id)) k) ∧
    ∀ before n behind, k.nodes.entries = before ++ (id, n) :: behind →
      let f := change n.filter
      if f.id ∈ (before ++ behind).map Prod.fst then
        r = .error (.refused (.duplicateFilter k.id f.id)) k
      else Leaves k r none (before ++ (f.id, .ofFilter f) :: behind)

theorem perform_comesTo (k : KeyedScene) (call : Edit) : call.ComesTo k (call.perform k) := by
  cases call with
  | add f =>
    rw [ComesTo]
    split
    · rename_i taken
      have refused := KeyedScene.add_taken (n := .ofFilter f) (by rwa [Node.id_ofFilter])
      rw [Node.id_ofFilter] at refused
      exact result_bind_of_error refused _
    · rename_i fresh
      have added := KeyedScene.add_new (n := .ofFilter f) (by rwa [Node.id_ofFilter])
      rw [Node.id_ofFilter] at added
      exact ⟨{ k with nodes := k.nodes.insert f.id (.ofFilter f) }, result_bind_of_ok added _,
        rfl, entries_insert_of_not_mem _ fresh⟩
  | remove id => exact ⟨_, KeyedScene.remove_eq, rfl, rfl⟩
  | update id change =>
    constructor
    · intro absent
      exact result_bind_of_error (KeyedScene.update_unknown absent change) _
    · intro before n behind parts
      dsimp only
      split
      · rename_i taken
        exact result_bind_of_error (KeyedScene.update_taken parts taken) _
      · rename_i free
        obtain ⟨nodes, updated, entries⟩ := KeyedScene.update_free parts free
        exact ⟨{ k with nodes }, result_bind_of_ok updated _, rfl, entries⟩

end Edit

end LightShow
