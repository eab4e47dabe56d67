import LightShow.Proofs.Editing

/-!
Calls on the keyed nodes of a scene and on its plain list of nodes, side by side. Both answer
the same and leave the same nodes, so that after any calls a scene is an ordered list of nodes
with distinct ids in which every node follows its kind.
-/

namespace LightShow

open OrderedMap

namespace Scene

def settle (s : Scene) : Except GraphError Scene → Except GraphError (Option Node) × Scene
  | .ok s' => (.ok none, s')
  | .error e => (.error e, s)

variable {s : Scene} {before behind : List Node} {n : Node} {id : String}

theorem node?_parts (parts : s.nodes = before ++ n :: behind) (here : n.id = id)
    (apart : ∀ m ∈ before, m.id ≠ id) : s.node? id = some n := by
  have earlier : before.find? (fun m => m.id = id) = none := by
    rw [List.find?_eq_none]
    intro m member
    simpa using apart m member
  simp [node?, parts, List.find?_append, earlier, here]

theorem replace_parts (here : n.id = id) (apart : ∀ m ∈ before, m.id ≠ id) (f : Filter) :
    replace id f (before ++ n :: behind) = before ++ .ofFilter f :: behind := by
  induction before with
  | nil => simp [replace, here]
  | cons m rest ih =>
    obtain ⟨first, others⟩ := List.forall_mem_cons.mp apart
    simp [replace, first, ih others]

theorem remove_parts (parts : s.nodes = before ++ n :: behind) (here : n.id = id)
    (apart : ∀ m ∈ before, m.id ≠ id) :
    s.remove id = { s with nodes := before ++ behind } := by
  have kept : ∀ m ∈ before, ¬ decide (m.id = id) = true := by
    intro m member
    simpa using apart m member
  simp [remove, parts, List.eraseP_append_right _ kept, here]

theorem id_ne_of_not_mem (absent : id ∉ s.ids) {m : Node} (member : m ∈ s.nodes) :
    ¬ decide (m.id = id) = true := by
  rw [decide_eq_true_eq]
  rintro rfl
  exact absent (List.mem_map_of_mem member)

theorem remove_of_not_mem (absent : id ∉ s.ids) : s.remove id = s := by
  rw [remove, List.eraseP_of_forall_not fun m => id_ne_of_not_mem absent]

theorem node?_of_not_mem (absent : id ∉ s.ids) : s.node? id = none := by
  rw [node?, List.find?_eq_none]
  intro m member
  exact id_ne_of_not_mem absent member

end Scene

namespace KeyedScene

/-- The keyed nodes are those of the scene in their order, each under its own id. -/
structure Holds (k : KeyedScene) (s : Scene) : Prop where
  id : k.id = s.id
  entries : k.nodes.entries = s.nodes.map fun n => (n.id, n)

variable {k : KeyedScene} {s : Scene}

theorem Holds.keys (holds : k.Holds s) : k.nodes.keys = s.ids := by
  rw [OrderedMap.keys, holds.entries, List.map_map]
  rfl

theorem Holds.exists_parts (holds : k.Holds s) {id : String} (member : id ∈ s.ids) :
    ∃ before n behind, n.id = id ∧ s.nodes = before ++ n :: behind ∧
      k.nodes.entries =
        (before.map fun n => (n.id, n)) ++ (id, n) :: (behind.map fun n => (n.id, n)) ∧
      ∀ m ∈ before, m.id ≠ id := by
  obtain ⟨n, among, rfl⟩ := List.mem_map.mp member
  obtain ⟨before, behind, nodes⟩ := List.append_of_mem among
  have parts : k.nodes.entries =
      (before.map fun n => (n.id, n)) ++ (n.id, n) :: (behind.map fun n => (n.id, n)) := by
    simp [holds.entries, nodes]
  refine ⟨before, n, behind, rfl, nodes, parts, ?_⟩
  intro m earlier same
  have once := not_mem_around parts
  rw [List.map_append, List.mem_append, not_or] at once
  apply once.1
  rw [← same]
  exact List.mem_map_of_mem (List.mem_map_of_mem earlier)

end KeyedScene

namespace Edit

def apply (s : Scene) : Edit → Except GraphError (Option Node) × Scene
  | .add f => s.settle (s.addFilter f)
  | .remove id => (.ok (s.node? id), s.remove id)
  | .update id change => s.settle (s.update id change)

/-- Both calls succeed with the same answer or are refused with the same error, and what they
    leave is the same. -/
def Agrees : Result → Except GraphError (Option Node) × Scene → Prop
  | .ok removed k, (.ok removed', s) => removed = removed' ∧ k.Holds s
  | .error (.refused e) k, (.error e', s) => e = e' ∧ k.Holds s
  | _, _ => False

theorem agrees_of_leaves {k : KeyedScene} {s : Scene} {r : Result} {removed : Option Node}
    {entries : List (String × Node)} {nodes : List Node} (leaves : Leaves k r removed entries)
    (holds : k.Holds s) (same : entries = nodes.map fun n => (n.id, n)) :
    Agrees r (.ok removed, { s with nodes }) := by
  obtain ⟨k', rfl, id, left⟩ := leaves
  exact ⟨rfl, ⟨id.trans holds.id, left.trans same⟩⟩

section

variable {k : KeyedScene} {s : Scene}

theorem agrees_add (holds : k.Holds s) (f : Filter) :
    Agrees ((Edit.add f).perform k) ((Edit.add f).apply s) := by
  have comes := perform_comesTo k (.add f)
  simp only [apply, Scene.addFilter, Scene.add, Node.id_ofFilter]
  rw [ComesTo, holds.keys] at comes
  split at comes
  · rename_i taken
    rw [if_pos taken, comes, holds.id]
    exact ⟨rfl, holds⟩
  · rename_i fresh
    rw [if_neg fresh]
    apply agrees_of_leaves comes holds
    simp [holds.entries]

theorem agrees_remove (holds : k.Holds s) (id : String) :
    Agrees ((Edit.remove id).perform k) ((Edit.remove id).apply s) := by
  have comes := perform_comesTo k (.remove id)
  by_cases member : id ∈ s.ids
  · obtain ⟨before, n, behind, here, nodes, parts, apart⟩ := holds.exists_parts member
    rw [apply, Scene.node?_parts nodes here apart, Scene.remove_parts nodes here apart]
    rw [ComesTo, get?_parts parts] at comes
    apply agrees_of_leaves comes holds
    have left := erase_parts parts
    rw [← List.map_append] at left
    exact left
  · rw [apply, Scene.node?_of_not_mem member, Scene.remove_of_not_mem member]
    have absent : id ∉ k.nodes.keys := by rwa [holds.keys]
    rw [ComesTo, (get?_eq_none_iff ..).mpr absent] at comes
    apply agrees_of_leaves comes holds
    have left := congrArg OrderedMap.entries (erase_eq_self absent)
    exact left.trans holds.entries

theorem agrees_update (holds : k.Holds s) (id : String) (change : Filter → Filter) :
    Agrees ((Edit.update id change).perform k) ((Edit.update id change).apply s) := by
  obtain ⟨unknown, known⟩ := perform_comesTo k (.update id change)
  by_cases member : id ∈ s.ids
  · obtain ⟨before, n, behind, here, nodes, parts, apart⟩ := holds.exists_parts member
    have comes := known _ n _ parts
    have taken_iff := mem_around_iff parts (change n.filter).id
    rw [holds.keys] at taken_iff
    dsimp only at comes
    simp only [apply, Scene.update, Scene.node?_parts nodes here apart]
    split at comes
    · rename_i taken
      rw [if_pos (taken_iff.mp taken), comes, holds.id]
      exact ⟨rfl, holds⟩
    · rename_i free
      rw [if_neg (mt taken_iff.mpr free), nodes, Scene.replace_parts here apart]
      apply agrees_of_leaves comes holds
      simp
  · rw [unknown (by rwa [holds.keys]), apply, Scene.update, Scene.node?_of_not_mem member,
      holds.id]
    exact ⟨rfl, holds⟩

theorem perform_agrees (holds : k.Holds s) (call : Edit) :
    Agrees (call.perform k) (call.apply s) := by
  cases call with
  | add f => exact agrees_add holds f
  | remove id => exact agrees_remove holds id
  | update id change => exact agrees_update holds id change

end

/-- What a call leaves behind, whatever it answers. -/
def remains : Result → KeyedScene
  | .ok _ k => k
  | .error _ k => k

theorem holds_of_agrees {r : Result} {plain : Except GraphError (Option Node) × Scene}
    (agrees : Agrees r plain) : (remains r).Holds plain.2 := by
  obtain ⟨answer, s⟩ := plain
  cases r with
  | ok removed k =>
    cases answer with
    | ok removed' => exact agrees.2
    | error e => exact agrees.elim
  | error fault k =>
    cases fault with
    | outOfRange => exact agrees.elim
    | refused e =>
      cases answer with
      | ok removed => exact agrees.elim
      | error e' => exact agrees.2

theorem ComesTo.unchanged {k k' : KeyedScene} {call : Edit} {r : Result} {fault : EditFault}
    (comes : call.ComesTo k r) (failed : r = .error fault k') : k' = k := by
  have settled : ∀ {removed entries}, Leaves k r removed entries → k' = k := by
    intro removed entries leaves
    obtain ⟨left, ok, -⟩ := leaves
    rw [ok] at failed
    cases failed
  have refused : ∀ {fault'}, r = .error fault' k → k' = k := by
    intro fault' refused
    rw [refused] at failed
    cases failed
    rfl
  cases call with
  | add f =>
    rw [ComesTo] at comes
    split at comes
    · exact refused comes
    · exact settled comes
  | remove id => exact settled comes
  | update id change =>
    obtain ⟨unknown, known⟩ := comes
    by_cases member : id ∈ k.nodes.keys
    · obtain ⟨before, n, behind, parts⟩ := exists_parts_of_mem_keys member
      have comes := known before n behind parts
      dsimp only at comes
      split at comes
      · exact refused comes
      · exact settled comes
    · exact refused (unknown member)

end Edit

def KeyedScene.after (k : KeyedScene) (calls : List Edit) : KeyedScene :=
  calls.foldl (fun k call => Edit.remains (call.perform k)) k

def Scene.after (s : Scene) (calls : List Edit) : Scene :=
  calls.foldl (fun s call => (call.apply s).2) s

theorem KeyedScene.Holds.after {k : KeyedScene} {s : Scene} (holds : k.Holds s)
    (calls : List Edit) : (k.after calls).Holds (s.after calls) := by
  induction calls generalizing k s with
  | nil => exact holds
  | cons call rest ih => exact ih (Edit.holds_of_agrees (Edit.perform_agrees holds call))

theorem KeyedScene.Holds.distinct {k : KeyedScene} {s : Scene} (holds : k.Holds s) :
    s.ids.Nodup := by
  rw [← holds.keys]
  exact k.nodes.distinct

namespace Scene

theorem mem_replace {id : String} {f : Filter} {nodes : List Node} {n : Node}
    (member : n ∈ replace id f nodes) : n = .ofFilter f ∨ n ∈ nodes := by
  induction nodes with
  | nil => cases member
  | cons m rest ih =>
    unfold replace at member
    split at member
    · rcases List.mem_cons.mp member with new | old
      · exact Or.inl new
      · exact Or.inr (List.mem_cons_of_mem m old)
    · rcases List.mem_cons.mp member with first | later
      · exact Or.inr (first ▸ List.mem_cons_self)
      · exact (ih later).imp_right (List.mem_cons_of_mem m)

theorem followsKind_apply {s : Scene} (follows : ∀ n ∈ s.nodes, n.FollowsKind) (call : Edit) :
    ∀ n ∈ (call.apply s).2.nodes, n.FollowsKind := by
  cases call with
  | add f =>
    simp only [Edit.apply, addFilter, add]
    split
    · exact follows
    · intro n member
      rcases List.mem_append.mp member with old | new
      · exact follows n old
      · rw [List.mem_singleton.mp new]
        exact Node.ofFilter_followsKind f
  | remove id =>
    intro n member
    exact follows n (List.mem_of_mem_eraseP member)
  | update id change =>
    simp only [Edit.apply, update]
    split
    · exact follows
    · split
      · exact follows
      · intro n member
        rcases mem_replace member with rfl | old
        · exact Node.ofFilter_followsKind _
        · exact follows n old

theorem followsKind_after {s : Scene} (follows : ∀ n ∈ s.nodes, n.FollowsKind)
    (calls : List Edit) : ∀ n ∈ (s.after calls).nodes, n.FollowsKind := by
  induction calls generalizing s with
  | nil => exact follows
  | cons call rest ih => exact ih (followsKind_apply follows call)

end Scene

/-- After any calls on a new scene every node stands under its own id, no id is there twice, and
    every node follows its kind. Each further call uses only places that are there, answers
    what the list of nodes answers, comes to what it has to come to, and changes nothing where
    it is refused. -/
theorem edited_scene_is_ordered_list (id : UInt32) (name : String) (calls : List Edit) :
    let s := Scene.after { id, name } calls
    let k := (KeyedScene.empty id).after calls
    (k.Holds s ∧ s.Valid) ∧
    (∀ call : Edit, call.ComesTo k (call.perform k)) ∧
    (∀ call : Edit, Edit.Agrees (call.perform k) (call.apply s)) ∧
    ∀ (call : Edit) fault k', call.perform k = .error fault k' → k' = k := by
  intro s k
  have start : (KeyedScene.empty id).Holds { id, name } := ⟨rfl, rfl⟩
  have holds : k.Holds s := start.after calls
  have follows : ∀ n ∈ s.nodes, n.FollowsKind := by
    apply Scene.followsKind_after
    intro n member
    cases member
  refine ⟨⟨holds, holds.distinct, follows⟩, Edit.perform_comesTo k, Edit.perform_agrees holds,
    ?_⟩
  intro call fault k' failed
  exact (Edit.perform_comesTo k call).unchanged failed

end LightShow
