import LightShow.Proofs.Readable
import LightShow.Proofs.Rereading

/-!
Configurations in a file. An entry is exchanged for its key and turned back for its value, so an
entry with the value of an exchanged one is turned although it was never exchanged.
-/

namespace LightShow.ShowFile

open OrderedMap

theorem turnedFilter_configuration_eq_iff (f : Filter) :
    (turnedFilter f).configuration = f.configuration ↔
      ∀ e ∈ f.configuration.entries, f.kind.exchangedKey? = some e.2 → e.1 = e.2 := by
  constructor
  · intro kept e member looks
    have among : e ∈ (turnedFilter f).configuration.entries := by rwa [kept]
    obtain ⟨origin, -, same⟩ := List.mem_map.mp (mem_of_mem_ofList among)
    unfold turnedEntry at same
    split at same
    · rename_i turned
      have value := Option.some.inj (turned.symm.trans looks)
      rw [← same] at value ⊢
      exact value
    · rename_i plain
      rw [same] at plain
      exact absurd looks plain
  · intro unexchanged
    rw [turnedFilter_eq unexchanged]

theorem exchangedKey?_universeOutput {f : Filter} (kind : f.kind = .universeOutput)
    (value : String) : f.kind.exchangedKey? = some value ↔ value = "universe" := by
  rw [kind]
  exact Option.some_inj.trans eq_comm

theorem turnedFilter_universeOutput_iff {f : Filter} (kind : f.kind = .universeOutput) :
    (turnedFilter f).configuration = f.configuration ↔
      ∀ e ∈ f.configuration.entries, e.2 = "universe" → e.1 = "universe" := by
  rw [turnedFilter_configuration_eq_iff]
  refine forall₂_congr fun e _ => ?_
  rw [exchangedKey?_universeOutput kind]
  exact forall_congr' fun value => by rw [value]

example : (turnedFilter {
      id := "u"
      kind := .universeOutput
      configuration := .ofList [("dimmer", "universe"), ("universe", "dimmer")] }).configuration =
    .ofList [("universe", "dimmer")] := by
  decide

theorem find?_map_of_nodup {α β κ : Type} [DecidableEq κ] {xs : List α} {key : α → κ}
    (distinct : (xs.map key).Nodup) (g : α → β) {key' : β → κ}
    (same : ∀ x, key' (g x) = key x) {x : α} (member : x ∈ xs) :
    (xs.map g).find? (fun y => key' y = key x) = some (g x) := by
  rw [List.find?_map]
  cases found : xs.find? ((fun y => decide (key' y = key x)) ∘ g) with
  | none => exact absurd (by simp [same]) (List.find?_eq_none.mp found x member)
  | some y =>
    have keys : key y = key x := by simpa [same] using List.find?_some found
    rw [List.inj_on_of_nodup_map distinct (List.mem_of_find?_eq_some found) member keys]
    rfl

/-- A scene as it is read after it was written for authoring. -/
def readBack (s : Scene) : Scene :=
  carriedScene true (turnedScene (CompiledScene.reread ⟨s, s.filters⟩))

theorem scene?_readBack {d : Show} (distinct : (d.scenes.map Scene.id).Nodup) {s : Scene}
    (listed : s ∈ d.scenes) :
    (carried (turnedShow d.authored.reread)).scene? s.id = some (readBack s) := by
  have scenes : (carried (turnedShow d.authored.reread)).scenes = d.scenes.map readBack := by
    simp only [carried, turnedShow, CompiledShow.reread, Show.authored, List.map_map]
    rfl
  rw [Show.scene?, scenes]
  exact find?_map_of_nodup distinct readBack (fun _ => rfl) listed

theorem node?_readBack {s : Scene} (valid : s.Valid) {f : Filter} (held : f ∈ s.filters) :
    (readBack s).node? f.id = some (.ofFilter (turnedFilter f.reread)) := by
  have nodes : (readBack s).nodes =
      s.filters.map fun g => Node.ofFilter (turnedFilter g.reread) := by
    simp only [readBack, carriedScene, turnedScene, CompiledScene.reread, List.map_map]
    rfl
  rw [Scene.node?, nodes]
  exact find?_map_of_nodup valid.distinct_filters
    (fun g => Node.ofFilter (turnedFilter g.reread)) (fun _ => Node.id_ofFilter _) held

theorem read_authored_iff (settings : Settings) {d : Show}
    (distinct : (d.scenes.map Scene.id).Nodup) (valid : ∀ s ∈ d.scenes, s.Valid) {back : Show} :
    (read (text settings d.authored)).outcome = .ok back ↔
      (∀ s ∈ d.scenes, ∀ f ∈ s.filters, f.Tells) ∧
        back = carried (turnedShow d.authored.reread) := by
  rw [read_text_eq_ok_iff settings (identified_authored distinct valid)]
  exact and_congr_left' List.forall_mem_map

/-- A show is written for authoring and, if its references can be told, read back. The
    configuration of a universe output is then the turned one, which is the same exactly if no
    entry but the one under the exchanged key has that key for its value. -/
theorem universe_configuration_kept_iff (book : RecipeBook) (settings : Settings) {d : Show}
    (distinct : (d.scenes.map Scene.id).Nodup) (valid : ∀ s ∈ d.scenes, s.Valid) {s : Scene}
    (listed : s ∈ d.scenes) {f : Filter} (held : f ∈ s.filters)
    (kind : f.kind = .universeOutput) :
    ∃ c written, (compile book settings .authoring d).outcome = .ok c ∧
      (write settings c).outcome = .ok written ∧
      ((∃ back, (read written).outcome = .ok back) ↔
        ∀ t ∈ d.scenes, ∀ g ∈ t.filters, g.Tells) ∧
      ∀ back, (read written).outcome = .ok back → ∃ s' n, back.scene? s.id = some s' ∧
        s'.node? f.id = some n ∧ n.filter.configuration = (turnedFilter f).configuration ∧
        (n.filter.configuration = f.configuration ↔
          ∀ e ∈ f.configuration.entries, e.2 = "universe" → e.1 = "universe") := by
  refine ⟨d.authored, text settings d.authored, compile_authoring distinct, rfl, ?_, ?_⟩
  · constructor
    · intro accepted
      obtain ⟨back, accepted⟩ := accepted
      exact ((read_authored_iff settings distinct valid).mp accepted).1
    · intro tell
      exact ⟨_, (read_authored_iff settings distinct valid).mpr ⟨tell, rfl⟩⟩
  · intro back accepted
    obtain ⟨-, rfl⟩ := (read_authored_iff settings distinct valid).mp accepted
    refine ⟨readBack s, _, scene?_readBack distinct listed,
      node?_readBack (valid s listed) held, ?_, ?_⟩
    · rw [Node.filter_ofFilter]
      rfl
    · rw [Node.filter_ofFilter]
      exact turnedFilter_universeOutput_iff kind

def oneEntryShow (e : String × String) : Show where
  scenes := [{
    id := 1
    name := "Main"
    nodes := [.concrete { id := "u", kind := .universeOutput, configuration := .ofList [e] }] }]

theorem valid_oneEntryShow (e : String × String) :
    ((oneEntryShow e).scenes.map Scene.id).Nodup ∧
      ∀ s ∈ (oneEntryShow e).scenes, s.Valid := by
  refine ⟨List.nodup_singleton _, ?_⟩
  intro s listed
  obtain rfl := List.mem_singleton.mp listed
  refine ⟨List.nodup_singleton _, ?_⟩
  intro n member
  obtain rfl := List.mem_singleton.mp member
  rfl

theorem tells_oneEntryShow (e : String × String) :
    ∀ s ∈ (oneEntryShow e).scenes, ∀ f ∈ s.filters, f.Tells := by
  intro s listed f held
  obtain rfl := List.mem_singleton.mp listed
  obtain rfl := List.mem_singleton.mp held
  exact List.forall_mem_nil _

theorem universe_configuration_kept_iff_one_entry :
    ∃ c written,
      (compile .builtIn {} .authoring (oneEntryShow ("universe", "1"))).outcome = .ok c ∧
      (write {} c).outcome = .ok written ∧ (∃ back, (read written).outcome = .ok back) ∧
      ∀ back, (read written).outcome = .ok back → ∃ s n, back.scene? 1 = some s ∧
        s.node? "u" = some n ∧ n.filter.configuration = .ofList [("universe", "1")] := by
  obtain ⟨distinct, valid⟩ := valid_oneEntryShow ("universe", "1")
  obtain ⟨c, written, compiled, wrote, readable, kept⟩ :=
    universe_configuration_kept_iff .builtIn {} distinct valid (.head _) (.head _) rfl
  refine ⟨c, written, compiled, wrote, readable.mpr (tells_oneEntryShow _), ?_⟩
  intro back accepted
  obtain ⟨s, n, scene, node, -, same⟩ := kept back accepted
  exact ⟨s, n, scene, node, same.mpr (by decide)⟩

theorem universe_value_turned :
    ∃ c written,
      (compile .builtIn {} .authoring (oneEntryShow ("dimmer", "universe"))).outcome = .ok c ∧
      (write {} c).outcome = .ok written ∧
      (read written).outcome = .ok (oneEntryShow ("universe", "dimmer")) ∧
      oneEntryShow ("universe", "dimmer") ≠ oneEntryShow ("dimmer", "universe") := by
  obtain ⟨distinct, valid⟩ := valid_oneEntryShow ("dimmer", "universe")
  refine ⟨_, _, compile_authoring distinct, rfl, ?_, by decide⟩
  exact (read_authored_iff {} distinct valid).mpr ⟨tells_oneEntryShow _, rfl⟩

end LightShow.ShowFile
