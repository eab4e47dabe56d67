import LightShow.Proofs.Compilation
import LightShow.Proofs.Deployment
import LightShow.ShowFile.Tags

/-!
What the editor keeps beside the filters of a show never reaches the engine. The recipes make
the same of a filter wherever it stands, so that a show without its presentation data is deployed
as the show with it, and is written as the same file.
-/

namespace LightShow

open Outcome OrderedMap

def Filter.unplaced (f : Filter) : Filter := { f with position := .origin }

namespace Filter

variable (f : Filter)

@[simp] theorem id_unplaced : f.unplaced.id = f.id := rfl
@[simp] theorem kind_unplaced : f.unplaced.kind = f.kind := rfl
@[simp] theorem links_unplaced : f.unplaced.links = f.links := rfl
@[simp] theorem parameters_unplaced : f.unplaced.parameters = f.parameters := rfl
@[simp] theorem declaredPorts_unplaced : f.unplaced.declaredPorts = f.declaredPorts := rfl

@[simp] theorem numberOr_unplaced (name : String) (default : Number) :
    f.unplaced.numberOr name default = f.numberOr name default := rfl

end Filter

/-- The scene without what the editor keeps beside its filters. -/
def Scene.bare (s : Scene) : Scene :=
  { s with nodes := s.nodes.map (Node.map Filter.unplaced), filterPages := [], uiPages := [] }

/-- The show without its presentation data. -/
def Show.bare (d : Show) : Show :=
  { d with scenes := d.scenes.map Scene.bare, devices := [], uiHints := ∅, commands := [],
           eventSenders := [] }

@[simp] theorem Scene.id_bare (s : Scene) : s.bare.id = s.id := rfl
@[simp] theorem Show.name_bare (d : Show) : d.bare.name = d.name := rfl
@[simp] theorem Show.activeScene_bare (d : Show) : d.bare.activeScene = d.activeScene := rfl

theorem Show.scene?_bare (d : Show) (id : UInt32) :
    d.bare.scene? id = (d.scene? id).map Scene.bare :=
  List.find?_map

def CompiledScene.bare (c : CompiledScene) : CompiledScene := { c with scene := c.scene.bare }

def CompiledShow.bare (c : CompiledShow) : CompiledShow :=
  { c with document := c.document.bare, scenes := c.scenes.map CompiledScene.bare }

/-- What the recipe makes of a filter differs only in where the inner nodes stand when the filter
    is moved. -/
structure Recipe.Blind (recipe : Recipe) : Prop where
  outputs : ∀ f, recipe.outputs f.unplaced = recipe.outputs f
  source? : ∀ f port, recipe.source? f.unplaced port = recipe.source? f port
  nodes : ∀ f, recipe.nodes f.unplaced =
    (recipe.nodes f).map (List.map (Node.map Filter.unplaced))

def RecipeBook.Blind (book : RecipeBook) : Prop :=
  ∀ k recipe, book.recipe? k = some recipe → recipe.Blind

namespace Recipe

theorem axis_unplaced (f : Filter) (name : String) :
    axis f.unplaced name = (axis f name).map (List.map (Node.map Filter.unplaced)) := by
  simp only [axis, Filter.numberOr_unplaced]
  cases f.numberOr name (.ofDecimal false 5 (-1)) <;> rfl

theorem blind_position : position.Blind where
  outputs _ := rfl
  source? _ _ := rfl
  nodes f := by
    simp only [position, axis_unplaced]
    cases axis f "pan" with
    | error e => rfl
    | ok pan =>
      cases axis f "tilt" with
      | error e => rfl
      | ok tilt => exact congrArg Except.ok List.map_append.symm

theorem blind_oscillator : oscillator.Blind where
  outputs _ := rfl
  source? _ _ := rfl
  nodes f := by
    simp only [oscillator, Filter.numberOr_unplaced]
    cases f.numberOr "period" (.ofWhole 1000) with
    | error e => rfl
    | ok period =>
      simp only [ok_bind]
      cases period.nonpositive with
      | true => rfl
      | false =>
        cases f.numberOr "amplitude" (.ofWhole 1) with
        | error e => rfl
        | ok amplitude => cases f.numberOr "offset" .zero <;> rfl

theorem blind_dimmedColor : dimmedColor.Blind where
  outputs _ := rfl
  source? _ _ := rfl
  nodes f := by
    simp only [dimmedColor, Filter.links_unplaced]
    cases f.links.get? "color" <;> rfl

theorem blind_delayChain : delayChain.Blind where
  outputs _ := rfl
  source? _ _ := rfl
  nodes f := by
    have counted : stages f.unplaced = stages f := rfl
    simp only [delayChain, counted, Filter.links_unplaced, Filter.parameters_unplaced]
    cases stages f with
    | error e => rfl
    | ok count =>
      simp only [ok_bind]
      by_cases long : count > 1
      · simp only [if_pos long]
        cases f.links.get? "value" <;> cases f.parameters.get? "delay" <;> rfl
      · simp only [if_neg long]
        cases f.links.get? "value" <;> cases f.parameters.get? "delay" <;> rfl

theorem blind_oscillatingDimmer : oscillatingDimmer.Blind where
  outputs _ := rfl
  source? _ _ := rfl
  nodes _ := rfl

end Recipe

theorem Composite.blind_recipe (c : Composite) : c.recipe.Blind := by
  cases c with
  | position => exact Recipe.blind_position
  | oscillator => exact Recipe.blind_oscillator
  | dimmedColor => exact Recipe.blind_dimmedColor
  | delayChain => exact Recipe.blind_delayChain
  | oscillatingDimmer => exact Recipe.blind_oscillatingDimmer

theorem RecipeBook.blind_builtIn : builtIn.Blind := by
  intro k recipe registered
  have listed : builtIn.recipes.entries =
      [Composite.position, .oscillator, .dimmedColor, .delayChain, .oscillatingDimmer].map
        fun c => (.composite c, c.recipe) := rfl
  have member := mem_entries_of_get? registered
  rw [listed] at member
  obtain ⟨c, -, same⟩ := List.mem_map.mp member
  cases same
  exact c.blind_recipe

theorem Stage.concat_map_answers {α β ι : Type} (g : α → β) (run : ι → Stage (List α))
    (xs : List ι) : concat (xs.map fun x => (run x).map (List.map g)) =
      (concat (xs.map run)).map (List.map g) := by
  induction xs with
  | nil => rfl
  | cons x rest ih =>
    simp only [List.map_cons, concat_cons, ih, Run.bind_map, Run.map_bind]
    congr 1
    funext first
    congr 1
    funext others
    exact congrArg Run.answer List.map_append.symm

section

variable {book : RecipeBook} (blind : book.Blind) (scene : UInt32)

include blind

theorem unfold_unplaced (f : Filter) : unfold book scene f.unplaced =
    (unfold book scene f).map (List.map (Node.map Filter.unplaced)) := by
  unfold LightShow.unfold
  rw [f.kind_unplaced, f.declaredPorts_unplaced, f.links_unplaced]
  cases found : book.recipe? f.kind with
  | none => rfl
  | some recipe =>
    have blind := blind f.kind recipe found
    have records : recordOutputs recipe f.unplaced = recordOutputs recipe f := by
      funext names
      induction names with
      | nil => rfl
      | cons port rest ih => simp only [recordOutputs, blind.source?, ih]; rfl
    simp only [Run.bind_eq, Run.map_bind, blind.nodes, blind.outputs, records]
    congr 1
    funext ports
    cases f.links.keys.find? fun port => !ports.inputs.contains port with
    | some port => rfl
    | none =>
      have made : (Run.ofExcept ((recipe.nodes f).map (List.map (Node.map Filter.unplaced))) :
          Stage (List Node)) =
          (Run.ofExcept (recipe.nodes f)).map (List.map (Node.map Filter.unplaced)) := rfl
      simp only [Run.pure_eq, made, Run.bind_map, Run.map_bind, List.length_map]
      rfl

variable (limit : Nat)

theorem expandNode_unplaced (budget : Nat) (n : Node) :
    expandNode book scene limit budget (n.map Filter.unplaced) =
      (expandNode book scene limit budget n).map (List.map Filter.unplaced) := by
  induction budget generalizing n with
  | zero => cases n <;> rfl
  | succ budget ih =>
    cases n with
    | concrete f => rfl
    | composite f =>
      show expandNode book scene limit (budget + 1) (.composite f.unplaced) = _
      simp only [expandNode, Run.bind_eq, unfold_unplaced blind, Run.bind_map, Run.map_bind,
        List.map_map, Function.comp_def, ih, Stage.concat_map_answers]

theorem expand_unplaced (nodes : List Node) :
    expand book scene limit (nodes.map (Node.map Filter.unplaced)) =
      (expand book scene limit nodes).map (List.map Filter.unplaced) := by
  simp only [expand_concat, List.map_map, Function.comp_def, expandNode_unplaced blind,
    Stage.concat_map_answers]

end

def Singletons.unplaced (s : Singletons) : Singletons :=
  { s with canonical := s.canonical.mapValues Filter.unplaced }

theorem Singletons.offer_unplaced (s : Singletons) (scene : UInt32) (f : Filter) :
    s.unplaced.offer scene (.concrete f.unplaced) =
      (s.offer scene (.concrete f)).map (Prod.map id Singletons.unplaced) := by
  have canonical : s.unplaced.canonical? f.kind = (s.canonical? f.kind).map Filter.unplaced :=
    get?_mapValues Filter.unplaced s.canonical f.kind
  have stored : s.unplaced.canonical.insert f.kind f.unplaced =
      (s.canonical.insert f.kind f).mapValues Filter.unplaced :=
    (mapValues_insert Filter.unplaced s.canonical f.kind f).symm
  unfold offer
  refine .trans ?_ (Run.map_ite _ _ _ _).symm
  refine if_congr Iff.rfl rfl (.trans ?_ (Run.map_ite _ _ _ _).symm)
  refine if_congr Iff.rfl rfl (.trans ?_ (Run.map_ite _ _ _ _).symm)
  refine if_congr Iff.rfl rfl ?_
  simp only [Node.filter, f.kind_unplaced, canonical, stored]
  cases s.canonical? f.kind with
  | none => rfl
  | some first =>
    refine .trans ?_ (Run.map_ite _ _ _ _).symm
    refine if_congr Iff.rfl rfl ?_
    simp only [Run.bind_eq, Run.map_bind]
    rfl

theorem retain_unplaced (scene : UInt32) (seen : List String) (singletons : Singletons)
    (fs : List Filter) : retain scene seen singletons.unplaced (fs.map Filter.unplaced) =
      (retain scene seen singletons fs).map (List.map fun k => (k.1.unplaced, k.2)) := by
  induction fs generalizing seen singletons with
  | nil => rfl
  | cons f rest ih =>
    simp only [List.map_cons, retain, f.id_unplaced, f.declaredPorts_unplaced, Run.map_ite,
      Run.bind_eq, Singletons.offer_unplaced, Run.bind_map, Run.map_bind, Prod.map_fst,
      Prod.map_snd, ih]
    rfl

theorem finish_unplaced (table : Substitution) (limit : Nat) (scene : UInt32)
    (outputs : OutputIndex) (f : Filter) (ports : Ports) :
    finish table limit scene outputs f.unplaced ports =
      finish table limit scene outputs f ports := rfl

section

variable {book : RecipeBook} (blind : book.Blind) (settings : Settings)

include blind

theorem gather_bare (s : Scene) : gather book settings s.bare =
    (gather book settings s).map fun gathered =>
      (gathered.1.map Filter.unplaced, gathered.2.map fun k => (k.1.unplaced, k.2)) := by
  have nodes : s.bare.nodes = s.nodes.map (Node.map Filter.unplaced) := rfl
  have fresh : Singletons.ofScene s.id = (Singletons.ofScene s.id).unplaced := rfl
  unfold gather
  simp only [Run.bind_eq, nodes, s.id_bare, expand_unplaced blind, Run.bind_map, Run.map_bind]
  congr 1
  funext expanded
  rw [fresh, retain_unplaced, Run.bind_map]
  rfl

theorem deployScene_bare (s : Scene) :
    deployScene book settings s.bare = deployScene book settings s := by
  have index : ∀ kept : List (Filter × Ports),
      OutputIndex.ofFilters (kept.map fun k => (k.1.unplaced, k.2)) = .ofFilters kept := by
    intro kept
    rw [ofFilters_eq_ofList, ofFilters_eq_ofList, List.map_map]
    rfl
  have count : s.bare.nodes.length = s.nodes.length := List.length_map _
  unfold deployScene
  rw [gather_bare blind]
  simp only [Run.bind_eq, Run.bind_map, index, List.mapM_map, Function.comp_def, finish_unplaced,
    count, List.length_map]
  rfl

theorem compileScenes_bare (seen : List UInt32) (scenes : List Scene) :
    compileScenes book settings .deployment seen (scenes.map Scene.bare) =
      (compileScenes book settings .deployment seen scenes).map
        (List.map CompiledScene.bare) := by
  induction scenes generalizing seen with
  | nil => rfl
  | cons s rest ih =>
    have first : compileScene book settings .deployment s.bare =
        (compileScene book settings .deployment s).map CompiledScene.bare := by
      simp only [compileScene, Run.bind_eq, deployScene_bare blind, Run.map_bind]
      rfl
    simp only [List.map_cons, compileScenes, s.id_bare, first, ih, Run.bind_eq, Run.map_ite,
      Run.bind_map, Run.map_bind]
    rfl

theorem compile_bare (d : Show) : compile book settings .deployment d.bare =
    (compile book settings .deployment d).map CompiledShow.bare := by
  have active : (d.bare.scene? d.activeScene).isNone = (d.scene? d.activeScene).isNone := by
    rw [Show.scene?_bare, Option.isNone_map]
  have nonempty : d.bare.scenes ≠ [] ↔ d.scenes ≠ [] := not_congr List.map_eq_nil_iff
  have scenes : d.bare.scenes = d.scenes.map Scene.bare := rfl
  have count : ∀ compiled : List CompiledScene,
      CompiledShow.filterCount ⟨.deployment, d.bare, compiled.map CompiledScene.bare⟩ =
        CompiledShow.filterCount ⟨.deployment, d, compiled⟩ := fun _ => List.foldl_map
  unfold compile
  simp only [d.name_bare, d.activeScene_bare, active, nonempty]
  rw [scenes]
  simp only [compileScenes_bare blind, Run.bind_eq, Run.bind_map, Run.map_ite, Run.map_bind,
    List.length_map, count]
  rfl

end

theorem ShowFile.text_bare (settings : Settings) {c : CompiledShow} (mode : c.mode = .deployment) :
    text settings c.bare = text settings c := by
  have same : c.bare.mode = c.mode := rfl
  have absent : c.mode.presents = false := by rw [mode]; rfl
  have tags : ∀ t : CompiledScene, sceneTags false t.bare = sceneTags false t := fun _ => rfl
  have scenes : c.bare.scenes = c.scenes.map CompiledScene.bare := rfl
  simp only [text, showTags, same, absent, scenes, List.flatMap_map, tags]
  rfl

/-- Shows that differ only in their presentation data are deployed to the same filters, and
    written as the same file, or refused with the same error. -/
theorem presentation_ignored (settings : Settings) (d d' : Show) (alike : d.bare = d'.bare) :
    (∃ e, (compile .builtIn settings .deployment d).outcome = .error e ∧
      (compile .builtIn settings .deployment d').outcome = .error e) ∨
    ∃ c c', (compile .builtIn settings .deployment d).outcome = .ok c ∧
      (compile .builtIn settings .deployment d').outcome = .ok c' ∧
      c.scenes.map (fun t => (t.scene.id, t.filters)) =
        c'.scenes.map (fun t => (t.scene.id, t.filters)) ∧
      ∃ text, (ShowFile.write settings c).outcome = .ok text ∧
        (ShowFile.write settings c').outcome = .ok text := by
  have runs : (compile .builtIn settings .deployment d).map CompiledShow.bare =
      (compile .builtIn settings .deployment d').map CompiledShow.bare := by
    rw [← compile_bare RecipeBook.blind_builtIn, alike, compile_bare RecipeBook.blind_builtIn]
  have same : (compile .builtIn settings .deployment d).outcome.map CompiledShow.bare =
      (compile .builtIn settings .deployment d').outcome.map CompiledShow.bare :=
    congrArg Run.outcome runs
  have filters : ∀ c : CompiledShow, c.scenes.map (fun t => (t.scene.id, t.filters)) =
      c.bare.scenes.map (fun t => (t.scene.id, t.filters)) := by
    intro c
    have scenes : c.bare.scenes = c.scenes.map CompiledScene.bare := rfl
    rw [scenes, List.map_map]
    rfl
  refine (map_eq_map_iff.mp same).imp_right fun succeeded => ?_
  obtain ⟨c, c', compiled, compiled', bare⟩ := succeeded
  have mode := (compile_eq_ok_iff.mp compiled).2.1
  have mode' := (compile_eq_ok_iff.mp compiled').2.1
  have text : ShowFile.text settings c = ShowFile.text settings c' := by
    rw [← ShowFile.text_bare settings mode, bare, ShowFile.text_bare settings mode']
  refine ⟨c, c', compiled, compiled', ?_, ShowFile.text settings c, rfl, ?_⟩
  · rw [filters c, filters c', bare]
  · rw [text]
    rfl

def dimmedShow : Show where
  scenes := [dimmedAndDelayed]

def decoratedShow : Show where
  scenes := [{ dimmedAndDelayed with
    nodes := dimmedAndDelayed.nodes.map (Node.map fun f => { f with position := ⟨40, -8⟩ })
    filterPages := [⟨"Color", none, ["w", "out"]⟩]
    uiPages := [⟨"Desk", [⟨⟨0, 0⟩, ⟨3, 2⟩, "w", "color", ∅⟩]⟩] }]
  devices := [⟨"Desk", .ofList [("faders", "8")]⟩]
  uiHints := .ofList [("zoom", "2")]
  commands := [⟨"Blackout", "key", "main 0"⟩]
  eventSenders := [⟨"Pedal", "midi", ∅⟩]

theorem presentation_ignored_decorated :
    dimmedShow.bare = decoratedShow.bare ∧ dimmedShow ≠ decoratedShow ∧
    ∃ c c', (compile .builtIn {} .deployment dimmedShow).outcome = .ok c ∧
      (compile .builtIn {} .deployment decoratedShow).outcome = .ok c' ∧
      c.scenes.map (fun t => (t.scene.id, t.filters)) = [(1, dimmedAndDelayedFilters)] ∧
      c.scenes.map (fun t => (t.scene.id, t.filters)) =
        c'.scenes.map (fun t => (t.scene.id, t.filters)) ∧
      ∃ text, (ShowFile.write {} c).outcome = .ok text ∧
        (ShowFile.write {} c').outcome = .ok text := by
  have alike : dimmedShow.bare = decoratedShow.bare := by decide
  have compiled : (compile .builtIn {} .deployment dimmedShow).outcome =
      .ok ⟨.deployment, dimmedShow, [⟨dimmedAndDelayed, dimmedAndDelayedFilters⟩]⟩ := by
    cbv
  refine ⟨alike, by decide, ?_⟩
  rcases presentation_ignored {} dimmedShow decoratedShow alike with failed | succeeded
  · obtain ⟨e, failed, -⟩ := failed
    cases compiled.symm.trans failed
  · obtain ⟨c, c', compiled', decorated, filters, text, written⟩ := succeeded
    cases compiled.symm.trans compiled'
    exact ⟨_, c', compiled, decorated, rfl, filters, text, written⟩

end LightShow
