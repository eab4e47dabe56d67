import LightShow.Compile.Binding
import LightShow.Compile.BuiltIn
import LightShow.Compile.Expansion
import LightShow.Compile.Singletons
import LightShow.Settings.Basic

/-!
Compiling a show. For authoring a scene keeps its filters as they are. For deployment they
are unfolded, singletons are folded, links are bound to what they lead to in the end, and
constants are written in their normal form.
-/

namespace LightShow

/-- Passes on the filters that are kept, with their ports. No id may occur twice, not even
    that of a filter which is folded into another one. -/
def retain (scene : UInt32) : List String → Singletons → List Filter →
    Stage (List (Filter × Ports))
  | _, _, [] => .answer []
  | seen, singletons, f :: rest =>
    if f.id ∈ seen then .fail (.duplicateIdentifier scene f.id)
    else do
      let (folded, singletons) ← singletons.offer scene (.concrete f)
      if folded then retain scene (f.id :: seen) singletons rest
      else do
        let ports ← .ofExcept f.declaredPorts
        let kept ← retain scene (f.id :: seen) singletons rest
        return (f, ports) :: kept

def OutputIndex.ofFilters (kept : List (Filter × Ports)) : OutputIndex :=
  kept.foldl (fun index k => index.register k.1.id k.2) ∅

/-- The starting parameters of a filter, with the value of a constant in normal form. -/
def Filter.normalParameters (f : Filter) (ports : Ports) : Except CompileError Parameters :=
  if f.kind.family ≠ .constant then .ok f.parameters
  else
    match ports.outputs.get? "value", f.parameters.get? "value" with
    | some type, some text =>
      match type.parse text with
      | .ok value => .ok (f.parameters.insert "value" value.text)
      | .error e => .error (.invalidValue f.id "value" e)
    | _, _ => .ok f.parameters

def finish (table : Substitution) (limit : Nat) (scene : UInt32) (outputs : OutputIndex)
    (f : Filter) (ports : Ports) : Except CompileError Filter := do
  let links ← bindLinks table limit scene f ports.inputs outputs
  let parameters ← f.normalParameters ports
  return { f with links, parameters, position := .origin }

section

variable (book : RecipeBook) (settings : Settings)

def gather (s : Scene) : Stage (List Filter × List (Filter × Ports)) := do
  let expanded ← expand book s.id settings.maxExpansionDepth s.nodes
  let kept ← retain s.id [] (.ofScene s.id) expanded
  return (expanded, kept)

/-- The rules in force when the links of a scene are bound. -/
def finalTable (s : Scene) : Substitution := .ofEntries (gather book settings s).reports

def deployScene (s : Scene) : Stage (List Filter) :=
  let gathered := gather book settings s
  let table := Substitution.ofEntries gathered.reports
  do
    let (expanded, kept) ← gathered
    let outputs := OutputIndex.ofFilters kept
    let emitted ← .ofExcept (kept.mapM fun (f, ports) =>
      finish table settings.maxSubstitutionSteps s.id outputs f ports)
    Stage.tell (.sceneDeployed s.id s.name s.nodes.length expanded.length emitted.length
      table.size)
    return emitted

end

structure CompiledScene where
  scene : Scene
  filters : List Filter

structure CompiledShow where
  mode : Mode
  document : Show
  scenes : List CompiledScene

namespace CompiledScene

def filter? (c : CompiledScene) (id : String) : Option Filter := c.filters.find? fun f => f.id = id

end CompiledScene

namespace CompiledShow

def scene? (c : CompiledShow) (id : UInt32) : Option CompiledScene :=
  c.scenes.find? fun s => s.scene.id = id

def filterCount (c : CompiledShow) : Nat :=
  c.scenes.foldl (fun count s => count + s.filters.length) 0

end CompiledShow

def compileScene (book : RecipeBook) (settings : Settings) (mode : Mode) (s : Scene) :
    Stage CompiledScene :=
  match mode with
  | .authoring => .answer ⟨s, s.filters⟩
  | .deployment => do
    let filters ← deployScene book settings s
    return ⟨s, filters⟩

def compileScenes (book : RecipeBook) (settings : Settings) (mode : Mode) :
    List UInt32 → List Scene → Stage (List CompiledScene)
  | _, [] => .answer []
  | seen, s :: rest =>
    if s.id ∈ seen then .fail (.duplicateScene s.id)
    else do
      let scene ← compileScene book settings mode s
      let others ← compileScenes book settings mode (s.id :: seen) rest
      return scene :: others

def compile (book : RecipeBook) (settings : Settings) (mode : Mode) (d : Show) :
    Stage CompiledShow := do
  if (d.scene? d.activeScene).isNone ∧ d.scenes ≠ [] then
    Stage.tell (.activeSceneMissing d.activeScene d.name)
  let scenes ← compileScenes book settings mode [] d.scenes
  let compiled : CompiledShow := ⟨mode, d, scenes⟩
  Stage.tell (.showCompiled d.name mode scenes.length compiled.filterCount)
  return compiled

end LightShow
