import LightShow.Compile.Error

/-!
A recipe tells how a composite filter is unfolded: which outputs it offers, which output of
which inner node each of them stands for, and the inner nodes themselves, which may be
composite again. A recipe book holds recipes by kind.
-/

namespace LightShow

structure Recipe where
  outputs : Filter → Except CompileError PortTypes
  source? : Filter → String → Option OutputRef
  nodes : Filter → Except CompileError (List Node)

def Recipe.declaredOutputs (f : Filter) : Except CompileError PortTypes :=
  f.declaredPorts.map Ports.outputs

structure RecipeBook where
  recipes : OrderedMap Kind Recipe

namespace RecipeBook

def empty : RecipeBook := ⟨∅⟩

/-- Registers a recipe, or replaces the one for that kind in its place. -/
def register (b : RecipeBook) (k : Kind) (r : Recipe) : RecipeBook := ⟨b.recipes.insert k r⟩

def recipe? (b : RecipeBook) (k : Kind) : Option Recipe := b.recipes.get? k

def kinds (b : RecipeBook) : List Kind := b.recipes.keys

end RecipeBook
end LightShow
