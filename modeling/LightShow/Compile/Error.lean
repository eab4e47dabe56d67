import LightShow.Filter.Basic

/-!
What can be wrong with a show that is compiled. Every error names the filter or the scene
at which the compiler stopped.
-/

namespace LightShow

inductive CompileError where
  | unresolvedReference (scene : UInt32) (filter port : String) (target : OutputRef)
  | typeMismatch (scene : UInt32) (filter port : String) (expected : SignalType)
      (target : OutputRef) (found : SignalType)
  | cyclicSubstitution (chain : List OutputRef)
  | expansionDepthExceeded (scene : UInt32) (filter : String) (depth : Nat)
  | invalidSubstitution (filter reason : String)
  | duplicateScene (scene : UInt32)
  | duplicateIdentifier (scene : UInt32) (filter : String)
  | undeclaredInput (scene : UInt32) (filter port : String)
  | unsupportedOutput (filter port : String)
  | missingRecipe (filter : String) (kind : Kind)
  | invalidConfiguration (filter key value : String)
  | invalidValue (filter parameter : String) (cause : SignalError)
  deriving DecidableEq, Repr

namespace CompileError

def inScene (scene : UInt32) : String := "Scene " ++ Text.ofNat scene.toNat ++ ": "

def message : CompileError → String
  | unresolvedReference scene filter port target =>
    inScene scene ++ "input '" ++ port ++ "' of filter '" ++ filter ++
      "' points at unresolved '" ++ target.text ++ "'"
  | typeMismatch scene filter port expected target found =>
    inScene scene ++ "input '" ++ port ++ "' of filter '" ++ filter ++ "' expects " ++
      expected.name ++ " but '" ++ target.text ++ "' produces " ++ found.name
  | cyclicSubstitution chain =>
    "Cyclic substitution: " ++ String.intercalate " -> " (chain.map OutputRef.text)
  | expansionDepthExceeded scene filter depth =>
    inScene scene ++ "expansion of '" ++ filter ++ "' exceeds depth " ++ Text.ofNat depth
  | invalidSubstitution filter reason =>
    "Invalid substitution of '" ++ filter ++ "': " ++ reason
  | duplicateScene scene =>
    "Scene " ++ Text.ofNat scene.toNat ++ " is defined more than once"
  | duplicateIdentifier scene filter =>
    inScene scene ++ "duplicate filter id '" ++ filter ++ "'"
  | undeclaredInput scene filter port =>
    inScene scene ++ "filter '" ++ filter ++ "' has no input '" ++ port ++ "'"
  | unsupportedOutput filter port =>
    "Virtual filter '" ++ filter ++ "' cannot resolve output '" ++ port ++ "'"
  | missingRecipe filter kind =>
    "No expansion registered for " ++ kind.tag ++ " (filter '" ++ filter ++ "')"
  | invalidConfiguration filter key value =>
    "Filter '" ++ filter ++ "': invalid configuration '" ++ key ++ "' = '" ++ value ++ "'"
  | invalidValue filter parameter cause =>
    "Filter '" ++ filter ++ "': invalid value for '" ++ parameter ++ "': " ++ cause.message

end CompileError

def Filter.declaredPorts (f : Filter) : Except CompileError Ports :=
  f.ports.mapError fun e => .invalidConfiguration f.id e.key e.text

end LightShow
