import LightShow.Show

/-!
What the compiler tells its operator while it works, and the two ways in which a show is
compiled.
-/

namespace LightShow

/-- The authoring mode keeps all that an editor needs to open the show again; the
    deployment mode keeps what the engine executes. -/
inductive Mode where
  | authoring | deployment
  deriving DecidableEq, Repr

def Mode.name : Mode → String
  | .authoring => "authoring"
  | .deployment => "deployment"

def Mode.ofName? : String → Option Mode
  | "authoring" => some .authoring
  | "deployment" => some .deployment
  | _ => none

def Mode.presents (m : Mode) : Bool := m == .authoring

inductive Level where
  | debug | info | warn
  deriving DecidableEq, Repr

def Level.name : Level → String
  | .debug => "DEBUG"
  | .info => "INFO"
  | .warn => "WARN"

inductive Note where
  | unfolded (kind : Kind) (filter : String) (count : Nat)
  | folded (scene : UInt32) (kind : Kind) (filter canonical : String)
  | sceneDeployed (scene : UInt32) (name : String)
      (authored expanded emitted substitutions : Nat)
  | activeSceneMissing (scene : UInt32) (name : String)
  | showCompiled (name : String) (mode : Mode) (scenes filters : Nat)
  | elementSkipped (name : String)
  | showRead (name : String) (scenes universes : Nat)
  | showWritten (name : String) (mode : Mode)
  | fileWritten (path : String)
  deriving DecidableEq, Repr

namespace Note

def level : Note → Level
  | unfolded .. | folded .. | sceneDeployed .. | elementSkipped .. | showRead ..
  | showWritten .. => .debug
  | showCompiled .. | fileWritten .. => .info
  | activeSceneMissing .. => .warn

def message : Note → String
  | unfolded kind filter count =>
    "Expanded " ++ kind.tag ++ " '" ++ filter ++ "' into " ++ Text.ofNat count ++ " filters"
  | folded scene kind filter canonical =>
    "Scene " ++ Text.ofNat scene.toNat ++ ": folded " ++ kind.tag ++ " '" ++ filter ++
      "' into '" ++ canonical ++ "'"
  | sceneDeployed scene name authored expanded emitted substitutions =>
    "Scene " ++ Text.ofNat scene.toNat ++ " '" ++ name ++ "': " ++ Text.ofNat authored ++
      " authored, " ++ Text.ofNat expanded ++ " expanded, " ++ Text.ofNat emitted ++
      " emitted, " ++ Text.ofNat substitutions ++ " substitutions"
  | activeSceneMissing scene name =>
    "Default active scene " ++ Text.ofNat scene.toNat ++ " does not exist in show '" ++ name ++
      "'"
  | showCompiled name mode scenes filters =>
    "Compiled show '" ++ name ++ "' for " ++ mode.name ++ ": " ++ Text.ofNat scenes ++
      " scenes, " ++ Text.ofNat filters ++ " filters"
  | elementSkipped name => "Skipping element <" ++ name ++ ">"
  | showRead name scenes universes =>
    "Read show '" ++ name ++ "': " ++ Text.ofNat scenes ++ " scenes, " ++
      Text.ofNat universes ++ " universes"
  | showWritten name mode => "Wrote show '" ++ name ++ "' (" ++ mode.name ++ " mode)"
  | fileWritten path => "Wrote " ++ path

def line (n : Note) : String := n.level.name ++ " " ++ n.message

end Note
end LightShow
