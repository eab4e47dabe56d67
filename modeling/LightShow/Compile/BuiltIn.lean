import LightShow.Compile.Recipe

/-!
The recipes that every compiler knows. An inner node is named after the composite filter
and its role in it, and stands at the same place on the canvas.
-/

namespace LightShow

namespace Filter

def innerId (f : Filter) (role : String) : String := f.id ++ "__" ++ role

def inner (f : Filter) (role : String) (k : Kind) : Filter :=
  { id := f.innerId role, kind := k, position := f.position }

def innerOutput (f : Filter) (role port : String) : OutputRef := ⟨f.innerId role, port⟩

def numberOr (f : Filter) (name : String) (default : Number) : Except CompileError Number :=
  match f.parameters.get? name with
  | none => .ok default
  | some text =>
    match SignalType.parse .float text with
    | .ok (.float x) => .ok x
    | .ok _ => .ok default
    | .error e => .error (.invalidValue f.id name e)

end Filter

namespace Recipe

def axis (f : Filter) (name : String) : Except CompileError (List Node) := do
  let fraction ← f.numberOr name (.ofDecimal false 5 (-1))
  let raw := ((fraction.clamp 1).scale 65535).toWhole 65535
  let valueRole := name ++ "_value"
  return [
    .ofFilter ((f.inner valueRole (.constant .word)).withParameter "value" (Text.ofNat raw)),
    .ofFilter ((f.inner name (.conversion .wordToBytes)).withLink "value"
      (f.innerOutput valueRole "value"))]

/-- A fixed direction of a moving head: pan and tilt as fractions of their full range. -/
def position : Recipe where
  outputs := declaredOutputs
  source? f port :=
    match port with
    | "pan" => some (f.innerOutput "pan" "value_upper")
    | "pan_fine" => some (f.innerOutput "pan" "value_lower")
    | "tilt" => some (f.innerOutput "tilt" "value_upper")
    | "tilt_fine" => some (f.innerOutput "tilt" "value_lower")
    | _ => none
  nodes f := do
    let pan ← axis f "pan"
    let tilt ← axis f "tilt"
    return pan ++ tilt

/-- The sine of the time, with a period in milliseconds that must be positive. -/
def oscillator : Recipe where
  outputs := declaredOutputs
  source? f port := if port = "value" then some (f.innerOutput "scale" "value") else none
  nodes f := do
    let period ← f.numberOr "period" (.ofWhole 1000)
    if period.nonpositive then
      throw (.invalidValue f.id "period" (.malformed .float period.text))
    let amplitude ← f.numberOr "amplitude" (.ofWhole 1)
    let offset ← f.numberOr "offset" .zero
    let time := f.inner "time" .time
    let omega := (f.inner "omega" (.constant .float)).withParameter "value"
      (Number.tau.divide period).text
    let phase := ((f.inner "phase" (.arithmetic .multiplication)).withLink "param1"
      (f.innerOutput "time" "value")).withLink "param2" (f.innerOutput "omega" "value")
    let sine := (f.inner "sin" (.trigonometric .sine)).withLink "value"
      (f.innerOutput "phase" "value")
    let scale := (((f.inner "scale" (.floatFunction .multiplyAdd)).withLink "value"
      (f.innerOutput "sin" "value")).withParameter "factor" amplitude.text).withParameter
      "offset" offset.text
    return [time, omega, phase, sine, scale].map .ofFilter

def dimmedColor : Recipe where
  outputs := declaredOutputs
  source? f port := if port = "value" then some (f.innerOutput "mix" "value") else none
  nodes f :=
    let main := f.inner "main" .mainBrightness
    let mix := ((f.inner "mix" (.conversion .dimColor)).withLink "brightness"
      (f.innerOutput "main" "value")).withLink? "color" (f.links.get? "color")
    .ok [.ofFilter main, .ofFilter mix]

def stages (f : Filter) : Except CompileError Nat :=
  match f.configuration.get? "stages" with
  | none => .ok 1
  | some text =>
    match Text.naturalBelow? UInt32.size (String.ofList (Text.trim text.toList)) with
    | some (n + 1) => .ok (n + 1)
    | _ => .error (.invalidConfiguration f.id "stages" text)

/-- Switch-on delays in series: one delay, and for more than one stage a shorter chain. -/
def delayChain : Recipe where
  outputs := declaredOutputs
  source? f port :=
    if port = "value" then
      match stages f with
      | .ok 1 => some (f.innerOutput "stage" "value")
      | .ok _ => some (f.innerOutput "rest" "value")
      | .error _ => none
    else none
  nodes f := do
    let count ← stages f
    let stage := (f.inner "stage" (.timedSwitch .delayOn)).withLink? "value"
      (f.links.get? "value")
    let stage :=
      match f.parameters.get? "delay" with
      | some delay => stage.withParameter "delay" delay
      | none => stage
    let rest := ((f.inner "rest" (.composite .delayChain)).withLink "value"
      (f.innerOutput "stage" "value")).withConfiguration "stages" (Text.ofNat (count - 1))
    let rest := { rest with parameters := f.parameters }
    return if count > 1 then [.ofFilter stage, .ofFilter rest] else [.ofFilter stage]

/-- An oscillator turned into a dimmer channel. Unless told otherwise it swings between
    nothing and full brightness. -/
def oscillatingDimmer : Recipe where
  outputs := declaredOutputs
  source? f port := if port = "value" then some (f.innerOutput "convert" "value") else none
  nodes f :=
    let swing := ((f.inner "osc" (.composite .oscillator)).withParameter "amplitude"
      "0.5").withParameter "offset" "0.5"
    let oscillator := { swing with parameters := swing.parameters.insertAll f.parameters.entries }
    let convert := (f.inner "convert" (.conversion .floatToByte)).withLink "value"
      (f.innerOutput "osc" "value")
    .ok [.ofFilter oscillator, .ofFilter convert]

end Recipe

def Composite.recipe : Composite → Recipe
  | .position => .position
  | .oscillator => .oscillator
  | .dimmedColor => .dimmedColor
  | .delayChain => .delayChain
  | .oscillatingDimmer => .oscillatingDimmer

def RecipeBook.builtIn : RecipeBook :=
  [Composite.position, .oscillator, .dimmedColor, .delayChain, .oscillatingDimmer].foldl
    (fun book c => book.register (.composite c) c.recipe) .empty

end LightShow
