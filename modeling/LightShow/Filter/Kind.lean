import LightShow.Signal

/-!
The kinds of filter. All but the composite ones are executed by the lighting engine; a
composite kind exists only while a show is edited and is unfolded into others before the
show is deployed. Every kind has a tag, which names it in show files.
-/

namespace LightShow

inductive Arithmetic where
  | addition | subtraction | multiplication | division | modulo | maximum | minimum
  deriving DecidableEq, Repr

inductive FloatFunction where
  | absolute | ceil | floor | round | logarithm | exponential | squareRoot | multiplyAdd
  deriving DecidableEq, Repr

inductive Gate where
  | and | or | xor
  deriving DecidableEq, Repr

inductive Comparison where
  | greater | equal
  deriving DecidableEq, Repr

inductive Trigonometric where
  | sine | cosine | tangent | arcsine | arccosine | arctangent
  deriving DecidableEq, Repr

inductive Wave where
  | square | triangle | sawtooth | noise
  deriving DecidableEq, Repr

inductive SwitchTiming where
  | delayOn | delayOff | fadeOn | fadeOff
  deriving DecidableEq, Repr

inductive Conversion where
  | byteToFloat | wordToFloat | floatToByte | floatToWord | byteToBool | boolToByte
  | byteToWord | wordToBytes | bytesToWord
  | colorToRgb | colorToRgbw | colorToRgbwa | colorToFloats | floatsToColor | dimColor
  deriving DecidableEq, Repr

inductive Composite where
  | position | oscillator | dimmedColor | delayChain | oscillatingDimmer
  deriving DecidableEq, Repr

inductive Family where
  | constant | debug | arithmetic | logic | trigonometric | wave | time | console
  | converter | scripted | output | composite
  deriving DecidableEq, Repr

inductive Kind where
  | constant (type : SignalType)
  | debug (type : SignalType)
  | arithmetic (operation : Arithmetic)
  | floatFunction (function : FloatFunction)
  | gate (gate : Gate)
  | negation
  | comparison (relation : Comparison)
  | byteSwitch
  | trigonometric (function : Trigonometric)
  | wave (shape : Wave)
  | time
  | sceneTime
  | timedSwitch (timing : SwitchTiming)
  | sampleAndHold
  | mainBrightness
  | rawFader
  | colorFader
  | button
  | jogwheel
  | conversion (conversion : Conversion)
  | script
  | cues
  | universeOutput
  | composite (composite : Composite)
  deriving DecidableEq, Repr

namespace Kind

def all : List Kind :=
  [.constant .byte, .constant .word, .constant .float, .constant .color, .constant .bool,
    .debug .byte, .debug .word, .debug .float, .debug .color, .debug .bool,
    .arithmetic .addition, .arithmetic .subtraction, .arithmetic .multiplication,
    .arithmetic .division, .arithmetic .modulo, .arithmetic .maximum, .arithmetic .minimum,
    .floatFunction .absolute, .floatFunction .ceil, .floatFunction .floor,
    .floatFunction .round, .floatFunction .logarithm, .floatFunction .exponential,
    .floatFunction .squareRoot, .floatFunction .multiplyAdd,
    .gate .and, .gate .or, .gate .xor, .negation, .comparison .greater, .comparison .equal,
    .byteSwitch,
    .trigonometric .sine, .trigonometric .cosine, .trigonometric .tangent,
    .trigonometric .arcsine, .trigonometric .arccosine, .trigonometric .arctangent,
    .wave .square, .wave .triangle, .wave .sawtooth, .wave .noise,
    .time, .sceneTime, .timedSwitch .delayOn, .timedSwitch .delayOff, .timedSwitch .fadeOn,
    .timedSwitch .fadeOff, .sampleAndHold,
    .mainBrightness, .rawFader, .colorFader, .button, .jogwheel,
    .conversion .byteToFloat, .conversion .wordToFloat, .conversion .floatToByte,
    .conversion .floatToWord, .conversion .byteToBool, .conversion .boolToByte,
    .conversion .byteToWord, .conversion .wordToBytes, .conversion .bytesToWord,
    .conversion .colorToRgb, .conversion .colorToRgbw, .conversion .colorToRgbwa,
    .conversion .colorToFloats, .conversion .floatsToColor, .conversion .dimColor,
    .script, .cues, .universeOutput,
    .composite .position, .composite .oscillator, .composite .dimmedColor,
    .composite .delayChain, .composite .oscillatingDimmer]

def tag : Kind → String
  | .constant .byte => "FILTER_CONSTANT_8BIT"
  | .constant .word => "FILTER_CONSTANT_16_BIT"
  | .constant .float => "FILTER_CONSTANT_FLOAT"
  | .constant .color => "FILTER_CONSTANT_COLOR"
  | .constant .bool => "FILTER_CONSTANT_BOOL"
  | .debug .byte => "FILTER_DEBUG_OUTPUT_8BIT"
  | .debug .word => "FILTER_DEBUG_OUTPUT_16BIT"
  | .debug .float => "FILTER_DEBUG_OUTPUT_FLOAT"
  | .debug .color => "FILTER_DEBUG_OUTPUT_COLOR"
  | .debug .bool => "FILTER_DEBUG_OUTPUT_BOOL"
  | .arithmetic .addition => "FILTER_ARITHMETICS_ADDITION"
  | .arithmetic .subtraction => "FILTER_ARITHMETICS_SUBTRACTION"
  | .arithmetic .multiplication => "FILTER_ARITHMETICS_MULTIPLICATION"
  | .arithmetic .division => "FILTER_ARITHMETICS_DIVISION"
  | .arithmetic .modulo => "FILTER_ARITHMETICS_MODULO"
  | .arithmetic .maximum => "FILTER_ARITHMETICS_MAX"
  | .arithmetic .minimum => "FILTER_ARITHMETICS_MIN"
  | .floatFunction .absolute => "FILTER_ARITHMETICS_ABS"
  | .floatFunction .ceil => "FILTER_ARITHMETICS_CEIL"
  | .floatFunction .floor => "FILTER_ARITHMETICS_FLOOR"
  | .floatFunction .round => "FILTER_ARITHMETICS_ROUND"
  | .floatFunction .logarithm => "FILTER_ARITHMETICS_LOG"
  | .floatFunction .exponential => "FILTER_ARITHMETICS_EXP"
  | .floatFunction .squareRoot => "FILTER_ARITHMETICS_SQRT"
  | .floatFunction .multiplyAdd => "FILTER_TYPE_MULTIPLY_ADD"
  | .gate .and => "FILTER_LOGIC_AND"
  | .gate .or => "FILTER_LOGIC_OR"
  | .gate .xor => "FILTER_LOGIC_XOR"
  | .negation => "FILTER_LOGIC_NOT"
  | .comparison .greater => "FILTER_COMPARE_GREATER"
  | .comparison .equal => "FILTER_COMPARE_EQUAL"
  | .byteSwitch => "FILTER_SWITCH_8BIT"
  | .trigonometric .sine => "FILTER_TRIGONOMETRIC_SIN"
  | .trigonometric .cosine => "FILTER_TRIGONOMETRIC_COS"
  | .trigonometric .tangent => "FILTER_TRIGONOMETRIC_TAN"
  | .trigonometric .arcsine => "FILTER_TRIGONOMETRIC_ARCSIN"
  | .trigonometric .arccosine => "FILTER_TRIGONOMETRIC_ARCCOS"
  | .trigonometric .arctangent => "FILTER_TRIGONOMETRIC_ARCTAN"
  | .wave .square => "FILTER_WAVES_SQUARE"
  | .wave .triangle => "FILTER_WAVES_TRIANGLE"
  | .wave .sawtooth => "FILTER_WAVES_SAWTOOTH"
  | .wave .noise => "FILTER_WAVES_NOISE"
  | .time => "FILTER_TIME"
  | .sceneTime => "FILTER_SCENE_TIME"
  | .timedSwitch .delayOn => "FILTER_DELAY_SWITCH_ON"
  | .timedSwitch .delayOff => "FILTER_DELAY_SWITCH_OFF"
  | .timedSwitch .fadeOn => "FILTER_FADE_SWITCH_ON"
  | .timedSwitch .fadeOff => "FILTER_FADE_SWITCH_OFF"
  | .sampleAndHold => "FILTER_SAMPLE_AND_HOLD"
  | .mainBrightness => "FILTER_MAIN_BRIGHTNESS_FADER"
  | .rawFader => "FILTER_FADER_COLUMN_RAW"
  | .colorFader => "FILTER_FADER_COLUMN_HSI"
  | .button => "FILTER_CONSOLE_BUTTON"
  | .jogwheel => "FILTER_CONSOLE_JOGWHEEL"
  | .conversion .byteToFloat => "FILTER_8BIT_TO_FLOAT"
  | .conversion .wordToFloat => "FILTER_16BIT_TO_FLOAT"
  | .conversion .floatToByte => "FILTER_FLOAT_TO_8BIT"
  | .conversion .floatToWord => "FILTER_FLOAT_TO_16BIT"
  | .conversion .byteToBool => "FILTER_8BIT_TO_BOOL"
  | .conversion .boolToByte => "FILTER_BOOL_TO_8BIT"
  | .conversion .byteToWord => "FILTER_8BIT_TO_16BIT"
  | .conversion .wordToBytes => "FILTER_16BIT_TO_DUAL_8BIT"
  | .conversion .bytesToWord => "FILTER_DUAL_8BIT_TO_16BIT"
  | .conversion .colorToRgb => "FILTER_COLOR_TO_RGB"
  | .conversion .colorToRgbw => "FILTER_COLOR_TO_RGBW"
  | .conversion .colorToRgbwa => "FILTER_COLOR_TO_RGBWA"
  | .conversion .colorToFloats => "FILTER_COLOR_TO_FLOAT"
  | .conversion .floatsToColor => "FILTER_FLOAT_TO_COLOR"
  | .conversion .dimColor => "FILTER_COLOR_BRIGHTNESS_MIXIN"
  | .script => "FILTER_SCRIPT_LUA"
  | .cues => "FILTER_CUES"
  | .universeOutput => "FILTER_UNIVERSE_OUTPUT"
  | .composite .position => "VFILTER_POSITION_CONSTANT"
  | .composite .oscillator => "VFILTER_SINE_OSCILLATOR"
  | .composite .dimmedColor => "VFILTER_DIMMED_COLOR"
  | .composite .delayChain => "VFILTER_DELAY_CHAIN"
  | .composite .oscillatingDimmer => "VFILTER_OSCILLATING_DIMMER"

def family : Kind → Family
  | .constant _ => .constant
  | .debug _ => .debug
  | .arithmetic _ | .floatFunction _ => .arithmetic
  | .gate _ | .negation | .comparison _ | .byteSwitch => .logic
  | .trigonometric _ => .trigonometric
  | .wave _ => .wave
  | .time | .sceneTime | .timedSwitch _ | .sampleAndHold => .time
  | .mainBrightness | .rawFader | .colorFader | .button | .jogwheel => .console
  | .conversion _ => .converter
  | .script | .cues => .scripted
  | .universeOutput => .output
  | .composite _ => .composite

def isComposite (k : Kind) : Bool := k.family == .composite

/-- Kinds of which a deployed scene needs one filter at most. -/
def isSingleton : Kind → Bool
  | .time | .sceneTime | .mainBrightness => true
  | _ => false

/-- The configuration key whose entry a show file holds with key and value exchanged. -/
def exchangedKey? : Kind → Option String
  | .universeOutput => some "universe"
  | _ => none

def ofTag? (text : String) : Option Kind := all.find? fun k => k.tag = text

end Kind

structure UnknownKind where
  text : String
  deriving DecidableEq, Repr

def UnknownKind.message (e : UnknownKind) : String := "Unknown filter kind: " ++ e.text

def Kind.ofTag (text : String) : Except UnknownKind Kind :=
  match Kind.ofTag? text with
  | some k => .ok k
  | none => .error ⟨text⟩

namespace Kind

theorem mem_all (k : Kind) : k ∈ all := by
  cases k with
  | constant t | debug t => cases t <;> decide
  | arithmetic a => cases a <;> decide
  | floatFunction f => cases f <;> decide
  | gate g => cases g <;> decide
  | comparison c => cases c <;> decide
  | trigonometric f => cases f <;> decide
  | wave w => cases w <;> decide
  | timedSwitch s => cases s <;> decide
  | conversion c => cases c <;> decide
  | composite c => cases c <;> decide
  | _ => decide

def numeral (text : String) : Nat :=
  text.toByteArray.data.toList.foldl (fun n b => 256 * n + b.toNat) 0

theorem eq_of_numeral_eq :
    ∀ j ∈ all, ∀ k ∈ all, numeral j.tag = numeral k.tag → j = k := by
  decide +kernel

theorem tag_injective {j k : Kind} (h : j.tag = k.tag) : j = k :=
  eq_of_numeral_eq j (mem_all j) k (mem_all k) (congrArg numeral h)

theorem ofTag?_tag (k : Kind) : ofTag? k.tag = some k := by
  cases found : ofTag? k.tag with
  | none =>
    have := List.find?_eq_none.mp found k (mem_all k)
    simp at this
  | some j =>
    have same : j.tag = k.tag := by simpa using List.find?_some found
    rw [tag_injective same]

theorem not_composite_of_singleton {k : Kind} (h : k.isSingleton = true) :
    k.isComposite = false := by
  cases k <;> simp_all [isSingleton, isComposite, family]

end Kind
end LightShow
