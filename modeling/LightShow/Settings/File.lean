import LightShow.Settings.Basic
import LightShow.Settings.Value
import LightShow.Text.Shape

/-!
Settings files. A file names the settings that differ from the defaults, in any order and
each at most once; a name that is not known is passed over with its value.
-/

namespace LightShow.Settings

def fields? (d : Dialect) (name : String) : Value → Option (List (String × Value))
  | .record given fields =>
    if given = some name ∨ (given = none ∧ d.namedRecords = false) then some fields else none
  | _ => none

def eachOnce (known : List String) (fields : List (String × Value)) : Bool :=
  known.all fun k => (fields.filter fun f => f.1 = k).length ≤ 1

def limit? : Value → Option Nat
  | .natural n => some n
  | _ => none

def string? : Value → Option String
  | .text s => some s
  | _ => none

def indent? (d : Dialect) : Value → Option (Option Nat)
  | .absent => some none
  | .present (.natural n) => some (some n)
  | .natural n => if d.implicitSome then some (some n) else none
  | _ => none

def schemaField (s : Schema) : String × Value → Option Schema
  | ("namespace", v) => (string? v).map fun text => { s with namespaceName := text }
  | ("schema_location", v) => (string? v).map fun text => { s with location := text }
  | _ => some s

def schema? (d : Dialect) (v : Value) : Option Schema := do
  let fields ← fields? d "SchemaInfo" v
  if eachOnce ["namespace", "schema_location"] fields then fields.foldlM schemaField {}
  else none

def settingsField (d : Dialect) (s : Settings) : String × Value → Option Settings
  | ("max_expansion_depth", v) => (limit? v).map fun n => { s with maxExpansionDepth := n }
  | ("max_substitution_steps", v) => (limit? v).map fun n => { s with maxSubstitutionSteps := n }
  | ("schema", v) => (schema? d v).map fun schema => { s with schema }
  | ("indent", v) => (indent? d v).map fun indent => { s with indent }
  | _ => some s

def ofValue? (d : Dialect) (v : Value) : Option Settings := do
  let fields ← fields? d "CompilerConfig" v
  if eachOnce ["max_expansion_depth", "max_substitution_steps", "schema", "indent"] fields then
    fields.foldlM (settingsField d) {}
  else none

def ofString? (text : String) : Option Settings := do
  let tokens ← tokens? text.toList
  let (d, v) ← document? tokens
  ofValue? d v

/-- A character inside quotes. One without a shape is written by its code. -/
def quoteChar (c : Char) : List Char :=
  match c with
  | '\x00' => ['\\', '0']
  | '\t' => ['\\', 't']
  | '\r' => ['\\', 'r']
  | '\n' => ['\\', 'n']
  | '\'' => ['\\', '\'']
  | '"' => ['\\', '"']
  | '\\' => ['\\', '\\']
  | c =>
    if Text.isShapeless c then
      ['\\', 'u', '\x7b'] ++ Text.hexadecimal c.toNat ++ ['\x7d']
    else [c]

def quote (text : String) : String :=
  String.ofList ('"' :: text.toList.flatMap quoteChar ++ ['"'])

def indentText : Option Nat → String
  | none => "None"
  | some n => "Some(" ++ Text.ofNat n ++ ")"

def text (s : Settings) : String :=
  "(\n    max_expansion_depth: " ++ Text.ofNat s.maxExpansionDepth ++
    ",\n    max_substitution_steps: " ++ Text.ofNat s.maxSubstitutionSteps ++
    ",\n    schema: (\n        namespace: " ++ quote s.schema.namespaceName ++
    ",\n        schema_location: " ++ quote s.schema.location ++
    ",\n    ),\n    indent: " ++ indentText s.indent ++ ",\n)"

end LightShow.Settings
