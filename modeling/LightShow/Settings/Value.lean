import LightShow.Settings.Lookahead

/-!
The value that a settings file holds. A header may change how values are written. Values
nest only so deep; each bracket takes one level, each item in it another.
-/

namespace LightShow.Settings

structure Dialect where
  /-- An option may be written as the value it holds. -/
  implicitSome : Bool := false
  /-- The brackets of `Some` may be those of the record or the list that it holds. -/
  openSome : Bool := false
  /-- A record must bear its name. -/
  namedRecords : Bool := false
  deriving DecidableEq, Repr

def Dialect.enable? (d : Dialect) : String → Option Dialect
  | "implicit_some" => some { d with implicitSome := true }
  | "unwrap_newtypes" => some d
  | "unwrap_variant_newtypes" => some { d with openSome := true }
  | "explicit_struct_names" => some { d with namedRecords := true }
  | _ => none

mutual

def header? (d : Dialect) : List Token → Option (Dialect × List Token)
  | .hash :: .bang :: .opening .square _ :: .name "enable" false ::
      .opening .round _ :: rest =>
    enabled? d rest
  | .hash :: _ => none
  | rest => some (d, rest)

def enabled? (d : Dialect) : List Token → Option (Dialect × List Token)
  | .name text _ :: .comma :: .closing .round :: .closing .square :: rest =>
    (d.enable? text).bind fun d => header? d rest
  | .name text _ :: .closing .round :: .closing .square :: rest =>
    (d.enable? text).bind fun d => header? d rest
  | .name text _ :: .comma :: rest => (d.enable? text).bind fun d => enabled? d rest
  | _ => none

end

inductive Value where
  | natural (n : Nat)
  | text (s : String)
  | absent
  | present (v : Value)
  | record (name : Option String) (fields : List (String × Value))
  | other

inductive Item where
  | element
  | field
  | entry
  deriving DecidableEq, Repr

def valueWords : List String :=
  ["true", "false", "inf", "inff32", "inff64", "NaN", "NaNf32", "NaNf64"]

def startsField : List Token → Bool
  | .name _ _ :: .colon :: _ => true
  | _ => false

/-- Whether something else than one value stands in the brackets of `Some`, whose contents are
    given as tokens and as they are written. -/
def isOpen? (d : Dialect) (tokens : List Token) (behind : List Char) : Option Bool :=
  if d.openSome = false then some false
  else if startsField tokens ∨ tokens.head? = some (.closing .round) then some true
  else hasSecond? 0 behind

def closeRound? : List Token → Option (List Token)
  | .closing .round :: rest => some rest
  | .comma :: .closing .round :: rest => some rest
  | _ => none

def Value.ofGroup (name : Option String) (item : Item) (items : List (String × Value)) : Value :=
  if item = .field ∨ items.isEmpty then .record name items else .other

mutual

def value? (d : Dialect) : Nat → List Token → Option (Value × List Token)
  | _, .natural n :: rest => some (.natural n, rest)
  | _, .text s :: rest => some (.text s, rest)
  | _, .literal :: rest => some (.other, rest)
  | _, .empty :: rest => some (.record none [], rest)
  | room + 1, .opening .square _ :: rest =>
    (items? d .element .square room rest.length rest).map fun (_, rest) => (.other, rest)
  | room + 1, .opening .curly _ :: rest =>
    (items? d .entry .curly room rest.length rest).map fun (_, rest) => (.other, rest)
  | room + 1, .opening .round _ :: rest => group? d none room rest
  | room, .name text raw :: rest =>
    if raw = false ∧ text = "None" then some (.absent, rest)
    else if raw = false ∧ text ∈ valueWords then some (.other, rest)
    else if raw = false ∧ text = "Some" then
      match room, rest with
      | room + 1, .opening .round behind :: rest =>
        match isOpen? d rest behind, room with
        | some false, room => do
          let (v, rest) ← value? d room rest
          let rest ← closeRound? rest
          return (.present v, rest)
        | some true, room + 1 => (group? d none room rest).map fun (_, rest) => (.other, rest)
        | _, _ => none
      | room + 1, .empty :: rest =>
        if d.openSome ∧ 0 < room then some (.other, rest) else none
      | room + 1, rest =>
        if d.implicitSome then (value? d room rest).map fun (v, rest) => (.present v, rest)
        else none
      | 0, _ => none
    else
      match room, rest with
      | room + 1, .opening .round _ :: rest => group? d (some text) room rest
      | _ + 1, .empty :: rest => some (.record (some text) [], rest)
      | 0, .opening .round _ :: _ => none
      | 0, .empty :: _ => none
      | _, rest => some (.other, rest)
  | _, _ => none
termination_by room => (room, 0, 0)

def group? (d : Dialect) (name : Option String) (room : Nat) (tokens : List Token) :
    Option (Value × List Token) :=
  let item : Item := if startsField tokens then .field else .element
  (items? d item .round room tokens.length tokens).map fun (items, rest) =>
    (.ofGroup name item items, rest)
termination_by (room, 3, 0)

/-- The items up to the closing bracket, with a comma behind each but perhaps the last. There
    are at most `fuel` of them. -/
def items? (d : Dialect) (item : Item) (close : Bracket) (room fuel : Nat)
    (tokens : List Token) : Option (List (String × Value) × List Token) :=
  match room, fuel, tokens with
  | _, _, .closing b :: rest => if b = close then some ([], rest) else none
  | room + 1, fuel + 1, tokens => do
    let (first, rest) ← item? d item room tokens
    match rest with
    | .comma :: rest =>
      let (items, rest) ← items? d item close (room + 1) fuel rest
      return (first :: items, rest)
    | .closing b :: rest => if b = close then some ([first], rest) else none
    | _ => none
  | _, _, _ => none
termination_by (room, 2, fuel)

def item? (d : Dialect) (item : Item) (room : Nat) (tokens : List Token) :
    Option ((String × Value) × List Token) :=
  match item, tokens with
  | .element, tokens => (value? d room tokens).map fun (v, rest) => (("", v), rest)
  | .field, .name text _ :: .colon :: tokens =>
    (value? d room tokens).map fun (v, rest) => ((text, v), rest)
  | .field, _ => none
  | .entry, tokens => do
    let (_, rest) ← value? d room tokens
    match rest with
    | .colon :: rest => (value? d room rest).map fun (v, rest) => (("", v), rest)
    | _ => none
termination_by (room, 1, 0)

end

/-- How deep values may nest. -/
def nestingLimit : Nat := 128

def document? (tokens : List Token) : Option (Dialect × Value) := do
  let (d, rest) ← header? {} tokens
  let (v, rest) ← value? d nestingLimit rest
  if rest.isEmpty then some (d, v) else none

end LightShow.Settings
