import LightShow.Compile.Substitution

/-!
Binding the links of a filter: every link must be on a declared input and must lead, after
substitution, to an output of the same type.
-/

namespace LightShow

abbrev OutputIndex := OrderedMap String PortTypes

def OutputIndex.typeOf? (index : OutputIndex) (r : OutputRef) : Option SignalType :=
  (index.get? r.filter).bind fun ports => ports.get? r.port

def OutputIndex.register (index : OutputIndex) (filter : String) (ports : Ports) : OutputIndex :=
  index.insert filter ports.outputs

def bindLink (table : Substitution) (limit : Nat) (scene : UInt32) (filter : String)
    (inputs : PortTypes) (outputs : OutputIndex) (port : String) (source : OutputRef) :
    Except CompileError OutputRef := do
  let some expected := inputs.get? port | throw (.undeclaredInput scene filter port)
  let target ← table.resolve limit source
  let some found := outputs.typeOf? target
    | throw (.unresolvedReference scene filter port target)
  if found = expected then return target
  else throw (.typeMismatch scene filter port expected target found)

def bindLinks (table : Substitution) (limit : Nat) (scene : UInt32) (filter : Filter)
    (inputs : PortTypes) (outputs : OutputIndex) : Except CompileError Links := do
  let bound ← filter.links.entries.mapM fun (port, source) => do
    let target ← bindLink table limit scene filter.id inputs outputs port source
    return (port, target)
  return .ofList bound

end LightShow
