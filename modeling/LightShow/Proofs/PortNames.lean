import LightShow.Proofs.Deployment

/-!
Names of outputs. Those of fixed ports are words, and those that a configuration lists are cut
at a colon, so no output has an empty name or one with a colon in it.
-/

namespace LightShow

open Text OrderedMap Outcome

/-- A name that can stand on either side of a colon. -/
def PlainName (name : String) : Prop := name ≠ "" ∧ ':' ∉ name.toList

instance (name : String) : Decidable (PlainName name) := by unfold PlainName; infer_instance

theorem Text.trimEnd_sublist (cs : List Char) : (trimEnd cs).Sublist cs := by
  induction cs with
  | nil => exact .slnil
  | cons c rest ih =>
    unfold trimEnd
    split
    · split
      · exact List.nil_sublist _
      · exact (List.nil_sublist rest).cons_cons c
    · exact ih.cons_cons c

theorem Text.trim_sublist (cs : List Char) : (trim cs).Sublist cs :=
  (trimEnd_sublist _).trans (List.dropWhile_sublist _)

namespace PortTypes

theorem entry?_eq_some_iff {cs : List Char} {name : String} {type : SignalType} :
    entry? cs = some (name, type) ↔ ∃ before behind, cs = before ++ ':' :: behind ∧
      ':' ∉ before ∧ trim before = name.toList ∧ trim behind = type.name.toList ∧
        name ≠ "" := by
  constructor
  · intro found
    unfold entry? at found
    split at found
    · cases found
    · rename_i before behind cutAt
      obtain ⟨divided, apart⟩ := eq_of_cut? cutAt
      split at found
      · cases found
      · rename_i told
        split at found
        · cases found
        · rename_i nonempty
          cases found
          refine ⟨before, behind, divided, apart, by rw [String.toList_ofList], ?_, ?_⟩
          · rw [SignalType.name_of_ofName? told, String.toList_ofList]
          · intro empty
            exact nonempty (String.ofList_eq_empty_iff.mp empty)
  · intro shape
    obtain ⟨before, behind, rfl, apart, named, typed, nonempty⟩ := shape
    have kept : name.toList ≠ [] := by simpa using nonempty
    unfold entry?
    simp [cut?_append apart, named, typed, SignalType.ofName?_name, kept]

theorem collect?_eq_some_iff {entries : List (List Char)} {ports found : PortTypes} :
    collect? entries ports = some found ↔ ∃ listed,
      List.Forall₂ (fun cs port => entry? cs = some port) entries listed ∧
        found.entries = ports.entries ++ listed := by
  induction entries generalizing ports with
  | nil =>
    constructor
    · intro collected
      cases collected
      exact ⟨[], .nil, (List.append_nil _).symm⟩
    · intro shape
      obtain ⟨listed, read, same⟩ := shape
      cases read
      rw [List.append_nil] at same
      exact congrArg some (ext_entries same).symm
  | cons cs rest ih =>
    unfold collect?
    cases told : entry? cs with
    | none => simp [List.forall₂_cons_left_iff, told]
    | some port =>
      obtain ⟨name, type⟩ := port
      simp only [List.forall₂_cons_left_iff, told, Option.some.injEq]
      by_cases known : ports.contains name
      · have member : name ∈ ports.keys := isSome_get?_iff.mp known
        simp only [known, if_true, reduceCtorEq, false_iff]
        intro shape
        obtain ⟨listed, ⟨port, later, rfl, -, rfl⟩, same⟩ := shape
        have distinct := found.distinct
        rw [same, List.map_append, List.nodup_append] at distinct
        exact distinct.2.2 name member name List.mem_cons_self rfl
      · have fresh : name ∉ ports.keys := fun member => known (isSome_get?_iff.mpr member)
        simp only [known, if_false, Bool.false_eq_true, ih, entries_insert_of_not_mem type fresh,
          List.append_assoc, List.singleton_append]
        constructor
        · intro shape
          obtain ⟨listed, read, same⟩ := shape
          exact ⟨(name, type) :: listed, ⟨_, listed, rfl, read, rfl⟩, same⟩
        · intro shape
          obtain ⟨listed, ⟨port, later, rfl, read, rfl⟩, same⟩ := shape
          exact ⟨later, read, same⟩

theorem plain_of_entry? {cs : List Char} {name : String} {type : SignalType}
    (found : entry? cs = some (name, type)) : PlainName name := by
  obtain ⟨before, behind, -, apart, named, -, nonempty⟩ := entry?_eq_some_iff.mp found
  refine ⟨nonempty, ?_⟩
  rw [← named]
  exact fun colon => apart ((trim_sublist before).subset colon)

theorem exists_entry_of_read? {text : String} {ports : PortTypes} (found : read? text = some ports)
    {port : String × SignalType} (member : port ∈ ports.entries) :
    ∃ piece ∈ pieces ';' text.toList, entry? (trim piece) = some port := by
  obtain ⟨listed, read, same⟩ := collect?_eq_some_iff.mp found
  rw [same, entries_empty, List.nil_append] at member
  obtain ⟨cs, kept, told⟩ := exists_left read member
  obtain ⟨piece, inText, rfl⟩ := List.mem_map.mp (List.mem_of_mem_filter kept)
  exact ⟨piece, inText, told⟩

theorem ofConfiguration_eq_ok_iff {configuration : Configuration} {key : String}
    {ports : PortTypes} : ofConfiguration configuration key = .ok ports ↔
      configuration.get? key = none ∧ ports = ∅ ∨
        ∃ text, configuration.get? key = some text ∧ read? text = some ports := by
  unfold ofConfiguration
  cases configuration.get? key with
  | none => simp [eq_comm]
  | some text =>
    simp only [reduceCtorEq, false_and, Option.some.injEq, exists_eq_left', false_or]
    cases read? text <;> simp

theorem plain_of_ofConfiguration {configuration : Configuration} {key : String}
    {ports : PortTypes} (told : ofConfiguration configuration key = .ok ports) :
    ∀ name ∈ ports.keys, PlainName name := by
  rcases ofConfiguration_eq_ok_iff.mp told with ⟨-, rfl⟩ | ⟨text, -, found⟩
  · exact List.forall_mem_nil _
  · intro name listed
    obtain ⟨port, member, rfl⟩ := List.mem_map.mp listed
    obtain ⟨piece, -, read⟩ := exists_entry_of_read? found member
    exact plain_of_entry? read

end PortTypes

theorem Kind.plain_of_ports {k : Kind} {configuration : Configuration} {ports : Ports}
    (told : k.ports configuration = .ok ports) :
    ∀ name ∈ ports.outputs.keys, PlainName name := by
  have value : ∀ name ∈ ["value"], PlainName name := by decide
  cases k with
  | script =>
    obtain ⟨inputs, -, told⟩ := bind_eq_ok_iff.mp told
    obtain ⟨outputs, listed, told⟩ := bind_eq_ok_iff.mp told
    cases told
    exact PortTypes.plain_of_ofConfiguration listed
  | cues =>
    obtain ⟨outputs, listed, told⟩ := bind_eq_ok_iff.mp told
    cases told
    exact PortTypes.plain_of_ofConfiguration listed
  | universeOutput | debug t =>
    cases told
    exact List.forall_mem_nil _
  | rawFader | colorFader =>
    cases told
    decide
  | conversion c | composite c =>
    cases told
    cases c <;> decide
  | _ =>
    cases told
    exact value

theorem Filter.Provides.plain {f : Filter} {port : String} {type : SignalType}
    (provides : f.Provides port type) : PlainName port := by
  obtain ⟨ports, told, declared⟩ := provides
  exact Kind.plain_of_ports told port (mem_keys_of_get? declared)

end LightShow
