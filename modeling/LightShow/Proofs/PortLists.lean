import LightShow.Proofs.PortNames

/-!
Port lists as text. A list is written with its entries between semicolons, and what is read
from a text, however it is spaced, can be written and read again.
-/

namespace LightShow

open Text OrderedMap Outcome

/-- A name that an entry holds as it stands: the two separators and the blanks around it are
    what an entry would lose. -/
structure ListedName (name : String) : Prop where
  plain : PlainName name
  undivided : ';' ∉ name.toList
  trimmed : Trimmed name.toList

/-- Ports that a list can hold. -/
structure Listable (ports : List (String × SignalType)) : Prop where
  distinct : (ports.map Prod.fst).Nodup
  names : ∀ port ∈ ports, ListedName port.1

theorem Text.mem_trim {c : Char} {cs : List Char} (member : c ∈ trim cs) : c ∈ cs :=
  (trim_sublist cs).subset member

theorem SignalType.trimmed_name (t : SignalType) : Trimmed t.name.toList := by
  cases t <;> constructor <;> intro c outermost <;> cases outermost <;> decide

theorem SignalType.undivided_name (t : SignalType) : ';' ∉ t.name.toList := by
  cases t <;> decide

namespace PortTypes

variable {ports : List (String × SignalType)} {port : String × SignalType}

def entryText (port : String × SignalType) : List Char :=
  port.1.toList ++ ':' :: port.2.name.toList

theorem toList_text (ports : List (String × SignalType)) :
    (text ports).toList = join [';'] (ports.map entryText) :=
  String.toList_ofList

theorem entry?_entryText (listed : ListedName port.1) : entry? (entryText port) = some port :=
  entry?_eq_some_iff.mpr ⟨port.1.toList, port.2.name.toList, rfl, listed.plain.2,
    listed.trimmed.trim_eq, (SignalType.trimmed_name port.2).trim_eq, listed.plain.1⟩

theorem undivided_entryText (listed : ListedName port.1) : ';' ∉ entryText port := by
  unfold entryText
  rw [List.mem_append, List.mem_cons, not_or, not_or]
  exact ⟨listed.undivided, by decide, SignalType.undivided_name port.2⟩

theorem trim_entryText (listed : ListedName port.1) : trim (entryText port) = entryText port := by
  have front : port.1.toList ≠ [] := by simpa using listed.plain.1
  have back : Trimmed (':' :: port.2.name.toList) := by
    cases port.2 <;> constructor <;> intro c outermost <;> cases outermost <;> decide
  exact (listed.trimmed.append back front (List.cons_ne_nil _ _)).trim_eq

theorem entries_text (listed : ∀ port ∈ ports, ListedName port.1) :
    ((pieces ';' (text ports).toList).map trim).filter (· ≠ []) = ports.map entryText := by
  cases ports with
  | nil => rfl
  | cons port rest =>
    have cut : pieces ';' (text (port :: rest)).toList = (port :: rest).map entryText := by
      rw [toList_text]
      exact pieces_join (List.cons_ne_nil _ _)
        (List.forall_mem_map.mpr fun port' here => undivided_entryText (listed port' here))
    have whole : ((port :: rest).map entryText).map trim = (port :: rest).map entryText := by
      rw [List.map_map]
      exact List.map_congr_left fun port' here => trim_entryText (listed port' here)
    rw [cut, whole, List.filter_eq_self]
    intro piece member
    obtain ⟨port', -, rfl⟩ := List.mem_map.mp member
    simp [entryText]

theorem read?_text (listable : Listable ports) :
    read? (text ports) = some ⟨ports, listable.distinct⟩ := by
  unfold read?
  rw [entries_text listable.names, collect?_eq_some_iff]
  refine ⟨ports, ?_, rfl⟩
  rw [List.forall₂_map_left_iff, List.forall₂_same]
  exact fun port member => entry?_entryText (listable.names port member)

theorem listable_of_read? {text : String} {types : PortTypes} (found : read? text = some types) :
    Listable types.entries := by
  refine ⟨types.distinct, ?_⟩
  intro port member
  obtain ⟨piece, inText, read⟩ := exists_entry_of_read? found member
  obtain ⟨before, behind, divided, -, named, -, -⟩ := entry?_eq_some_iff.mp read
  have plain := plain_of_entry? read
  refine ⟨plain, ?_, ?_⟩
  · intro semicolon
    rw [← named] at semicolon
    have inPiece : ';' ∈ trim piece := by
      rw [divided]
      exact List.mem_append_left _ (mem_trim semicolon)
    exact not_mem_of_mem_pieces inText (mem_trim inPiece)
  · rw [← named]
    exact trimmed_trim before

theorem listable_of_ofConfiguration {configuration : Configuration} {key : String}
    {types : PortTypes} (told : ofConfiguration configuration key = .ok types) :
    Listable types.entries := by
  rcases ofConfiguration_eq_ok_iff.mp told with ⟨-, rfl⟩ | ⟨text, -, found⟩
  · exact ⟨List.nodup_nil, List.forall_mem_nil _⟩
  · exact listable_of_read? found

theorem ofConfiguration_insert_text (configuration : Configuration) (key : String)
    (listable : Listable ports) :
    ofConfiguration (configuration.insert key (text ports)) key =
      .ok ⟨ports, listable.distinct⟩ := by
  apply ofConfiguration_eq_ok_iff.mpr
  exact Or.inr ⟨text ports, by rw [get?_insert, if_pos rfl], read?_text listable⟩

/-- A written list is read as it was. The lists that are read are exactly those that can be
    written, so that reading one and writing it again changes nothing any more. -/
theorem port_lists_round_trip (configuration : Configuration) (key : String) :
    (∀ ports, Listable ports →
      ∃ types, ofConfiguration (configuration.insert key (text ports)) key = .ok types ∧
        types.entries = ports) ∧
    ∀ types, ofConfiguration configuration key = .ok types →
      Listable types.entries ∧
        ofConfiguration (configuration.insert key (text types.entries)) key = .ok types := by
  constructor
  · intro ports listable
    exact ⟨_, ofConfiguration_insert_text configuration key listable, rfl⟩
  · intro types told
    have listable := listable_of_ofConfiguration told
    exact ⟨listable, ofConfiguration_insert_text configuration key listable⟩

example : (read? " speed : float;; gate:bool").map (fun types => text types.entries) =
    some "speed:float;gate:bool" := by
  decide

end PortTypes
end LightShow
