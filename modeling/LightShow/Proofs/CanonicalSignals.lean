import LightShow.Proofs.Printing
import LightShow.Proofs.Redeployment

/-!
Values in normal form. A value that was read lies in the range of its type and is read back from
its own text, with one exception: a hue that lies below a full turn by less than a double can tell
is wrapped to the full turn itself, which the next reading turns to zero.
-/

namespace LightShow

open Text

namespace Number

theorem finite?_trim_chars {x : Number} (held : x.Held) (isFinite : x.isFinite = true) :
    finite? (trim x.chars) = some x := by
  have bare : trim x.chars = x.chars :=
    trim_eq_self fun c member => isBlank_of_mem_chars isFinite member
  obtain ⟨s, n, rfl⟩ := finite_of_isFinite isFinite
  rw [bare, finite?, read?_chars s (held s n rfl)]
  rfl

theorem finite?_eq_some_iff {cs : List Char} {x : Number} :
    finite? cs = some x ↔ read? cs = some x ∧ x.isFinite = true := by
  unfold finite?
  exact Option.filter_eq_some_iff

end Number

/-- A color as it is read: of doubles, the hue within a turn and the others within one. -/
structure Color.Sound (c : Color) : Prop where
  hueHeld : c.hue.Held
  saturationHeld : c.saturation.Held
  intensityHeld : c.intensity.Held
  hue : c.hue.Within 360
  saturation : c.saturation.Within 1
  intensity : c.intensity.Within 1

/-- The color with a full turn taken back to no turn. -/
def Color.unwound (c : Color) : Color :=
  { c with hue := if c.hue = .ofWhole 360 then .zero else c.hue }

namespace Signal

def Sound : Signal → Prop
  | byte _ => True
  | word _ => True
  | float x => x.Held ∧ x.isFinite = true
  | bool _ => True
  | color c => c.Sound

/-- The range that a type is said to have. -/
def InRange : Signal → Prop
  | byte n => n.toNat ≤ 255
  | word n => n.toNat ≤ 65535
  | float x => x.isFinite = true
  | bool _ => True
  | color c => c.hue.Below 360 ∧ c.saturation.Within 1 ∧ c.intensity.Within 1

def unwound : Signal → Signal
  | color c => color c.unwound
  | v => v

end Signal

theorem Color.sound_normalized {hue saturation intensity : Number} (hueHeld : hue.Held)
    (saturationHeld : saturation.Held) (intensityHeld : intensity.Held)
    (hueFinite : hue.isFinite = true) (saturationFinite : saturation.isFinite = true)
    (intensityFinite : intensity.isFinite = true) :
    (normalized hue saturation intensity).Sound where
  hueHeld := Number.held_wrap (by decide) (by decide) hueHeld
  saturationHeld := Number.held_clamp (by decide) (by decide) saturationHeld
  intensityHeld := Number.held_clamp (by decide) (by decide) intensityHeld
  hue := by
    obtain ⟨s, n, rfl⟩ := Number.finite_of_isFinite hueFinite
    exact Number.within_wrap (by decide) (by decide) s n
  saturation := Number.within_clamp saturationFinite
  intensity := Number.within_clamp intensityFinite

theorem Color.read?_eq_some_iff {cs : List Char} {c : Color} :
    Color.read? cs = some c ↔ ∃ a b d hue saturation intensity,
      pieces ',' cs = [a, b, d] ∧ finite? (trim a) = some hue ∧
      finite? (trim b) = some saturation ∧ finite? (trim d) = some intensity ∧
      c = normalized hue saturation intensity := by
  constructor
  · intro read
    unfold Color.read? at read
    split at read
    · rename_i hue saturation intensity shape
      cases read
      obtain ⟨a, _, split, hueRead, shape⟩ := List.map_eq_cons_iff.mp shape
      obtain ⟨b, _, rfl, saturationRead, shape⟩ := List.map_eq_cons_iff.mp shape
      obtain ⟨d, _, rfl, intensityRead, shape⟩ := List.map_eq_cons_iff.mp shape
      obtain rfl := List.map_eq_nil_iff.mp shape
      exact ⟨a, b, d, hue, saturation, intensity, split, hueRead, saturationRead, intensityRead,
        rfl⟩
    · cases read
  · rintro ⟨a, b, d, hue, saturation, intensity, shape, hueRead, saturationRead, intensityRead,
      rfl⟩
    simp [Color.read?, shape, hueRead, saturationRead, intensityRead]

theorem held_of_finite? {cs : List Char} {x : Number} (read : finite? cs = some x) :
    x.Held ∧ x.isFinite = true := by
  obtain ⟨read, isFinite⟩ := Number.finite?_eq_some_iff.mp read
  exact ⟨Number.held_of_read? read, isFinite⟩

theorem Color.sound_of_read? {cs : List Char} {c : Color} (read : Color.read? cs = some c) :
    c.Sound := by
  obtain ⟨a, b, d, hue, saturation, intensity, -, hueRead, saturationRead, intensityRead,
    rfl⟩ :=
    Color.read?_eq_some_iff.mp read
  have hue := held_of_finite? hueRead
  have saturation := held_of_finite? saturationRead
  have intensity := held_of_finite? intensityRead
  exact sound_normalized hue.1 saturation.1 intensity.1 hue.2 saturation.2 intensity.2

namespace SignalType

theorem parse_eq_ok_iff {t : SignalType} {text : String} {v : Signal} :
    t.parse text = .ok v ↔ t.read? (trim text.toList) = some v := by
  unfold parse
  dsimp only
  cases read : t.read? (trim text.toList) <;> simp

theorem sound_of_read? {t : SignalType} {cs : List Char} {v : Signal} (read : t.read? cs = some v) :
    v.type = t ∧ v.Sound := by
  cases t with
  | byte =>
    obtain ⟨x, -, rfl⟩ := Option.map_eq_some_iff.mp read
    exact ⟨rfl, True.intro⟩
  | word =>
    obtain ⟨x, -, rfl⟩ := Option.map_eq_some_iff.mp read
    exact ⟨rfl, True.intro⟩
  | float =>
    obtain ⟨x, xRead, rfl⟩ := Option.map_eq_some_iff.mp read
    exact ⟨rfl, held_of_finite? xRead⟩
  | bool =>
    unfold read? at read
    dsimp only at read
    split at read
    · cases read
      exact ⟨rfl, True.intro⟩
    · split at read
      · cases read
        exact ⟨rfl, True.intro⟩
      · cases read
  | color =>
    obtain ⟨c, cRead, rfl⟩ := Option.map_eq_some_iff.mp read
    exact ⟨rfl, Color.sound_of_read? cRead⟩

end SignalType

theorem finite?_trim_decimal {p : Nat} (bits : p.log2 < 52) :
    finite? (trim (decimal p)) = some (.ofWhole p) := by
  rw [trim_decimal, Number.finite?_eq_some_iff]
  refine ⟨Number.read?_decimal bits, ?_⟩
  rw [Number.ofWhole_eq bits]
  rfl

namespace Color

variable {c : Color}

theorem Sound.pieces_chars (sound : c.Sound) :
    pieces ',' c.chars = [c.hue.chars, c.saturation.chars, c.intensity.chars] := by
  apply pieces_join (List.cons_ne_nil _ _)
  intro p member
  simp only [List.mem_cons, List.not_mem_nil, or_false] at member
  rcases member with rfl | rfl | rfl
  · exact Number.not_mem_chars sound.hue.isFinite
  · exact Number.not_mem_chars sound.saturation.isFinite
  · exact Number.not_mem_chars sound.intensity.isFinite

theorem Sound.read?_chars (sound : c.Sound) : Color.read? c.chars = some c.unwound := by
  rw [Color.read?_eq_some_iff]
  refine ⟨_, _, _, c.hue, c.saturation, c.intensity, sound.pieces_chars,
    Number.finite?_trim_chars sound.hueHeld sound.hue.isFinite,
    Number.finite?_trim_chars sound.saturationHeld sound.saturation.isFinite,
    Number.finite?_trim_chars sound.intensityHeld sound.intensity.isFinite, ?_⟩
  rw [normalized, sound.hue.wrap_eq (by decide), sound.saturation.clamp_eq,
    sound.intensity.clamp_eq, unwound]

theorem Sound.trim_chars (sound : c.Sound) : trim c.chars = c.chars := by
  apply trim_eq_self
  intro d member
  simp only [chars, join, List.mem_append, List.mem_singleton] at member
  rcases member with (hue | rfl) | (saturation | rfl) | intensity
  · exact Number.isBlank_of_mem_chars sound.hue.isFinite hue
  · decide
  · exact Number.isBlank_of_mem_chars sound.saturation.isFinite saturation
  · decide
  · exact Number.isBlank_of_mem_chars sound.intensity.isFinite intensity

end Color

theorem Signal.Sound.parse_text {v : Signal} (sound : v.Sound) :
    v.type.parse v.text = .ok v.unwound := by
  rw [SignalType.parse_eq_ok_iff]
  cases v with
  | byte n =>
    have small : n.toNat ≤ 255 := Nat.le_of_lt_succ n.toNat_lt
    have bits := Number.log2_lt_of_lt (show n.toNat < 2 ^ 52 by omega)
    simp [SignalType.read?, Signal.text, Signal.type, ofNat, finite?_trim_decimal bits,
      Number.toWhole_ofWhole bits small, Signal.unwound]
  | word n =>
    have small : n.toNat ≤ 65535 := Nat.le_of_lt_succ n.toNat_lt
    have bits := Number.log2_lt_of_lt (show n.toNat < 2 ^ 52 by omega)
    simp [SignalType.read?, Signal.text, Signal.type, ofNat, finite?_trim_decimal bits,
      Number.toWhole_ofWhole bits small, Signal.unwound]
  | float x =>
    simp [SignalType.read?, Signal.text, Signal.type, Number.text,
      Number.finite?_trim_chars sound.1 sound.2, Signal.unwound]
  | bool b => cases b <;> decide
  | color c =>
    have read : Color.read? (trim c.text.toList) = some c.unwound := by
      rw [Color.text, String.toList_ofList, sound.trim_chars, sound.read?_chars]
    exact Option.map_eq_some_iff.mpr ⟨_, read, rfl⟩

theorem Number.chars_injective {x y : Number} (xHeld : x.Held) (yHeld : y.Held)
    (xFinite : x.isFinite = true) (yFinite : y.isFinite = true) (same : x.chars = y.chars) :
    x = y := by
  have read := Number.finite?_trim_chars xHeld xFinite
  rw [same, Number.finite?_trim_chars yHeld yFinite] at read
  exact (Option.some.inj read).symm

namespace Color

variable {c : Color}

theorem unwound_of_turn (turn : c.hue = .ofWhole 360) : c.unwound = { c with hue := .zero } := by
  rw [unwound, if_pos turn]

theorem unwound_of_ne (other : c.hue ≠ .ofWhole 360) : c.unwound = c := by
  rw [unwound, if_neg other]

theorem unwound_eq_iff : c.unwound = c ↔ c.hue ≠ .ofWhole 360 := by
  constructor
  · intro same turn
    rw [unwound_of_turn turn] at same
    have hue : Number.zero = c.hue := congrArg Color.hue same
    exact Number.zero_ne_turn (hue.trans turn)
  · exact unwound_of_ne

theorem Sound.unwound (sound : c.Sound) : c.unwound.Sound := by
  by_cases turn : c.hue = .ofWhole 360
  · rw [unwound_of_turn turn]
    exact ⟨Number.held_zero false, sound.saturationHeld, sound.intensityHeld,
      ⟨false, 0, rfl, fun _ => rfl, Nat.zero_le _⟩, sound.saturation, sound.intensity⟩
  · rw [unwound_of_ne turn]
    exact sound

theorem unwound_unwound (c : Color) : c.unwound.unwound = c.unwound := by
  rw [unwound_eq_iff]
  by_cases turn : c.hue = .ofWhole 360
  · rw [unwound_of_turn turn]
    exact Number.zero_ne_turn
  · rwa [unwound_of_ne turn]

theorem Sound.chars_injective {d : Color} (sound : c.Sound) (sound' : d.Sound)
    (same : c.chars = d.chars) : c = d := by
  have split := sound.pieces_chars
  rw [same, sound'.pieces_chars] at split
  simp only [List.cons.injEq, and_true] at split
  have hue := Number.chars_injective sound'.hueHeld sound.hueHeld sound'.hue.isFinite
    sound.hue.isFinite split.1
  have saturation := Number.chars_injective sound'.saturationHeld sound.saturationHeld
    sound'.saturation.isFinite sound.saturation.isFinite split.2.1
  have intensity := Number.chars_injective sound'.intensityHeld sound.intensityHeld
    sound'.intensity.isFinite sound.intensity.isFinite split.2.2
  cases c
  cases d
  simp only [mk.injEq]
  exact ⟨hue.symm, saturation.symm, intensity.symm⟩

end Color

namespace Signal

variable {v : Signal}

theorem Sound.inRange_iff (sound : v.Sound) : v.InRange ↔ v.unwound = v := by
  cases v with
  | byte n => exact ⟨fun _ => rfl, fun _ => Nat.le_of_lt_succ n.toNat_lt⟩
  | word n => exact ⟨fun _ => rfl, fun _ => Nat.le_of_lt_succ n.toNat_lt⟩
  | float x => exact ⟨fun _ => rfl, fun _ => sound.2⟩
  | bool b => exact ⟨fun _ => rfl, fun _ => True.intro⟩
  | color c =>
    have hue := sound.hue.below_iff (by decide) (by decide)
    have same : (color c).unwound = color c ↔ c.unwound = c := ⟨color.inj, congrArg color⟩
    rw [same, Color.unwound_eq_iff, ← hue]
    exact ⟨fun inside => inside.1, fun below => ⟨below, sound.saturation, sound.intensity⟩⟩

theorem Sound.unwound (sound : v.Sound) : v.unwound.Sound := by
  cases v with
  | color c => exact Color.Sound.unwound sound
  | _ => exact sound

theorem unwound_unwound (v : Signal) : v.unwound.unwound = v.unwound := by
  cases v with
  | color c => exact congrArg color c.unwound_unwound
  | _ => rfl

theorem type_unwound (v : Signal) : v.unwound.type = v.type := by
  cases v <;> rfl

theorem Sound.text_unwound_iff (sound : v.Sound) : v.unwound.text = v.text ↔ v.unwound = v := by
  constructor
  · intro same
    cases v with
    | color c =>
      have chars : c.unwound.chars = c.chars := String.ofList_injective same
      exact congrArg color (Color.Sound.chars_injective (Color.Sound.unwound sound) sound chars)
    | _ => rfl
  · exact congrArg text

end Signal

/-- The text of a color whose hue lies below a whole number of turns, by 2^-45 of a degree or
    less. -/
def Color.JustBelowTurn (cs : List Char) : Prop :=
  ∃ hue rest n, pieces ',' cs = hue :: rest ∧
    Number.read? (trim hue) = some (.finite true n) ∧
    n % (360 * Number.unit) ≠ 0 ∧ 2 ^ 45 * (n % (360 * Number.unit)) ≤ Number.unit

theorem Color.hue_eq_turn_iff {cs : List Char} {c : Color} (read : Color.read? cs = some c) :
    c.hue = .ofWhole 360 ↔ Color.JustBelowTurn cs := by
  obtain ⟨a, b, d, hue, saturation, intensity, split, hueRead, -, -, rfl⟩ :=
    Color.read?_eq_some_iff.mp read
  obtain ⟨hueRead, isFinite⟩ := Number.finite?_eq_some_iff.mp hueRead
  obtain ⟨s, n, rfl⟩ := Number.finite_of_isFinite isFinite
  have wrapped : (normalized (.finite s n) saturation intensity).hue =
      (Number.finite s n).wrap 360 := rfl
  rw [wrapped, Number.wrap_eq_turn_iff]
  constructor
  · rintro ⟨rfl, rest, near⟩
    exact ⟨a, [b, d], n, split, hueRead, rest, near⟩
  · rintro ⟨hue, rest, m, shape, given, inside, near⟩
    obtain ⟨rfl, -⟩ := List.cons.inj (split.symm.trans shape)
    obtain ⟨rfl, rfl⟩ := Number.finite.inj (Option.some.inj (hueRead.symm.trans given))
    exact ⟨rfl, inside, near⟩

theorem SignalType.inRange_iff {t : SignalType} {cs : List Char} {v : Signal}
    (read : t.read? cs = some v) :
    v.InRange ↔ ¬ (t = .color ∧ Color.JustBelowTurn cs) := by
  obtain ⟨rfl, sound⟩ := sound_of_read? read
  rw [sound.inRange_iff]
  cases v with
  | color c =>
    obtain ⟨d, colorRead, same⟩ := Option.map_eq_some_iff.mp read
    cases same
    have turn := Color.hue_eq_turn_iff colorRead
    have same : (Signal.color c).unwound = .color c ↔ c.unwound = c :=
      ⟨Signal.color.inj, congrArg Signal.color⟩
    rw [same, Color.unwound_eq_iff, Ne, turn]
    simp [Signal.type]
  | _ => simp [Signal.unwound, Signal.type]

section

variable {f : Filter} {ports : Ports} {t : SignalType} {text : String} {v : Signal}
  {written : Parameters}

theorem Filter.normalParameters_again_iff (constant : f.kind = .constant t)
    (told : f.ports = .ok ports) (given : f.parameters.get? "value" = some text)
    (parsed : t.parse text = .ok v) (normal : f.normalParameters ports = .ok written) :
    { f with parameters := written }.normalParameters ports = .ok written ↔ v.InRange := by
  obtain ⟨rfl, sound⟩ := SignalType.sound_of_read? (SignalType.parse_eq_ok_iff.mp parsed)
  obtain ⟨w, again, value⟩ :=
    (rewrites_of_normalParameters told normal).value v.type text constant given
  cases parsed.symm.trans again
  have told' : { f with parameters := written }.ports = .ok ports := told
  rw [sound.inRange_iff, ← sound.text_unwound_iff, normalParameters_eq_self_iff told']
  constructor
  · intro settled
    obtain ⟨w, wParsed, wText⟩ := settled v.type v.text constant value
    cases wParsed.symm.trans sound.parse_text
    exact wText
  · intro same type text' constant' given'
    cases constant.symm.trans constant'
    cases value.symm.trans given'
    exact ⟨v.unwound, sound.parse_text, same⟩

end

/-- A value that was read is in the range of its type and read back from its own text, and a
    constant written in normal form is not changed by writing it again, exactly if its text is not
    that of a color with a hue just below a full turn. In any case the next reading is in range and
    final: it takes a full turn for none. -/
theorem parsed_value_canonical_iff (t : SignalType) (text : String) (v : Signal)
    (parsed : t.parse text = .ok v) :
    v.type = t ∧
    (v.InRange ↔ ¬ (t = .color ∧ Color.JustBelowTurn (trim text.toList))) ∧
    (t.parse v.text = .ok v ↔ v.InRange) ∧
    (t.parse v.text = .ok v.unwound ∧ v.unwound.InRange ∧
      t.parse v.unwound.text = .ok v.unwound) ∧
    ∀ (f : Filter) (ports : Ports) (written : Parameters), f.kind = .constant t →
      f.ports = .ok ports → f.parameters.get? "value" = some text →
      f.normalParameters ports = .ok written →
      ({ f with parameters := written }.normalParameters ports = .ok written ↔ v.InRange) := by
  have read := SignalType.parse_eq_ok_iff.mp parsed
  obtain ⟨type, sound⟩ := SignalType.sound_of_read? read
  have again : t.parse v.text = .ok v.unwound := by
    rw [← type]
    exact sound.parse_text
  have final : t.parse v.unwound.text = .ok v.unwound := by
    have settled := sound.unwound.parse_text
    rwa [Signal.unwound_unwound, Signal.type_unwound, type] at settled
  have inside : v.unwound.InRange := by
    rw [sound.unwound.inRange_iff]
    exact v.unwound_unwound
  refine ⟨type, SignalType.inRange_iff read, ?_, ⟨again, inside, final⟩, ?_⟩
  · rw [again, sound.inRange_iff, Except.ok.injEq]
  · intro f ports written constant told given normal
    exact Filter.normalParameters_again_iff constant told given parsed normal

theorem parsed_value_canonical_iff_wrapped_hue :
    SignalType.color.parse "480,2,0.5" = .ok (.color
      ⟨.ofWhole 120, .ofWhole 1, .finite false (Nat.pow 2 1073)⟩) ∧
    (SignalType.color.parse (Signal.color
        ⟨.ofWhole 120, .ofWhole 1, .finite false (Nat.pow 2 1073)⟩).text =
      .ok (.color ⟨.ofWhole 120, .ofWhole 1, .finite false (Nat.pow 2 1073)⟩) ↔
      Signal.InRange (.color ⟨.ofWhole 120, .ofWhole 1, .finite false (Nat.pow 2 1073)⟩)) := by
  have parsed : SignalType.color.parse "480,2,0.5" = .ok (.color
      ⟨.ofWhole 120, .ofWhole 1, .finite false (Nat.pow 2 1073)⟩) := by
    decide +kernel
  exact ⟨parsed, (parsed_value_canonical_iff .color _ _ parsed).2.2.1⟩

/-- A hue of -10^-300 is read as a full turn, which is out of range and not read back. -/
theorem full_turn_not_canonical :
    SignalType.color.parse "-1e-300,0,0" = .ok (.color ⟨.ofWhole 360, .zero, .zero⟩) ∧
    ¬ Signal.InRange (.color ⟨.ofWhole 360, .zero, .zero⟩) ∧
    (Signal.color ⟨.ofWhole 360, .zero, .zero⟩).text = "360,0,0" ∧
    SignalType.color.parse "360,0,0" = .ok (.color .black) ∧
    Signal.color ⟨.ofWhole 360, .zero, .zero⟩ ≠ .color .black := by
  refine ⟨by decide +kernel, ?_, by decide +kernel⟩
  rintro ⟨⟨s, n, hue, -, below⟩, -⟩
  rw [Number.ofWhole_eq (by decide)] at hue
  have full := (Number.finite.inj hue).2
  omega

end LightShow
