import LightShow.Proofs.CanonicalSignals
import LightShow.Proofs.Failures
import LightShow.Proofs.InnerKinds
import LightShow.Proofs.Rules

/-!
The constants that composite filters unfold into. Their texts are written by the recipes and read
again when constants are written in normal form. All of them can be read, but for the frequency
of an oscillator with so short a period that a turn divided by it is infinite.
-/

namespace LightShow

open Outcome OrderedMap Text

namespace Number

theorem spacing_two_pow (k : Nat) : spacing (2 ^ (53 + k)) = 2 * 2 ^ k := by
  have exponent : 53 + k - 52 = k + 1 := by omega
  rw [spacing, Nat.log2_two_pow, exponent]
  exact Nat.pow_succ'

theorem spacing_below_two_pow (k : Nat) : spacing (2 ^ (53 + k) - 1) = 2 ^ k := by
  have double : 2 ^ (53 + k) = 2 * 2 ^ (52 + k) := by
    rw [← Nat.pow_succ']
    congr 1
    omega
  have pos := Nat.two_pow_pos (52 + k)
  apply spacing_eq_of_bounds <;> omega

theorem exists_limit_eq : ∃ g, 0 < g ∧ limit = 2 ^ 53 * g ∧ spacing limit = 2 * g ∧
    spacing (limit - 1) = g := by
  obtain ⟨k, sum⟩ : ∃ k, 53 + k = 2098 := ⟨2045, rfl⟩
  rw [limit_eq_pow sum, spacing_two_pow, spacing_below_two_pow]
  exact ⟨2 ^ k, Nat.two_pow_pos k, Nat.pow_add 2 53 k, rfl, rfl⟩

theorem ofRatio_of_le {s : Bool} {num den : Nat} (above : limit ≤ nearest num den) :
    ofRatio s num den = infinite s := by
  rw [ofRatio, ofUnits, if_neg (Nat.not_lt.mpr above)]

theorem isFinite_ofRatio_iff {s : Bool} {num den : Nat} :
    (ofRatio s num den).isFinite = true ↔ nearest num den < limit := by
  rcases Nat.lt_or_ge (nearest num den) limit with below | above
  · rw [ofRatio, ofUnits, if_pos below]
    exact ⟨fun _ => below, fun _ => rfl⟩
  · rw [ofRatio_of_le above]
    constructor
    · intro impossible
      cases impossible
    · intro below
      exact absurd below (Nat.not_lt.mpr above)

theorem divide_finite {s t : Bool} {a b : Nat} (some : b ≠ 0) :
    divide (finite s a) (finite t b) = ofRatio (s != t) (a * unit) b := by
  unfold divide
  dsimp only
  rw [if_pos some]

theorem isFinite_tau_divide_iff {p : Nat} (some : p ≠ 0) :
    (tau.divide (finite false p)).isFinite = true ↔ 0x1921FB54442D18 < p := by
  obtain ⟨g, pos, whole, above, below⟩ := exists_limit_eq
  have turn (power u : Nat) (split : limit = power * u) :
      0x1921FB54442D18 * power * u = 0x1921FB54442D18 * limit := by
    rw [Nat.mul_assoc, split]
  have even : spacing limit ∣ limit ∧ limit / spacing limit % 2 = 0 := by
    have count : limit = 2 ^ 52 * spacing limit := by omega
    have quotient : limit / spacing limit = 2 ^ 52 :=
      Nat.div_eq_of_eq_mul_left (spacing_pos limit) count
    rw [quotient]
    exact ⟨⟨2 ^ 52, count.trans (Nat.mul_comm _ _)⟩, by decide⟩
  have finite_iff : (tau.divide (finite false p)).isFinite = true ↔
      nearest (0x1921FB54442D18 * limit) p < limit := by
    rw [← turn (Nat.pow 2 1024) unit limit_eq, tau, divide_finite some, isFinite_ofRatio_iff]
  have left : 2 * (0x1921FB54442D18 * limit) = g * (0x1921FB54442D18 * 2 ^ 54) := by
    omega
  have right : (2 * limit - spacing (limit - 1)) * p = g * ((2 ^ 54 - 1) * p) := by
    have gap : 2 * limit - spacing (limit - 1) = g * (2 ^ 54 - 1) := by omega
    rw [gap, Nat.mul_assoc]
  rw [finite_iff, nearest_lt_iff (Nat.pos_of_ne_zero some) limit_pos even.1 even.2, left, right,
    Nat.mul_lt_mul_left pos]
  omega

theorem tau_divide_of_short {p : Nat} (some : p ≠ 0) (short : p ≤ 0x1921FB54442D18) :
    tau.divide (finite false p) = infinite false := by
  have endless : ¬ (tau.divide (finite false p)).isFinite = true := by
    rw [isFinite_tau_divide_iff some]
    omega
  rw [tau, divide_finite some, isFinite_ofRatio_iff, Nat.not_lt] at endless
  rw [tau, divide_finite some]
  exact ofRatio_of_le endless

end Number

theorem parse_word_ofNat {n : Nat} (small : n < 2 ^ 52) :
    ∃ v, SignalType.word.parse (ofNat n) = .ok v := by
  have read := finite?_trim_decimal (Number.log2_lt_of_lt small)
  have whole : SignalType.word.read? (trim (ofNat n).toList) =
      some (.word (UInt16.ofNat ((Number.ofWhole n).toWhole 65535))) := by
    rw [ofNat, String.toList_ofList]
    exact Option.map_eq_some_iff.mpr ⟨_, read, rfl⟩
  exact ⟨_, SignalType.parse_eq_ok_iff.mpr whole⟩

theorem exists_parse_float_text_iff {x : Number} (held : x.Held) :
    (∃ v, SignalType.float.parse x.text = .ok v) ↔ x.isFinite = true := by
  constructor
  · rintro ⟨v, parsed⟩
    cases x with
    | finite s n => rfl
    | infinite s => cases s <;> cases parsed
    | nan => cases parsed
  · intro isFinite
    have sound : (Signal.float x).Sound := ⟨held, isFinite⟩
    exact ⟨_, sound.parse_text⟩

namespace Filter

variable {f : Filter}

/-- The period of the oscillator is no longer than 2^-1024 of a turn. -/
def TooFast (f : Filter) : Prop :=
  ∃ p, f.numberOr "period" (.ofWhole 1000) = .ok (.finite false p) ∧ p ≤ 0x1921FB54442D18

theorem numberOr_finite {name : String} {default x : Number} (isFinite : default.isFinite = true)
    (read : f.numberOr name default = .ok x) : x.isFinite = true := by
  unfold numberOr at read
  split at read
  · cases read
    exact isFinite
  · split at read
    · rename_i text given y parsed
      cases read
      exact (SignalType.sound_of_read? (SignalType.parse_eq_ok_iff.mp parsed)).2.2
    · cases read
      exact isFinite
    · cases read

theorem readable_of_other (other : f.kind.family ≠ .constant) : f.Readable := by
  intro type text constant
  rw [constant] at other
  exact absurd rfl other

theorem readable_constant_iff {type : SignalType} {text : String}
    (constant : f.kind = .constant type)
    (given : f.parameters.get? "value" = some text) :
    f.Readable ↔ ∃ v, type.parse text = .ok v := by
  constructor
  · intro readable
    exact readable type text constant given
  · rintro ⟨v, parsed⟩ type' text' constant' given'
    cases constant.symm.trans constant'
    cases given.symm.trans given'
    exact ⟨v, parsed⟩

end Filter

namespace Recipe

variable {f : Filter} {ns : List Node}

theorem readable_of_axis {name : String} (made : axis f name = .ok ns) :
    ∀ n ∈ ns, n.filter.Readable := by
  obtain ⟨raw, small, rfl⟩ := axis_eq_ok made
  intro n member
  simp only [List.map_cons, List.map_nil, List.mem_cons, List.not_mem_nil, or_false] at member
  rcases member with rfl | rfl
  · have parsed := parse_word_ofNat (show raw < 2 ^ 52 by omega)
    rw [Node.filter_ofFilter]
    exact (Filter.readable_constant_iff rfl rfl).mpr parsed
  · rw [Node.filter_ofFilter]
    exact Filter.readable_of_other nofun

theorem readable_omega_iff {p : Nat} (some : p ≠ 0) :
    ((f.inner "omega" (.constant .float)).withParameter "value"
      (Number.tau.divide (.finite false p)).text).Readable ↔ 0x1921FB54442D18 < p := by
  rw [← Number.isFinite_tau_divide_iff some,
    ← exists_parse_float_text_iff (Number.held_divide _ _)]
  exact Filter.readable_constant_iff rfl rfl

theorem exists_period (made : oscillator.nodes f = .ok ns) :
    ∃ p, p ≠ 0 ∧ f.numberOr "period" (.ofWhole 1000) = .ok (.finite false p) := by
  obtain ⟨period, read, made⟩ := bind_eq_ok_iff.mp made
  have isFinite : period.isFinite = true := by
    apply Filter.numberOr_finite _ read
    rw [Number.ofWhole_eq (by decide)]
    rfl
  obtain ⟨s, p, rfl⟩ := Number.finite_of_isFinite isFinite
  split at made
  · cases made
  · rename_i positive
    simp only [Number.nonpositive, Bool.or_eq_true, not_or, beq_iff_eq, Bool.not_eq_true]
      at positive
    obtain ⟨rfl, some⟩ := positive
    exact ⟨p, some, read⟩

theorem tooFast_iff {p : Nat} (read : f.numberOr "period" (.ofWhole 1000) = .ok (.finite false p)) :
    f.TooFast ↔ p ≤ 0x1921FB54442D18 := by
  constructor
  · rintro ⟨q, again, short⟩
    have same := Number.finite.inj (Except.ok.inj (read.symm.trans again))
    rw [same.2]
    exact short
  · intro short
    exact ⟨p, read, short⟩

theorem oscillator_eq_ok {p : Nat} (made : oscillator.nodes f = .ok ns)
    (read : f.numberOr "period" (.ofWhole 1000) = .ok (.finite false p)) :
    ∃ time phase sine scale : Filter,
      ns = [time, (f.inner "omega" (.constant .float)).withParameter
        "value" (Number.tau.divide (.finite false p)).text, phase, sine, scale].map .ofFilter ∧
      ∀ g ∈ [time, phase, sine, scale], g.kind.family ≠ .constant := by
  obtain ⟨period, again, made⟩ := bind_eq_ok_iff.mp made
  cases read.symm.trans again
  split at made
  · cases made
  · obtain ⟨amplitude, -, made⟩ := bind_eq_ok_iff.mp made
    obtain ⟨offset, -, made⟩ := bind_eq_ok_iff.mp made
    cases made
    refine ⟨_, _, _, _, rfl, ?_⟩
    intro g member
    simp only [List.mem_cons, List.not_mem_nil, or_false] at member
    rcases member with rfl | rfl | rfl | rfl <;> exact nofun

theorem readable_of_roles {c : Composite} (made : c.recipe.nodes f = .ok ns)
    (plain : ∀ role ∈ c.roles, (roleKind role).family ≠ .constant) :
    ∀ n ∈ ns, n.filter.Readable := by
  intro n member
  obtain ⟨role, held, -, kind⟩ := Composite.exists_role_of_nodes made member
  apply Filter.readable_of_other
  have family : n.filter.kind.family = (roleKind role).family := congrArg Kind.family kind
  rw [family]
  exact plain role held

theorem readable_inner_iff {c : Composite} (made : c.recipe.nodes f = .ok ns) :
    (∀ n ∈ ns, n.filter.Readable) ↔ ¬ (c = .oscillator ∧ f.TooFast) := by
  have always (other : c ≠ .oscillator) (readable : ∀ n ∈ ns, n.filter.Readable) :
      (∀ n ∈ ns, n.filter.Readable) ↔ ¬ (c = .oscillator ∧ f.TooFast) :=
    ⟨fun _ both => other both.1, fun _ => readable⟩
  cases c with
  | position =>
    obtain ⟨pan, panMade, rest⟩ := bind_eq_ok_iff.mp made
    obtain ⟨tilt, tiltMade, rest⟩ := bind_eq_ok_iff.mp rest
    cases rest
    apply always nofun
    intro n member
    rcases List.mem_append.mp member with ofPan | ofTilt
    · exact readable_of_axis panMade n ofPan
    · exact readable_of_axis tiltMade n ofTilt
  | oscillator =>
    obtain ⟨p, some, read⟩ := exists_period made
    obtain ⟨time, phase, sine, scale, rfl, others⟩ := oscillator_eq_ok made read
    have readable : ∀ g ∈ [time, phase, sine, scale], g.Readable := fun g member =>
      Filter.readable_of_other (others g member)
    have constant := readable_omega_iff (f := f) some
    rw [tooFast_iff read]
    simp only [List.mem_cons, List.not_mem_nil, or_false, forall_eq_or_imp, forall_eq] at readable
    simp only [List.map_cons, List.map_nil, List.mem_cons, List.not_mem_nil, or_false,
      forall_eq_or_imp, forall_eq, Node.filter_ofFilter, constant, readable]
    simp
  | dimmedColor => exact always nofun (readable_of_roles made (by decide))
  | delayChain => exact always nofun (readable_of_roles made (by decide))
  | oscillatingDimmer => exact always nofun (readable_of_roles made (by decide))

end Recipe

/-- Whether the error is over the parameter that constants keep their value in. -/
def CompileError.isOverValue : CompileError → Bool
  | .invalidValue _ parameter _ => parameter == "value"
  | _ => false

section

variable {f : Filter} {e : CompileError}

theorem Filter.not_isOverValue_of_declaredPorts (failed : f.declaredPorts = .error e) :
    e.isOverValue = false := by
  obtain ⟨cause, -, rfl⟩ := mapError_eq_error_iff.mp failed
  rfl

theorem Recipe.not_isOverValue_of_nodes {c : Composite} (failed : c.recipe.nodes f = .error e) :
    e.isOverValue = false := by
  rcases exists_of_nodes_error failed with ⟨name, member, cause, rfl⟩ | ⟨key, text, rfl⟩
  · have other : name ≠ "value" := by
      rintro rfl
      revert member
      cases c <;> decide
    exact beq_eq_false_iff_ne.mpr other
  · rfl

theorem not_isOverValue_of_unfold {scene : UInt32} (composite : f.kind.isComposite = true)
    (failed : (unfold .builtIn scene f).outcome = .error e) : e.isOverValue = false := by
  rcases exists_of_unfold_error RecipeBook.faithful_builtIn composite failed with
    undeclared | ⟨ports, port, -, -, -, rfl⟩ | ⟨r, registered, malformed⟩
  · exact Filter.not_isOverValue_of_declaredPorts undeclared
  · rfl
  · obtain ⟨c, kind⟩ := exists_composite_of_isComposite composite
    rw [kind, recipe?_builtIn] at registered
    cases registered
    exact Recipe.not_isOverValue_of_nodes malformed

theorem not_isOverValue_of_substitute {first : Filter}
    (failed : (substitute first f).outcome = .error e) : e.isOverValue = false := by
  unfold substitute at failed
  split at failed
  · cases failed
    rfl
  · rcases Run.outcome_bind_eq_error.mp failed with undeclared | ⟨_, -, impossible⟩
    · exact Filter.not_isOverValue_of_declaredPorts undeclared
    · cases impossible

theorem not_isOverValue_of_offer {s : Singletons} {scene : UInt32} {n : Node}
    (failed : (s.offer scene n).outcome = .error e) : e.isOverValue = false := by
  unfold Singletons.offer at failed
  dsimp only at failed
  split at failed
  · cases failed
    rfl
  split at failed
  · cases failed
    rfl
  split at failed
  · cases failed
  split at failed
  · cases failed
  split at failed
  · cases failed
    rfl
  · rcases Run.outcome_bind_eq_error.mp failed with unled | ⟨_, -, failed⟩
    · exact not_isOverValue_of_substitute unled
    · cases Run.outcome_bind_answer_eq_error.mp failed

theorem not_isOverValue_of_retain {scene : UInt32} {seen : List String} {s : Singletons}
    {fs : List Filter} (failed : (retain scene seen s fs).outcome = .error e) :
    e.isOverValue = false := by
  induction fs generalizing seen s with
  | nil => cases failed
  | cons f rest ih =>
    unfold retain at failed
    split at failed
    · cases failed
      rfl
    rcases Run.outcome_bind_eq_error.mp failed with refused | ⟨⟨folded, s'⟩, -, failed⟩
    · exact not_isOverValue_of_offer refused
    dsimp only at failed
    split at failed
    · exact ih failed
    rcases Run.outcome_bind_eq_error.mp failed with undeclared | ⟨_, -, failed⟩
    · exact Filter.not_isOverValue_of_declaredPorts undeclared
    · exact ih (Run.outcome_bind_answer_eq_error.mp failed)

theorem not_isOverValue_of_bindLink {table : Substitution} {limit : Nat} {scene : UInt32}
    {filter port : String} {inputs : PortTypes} {outputs : OutputIndex} {source : OutputRef}
    (failed : bindLink table limit scene filter inputs outputs port source = .error e) :
    e.isOverValue = false := by
  unfold bindLink at failed
  split at failed
  · rcases bind_eq_error_iff.mp failed with endless | ⟨target, -, failed⟩
    · obtain ⟨chain, -, rfl⟩ := mapError_eq_error_iff.mp endless
      rfl
    · split at failed
      · split at failed
        · cases failed
        · cases failed
          rfl
      · cases failed
        rfl
  · cases failed
    rfl

end

section

variable {settings : Settings} {s : Scene} {u : Filter}

theorem not_isOverValue_of_gather (valid : s.Valid) {e : CompileError}
    (failed : (gather .builtIn settings s).outcome = .error e) : e.isOverValue = false := by
  unfold gather at failed
  rcases Run.outcome_bind_eq_error.mp failed with unexpanded | ⟨es, -, failed⟩
  · rcases exists_of_expand_error unexpanded with ⟨id, rfl⟩ | ⟨f, met, here⟩
    · rfl
    · exact not_isOverValue_of_unfold
        (isComposite_of_mem_compositesOf RecipeBook.faithful_builtIn valid met) here
  · exact not_isOverValue_of_retain (Run.outcome_bind_answer_eq_error.mp failed)

theorem Filter.exists_of_normalParameters_error {f : Filter} {ports : Ports} {e : CompileError}
    (told : f.ports = .ok ports) (failed : f.normalParameters ports = .error e) :
    ∃ type text cause, f.kind = .constant type ∧ f.parameters.get? "value" = some text ∧
      type.parse text = .error cause ∧ e = .invalidValue f.id "value" cause := by
  by_cases family : f.kind.family = .constant
  · obtain ⟨type, constant⟩ := Kind.exists_constant family
    cases given : f.parameters.get? "value" with
    | none =>
      rw [normalParameters_of_absent given] at failed
      cases failed
    | some text =>
      rw [normalParameters_of_constant told constant given] at failed
      split at failed
      · cases failed
      · rename_i cause malformed
        cases failed
        exact ⟨type, text, cause, constant, rfl, malformed, rfl⟩
  · rw [normalParameters_of_other family] at failed
    cases failed

theorem Recipe.exists_unreadable {ns : List Node} (made : oscillator.nodes u = .ok ns)
    (fast : u.TooFast) :
    ∃ g, .concrete g ∈ ns ∧ g.kind = .constant .float ∧ ¬ g.Readable := by
  obtain ⟨p, some, read⟩ := exists_period made
  obtain ⟨time, phase, sine, scale, rfl, -⟩ := oscillator_eq_ok made read
  refine ⟨(u.inner "omega" (.constant .float)).withParameter "value"
    (Number.tau.divide (.finite false p)).text, ?_, rfl, ?_⟩
  · exact List.mem_map.mpr ⟨_, List.mem_cons_of_mem _ List.mem_cons_self, rfl⟩
  · rw [readable_omega_iff some, Nat.not_lt]
    exact (tooFast_iff read).mp fast

theorem Recipe.eq_omega_of_unreadable {c : Composite} {ns : List Node}
    (made : c.recipe.nodes u = .ok ns) {g : Filter} (member : .ofFilter g ∈ ns)
    (unreadable : ¬ g.Readable) :
    c = .oscillator ∧ u.TooFast ∧
      g = (u.inner "omega" (.constant .float)).withParameter "value" "inf" := by
  have both : c = .oscillator ∧ u.TooFast := by
    by_contra other
    have readable := (readable_inner_iff made).mpr other _ member
    rw [Node.filter_ofFilter] at readable
    exact unreadable readable
  obtain ⟨rfl, fast⟩ := both
  obtain ⟨p, some, read⟩ := exists_period made
  obtain ⟨time, phase, sine, scale, rfl, others⟩ := oscillator_eq_ok made read
  refine ⟨rfl, fast, ?_⟩
  obtain ⟨h, listed, same⟩ := List.mem_map.mp member
  obtain rfl : h = g := by
    have filters := congrArg Node.filter same
    rwa [Node.filter_ofFilter, Node.filter_ofFilter] at filters
  have plain : h ∉ [time, phase, sine, scale] := fun among =>
    unreadable (Filter.readable_of_other (others h among))
  simp only [List.mem_cons, List.not_mem_nil, or_false, not_or] at listed plain
  rcases listed with here | here | here | here | here
  · exact absurd here plain.1
  · rw [here, Number.tau_divide_of_short some ((tooFast_iff read).mp fast)]
    rfl
  · exact absurd here plain.2.1
  · exact absurd here plain.2.2.1
  · exact absurd here plain.2.2.2

theorem not_deployed_of_tooFast (met : u ∈ compositesOf .builtIn settings s)
    (kind : u.kind = .composite .oscillator) (fast : u.TooFast) (fs : List Filter) :
    (deployScene .builtIn settings s).outcome ≠ .ok fs := by
  intro deployed
  obtain ⟨kept, folding, deploys⟩ := deployScene_eq_ok_iff.mp deployed
  obtain ⟨recipe, ports, unfolds⟩ := exists_unfolds_of_mem_compositesOf deploys.expandable met
  obtain rfl := unfolds.recipe_eq kind
  obtain ⟨g, member, constant, unreadable⟩ := Recipe.exists_unreadable unfolds.nodes fast
  obtain ⟨n, listed, inside⟩ := List.mem_flatMap.mp met
  have concrete : g ∈ concretesOf .builtIn settings s :=
    List.mem_flatMap.mpr ⟨n, listed, RecipeBook.mem_concretesIn_of_inner inside member⟩
  have many : g.kind.isSingleton = false := by
    rw [constant]
    rfl
  obtain ⟨declared, isKept⟩ := deploys.retains.exists_kept concrete many
  obtain ⟨emitted, -, finished⟩ := exists_right deploys.finished isKept
  obtain ⟨links, parameters, -, normal, -⟩ := finish_eq_ok_iff.mp finished
  have told := Filter.declaredPorts_eq_ok_iff.mp (deploys.retains.declares isKept)
  exact unreadable ((Filter.exists_normalParameters_iff told).mp ⟨parameters, normal⟩)

theorem exists_of_refused_value (valid : s.Valid) {id : String} {cause : SignalError}
    (refused : (deployScene .builtIn settings s).outcome =
      .error (.invalidValue id "value" cause)) :
    (∃ f ∈ s.filters, f.id = id ∧ ¬ f.Readable) ∨
      ∃ u ∈ compositesOf .builtIn settings s, u.kind = .composite .oscillator ∧ u.TooFast ∧
        id = u.innerId "omega" ∧ cause = .malformed .float "inf" := by
  have overValue : (CompileError.invalidValue id "value" cause).isOverValue = true := rfl
  rcases exists_of_deployScene_error refused with
    ungathered | ⟨kept, folding, gathers, k, isKept, unfinished⟩
  · rw [not_isOverValue_of_gather valid ungathered] at overValue
    cases overValue
  rcases exists_of_finish_error unfinished with ⟨link, -, unbound⟩ | abnormal
  · rw [not_isOverValue_of_bindLink unbound] at overValue
    cases overValue
  have told := Filter.declaredPorts_eq_ok_iff.mp (gathers.retains.declares isKept)
  obtain ⟨type, text, malformed, constant, given, unparsed, same⟩ :=
    Filter.exists_of_normalParameters_error told abnormal
  cases same
  have unreadable : ¬ k.1.Readable := by
    intro readable
    obtain ⟨v, parsed⟩ := readable type text constant given
    cases unparsed.symm.trans parsed
  have listed := gathers.retains.sublist.subset (List.mem_map_of_mem isKept)
  obtain ⟨n, authored, inside⟩ := List.mem_flatMap.mp listed
  have among := (RecipeBook.builtIn.metIn_perm settings.maxExpansionDepth n).mem_iff.mpr
    (List.mem_append_right _ inside)
  rcases RecipeBook.eq_or_exists_inner RecipeBook.faithful_builtIn (valid.followsKind n authored)
    among with own | ⟨u, met, member⟩
  · refine Or.inl ⟨k.1, ?_, rfl, unreadable⟩
    rw [own]
    exact List.mem_map_of_mem authored
  · have here : u ∈ compositesOf .builtIn settings s :=
      List.mem_flatMap.mpr ⟨n, authored, met⟩
    obtain ⟨recipe, ports, unfolds⟩ :=
      exists_unfolds_of_mem_compositesOf gathers.expandable here
    obtain ⟨c, kind⟩ := exists_composite_of_isComposite
      (isComposite_of_mem_compositesOf RecipeBook.faithful_builtIn valid here)
    obtain rfl := unfolds.recipe_eq kind
    obtain ⟨rfl, fast, shape⟩ := Recipe.eq_omega_of_unreadable unfolds.nodes member unreadable
    refine Or.inr ⟨u, here, kind, fast, by rw [shape]; rfl, ?_⟩
    rw [shape] at constant given
    cases constant
    cases given
    cases unparsed
    rfl

end

/-- Whatever parameters a composite filter is unfolded with, the constants that it unfolds into can
    be written in normal form, exactly if it is no oscillator with a period of 2^-1024 of a turn or
    less. A scene with such an oscillator in it is never deployed, and a scene that is refused over
    the value of a constant which no author wrote has one. -/
theorem inner_constants_readable_iff (c : Composite) (f : Filter) (ns : List Node)
    (made : c.recipe.nodes f = .ok ns) :
    ((∀ n ∈ ns, n.kind.family = .constant → ∀ ports, n.filter.ports = .ok ports →
        ∃ written, n.filter.normalParameters ports = .ok written) ↔
      ¬ (c = .oscillator ∧ f.TooFast)) ∧
    ∀ (settings : Settings) (s : Scene), s.Valid →
      (∀ u ∈ compositesOf .builtIn settings s, u.kind = .composite .oscillator → u.TooFast →
        ∀ fs, (deployScene .builtIn settings s).outcome ≠ .ok fs) ∧
      ∀ id cause, (deployScene .builtIn settings s).outcome =
          .error (.invalidValue id "value" cause) →
        (∃ g ∈ s.filters, g.id = id ∧ ¬ g.Readable) ∨
          ∃ u ∈ compositesOf .builtIn settings s,
            u.kind = .composite .oscillator ∧ u.TooFast ∧
            id = u.innerId "omega" ∧ cause = .malformed .float "inf" := by
  constructor
  · rw [← Recipe.readable_inner_iff made]
    constructor
    · intro normal n member
      by_cases family : n.kind.family = .constant
      · obtain ⟨type, constant⟩ := Kind.exists_constant family
        have kind : n.filter.kind = .constant type := constant
        obtain ⟨ports, told⟩ : ∃ ports, n.filter.ports = .ok ports := by
          rw [Filter.ports, kind]
          exact ⟨_, rfl⟩
        exact (Filter.exists_normalParameters_iff told).mp (normal n member family ports told)
      · exact Filter.readable_of_other family
    · intro readable n member _ ports told
      exact (Filter.exists_normalParameters_iff told).mpr (readable n member)
  · intro settings s valid
    refine ⟨fun u met kind fast fs => not_deployed_of_tooFast met kind fast fs, ?_⟩
    exact fun id cause refused => exists_of_refused_value valid refused

def fastOscillator : Filter :=
  { id := "o", kind := .composite .oscillator, parameters := .ofList [("period", "1e-310")] }

def fastOscillatorNodes : List Node := [
  .ofFilter { id := "o__time", kind := .time },
  .ofFilter { id := "o__omega", kind := .constant .float,
              parameters := .ofList [("value", "inf")] },
  .ofFilter { id := "o__phase", kind := .arithmetic .multiplication,
              links := .ofList [("param1", ⟨"o__time", "value"⟩),
                ("param2", ⟨"o__omega", "value"⟩)] },
  .ofFilter { id := "o__sin", kind := .trigonometric .sine,
              links := .ofList [("value", ⟨"o__phase", "value"⟩)] },
  .ofFilter { id := "o__scale", kind := .floatFunction .multiplyAdd,
              links := .ofList [("value", ⟨"o__sin", "value"⟩)],
              parameters := .ofList [("factor", "1"), ("offset", "0")] }]

def fastScene : Scene where
  id := 1
  name := "Main"
  nodes := [.ofFilter fastOscillator]

theorem inner_constants_readable_iff_fast_oscillator :
    Composite.oscillator.recipe.nodes fastOscillator = .ok fastOscillatorNodes ∧
      fastOscillator.TooFast ∧ fastScene.Valid ∧
      (¬ ∀ n ∈ fastOscillatorNodes, n.kind.family = .constant → ∀ ports,
        n.filter.ports = .ok ports →
          ∃ written, n.filter.normalParameters ports = .ok written) ∧
      ∀ fs, (deployScene .builtIn {} fastScene).outcome ≠ .ok fs := by
  have made : Composite.oscillator.recipe.nodes fastOscillator = .ok fastOscillatorNodes := by
    decide +kernel
  have fast : fastOscillator.TooFast := ⟨20240225330731, by decide +kernel, by decide⟩
  have valid : fastScene.Valid := ⟨by decide, by decide⟩
  obtain ⟨readable, scenes⟩ := inner_constants_readable_iff .oscillator _ _ made
  have met : fastOscillator ∈ compositesOf .builtIn {} fastScene :=
    List.mem_flatMap.mpr ⟨_, List.mem_cons_self, List.mem_cons_self⟩
  refine ⟨made, fast, valid, ?_, (scenes {} fastScene valid).1 fastOscillator met rfl fast⟩
  intro all
  exact readable.mp all ⟨rfl, fast⟩

theorem fast_oscillator_refused :
    (∃ ns, Composite.oscillator.recipe.nodes fastOscillator = .ok ns) ∧
      (deployScene .builtIn {} fastScene).outcome =
        .error (.invalidValue "o__omega" "value" (.malformed .float "inf")) := by
  constructor
  · exact ⟨fastOscillatorNodes, by decide +kernel⟩
  · unfold deployScene gather fastScene
    rw [expand_singleton]
    decide +kernel

end LightShow
