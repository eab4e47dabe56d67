import LightShow.Compile.Error
import LightShow.Note
import LightShow.Run

/-!
Links are not edited while a scene is unfolded and its singletons are folded. Rules are
recorded instead, each of which replaces a reference to an output by another one, and the
rules are followed when a link is bound at last.
-/

namespace LightShow

structure Rule where
  source : OutputRef
  target : OutputRef
  deriving DecidableEq, Repr

inductive Entry where
  | rule (r : Rule)
  | note (n : Note)
  deriving DecidableEq, Repr

def Entry.rule? : Entry → Option Rule
  | .rule r => some r
  | .note _ => none

def Entry.note? : Entry → Option Note
  | .rule _ => none
  | .note n => some n

abbrev Stage := Run Entry CompileError

def Stage.record (source target : OutputRef) : Stage Unit := .report (.rule ⟨source, target⟩)
def Stage.tell (n : Note) : Stage Unit := .report (.note n)

abbrev Substitution := OrderedMap OutputRef OutputRef

namespace Substitution

/-- Adds the rules in turn; a later rule for a reference replaces an earlier one. -/
def extend (t : Substitution) (rules : List Rule) : Substitution :=
  t.insertAll (rules.map fun r => (r.source, r.target))

def ofEntries (entries : List Entry) : Substitution :=
  extend ∅ (entries.filterMap Entry.rule?)

/-- Follows the rules from `r` for fewer than `fuel` steps. If they have not ended by then,
    the answer is the list of all references met. -/
def chase (t : Substitution) : Nat → OutputRef → Except (List OutputRef) OutputRef
  | 0, r => .error [r]
  | fuel + 1, r =>
    match t.get? r with
    | none => .ok r
    | some next => (chase t fuel next).mapError (r :: ·)

def resolve (t : Substitution) (limit : Nat) (r : OutputRef) : Except CompileError OutputRef :=
  (t.chase (limit + 1) r).mapError .cyclicSubstitution

end Substitution
end LightShow
