import CertSteward.Config.Store
import CertSteward.Proofs.Mapping

/-!
# Histories of edits

A configuration comes about by edits of an empty one: profiles are set and
removed, the default is changed, and whole configurations are loaded from files.
What is held under a name is told by the latest edit of the name.
-/

namespace CertSteward.Config

set_option autoImplicit false

inductive Edit where
  | set (name : String) (profile : Profile)
  | remove (name : String)
  | setDefault (name : Option String)
  /-- A configuration that could be loaded takes the place of the one before it. -/
  | load (store : Store) (environment : Environment) (path : String)

def edit (config : Config) : Edit → Config
  | .set name profile => config.setProfile name profile
  | .remove name => (config.removeProfile name).2
  | .setDefault name => { config with defaultProfile := name }
  | .load store environment path =>
      match store.load environment path with
      | .ok loaded => loaded
      | .error _ => config

def after : List Edit → Config
  | [] => .empty
  | latest :: earlier => (after earlier).edit latest

variable {config : Config} {history : List Edit} {name other : String}

/-- Whether an edit is made by hand: nothing is loaded, and a default is the name of a profile
that is there. -/
def Edit.ByHand (config : Config) : Edit → Prop
  | .setDefault (some name) => name ∈ config.profiles.names
  | .load _ _ _ => False
  | _ => True

instance : (config : Config) → (edit : Edit) → Decidable (edit.ByHand config)
  | config, .setDefault (some name) =>
      inferInstanceAs (Decidable (name ∈ config.profiles.names))
  | _, .setDefault none => .isTrue trivial
  | _, .load _ _ _ => .isFalse id
  | _, .set _ _ => .isTrue trivial
  | _, .remove _ => .isTrue trivial

def ByHand : List Edit → Prop
  | [] => True
  | latest :: earlier => latest.ByHand (after earlier) ∧ ByHand earlier

instance decideByHand : (history : List Edit) → Decidable (ByHand history)
  | [] => .isTrue trivial
  | _ :: earlier =>
      have := decideByHand earlier
      inferInstanceAs (Decidable (_ ∧ ByHand earlier))

/-- The value that a name was last given since it was last removed. -/
def lastSet (name : String) : List Edit → Option Profile
  | [] => none
  | .set edited profile :: earlier => if edited = name then some profile else lastSet name earlier
  | .remove edited :: earlier => if edited = name then none else lastSet name earlier
  | _ :: earlier => lastSet name earlier

theorem remove_held (config : Config) (name other : String) :
    (config.removeProfile name).2.profiles.get? other =
      if name = other then none else config.profiles.get? other :=
  Mapping.get_erase config.profiles name other

/-- Every name holds what the history says. -/
theorem held_after (byHand : ByHand history) (name : String) :
    (after history).profiles.get? name = lastSet name history := by
  induction history with
  | nil => rfl
  | cons latest earlier ih =>
      obtain ⟨proper, before⟩ := byHand
      rw [after]
      cases latest with
      | set edited profile =>
          rw [edit, setProfile, Mapping.get_insert, ih before, lastSet]
      | remove edited => rw [edit, remove_held, ih before, lastSet]
      | setDefault default => exact ih before
      | load store environment path => exact proper.elim

/-- Removing a profile takes the default away with it, and setting one takes no name away. -/
theorem default_configured_step {latest : Edit} (proper : latest.ByHand config)
    (configured : ∀ name, config.defaultProfile = some name → name ∈ config.profiles.names)
    (chosen : (config.edit latest).defaultProfile = some name) :
    name ∈ (config.edit latest).profiles.names := by
  rw [← Mapping.get_ne_none_iff]
  cases latest with
  | set edited profile =>
      have held := Mapping.get_ne_none_iff.mpr (configured name chosen)
      rw [edit, setProfile, Mapping.get_insert]
      split
      · exact Option.some_ne_none profile
      · exact held
  | remove edited =>
      change (if config.defaultProfile = some edited then none else config.defaultProfile) =
        some name at chosen
      split at chosen
      · contradiction
      · rename_i apart
        have different : edited ≠ name := by
          rintro rfl
          exact apart chosen
        rw [edit, remove_held, if_neg different]
        exact Mapping.get_ne_none_iff.mpr (configured name chosen)
  | setDefault default =>
      change default = some name at chosen
      rw [chosen] at proper
      exact Mapping.get_ne_none_iff.mpr proper
  | load store environment path => exact proper.elim

/-- The default is the name of a profile after any edits by hand. -/
theorem default_configured (byHand : ByHand history)
    (chosen : (after history).defaultProfile = some name) :
    name ∈ (after history).profiles.names := by
  induction history generalizing name with
  | nil => contradiction
  | cons latest earlier ih =>
      exact default_configured_step byHand.1 (fun _ before => ih byHand.2 before) chosen

/-- A name that is not set is not held again. -/
theorem not_held_until_set {later : List Edit} (unset : ∀ profile, .set name profile ∉ later)
    (gone : lastSet name history = none) : lastSet name (later ++ history) = none := by
  induction later with
  | nil => exact gone
  | cons latest later ih =>
      have before := ih fun profile member => unset profile (List.mem_cons_of_mem latest member)
      rw [List.cons_append]
      cases latest with
      | set edited profile =>
          have different : edited ≠ name := by
            rintro rfl
            exact unset profile List.mem_cons_self
          rw [lastSet, if_neg different, before]
      | remove edited => rw [lastSet, before, ite_self]
      | setDefault default => exact before
      | load store environment path => exact before

end CertSteward.Config
