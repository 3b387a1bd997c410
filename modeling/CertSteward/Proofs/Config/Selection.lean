import CertSteward.Proofs.Config.Edits
import CertSteward.Proofs.Config.Written
import CertSteward.Proofs.Text.Order

/-!
# Profiles are chosen by what a configuration holds

A table without an order of its own goes through its profiles in any order, and
so may the tables of a file stand. Whichever profile is chosen, and whatever is
said when none is, follows from the default and from what is held under each
name: two histories of edits that leave the same behind are answered alike.
-/

namespace CertSteward.Config

set_option autoImplicit false

variable {config : Config} {visited : List (String × Profile)}

def isBefore (left right : String) : Bool :=
  decide (left ≤ right)

def suggestionAmong (names : List String) : String :=
  "Available profiles: " ++ ", ".intercalate (names.mergeSort isBefore) ++
    ". Set default_profile or pick one explicitly."

def resolveAmong (visited : List (String × Profile)) (default explicit : Option String) :
    Except ConfigError String :=
  match explicit, default with
  | some name, _ => .ok name
  | none, some name => .ok name
  | none, none =>
      match visited with
      | [] => .error (.noProfileSelected "No profiles configured.")
      | [entry] => .ok entry.1
      | _ => .error (.noProfileSelected (suggestionAmong (visited.map Prod.fst)))

/-- The profile to use; the first one of its name is taken. -/
def profileAmong (visited : List (String × Profile)) (default explicit : Option String) :
    Except ConfigError Profile := do
  let name ← resolveAmong visited default explicit
  match visited.find? fun entry => entry.1 == name with
  | some entry => .ok entry.2
  | none => .error (.profileNotFound name)

def listAmong (visited : List (String × Profile)) : List (String × Profile) :=
  visited.mergeSort fun left right => isBefore left.1 right.1

theorem is_before_trans (a b c : String) (first : isBefore a b = true)
    (second : isBefore b c = true) : isBefore a c = true := by
  simp only [isBefore, decide_eq_true_eq] at *
  exact String.le_trans first second

theorem is_before_total (a b : String) : (isBefore a b || isBefore b a) = true := by
  simp only [isBefore, Bool.or_eq_true, decide_eq_true_eq]
  exact String.le_total a b

/-- Sorted by name, the profiles are listed in one order, however they were gone through. -/
theorem list_among_eq (perm : visited.Perm config.profiles.toList) :
    listAmong visited = config.listProfiles := by
  have sorted : (listAmong visited).Pairwise fun left right => isBefore left.1 right.1 = true := by
    apply List.pairwise_mergeSort
    · exact fun a b c => is_before_trans a.1 b.1 c.1
    · exact fun a b => is_before_total a.1 b.1
  have listed : config.profiles.entries.Pairwise fun left right =>
      isBefore left.1 right.1 = true := by
    apply config.profiles.ascending.imp
    intro left right below
    exact decide_eq_true (String.not_lt.mp (String.lt_asymm below))
  have same := (List.mergeSort_perm visited fun left right => isBefore left.1 right.1).trans perm
  -- Two profiles that are each before the other have one name, and so are one.
  apply same.eq_of_pairwise _ sorted listed
  intro a b first second below above
  have names : a.1 = b.1 := String.le_antisymm (of_decide_eq_true below) (of_decide_eq_true above)
  have held := Mapping.get_eq_some_iff.mpr (same.mem_iff.mp first)
  have other := Mapping.get_eq_some_iff.mpr second
  rw [names, other] at held
  exact Prod.ext names (Option.some.inj held).symm

theorem names_among_eq (perm : visited.Perm config.profiles.toList) :
    (visited.map Prod.fst).mergeSort isBefore = config.profiles.names := by
  have names : (listAmong visited).map Prod.fst = (visited.map Prod.fst).mergeSort isBefore :=
    List.map_mergeSort fun _ _ _ _ => rfl
  rw [← names, list_among_eq perm]
  rfl

theorem resolve_among_eq (perm : visited.Perm config.profiles.toList)
    (explicit : Option String) :
    resolveAmong visited config.defaultProfile explicit = config.resolveProfile explicit := by
  have names := names_among_eq perm
  unfold resolveAmong resolveProfile
  rw [← names]
  cases explicit with
  | some name => rfl
  | none =>
      cases config.defaultProfile with
      | some name => rfl
      | none =>
          match visited with
          | [] => rw [List.map_nil, List.mergeSort_nil]
          | [entry] => rw [List.map_singleton, List.mergeSort_singleton]
          | first :: second :: rest =>
              have sorted := List.mergeSort_perm ((first :: second :: rest).map Prod.fst) isBefore
              dsimp only [suggestionAmong]
              generalize ((first :: second :: rest).map Prod.fst).mergeSort isBefore = ordered
                at sorted
              match ordered with
              | [] => exact absurd sorted.length_eq (by simp)
              | [name] => exact absurd sorted.length_eq (by simp)
              | one :: two :: others => rfl

theorem find_among_eq (perm : visited.Perm config.profiles.toList) (name : String) :
    (visited.find? fun entry => entry.1 == name).map Prod.snd = config.profiles.get? name := by
  cases found : visited.find? fun entry => entry.1 == name with
  | some entry =>
      have named := List.find?_some found
      have member := perm.mem_iff.mp (List.mem_of_find?_eq_some found)
      rw [← beq_iff_eq.mp named]
      exact (Mapping.get_eq_some_iff.mpr member).symm
  | none =>
      rw [List.find?_eq_none] at found
      symm
      rw [Option.map_none, Option.eq_none_iff_forall_ne_some]
      intro profile held
      have member := perm.mem_iff.mpr (Mapping.get_eq_some_iff.mp held)
      exact found _ member (beq_self_eq_true name)

theorem profile_among_eq (perm : visited.Perm config.profiles.toList)
    (explicit : Option String) :
    profileAmong visited config.defaultProfile explicit = config.profile explicit := by
  unfold profileAmong profile
  rw [resolve_among_eq perm]
  cases config.resolveProfile explicit with
  | error error => rfl
  | ok name =>
      simp only [bind, Except.bind, ← find_among_eq perm name]
      cases visited.find? fun entry => entry.1 == name <;> rfl

/-- Whether profiles that are gone through in some order give the answers of a configuration. -/
def AnswersAs (config : Config) (visited : List (String × Profile)) (default : Option String) :
    Prop :=
  (∀ explicit, resolveAmong visited default explicit = config.resolveProfile explicit ∧
      profileAmong visited default explicit = config.profile explicit) ∧
    listAmong visited = config.listProfiles

theorem answers_among (perm : visited.Perm config.profiles.toList) :
    config.AnswersAs visited config.defaultProfile :=
  ⟨fun explicit => ⟨resolve_among_eq perm explicit, profile_among_eq perm explicit⟩,
    list_among_eq perm⟩

def IsOnly (config : Config) (name : String) : Prop :=
  ∀ other, config.profiles.get? other ≠ none ↔ other = name

def listedNames (config : Config) : List String :=
  config.listProfiles.map Prod.fst

def suggestion (config : Config) : String :=
  if config.listedNames = [] then "No profiles configured."
  else
    "Available profiles: " ++ ", ".intercalate config.listedNames ++
      ". Set default_profile or pick one explicitly."

/-- The answers of a configuration, told by its default and by what it holds under each name. -/
structure Selects (config : Config) : Prop where
  explicit (name : String) : config.resolveProfile (some name) = .ok name
  default {name : String} (chosen : config.defaultProfile = some name) :
    config.resolveProfile none = .ok name
  only {name : String} (undecided : config.defaultProfile = none) (alone : config.IsOnly name) :
    config.resolveProfile none = .ok name
  refused (undecided : config.defaultProfile = none) (several : ∀ name, ¬ config.IsOnly name) :
    config.resolveProfile none = .error (.noProfileSelected config.suggestion)
  found {explicit : Option String} {name : String} {profile : Profile}
    (resolved : config.resolveProfile explicit = .ok name)
    (held : config.profiles.get? name = some profile) : config.profile explicit = .ok profile
  missing {explicit : Option String} {name : String}
    (resolved : config.resolveProfile explicit = .ok name)
    (absent : config.profiles.get? name = none) :
    config.profile explicit = .error (.profileNotFound name)
  unresolved {explicit : Option String} {error : ConfigError}
    (failed : config.resolveProfile explicit = .error error) :
    config.profile explicit = .error error
  listed (name : String) (profile : Profile) :
    (name, profile) ∈ config.listProfiles ↔ config.profiles.get? name = some profile
  ascending : (config.listedNames.map Text.Utf8.encode).Pairwise (· < ·)

theorem is_only_iff (config : Config) (name : String) :
    config.IsOnly name ↔ config.profiles.names = [name] := by
  have members : config.IsOnly name ↔ ∀ other, other ∈ config.profiles.names ↔ other ∈ [name] := by
    simp only [IsOnly, Mapping.get_ne_none_iff, List.mem_singleton]
  have distinct : config.profiles.names.Nodup := config.profiles.distinct_names
  rw [members, ← List.perm_ext_iff_of_nodup distinct (List.nodup_singleton name),
    List.perm_singleton]

theorem resolve_undecided (undecided : config.defaultProfile = none)
    (several : ∀ name, ¬ config.IsOnly name) :
    config.resolveProfile none = .error (.noProfileSelected config.suggestion) := by
  simp only [is_only_iff] at several
  have names : config.listedNames = config.profiles.names := rfl
  unfold resolveProfile
  rw [suggestion, names, undecided]
  match listed : config.profiles.names with
  | [] => rfl
  | [name] => exact absurd listed (several name)
  | first :: second :: rest => rfl

theorem selects (config : Config) : config.Selects where
  explicit name := rfl
  default chosen := by
    unfold resolveProfile
    rw [chosen]
  only undecided alone := by
    unfold resolveProfile
    rw [undecided, (is_only_iff _ _).mp alone]
  refused := resolve_undecided
  found resolved held := by
    rw [profile, resolved]
    simp only [bind, Except.bind, held]
  missing resolved absent := by
    rw [profile, resolved]
    simp only [bind, Except.bind, absent]
  unresolved failed := by
    rw [profile, failed]
    rfl
  listed name profile := Mapping.get_eq_some_iff.symm
  ascending := by
    rw [List.pairwise_map, listedNames, List.pairwise_map]
    exact config.profiles.ascending.imp Text.Utf8.encode_lt

/-- Histories of edits and loads that leave the same default and the same profiles behind give the
same answers, in whatever order the profiles are gone through or written; and the answers are those
that the default and the profiles tell. -/
theorem selection_follows_contents {first second : List Edit}
    (defaults : (after first).defaultProfile = (after second).defaultProfile)
    (contents : ∀ name, (after first).profiles.get? name = (after second).profiles.get? name) :
    (after first).Selects ∧
      (∀ explicit, (after first).resolveProfile explicit = (after second).resolveProfile explicit ∧
        (after first).profile explicit = (after second).profile explicit) ∧
      (after first).listProfiles = (after second).listProfiles ∧
      ∀ visited revisited, visited.Perm (after first).profiles.toList →
        revisited.Perm (after second).profiles.toList →
          (after first).AnswersAs visited (after first).defaultProfile ∧
            (after first).AnswersAs revisited (after second).defaultProfile ∧
            decode ((after first).writeIn visited) = .ok (after second) := by
  have same : after second = after first := by
    have profiles := Mapping.ext_get contents
    generalize after first = one at *
    generalize after second = two at *
    cases one
    cases two
    cases defaults
    cases profiles
    rfl
  rw [same]
  refine ⟨selects (after first), fun explicit => ⟨rfl, rfl⟩, rfl, ?_⟩
  intro visited revisited perm other
  exact ⟨answers_among perm, answers_among other, decode_written perm⟩

def removedLast : List Edit :=
  [.remove "old", .set "dev" (.new "trial"), .set "old" (.new "former"), .set "prod" (.new "certs")]

def defaultTakenBack : List Edit :=
  [.setDefault none, .set "prod" (.new "certs"), .setDefault (some "dev"),
    .set "dev" (.new "trial")]

theorem two_profiles_are_suggested_in_order :
    after removedLast = after defaultTakenBack ∧
      resolveAmong [("prod", .new "certs"), ("dev", .new "trial")]
          (after defaultTakenBack).defaultProfile none =
        .error (.noProfileSelected
          "Available profiles: dev, prod. Set default_profile or pick one explicitly.") := by
  have same : after removedLast = after defaultTakenBack := by decide
  have told := selection_follows_contents (congrArg defaultProfile same)
    (fun name => congrArg (fun config => config.profiles.get? name) same)
  have answers := (told.2.2.2 _ [("prod", .new "certs"), ("dev", .new "trial")]
    (List.Perm.refl _) (by decide)).2.1
  exact ⟨same, (answers.1 none).1.trans (by decide)⟩

end CertSteward.Config
