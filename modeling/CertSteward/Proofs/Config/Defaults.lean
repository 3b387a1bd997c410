import CertSteward.Proofs.Config.Selection

/-!
# The default is the name of a profile

As long as a configuration is edited by hand, its default is the name of one of
its profiles, so a profile can always be used unless there is no default and
more than one to choose from, or none. A removed profile is gone from the default
and from the list until it is set again.
-/

namespace CertSteward.Config

set_option autoImplicit false

variable {config : Config} {history : List Edit} {name : String}

theorem resolve_none_iff :
    config.resolveProfile none = .ok name ↔
      config.defaultProfile = some name ∨ config.defaultProfile = none ∧ config.IsOnly name := by
  have selects := config.selects
  constructor
  · intro resolved
    cases chosen : config.defaultProfile with
    | some default =>
        rw [selects.default chosen] at resolved
        exact .inl (congrArg some (Except.ok.inj resolved))
    | none =>
        by_cases alone : ∃ only, config.IsOnly only
        · obtain ⟨only, alone⟩ := alone
          rw [selects.only chosen alone] at resolved
          rw [← Except.ok.inj resolved]
          exact .inr ⟨rfl, alone⟩
        · rw [selects.refused chosen (not_exists.mp alone)] at resolved
          contradiction
  · rintro (chosen | ⟨undecided, alone⟩)
    · exact selects.default chosen
    · exact selects.only undecided alone

theorem size_eq_one_iff : config.profiles.size = 1 ↔ ∃ name, config.IsOnly name := by
  have length : config.profiles.names.length = config.profiles.size := List.length_map Prod.fst
  simp only [is_only_iff, ← length, List.length_eq_one_iff]

/-- A name that is used without being given is that of a profile. -/
theorem resolved_is_configured (byHand : ByHand history)
    (resolved : (after history).resolveProfile none = .ok name) :
    name ∈ (after history).profiles.names := by
  obtain chosen | ⟨-, alone⟩ := resolve_none_iff.mp resolved
  · exact default_configured byHand chosen
  · exact Mapping.get_ne_none_iff.mp ((alone name).mpr rfl)

theorem profile_none_cases (byHand : ByHand history) :
    (∃ name profile, (after history).resolveProfile none = .ok name ∧
        (after history).profiles.get? name = some profile ∧
        (after history).profile none = .ok profile) ∨
      (after history).defaultProfile = none ∧ (after history).profiles.size ≠ 1 ∧
        (after history).profile none = .error (.noProfileSelected (after history).suggestion) := by
  have selects := (after history).selects
  by_cases resolved : ∃ name, (after history).resolveProfile none = .ok name
  · left
    obtain ⟨name, resolved⟩ := resolved
    have configured := Mapping.get_ne_none_iff.mpr (resolved_is_configured byHand resolved)
    obtain ⟨profile, held⟩ := Option.ne_none_iff_exists'.mp configured
    exact ⟨name, profile, resolved, held, selects.found resolved held⟩
  · right
    have undecided : (after history).defaultProfile = none := by
      rw [Option.eq_none_iff_forall_ne_some]
      exact fun name chosen => resolved ⟨name, selects.default chosen⟩
    have several : ∀ name, ¬ (after history).IsOnly name :=
      fun name alone => resolved ⟨name, selects.only undecided alone⟩
    refine ⟨undecided, ?_, selects.unresolved (selects.refused undecided several)⟩
    rw [Ne, size_eq_one_iff]
    exact not_exists.mpr several

/-- Nothing leads to a name that is not held. -/
theorem not_used_of_absent (byHand : ByHand history)
    (absent : (after history).profiles.get? name = none) :
    (after history).resolveProfile none ≠ .ok name ∧
      ∀ entry ∈ (after history).listProfiles, entry.1 ≠ name := by
  constructor
  · intro resolved
    exact Mapping.get_ne_none_iff.mpr (resolved_is_configured byHand resolved) absent
  · rintro entry member rfl
    have held := ((after history).selects.listed entry.1 entry.2).mp member
    rw [absent] at held
    contradiction

/-- After any edits by hand the default is the name of a profile, so the profile to use is found
unless there is no default and not exactly one profile; each name holds what it was last given;
and a removed profile is handed back, leaves the others as they are and is not used or listed
before it is set again. -/
theorem default_is_configured_after_edits (byHand : ByHand history) :
    (∀ name, (after history).defaultProfile = some name →
        (after history).profiles.get? name ≠ none) ∧
      (∀ error, (after history).profile none = .error error →
        error = .noProfileSelected (after history).suggestion) ∧
      ((∃ error, (after history).profile none = .error error) ↔
        (after history).defaultProfile = none ∧ (after history).profiles.size ≠ 1) ∧
      (∀ name, (after history).profiles.get? name = lastSet name history) ∧
      ∀ name, ((after history).removeProfile name).1 = lastSet name history ∧
        (∀ other, other ≠ name →
          (after (.remove name :: history)).profiles.get? other =
            (after history).profiles.get? other) ∧
        ∀ later, ByHand (later ++ .remove name :: history) →
          (∀ profile, .set name profile ∉ later) →
            (after (later ++ .remove name :: history)).resolveProfile none ≠ .ok name ∧
              ∀ entry ∈ (after (later ++ .remove name :: history)).listProfiles,
                entry.1 ≠ name := by
  have held := held_after byHand
  refine ⟨?_, ?_, ?_, held, ?_⟩
  · intro name chosen
    exact Mapping.get_ne_none_iff.mpr (default_configured byHand chosen)
  · intro error failed
    obtain ⟨_, _, -, -, found⟩ | ⟨-, -, refused⟩ := profile_none_cases byHand
    · rw [found] at failed
      contradiction
    · rw [refused] at failed
      exact (Except.error.inj failed).symm
  · constructor
    · rintro ⟨error, failed⟩
      obtain ⟨_, _, -, -, found⟩ | ⟨undecided, several, -⟩ := profile_none_cases byHand
      · rw [found] at failed
        contradiction
      · exact ⟨undecided, several⟩
    · rintro ⟨undecided, several⟩
      rw [Ne, size_eq_one_iff, not_exists] at several
      have selects := (after history).selects
      exact ⟨_, selects.unresolved (selects.refused undecided several)⟩
  · intro name
    refine ⟨held name, ?_, ?_⟩
    · intro other apart
      exact (remove_held (after history) name other).trans (if_neg apart.symm)
    · intro later allByHand unset
      apply not_used_of_absent allByHand
      rw [held_after allByHand]
      exact not_held_until_set unset (if_pos rfl)

def chosenDefault : List Edit :=
  [.setDefault (some "prod"), .set "dev" (.new "trial"), .set "prod" (.new "certs")]

theorem removed_default_gives_way :
    ByHand chosenDefault ∧
      ByHand (.set "test" (.new "tests") :: .remove "prod" :: chosenDefault) ∧
      (after (.set "test" (.new "tests") :: .remove "prod" :: chosenDefault)).resolveProfile none ≠
        .ok "prod" := by
  have byHand : ByHand chosenDefault := by decide
  have later : ByHand (.set "test" (.new "tests") :: .remove "prod" :: chosenDefault) := by decide
  have gone := (default_is_configured_after_edits byHand).2.2.2.2 "prod"
  exact ⟨byHand, later, (gone.2.2 [.set "test" (.new "tests")] later (by simp)).1⟩

end CertSteward.Config
