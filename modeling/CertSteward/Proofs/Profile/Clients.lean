import CertSteward.Profile
import Mathlib.Data.List.TakeWhile

/-!
# From profiles to clients

The values of a profile are checked first, then its token is resolved, and its
address is read last. The first fault found is the error of the whole; without
one there is a client, whose token is the profile's own unless that is empty.
-/

namespace CertSteward

set_option autoImplicit false

theorem Text.trim_empty_iff (text : String) :
    (trim text).isEmpty = true ↔ ∀ c ∈ text.toList, isBlank c = true := by
  rw [String.isEmpty_iff, trim]
  constructor
  · intro empty c member
    have cut := String.ofList_eq_empty_iff.mp empty
    rw [List.reverse_eq_nil_iff, List.dropWhile_eq_nil_iff] at cut
    rw [← List.takeWhile_append_dropWhile (p := isBlank) (l := text.toList)] at member
    obtain front | back := List.mem_append.mp member
    · exact List.mem_takeWhile_imp front
    · exact cut c (List.mem_reverse.mpr back)
  · intro blank
    have cut : text.toList.dropWhile isBlank = [] := List.dropWhile_eq_nil_iff.mpr blank
    rw [cut]
    rfl

namespace Profile

def openBrace : List Char := ['$', '\x7b']

theorem has_reference_iff (text : List Char) : hasReference text = true ↔ openBrace <:+: text := by
  fun_induction hasReference text with
  | case1 => simp [openBrace]
  | case2 rest => exact iff_of_true rfl ⟨[], rest, rfl⟩
  | case3 c rest other ih =>
      rw [ih, openBrace, List.infix_cons_iff]
      constructor
      · exact .inr
      · rintro (first | later)
        · obtain ⟨tail, same⟩ := first
          obtain ⟨rfl, rfl⟩ := List.cons.inj same
          exact absurd rfl (other tail rfl)
        · exact later

def Marked (profile : Profile) : Prop :=
  ∃ token, profile.accessToken = some token ∧ openBrace <:+: token.toList

/-- The token that a profile shows, if it shows any: its own unless that is empty, else that of the
environment unless that is empty. -/
inductive Shows (profile : Profile) (environment : Environment) : Option String → Prop where
  | own {token : String} (held : profile.accessToken = some token) (filled : token ≠ "") :
      Shows profile environment (some token)
  | environment {token : String} (without : profile.accessToken.getD "" = "")
      (set : environment.get? accessTokenVariable = some token) (filled : token ≠ "") :
      Shows profile environment (some token)
  | nothing (without : profile.accessToken.getD "" = "")
      (unset : (environment.get? accessTokenVariable).getD "" = "") :
      Shows profile environment none

variable {profile : Profile} {token : String} {environment : Environment}

theorem resolve_marked (held : profile.accessToken = some token)
    (marked : openBrace <:+: token.toList) : profile.resolveToken environment =
      .error (.unsetVariable ("access_token references an unset variable: " ++ token)) := by
  rw [resolveToken, held]
  exact if_pos ((has_reference_iff _).mpr marked)

theorem resolve_unmarked (held : profile.accessToken = some token) (filled : token ≠ "")
    (unmarked : ¬ openBrace <:+: token.toList) :
    profile.resolveToken environment = .ok (some token) := by
  have plain : hasReference token.toList = false :=
    Bool.eq_false_iff.mpr (mt (has_reference_iff _).mp unmarked)
  have some_char : token.isEmpty = false := by simpa using filled
  simp only [resolveToken, held, plain, some_char, Bool.false_eq_true, if_false]

/-- Without a token of its own a profile shows that of the environment. -/
theorem resolve_without (without : profile.accessToken.getD "" = "") :
    profile.resolveToken environment = .ok (environment.nonEmpty? accessTokenVariable) := by
  cases held : profile.accessToken with
  | none => rw [resolveToken, held]
  | some token =>
      rw [held] at without
      have empty : token = "" := without
      rw [resolveToken, held, empty]
      rfl

theorem shows_environment (without : profile.accessToken.getD "" = "") :
    profile.Shows environment (environment.nonEmpty? accessTokenVariable) := by
  unfold Environment.nonEmpty?
  cases set : environment.get? accessTokenVariable with
  | none => exact .nothing without (by rw [set]; rfl)
  | some token =>
      by_cases filled : token = ""
      · have empty : (environment.get? accessTokenVariable).getD "" = "" := by rw [set, filled]; rfl
        subst filled
        exact .nothing without empty
      · rw [Option.filter_some, if_pos (by simpa using filled)]
        exact .environment without set filled

/-- A profile whose token holds no reference is resolved to the token that it shows. -/
theorem resolve_shows (profile : Profile) (environment : Environment)
    (unmarked : ¬ profile.Marked) :
    ∃ shown, profile.resolveToken environment = .ok shown ∧ profile.Shows environment shown := by
  by_cases without : profile.accessToken.getD "" = ""
  · exact ⟨_, resolve_without without, shows_environment without⟩
  · cases held : profile.accessToken with
    | none => exact absurd (by rw [held]; rfl) without
    | some token =>
        have filled : token ≠ "" := fun empty => without (by rw [held, empty]; rfl)
        have plain : ¬ openBrace <:+: token.toList := fun marked => unmarked ⟨token, held, marked⟩
        exact ⟨some token, resolve_unmarked held filled plain, .own held filled⟩

structure Sound (profile : Profile) : Prop where
  named : ¬ ∀ c ∈ profile.projectId.toList, Text.isBlank c = true
  polls : profile.pollIntervalSecs ≠ 0
  waits : profile.requestTimeoutSecs ≠ 0

/-- The first fault of a profile with the error that it is refused with. -/
inductive Refused (profile : Profile) : StewardError → Prop where
  | blankProject (blank : ∀ c ∈ profile.projectId.toList, Text.isBlank c = true) :
      Refused profile (.config (.invalidProfile "project_id must not be empty"))
  | noPollInterval (named : ¬ ∀ c ∈ profile.projectId.toList, Text.isBlank c = true)
      (zero : profile.pollIntervalSecs = 0) :
      Refused profile (.config (.invalidProfile "poll_interval_secs must be at least 1"))
  | noRequestTimeout (named : ¬ ∀ c ∈ profile.projectId.toList, Text.isBlank c = true)
      (polls : profile.pollIntervalSecs ≠ 0) (zero : profile.requestTimeoutSecs = 0) :
      Refused profile (.config (.invalidProfile "request_timeout_secs must be at least 1"))
  | markedToken (sound : profile.Sound) {token : String}
      (held : profile.accessToken = some token) (marked : openBrace <:+: token.toList) :
      Refused profile (.config (.unsetVariable
        ("access_token references an unset variable: " ++ token)))
  | unreadableAddress (sound : profile.Sound) (unmarked : ¬ profile.Marked) {error : UrlError}
      (read : Url.read profile.apiUrl = .error error) :
      Refused profile (.api (.invalidUrl error.message))
  | addressWithoutPath (sound : profile.Sound) (unmarked : ¬ profile.Marked) {url : Url}
      (read : Url.read profile.apiUrl = .ok url) (closed : url.isBase = false) :
      Refused profile (.api (.invalidUrl profile.apiUrl))

structure Ready (profile : Profile) (url : Url) : Prop where
  sound : profile.Sound
  unmarked : ¬ profile.Marked
  read : Url.read profile.apiUrl = .ok url
  base : url.isBase = true

theorem refused_or_ready (profile : Profile) :
    (∃ error, profile.Refused error) ∨ ∃ url, profile.Ready url := by
  by_cases named : ∀ c ∈ profile.projectId.toList, Text.isBlank c = true
  · exact .inl ⟨_, .blankProject named⟩
  by_cases polls : profile.pollIntervalSecs = 0
  · exact .inl ⟨_, .noPollInterval named polls⟩
  by_cases waits : profile.requestTimeoutSecs = 0
  · exact .inl ⟨_, .noRequestTimeout named polls waits⟩
  have sound : profile.Sound := ⟨named, polls, waits⟩
  by_cases unmarked : profile.Marked
  · obtain ⟨token, held, marked⟩ := unmarked
    exact .inl ⟨_, .markedToken sound held marked⟩
  cases read : Url.read profile.apiUrl with
  | error error => exact .inl ⟨_, .unreadableAddress sound unmarked read⟩
  | ok url =>
      cases base : url.isBase with
      | false => exact .inl ⟨_, .addressWithoutPath sound unmarked read base⟩
      | true => exact .inr ⟨url, sound, unmarked, read, base⟩

theorem validate_sound (sound : profile.Sound) : profile.validate = .ok () := by
  have named : ¬ (Text.trim profile.projectId).isEmpty = true :=
    mt (Text.trim_empty_iff _).mp sound.named
  rw [validate, if_neg named, if_neg sound.polls, if_neg sound.waits]

theorem client_invalid {error : ConfigError} (invalid : profile.validate = .error error) :
    profile.client environment = .error (.config error) := by
  rw [client, invalid]
  rfl

theorem client_unresolved {error : ConfigError} (valid : profile.validate = .ok ())
    (unresolved : profile.resolveToken environment = .error error) :
    profile.client environment = .error (.config error) := by
  rw [client, valid, unresolved]
  rfl

/-- A client is made of the address as soon as the values are checked and the token is resolved. -/
theorem client_resolved (valid : profile.validate = .ok ()) {shown : Option String}
    (resolved : profile.resolveToken environment = .ok shown) :
    profile.client environment =
      ((ClientSettings.mk profile.apiUrl shown defaultUserAgent).address.map fun url =>
        Client.mk url shown defaultUserAgent).mapError .api := by
  have texted : Http.isHeaderText defaultUserAgent = true := by decide
  have built (settings : ClientSettings) (named : settings.userAgent = defaultUserAgent) :
      settings.build = settings.address.map fun url =>
        Client.mk url settings.token defaultUserAgent := by
    unfold ClientSettings.build
    rw [named, texted]
    cases settings.address <;> rfl
  rw [client, valid, resolved]
  exact congrArg (Except.mapError StewardError.api)
    (built ⟨profile.apiUrl, shown, defaultUserAgent⟩ rfl)

theorem client_refused {error : StewardError} (refused : profile.Refused error) :
    profile.client environment = .error error := by
  cases refused with
  | blankProject blank =>
      apply client_invalid
      rw [validate, if_pos ((Text.trim_empty_iff _).mpr blank)]
  | noPollInterval named zero =>
      apply client_invalid
      rw [validate, if_neg (mt (Text.trim_empty_iff _).mp named), if_pos zero]
  | noRequestTimeout named polls zero =>
      apply client_invalid
      rw [validate, if_neg (mt (Text.trim_empty_iff _).mp named), if_neg polls, if_pos zero]
  | markedToken sound held marked =>
      exact client_unresolved (validate_sound sound) (resolve_marked held marked)
  | unreadableAddress sound unmarked read =>
      obtain ⟨shown, resolved, -⟩ := resolve_shows profile environment unmarked
      rw [client_resolved (validate_sound sound) resolved]
      unfold ClientSettings.address
      rw [read]
      rfl
  | addressWithoutPath sound unmarked read closed =>
      obtain ⟨shown, resolved, -⟩ := resolve_shows profile environment unmarked
      rw [client_resolved (validate_sound sound) resolved]
      unfold ClientSettings.address
      rw [read]
      dsimp only
      rw [closed]
      rfl

/-- A profile that is ready gives a client of its address and of the token that it shows. -/
theorem client_ready {url : Url} (ready : profile.Ready url) (environment : Environment) :
    ∃ shown, profile.Shows environment shown ∧
      profile.client environment = .ok ⟨url.withOpenEnd, shown, defaultUserAgent⟩ := by
  obtain ⟨shown, resolved, shows_⟩ := resolve_shows profile environment ready.unmarked
  refine ⟨shown, shows_, ?_⟩
  rw [client_resolved (validate_sound ready.sound) resolved]
  unfold ClientSettings.address
  rw [ready.read]
  dsimp only
  rw [ready.base]
  rfl

theorem manager_failed {error : StewardError} (failed : profile.client environment = .error error) :
    profile.manager environment = .error error := by
  rw [manager, failed]
  rfl

/-- Whether a profile is turned away for its token, whatever the environment. -/
structure TurnedAway (profile : Profile) (token : String) : Prop where
  resolve (environment : Environment) : profile.resolveToken environment =
    .error (.unsetVariable ("access_token references an unset variable: " ++ token))
  client (environment : Environment) : ∃ error, profile.client environment = .error (.config error)
  manager (environment : Environment) :
    ∃ error, profile.manager environment = .error (.config error)

theorem turned_away (held : profile.accessToken = some token)
    (marked : openBrace <:+: token.toList) : profile.TurnedAway token := by
  have client (environment : Environment) :
      ∃ error, profile.client environment = .error (.config error) := by
    cases valid : profile.validate with
    | error error => exact ⟨error, client_invalid valid⟩
    | ok => exact ⟨_, client_unresolved valid (resolve_marked held marked)⟩
  refine ⟨fun environment => resolve_marked held marked, client, ?_⟩
  intro environment
  obtain ⟨error, failed⟩ := client environment
  exact ⟨error, manager_failed failed⟩

theorem turned_away_iff (held : profile.accessToken = some token) :
    profile.TurnedAway token ↔ openBrace <:+: token.toList := by
  refine ⟨?_, turned_away held⟩
  intro away
  by_contra unmarked
  have alone : ¬ profile.Marked := by
    rintro ⟨other, also, marked⟩
    obtain rfl := Option.some.inj (held.symm.trans also)
    exact unmarked marked
  obtain ⟨shown, resolved, -⟩ := resolve_shows profile .empty alone
  rw [away.resolve] at resolved
  contradiction

/-- What a client shows that is built nonetheless. -/
theorem client_shows (held : profile.accessToken = some token) (filled : token ≠ "")
    (unmarked : ¬ openBrace <:+: token.toList) {client : Client}
    (built : profile.client environment = .ok client) :
    client.authorization = some ("Bearer " ++ token) := by
  cases valid : profile.validate with
  | error error =>
      rw [client_invalid valid] at built
      cases built
  | ok =>
      rw [client_resolved valid (resolve_unmarked held filled unmarked)] at built
      cases address : (ClientSettings.mk profile.apiUrl (some token) defaultUserAgent).address with
      | error error =>
          rw [address] at built
          cases built
      | ok url =>
          rw [address] at built
          obtain rfl := Except.ok.inj built
          rfl

end Profile

end CertSteward
