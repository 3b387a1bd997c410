import CertSteward.Proofs.Client.Exchanges

/-!
# Where listings end

A listing follows the page tokens of the service. Where the service answers by
the page token alone, the tokens that are asked for form a walk that depends on
nothing else: it ends at a page that leads nowhere or back to itself, and if it
ever returns to an earlier page it goes in a circle for good. With finitely
many tokens there is no third case.
-/

namespace CertSteward

set_option autoImplicit false

section

variable {Place : Type} (next : Place → Option Place)

def walk : Nat → Place → Option Place
  | 0, place => some place
  | steps + 1, place => (next place).bind (walk steps)

theorem walk_add (first second : Nat) (place : Place) :
    walk next (first + second) place = (walk next first place).bind (walk next second) := by
  induction first generalizing place with
  | zero => rw [Nat.zero_add, walk, Option.bind_some]
  | succ first ih =>
      rw [Nat.succ_add, walk, walk, Option.bind_assoc]
      exact congrArg _ (funext ih)

theorem walk_stays_ended {first second : Nat} {place : Place} (later : first ≤ second)
    (ended : walk next first place = none) : walk next second place = none := by
  have split : second = first + (second - first) := by omega
  rw [split, walk_add, ended, Option.bind_none]

/-- A walk that returns goes in a circle. -/
theorem walk_in_circle {first second : Nat} {place : Place} (later : first ≤ second)
    (returned : walk next first place = walk next second place) (rounds : Nat) :
    walk next (first + rounds * (second - first)) place = walk next first place := by
  induction rounds with
  | zero => rw [Nat.zero_mul, Nat.add_zero]
  | succ rounds ih =>
      have split : first + (rounds + 1) * (second - first) =
          (first + rounds * (second - first)) + (second - first) := by
        rw [Nat.succ_mul]
        omega
      have whole : second = first + (second - first) := by omega
      rw [split, walk_add, ih, ← walk_add, ← whole, returned]

/-- Whether a walk comes to a place where it has been before. -/
def Returns (place : Place) : Prop :=
  ∃ first second, first < second ∧ walk next first place = walk next second place ∧
    walk next first place ≠ none

theorem not_returns_of_ended {steps : Nat} {place : Place}
    (ended : walk next steps place = none) : ¬ Returns next place := by
  rintro ⟨first, second, later, returned, going⟩
  have circle := walk_in_circle next (Nat.le_of_lt later) returned steps
  have far : steps ≤ first + steps * (second - first) := by
    have wide : steps * 1 ≤ steps * (second - first) := Nat.mul_le_mul_left steps (by omega)
    omega
  rw [walk_stays_ended next far ended] at circle
  exact going circle.symm

theorem walk_mem {places : List Place}
    (finite : ∀ place after, next place = some after → after ∈ places) {steps : Nat}
    {place after : Place} (reached : walk next (steps + 1) place = some after) :
    after ∈ places := by
  rw [walk_add] at reached
  obtain ⟨before, _, last⟩ := Option.bind_eq_some_iff.1 reached
  obtain ⟨there, moved, same⟩ := Option.bind_eq_some_iff.1 last
  rw [← Option.some.inj same]
  exact finite before there moved

/-- A walk among finitely many places that never returns has fewer steps than places. -/
theorem walk_ends_of_not_returns {places : List Place}
    (finite : ∀ place after, next place = some after → after ∈ places) {place : Place}
    (forward : ¬ Returns next place) : walk next (places.length + 1) place = none := by
  cases ended : walk next (places.length + 1) place with
  | none => rfl
  | some last =>
      -- All places of the walk are different then, one more than there are.
      let visited := (List.range (places.length + 1)).map fun step => walk next (step + 1) place
      have going (step : Nat) (early : step < places.length + 1) :
          walk next (step + 1) place ≠ none := by
        intro stopped
        rw [walk_stays_ended next (show step + 1 ≤ places.length + 1 by omega) stopped] at ended
        contradiction
      have distinct : visited.Nodup := by
        refine List.pairwise_map.2 (List.pairwise_lt_range.imp_of_mem ?_)
        intro first second member _ later same
        exact forward ⟨first + 1, second + 1, by omega, same,
          going first (List.mem_range.1 member)⟩
      have known : visited ⊆ places.map some := by
        intro reached member
        obtain ⟨step, early, rfl⟩ := List.mem_map.1 member
        obtain ⟨there, found⟩ :=
          Option.ne_none_iff_exists'.1 (going step (List.mem_range.1 early))
        rw [found]
        exact List.mem_map_of_mem (walk_mem next finite found)
      have crowded := distinct.length_le_of_subset known
      simp only [visited, List.length_map, List.length_range] at crowded
      omega

end

namespace Client

open CertSteward.Http (Transport Request Answer)

variable {State : Type} (client : Client) (project : String)

def pageRequest (pageToken : Option String) : Request :=
  client.request .get (client.pageUrl project pageToken) none

/-- Whether the requests of a listing are answered by their page tokens alone. -/
def AnswersByToken (transport : Transport State) (answers : Option String → Answer) : Prop :=
  ∀ pageToken state,
    (transport.exchange (client.pageRequest project pageToken) state).1 = answers pageToken

variable (answers : Option String → Answer)

def pageFor (pageToken : Option String) : Except ApiError CertificateList :=
  if isSendable (client.pageRequest project pageToken) then
    interpret CertificateList.decoder (answers pageToken)
  else .error (.request .rejected)

/-- The page that is asked for after a page, if any. -/
def pageAfter (pageToken : Option String) : Option (Option String) :=
  match client.pageFor project answers pageToken with
  | .error _ => none
  | .ok page =>
      match nextPage pageToken page with
      | .page token => some (some token)
      | _ => none

/-- Whether all pages name pages out of a list only. -/
def NamesOnly (tokens : List String) : Prop :=
  ∀ pageToken page token, client.pageFor project answers pageToken = .ok page →
    page.nextPageToken = some token → token ∈ tokens

variable {client project answers}

theorem next_page_token {pageToken : Option String} {page : CertificateList} {token : String}
    (goes : nextPage pageToken page = .page token) : page.nextPageToken = some token := by
  unfold nextPage at goes
  split at goes
  · contradiction
  · rename_i named found
    split at goes
    · contradiction
    · split at goes
      · contradiction
      · rw [found, NextPage.page.inj goes]

theorem page_after_mem {tokens : List String} (finite : client.NamesOnly project answers tokens)
    (before after : Option String) (moved : client.pageAfter project answers before = some after) :
    after ∈ tokens.map some := by
  unfold pageAfter at moved
  split at moved
  · contradiction
  · rename_i page found
    split at moved
    · rename_i token goes
      rw [← Option.some.inj moved]
      exact List.mem_map_of_mem (finite before page token found (next_page_token goes))
    · contradiction

theorem send_page {transport : Transport State}
    (byToken : client.AnswersByToken project transport answers) (pageToken : Option String)
    (state : State) :
    (send transport CertificateList.decoder (client.pageRequest project pageToken) state).1 =
      client.pageFor project answers pageToken := by
  unfold send pageFor
  split
  · exact congrArg (interpret CertificateList.decoder) (byToken pageToken state)
  · rfl

/-- A listing has ended after so many pages where the walk over them has. -/
theorem list_from_ended_iff {transport : Transport State}
    (byToken : client.AnswersByToken project transport answers) (rounds : Nat)
    (pageToken : Option String) (gathered : List Certificate) (state : State) :
    (client.listFrom transport project rounds pageToken gathered state).1.result ≠ none ↔
      walk (client.pageAfter project answers) rounds pageToken = none := by
  induction rounds generalizing pageToken gathered state with
  | zero => simp [listFrom, walk]
  | succ rounds ih =>
      have brought := send_page byToken pageToken state
      unfold pageRequest at brought
      simp only [listFrom, brought, walk, pageAfter]
      cases client.pageFor project answers pageToken with
      | error error => simp
      | ok page =>
          dsimp only
          cases nextPage pageToken page with
          | done => simp
          | repeated token => simp
          | page token => exact ih (some token) _ _

/-- A listing over a service that answers by page token, out of finitely many tokens, ends if and
only if it never asks for a page again that it has asked for before. It then asks for at most one
page more than there are tokens. -/
theorem listing_ends_iff_no_page_returns {transport : Transport State} {tokens : List String}
    (byToken : client.AnswersByToken project transport answers)
    (finite : client.NamesOnly project answers tokens) (state : State) :
    ((∃ rounds, (client.list transport rounds project state).1.result ≠ none) ↔
        ¬ Returns (client.pageAfter project answers) none) ∧
      (¬ Returns (client.pageAfter project answers) none →
        (client.list transport (tokens.length + 1) project state).1.result ≠ none) := by
  have bounded (forward : ¬ Returns (client.pageAfter project answers) none) :
      (client.list transport (tokens.length + 1) project state).1.result ≠ none := by
    have ended := walk_ends_of_not_returns _ (page_after_mem finite) forward
    rw [List.length_map] at ended
    exact (list_from_ended_iff byToken _ none [] state).2 ended
  refine ⟨⟨?_, ?_⟩, bounded⟩
  · rintro ⟨rounds, ended⟩
    exact not_returns_of_ended _ ((list_from_ended_iff byToken rounds none [] state).1 ended)
  · intro forward
    exact ⟨_, bounded forward⟩

def namedToken? (answer : Answer) : Option String :=
  (interpret CertificateList.decoder answer).toOption.bind CertificateList.nextPageToken

def pageBeforeA : Answer :=
  .complete 200 (Text.Utf8.encode "\x7b\"nextPageToken\":\"a\"\x7d")

def pageBeforeB : Answer :=
  .complete 200 (Text.Utf8.encode "\x7b\"nextPageToken\":\"b\"\x7d")

def lastPage : Answer :=
  .complete 200 (Text.Utf8.encode "\x7b\x7d")

def served (page : Answer) (url : Url) : Answer :=
  if url = localClient.pageUrl "p" (some "a") then page else pageBeforeA

def server (page : Answer) : Transport Unit :=
  ⟨fun request _ => (served page request.url, ())⟩

def servedFor (page : Answer) (pageToken : Option String) : Answer :=
  served page (localClient.pageUrl "p" pageToken)

theorem server_by_token (page : Answer) :
    localClient.AnswersByToken "p" (server page) (servedFor page) :=
  fun _ _ => rfl

theorem server_names_only {page : Answer} {tokens : List String}
    (first : ∀ token, namedToken? pageBeforeA = some token → token ∈ tokens)
    (others : ∀ token, namedToken? page = some token → token ∈ tokens) :
    localClient.NamesOnly "p" (servedFor page) tokens := by
  intro pageToken list token found named
  have read (answer : Answer) (brought : interpret CertificateList.decoder answer = .ok list) :
      namedToken? answer = some token := by
    rw [namedToken?, brought]
    exact named
  unfold pageFor at found
  split at found
  · unfold servedFor served at found
    split at found
    · exact others token (read page found)
    · exact first token (read pageBeforeA found)
  · contradiction

theorem named_before_a : namedToken? pageBeforeA = some "a" := by
  decide +kernel

/-- A chain of two pages is listed. -/
theorem chain_of_pages_is_listed :
    (localClient.list (server lastPage) 2 "p" ()).1.result ≠ none := by
  have last : namedToken? lastPage = none := by decide +kernel
  have names : localClient.NamesOnly "p" (servedFor lastPage) ["a"] := by
    refine server_names_only ?_ ?_
    · intro token named
      rw [named_before_a] at named
      rw [← Option.some.inj named]
      exact List.mem_cons_self
    · intro token named
      rw [last] at named
      contradiction
  have ended : walk (localClient.pageAfter "p" (servedFor lastPage)) 2 none = none := by
    decide +kernel
  have listed := (listing_ends_iff_no_page_returns (server_by_token lastPage) names ()).2
    (not_returns_of_ended _ ended)
  have rounds : ["a"].length + 1 = 2 := rfl
  rw [rounds] at listed
  exact listed

theorem circle_of_pages_goes_on (rounds : Nat) :
    walk (localClient.pageAfter "p" (servedFor pageBeforeB)) rounds (some "a") ≠ none ∧
      walk (localClient.pageAfter "p" (servedFor pageBeforeB)) rounds (some "b") ≠ none := by
  have first : localClient.pageAfter "p" (servedFor pageBeforeB) (some "a") =
      some (some "b") := by decide +kernel
  have second : localClient.pageAfter "p" (servedFor pageBeforeB) (some "b") =
      some (some "a") := by decide +kernel
  induction rounds with
  | zero => exact ⟨Option.some_ne_none _, Option.some_ne_none _⟩
  | succ rounds ih =>
      rw [walk, walk, first, second, Option.bind_some, Option.bind_some]
      exact ⟨ih.2, ih.1⟩

/-- Two pages that name each other are listed forever. -/
theorem circle_of_pages_is_never_listed :
    ¬ ∀ (client : Client) (project : String) (transport : Transport Unit)
        (answers : Option String → Answer) (tokens : List String),
      client.AnswersByToken project transport answers →
      client.NamesOnly project answers tokens →
      ∃ rounds, (client.list transport rounds project ()).1.result ≠ none := by
  intro ends
  have named : namedToken? pageBeforeB = some "b" := by decide +kernel
  have names : localClient.NamesOnly "p" (servedFor pageBeforeB) ["a", "b"] := by
    refine server_names_only ?_ ?_
    · intro token found
      rw [named_before_a] at found
      rw [← Option.some.inj found]
      exact List.mem_cons_self
    · intro token found
      rw [named] at found
      rw [← Option.some.inj found]
      exact List.mem_cons_of_mem _ List.mem_cons_self
  obtain ⟨rounds, ended⟩ := ends localClient "p" (server pageBeforeB)
    (servedFor pageBeforeB) ["a", "b"] (server_by_token pageBeforeB) names
  have stopped := (list_from_ended_iff (server_by_token pageBeforeB) rounds none [] ()).1 ended
  have start : localClient.pageAfter "p" (servedFor pageBeforeB) none = some (some "a") := by
    decide +kernel
  have later := walk_stays_ended _ (Nat.le_succ rounds) stopped
  rw [walk, start, Option.bind_some] at later
  exact (circle_of_pages_goes_on rounds).1 later

end Client

end CertSteward
