import CertSteward.Proofs.Client.Pages
import CertSteward.Proofs.Client.Requests
import CertSteward.Proofs.Url.Ideographs

/-!
# The address that a client goes by

The path of the service's address ends in a slash, whether it is given with one
or not, and the address that a client shows is one that the same client is made
from, unless a label of its host is too long to be read. Requests keep the query
of the address as it was given, with the token of a page behind it.
-/

namespace CertSteward

set_option autoImplicit false

open CertSteward.Http (Transport Request Answer)

variable {settings : ClientSettings} {client : Client} {base : Url}

namespace ClientSettings

theorem build_eq_ok_iff :
    settings.build = .ok client ↔
      ∃ url, Url.read settings.baseUrl = .ok url ∧ url.isBase = true ∧
        Http.isHeaderText settings.userAgent = true ∧
        client = ⟨url.withOpenEnd, settings.token, settings.userAgent⟩ := by
  constructor
  · intro built
    obtain ⟨address, located, built⟩ := ok_of_bind built
    split at built
    · rename_i shown
      unfold ClientSettings.address at located
      split at located
      · contradiction
      · rename_i url found
        split at located
        · rename_i hierarchical
          rw [← Except.ok.inj located] at built
          exact ⟨url, found, hierarchical, shown, (Except.ok.inj built).symm⟩
        · contradiction
    · contradiction
  · rintro ⟨url, found, hierarchical, shown, rfl⟩
    simp [build, address, found, hierarchical, shown]
    rfl

def withBaseUrl (settings : ClientSettings) (text : String) : ClientSettings :=
  { settings with baseUrl := text }

/-- A settled address whose path ends in a slash is the address that its text gives, but for a
label of its host that is too long. -/
theorem build_of_text {url : Url} (settled : url.IsSettled) (ended : url.EndsInSlash)
    (shown : Http.isHeaderText settings.userAgent = true) :
    (settings.withBaseUrl url.text).build =
      if url.hasReadableHost then .ok ⟨url, settings.token, settings.userAgent⟩
      else .error (.invalidUrl UrlError.invalidInternationalName.message) := by
  have read := Url.read_text settled
  cases readable : url.hasReadableHost with
  | true =>
      obtain ⟨segments, path, -⟩ := settled.path
      have hierarchical : url.isBase = true := by rw [Url.isBase, path]
      rw [readable] at read
      rw [if_pos rfl, build_eq_ok_iff]
      refine ⟨url, read, hierarchical, shown, ?_⟩
      rw [Url.open_end_of_ended settled ended]
      rfl
  | false =>
      rw [readable] at read
      have refused : (settings.withBaseUrl url.text).address =
          .error (.invalidUrl UrlError.invalidInternationalName.message) := by
        rw [address, show (settings.withBaseUrl url.text).baseUrl = url.text from rfl, read]
        rfl
      rw [build, refused]
      rfl

end ClientSettings

namespace Client

/-- Whether an address has the query of another one, and no more behind it than a page token. -/
def KeepsQuery (base url : Url) : Prop :=
  ∃ pageToken : Option String,
    url.pairs = base.pairs ++ pageToken.toList.map (fun token => (some "pageToken", some token)) ∧
      ∃ added, url.queryText = base.queryText ++ added ∧ (pageToken = none → added = "")

theorem keeps_same_query {url : Url} (same : url.query = base.query) : KeepsQuery base url := by
  have pairs : url.pairs = base.pairs := by rw [Url.pairs, same, Url.pairs]
  have text : url.queryText = base.queryText := by rw [Url.queryText, same, Url.queryText]
  exact ⟨none, by simp [pairs], "", by simp [text], fun _ => rfl⟩

theorem KeepsQuery.of_same {first second url : Url} (keeps : KeepsQuery first url)
    (same : first.query = second.query) : KeepsQuery second url := by
  have pairs : first.pairs = second.pairs := by rw [Url.pairs, same, Url.pairs]
  have text : first.queryText = second.queryText := by rw [Url.queryText, same, Url.queryText]
  rwa [KeepsQuery, pairs, text] at keeps

/-- The requests of a client keep the query of its base URL. -/
theorem Makes.keeps_query {project : String} {request : Request}
    (makes : client.Makes project request) : KeepsQuery client.baseUrl request.url := by
  cases makes with
  | call rpc => exact keeps_same_query (resource_query client project rpc.resource)
  | page pageToken =>
      cases pageToken with
      | none => exact keeps_same_query (resource_query client project [certificates])
      | some token =>
          obtain ⟨added, text⟩ := page_query_kept client project (some token)
          exact ⟨some token, pairs_page_url client project (some token), added, text, nofun⟩

theorem calls_keep_query (client : Client) {State : Type} (transport : Transport State)
    (rounds : Nat) (project : String) (rpc : Rpc) (state : State) :
    ∀ exchange ∈ (client.call transport.recorded rounds project rpc (state, [])).2.2,
      KeepsQuery client.baseUrl exchange.1.url := by
  have fresh : ∀ exchange ∈ ((state, []) : State × List (Request × Answer)).2,
      client.Makes project exchange.1 := fun _ member => absurd member List.not_mem_nil
  intro exchange member
  exact (call_keeps (record_kept client project transport) rounds rpc fresh exchange
    member).keeps_query

def keyedSettings : ClientSettings :=
  ⟨"http://localhost:1/compute/v1?key=a", none, "steward"⟩

def keyedBase : Url :=
  ⟨"http", some ⟨"", none, "localhost", some 1⟩, .segments ["compute", "v1"], some "key=a", none⟩

def keyedClient : Client :=
  ⟨{ keyedBase with path := .segments ["compute", "v1", ""] }, none, "steward"⟩

/-- A label that is short enough to be accepted, with a form that is too long to be read. -/
def longLabel : List Char :=
  (List.range 697).map fun index => .ofNat (0x4E00 + 30 * index)

theorem long_label_length : longLabel.length = 697 := by
  rw [longLabel, List.length_map, List.length_range]

theorem long_label_char {index : Nat} (listed : index ∈ List.range 697) :
    (Char.ofNat (0x4E00 + 30 * index)).toNat = 0x4E00 + 30 * index := by
  have small := List.mem_range.mp listed
  have valid : (0x4E00 + 30 * index).isValidChar := .inl (by omega)
  rw [Char.ofNat, dif_pos valid]
  rfl

theorem long_label_ideographs : ∀ c ∈ longLabel, IsIdeograph c := by
  intro c member
  obtain ⟨index, listed, rfl⟩ := List.mem_map.mp member
  have small := List.mem_range.mp listed
  rw [IsIdeograph, long_label_char listed]
  omega

theorem long_label_form : Domain.longestCode < (Punycode.encode longLabel).length := by
  have climbs : Punycode.Climbs 30 longLabel := by
    refine List.pairwise_map.mpr (List.pairwise_lt_range.imp_of_mem fun first second less => ?_)
    rw [long_label_char first, long_label_char second]
    omega
  have written := Punycode.long_encode climbs fun c member => by
    have least := (long_label_ideographs c member).1
    omega
  rw [long_label_length] at written
  rw [Domain.longestCode]
  omega

def longSettings : ClientSettings :=
  ⟨String.ofList ("http://".toList ++ longLabel ++ ['/']), none, "steward"⟩

def longClient : Client :=
  ⟨⟨"http", some ⟨"", none, String.ofList (Domain.mark ++ Punycode.encode longLabel), none⟩,
    .segments [""], none, none⟩, none, "steward"⟩

end Client

end CertSteward
