import CertSteward.Http.Server
import CertSteward.Proofs.Client.Addresses
import CertSteward.Proofs.Json.Records

/-!
# What an exchange comes to

Every call but a listing is one exchange, and its answer decides the result:
the status says whether it is a success or a failure, and the body what value
or what message comes with it. A failure always has something to say, and of
which kind it is depends on the status alone.
-/

namespace CertSteward

set_option autoImplicit false

open CertSteward.Http (Transport Request Answer)
open CertSteward.Json (Decoder)

variable {State α : Type}

namespace Rpc

def method : Rpc → Http.Method
  | .insert _ => .post
  | .delete _ => .delete
  | _ => .get

def body : Rpc → Option Json.Value
  | .insert certificate => some certificate.encode
  | _ => none

def decoder : (rpc : Rpc) → Decoder rpc.Result
  | .insert _ => Operation.decoder
  | .delete _ => Operation.decoder
  | .get _ => Certificate.decoder
  | .list => CertificateList.decoder
  | .operation _ => Operation.decoder

end Rpc

namespace Client

variable (client : Client) (transport : Transport State)

def requestFor (project : String) (rpc : Rpc) : Request :=
  client.request rpc.method (client.resourceUrl project rpc.resource) rpc.body

theorem call_eq_single (rounds : Nat) (project : String) {rpc : Rpc} (alone : rpc ≠ .list)
    (state : State) :
    client.call transport rounds project rpc state =
      client.single transport rpc.decoder rpc.method (client.resourceUrl project rpc.resource)
        rpc.body state := by
  cases rpc with
  | list => exact absurd rfl alone
  | insert certificate => rfl
  | delete name => rfl
  | get name => rfl
  | operation name => rfl

/-- Whether a body is an envelope with a message that says something. -/
def OwnMessage (body : List UInt8) (message : String) : Prop :=
  ∃ envelope, ErrorEnvelope.shape.decoder.ofBytes body = .ok envelope ∧
    envelope.error.message = message ∧ message ≠ ""

/-- What a failure is to say: its own message before all else, then the words for its status if
there is no body, and the body as a text otherwise. -/
inductive Says (status : Nat) (body : List UInt8) (message : String) : Prop where
  | own (told : OwnMessage body message)
  | words (untold : ∀ own, ¬ OwnMessage body own) (empty : body = [])
      (same : message = (Http.reason? status).getD "unknown error")
  | text (untold : ∀ own, ¬ OwnMessage body own) (filled : body ≠ [])
      (same : message = Text.Utf8.decodeLossy body)

theorem own_message_of_told {body : List UInt8} {envelope : ErrorEnvelope}
    (decoded : ErrorEnvelope.shape.decoder.ofBytes body = .ok envelope) (message : String) :
    OwnMessage body message ↔ envelope.error.message = message ∧ message ≠ "" := by
  constructor
  · rintro ⟨other, alike, told⟩
    rw [Except.ok.inj (decoded.symm.trans alike)]
    exact told
  · exact fun told => ⟨envelope, decoded, told⟩

theorem says_failure_message (status : Nat) (body : List UInt8) :
    Says status body (failureMessage status body) := by
  have fallback (untold : ∀ message, ¬ OwnMessage body message) :
      Says status body (if body.isEmpty then (Http.reason? status).getD "unknown error"
        else Text.Utf8.decodeLossy body) := by
    by_cases empty : body = []
    · rw [if_pos (List.isEmpty_iff.mpr empty)]
      exact .words untold empty rfl
    · rw [if_neg (fun blank => empty (List.isEmpty_iff.mp blank))]
      exact .text untold empty rfl
  unfold failureMessage
  cases decoded : ErrorEnvelope.shape.decoder.ofBytes body with
  | error cause =>
      apply fallback
      rintro message ⟨envelope, alike, -⟩
      rw [decoded] at alike
      contradiction
  | ok envelope =>
      dsimp only
      by_cases silent : envelope.error.message = ""
      · rw [silent]
        apply fallback
        intro message told
        rw [own_message_of_told decoded, silent] at told
        exact told.2 told.1.symm
      · have filled : envelope.error.message.isEmpty = false := by
          rw [← Bool.not_eq_true, String.isEmpty_iff]
          exact silent
        rw [filled]
        exact .own ((own_message_of_told decoded _).mpr ⟨rfl, silent⟩)

/-- What a failure says is settled by its status and its body. -/
theorem Says.unique {status : Nat} {body : List UInt8} {message other : String}
    (told : Says status body message) (also : Says status body other) : message = other := by
  cases told with
  | own own =>
      cases also with
      | own alike =>
          obtain ⟨envelope, decoded, same, -⟩ := own
          exact same.symm.trans ((own_message_of_told decoded other).mp alike).1
      | words untold => exact absurd own (untold message)
      | text untold => exact absurd own (untold message)
  | words untold empty same =>
      cases also with
      | own alike => exact absurd alike (untold other)
      | words _ _ alike => exact same.trans alike.symm
      | text _ filled => exact absurd empty filled
  | text untold filled same =>
      cases also with
      | own alike => exact absurd alike (untold other)
      | words _ empty => exact absurd empty filled
      | text _ _ alike => exact same.trans alike.symm

theorem reason_ne_empty (status : Nat) : (Http.reason? status).getD "unknown error" ≠ "" := by
  have worded (table : List (Nat × String)) (each : ∀ entry ∈ table, entry.2 ≠ "") :
      (table.lookup status).getD "unknown error" ≠ "" := by
    induction table with
    | nil =>
        have words : "unknown error" ≠ "" := by decide
        exact words
    | cons entry rest ih =>
        obtain ⟨first, others⟩ := List.forall_mem_cons.mp each
        rw [List.lookup_cons]
        split
        · exact first
        · exact ih others
  exact worded _ (by decide)

/-- No failure is without words. -/
theorem says_ne_empty {status : Nat} {body : List UInt8} {message : String}
    (told : Says status body message) : message ≠ "" := by
  cases told with
  | own own =>
      obtain ⟨-, -, -, filled⟩ := own
      exact filled
  | words _ _ same => exact same ▸ reason_ne_empty status
  | text _ filled same => exact same ▸ Text.Utf8.decode_lossy_ne_empty filled

def envelope (details : List (String × Json.Value)) (message : String) : Json.Value :=
  .object [("error", .object (details ++ [("message", .text message)]))]

theorem error_body_of_details {details : List (String × Json.Value)}
    (others : ∀ detail ∈ details, detail.1 ≠ "message") (message : String) :
    ErrorBody.shape.decoder .text
      (.object (Json.memberOutlines details ++ [(some "message", .text message)]) .closed) =
        .ok ⟨message⟩ := by
  have foreign : ∀ entry ∈ Json.memberOutlines details, ErrorBody.shape.Foreign entry := by
    intro entry member
    rw [Json.member_outlines_eq_map] at member
    obtain ⟨detail, listed, rfl⟩ := List.mem_map.mp member
    refine Json.Shape.foreign_of_value ?_ (Json.outline_value detail.2)
    simp [Json.Shape.field?, ErrorBody.shape, Json.Field.defaulted, (others detail listed).symm]
  have own : ErrorBody.shape.Reads .text [(some "message", .text message)] ⟨message⟩ := by
    refine ⟨(Json.Shape.enters_field_iff rfl).mpr rfl, List.nodup_singleton _, ?_⟩
    intro field member _
    rw [List.mem_singleton.mp member]
    exact List.mem_singleton_self _
  have behind := own.append_foreign foreign
  have independent : ErrorBody.shape.Independent := by
    apply Json.Shape.independent_of_pairwise
    exact List.pairwise_singleton _ _
  exact (Json.Shape.decoder_object_eq_ok_iff _ _ _).mpr
    ⟨rfl, behind.perm independent List.perm_append_comm⟩

theorem own_message_of_envelope {details : List (String × Json.Value)} {message : String}
    (filled : message ≠ "") (others : ∀ detail ∈ details, detail.1 ≠ "message")
    (integral : ∀ detail ∈ details, detail.2.Integral) :
    OwnMessage (Text.Utf8.encode (envelope details message).toText) message := by
  have whole : (envelope details message).Integral := by
    refine ⟨(Json.integral_members_iff _).mpr ?_, trivial⟩
    intro member listed
    obtain listed | listed := List.mem_append.mp listed
    · exact integral member listed
    · rw [List.mem_singleton.mp listed]
      trivial
  have outlines : Json.memberOutlines (details ++ [("message", .text message)]) =
      Json.memberOutlines details ++ [(some "message", .text message)] := by
    simp only [Json.member_outlines_eq_map, List.map_append]
    rfl
  have inner := error_body_of_details others message
  rw [← outlines] at inner
  have decoded : ErrorEnvelope.shape.decoder .text (envelope details message).outline =
      .ok ⟨⟨message⟩⟩ := by
    apply (Json.Shape.decoder_object_eq_ok_iff _ _ _).mpr
    refine ⟨rfl, (Json.Shape.enters_field_iff rfl).mpr ?_, List.nodup_singleton _, ?_⟩
    · exact congrArg (Except.map _) inner
    · intro field member _
      rw [List.mem_singleton.mp member]
      exact List.mem_singleton_self _
  have read := Json.read_bytes (envelope details message) whole
  refine ⟨⟨⟨message⟩⟩, Decoder.of_bytes_of_document ?_ (by rw [read]), rfl, filled⟩
  rw [read]
  exact decoded

inductive Means (decoder : Decoder α) : Answer → Except ApiError α → Prop where
  | value {status : Nat} {body : List UInt8} {value : α}
      (success : 200 ≤ status ∧ status ≤ 299) (decoded : decoder.ofBytes body = .ok value) :
      Means decoder (.complete status body) (.ok value)
  | unreadable {status : Nat} {body : List UInt8} {cause : Json.DecodeError}
      (success : 200 ≤ status ∧ status ≤ 299) (refused : decoder.ofBytes body = .error cause) :
      Means decoder (.complete status body) (.error (.decode cause))
  | failure {status : Nat} {body : List UInt8} {message : String}
      (failed : ¬ (200 ≤ status ∧ status ≤ 299)) (told : Says status body message) :
      Means decoder (.complete status body) (.error (.http status message))
  | broken : Means decoder .broken (.error (.request .broken))
  | timedOut : Means decoder .timedOut (.error (.request .timedOut))

theorem is_success_iff (status : Nat) :
    Http.isSuccess status = true ↔ 200 ≤ status ∧ status ≤ 299 := by
  rw [Http.isSuccess, Bool.and_eq_true, decide_eq_true_eq, decide_eq_true_eq]

theorem means_interpret (decoder : Decoder α) (answer : Answer) :
    Means decoder answer (interpret decoder answer) := by
  cases answer with
  | broken => exact .broken
  | timedOut => exact .timedOut
  | complete status body =>
      unfold interpret
      dsimp only
      by_cases success : 200 ≤ status ∧ status ≤ 299
      · rw [if_pos ((is_success_iff status).mpr success)]
        cases decoded : decoder.ofBytes body with
        | ok value => exact .value success decoded
        | error cause => exact .unreadable success decoded
      · rw [if_neg (fun whole => success ((is_success_iff status).mp whole))]
        exact .failure success (says_failure_message status body)

/-- An answer comes to one result. -/
theorem Means.unique {decoder : Decoder α} {answer : Answer} {result other : Except ApiError α}
    (means : Means decoder answer result) (also : Means decoder answer other) :
    result = other := by
  cases means with
  | value success decoded =>
      cases also with
      | value _ alike => rw [Except.ok.inj (decoded.symm.trans alike)]
      | unreadable _ refused => exact absurd (decoded.symm.trans refused) (by simp)
      | failure failed => exact absurd success failed
  | unreadable success refused =>
      cases also with
      | value _ decoded => exact absurd (decoded.symm.trans refused) (by simp)
      | unreadable _ alike => rw [Except.error.inj (refused.symm.trans alike)]
      | failure failed => exact absurd success failed
  | failure failed told =>
      cases also with
      | value success => exact absurd success failed
      | unreadable success => exact absurd success failed
      | failure _ alike => rw [told.unique alike]
  | broken => cases also; rfl
  | timedOut => cases also; rfl

theorem means_iff (decoder : Decoder α) (answer : Answer) (result : Except ApiError α) :
    Means decoder answer result ↔ interpret decoder answer = result := by
  constructor
  · exact (means_interpret decoder answer).unique
  · rintro rfl
    exact means_interpret decoder answer

theorem means_ok_iff (decoder : Decoder α) (answer : Answer) (value : α) :
    Means decoder answer (.ok value) ↔ answer.Grants decoder value :=
  (means_iff decoder answer _).trans (interpret_eq_ok_iff decoder answer value)

end Client

def Http.Answer.status? : Answer → Option Nat
  | .complete status _ => some status
  | .broken => none
  | .timedOut => none

/-- The kinds of an error by the status of the answer behind it. -/
structure ApiError.Follows (error : ApiError) (status : Option Nat) : Prop where
  notFound : error.isNotFound = true ↔ status = some 404
  unauthorized : error.isUnauthorized = true ↔ status = some 401 ∨ status = some 403
  rateLimited : error.isRateLimited = true ↔ status = some 429
  serverError : error.isServerError = true ↔ ∃ code, status = some code ∧ 500 ≤ code ∧ code ≤ 599

namespace ApiError

theorem http_follows (status : Nat) (message : String) :
    (ApiError.http status message).Follows (some status) := by
  constructor <;> simp [isNotFound, isUnauthorized, isRateLimited, isServerError]

/-- An error without a failure's status is of no kind. -/
theorem follows_of_not_http {error : ApiError} {status : Option Nat}
    (other : ∀ code message, error ≠ .http code message)
    (benign : ∀ code, status = some code → 200 ≤ code ∧ code ≤ 299) : error.Follows status := by
  have kinds : error.isNotFound = false ∧ error.isUnauthorized = false ∧
      error.isRateLimited = false ∧ error.isServerError = false := by
    cases error with
    | http code message => exact absurd rfl (other code message)
    | request fault => exact ⟨rfl, rfl, rfl, rfl⟩
    | decode cause => exact ⟨rfl, rfl, rfl, rfl⟩
    | invalidUrl message => exact ⟨rfl, rfl, rfl, rfl⟩
  obtain ⟨found, authorized, unlimited, served⟩ := kinds
  constructor
  all_goals
    simp only [found, authorized, unlimited, served, Bool.false_eq_true, false_iff]
    grind

end ApiError

namespace Client

variable (client : Client) (transport : Transport State)

theorem follows_of_means {decoder : Decoder α} {answer : Answer} {error : ApiError}
    (means : Means decoder answer (.error error)) : error.Follows answer.status? := by
  cases means with
  | unreadable success refused =>
      apply ApiError.follows_of_not_http (by simp)
      intro code same
      rw [← Option.some.inj same]
      exact success
  | failure failed told => exact ApiError.http_follows _ _
  | broken => exact ApiError.follows_of_not_http (by simp) (by simp [Http.Answer.status?])
  | timedOut => exact ApiError.follows_of_not_http (by simp) (by simp [Http.Answer.status?])

/-- An empty body is not the value of any call. -/
theorem decoder_refuses_nothing (rpc : Rpc) : rpc.decoder.ofBytes [] = .error .truncated := by
  cases rpc <;> rfl

theorem not_empty_of_means {decoder : Decoder α} {answer : Answer} {status : Nat}
    {message : String} (means : Means decoder answer (.error (.http status message))) :
    message ≠ "" := by
  cases means with
  | failure failed told => exact says_ne_empty told

theorem means_of_envelope (decoder : Decoder α) {status : Nat}
    (failed : ¬ (200 ≤ status ∧ status ≤ 299)) {details : List (String × Json.Value)}
    {message : String} (filled : message ≠ "") (others : ∀ detail ∈ details, detail.1 ≠ "message")
    (integral : ∀ detail ∈ details, detail.2.Integral) :
    Means decoder (.complete status (Text.Utf8.encode (envelope details message).toText))
      (.error (.http status message)) :=
  .failure failed (.own (own_message_of_envelope filled others integral))

theorem call_of_sendable (rounds : Nat) (project : String) {rpc : Rpc} (alone : rpc ≠ .list)
    (sendable : isSendable (client.requestFor project rpc) = true) (state : State) :
    client.call transport rounds project rpc state =
      (⟨some (interpret rpc.decoder
            (transport.exchange (client.requestFor project rpc) state).1), 0,
          requestEntry (client.requestFor project rpc) ::
            answerEntries (transport.exchange (client.requestFor project rpc) state).1⟩,
        (transport.exchange (client.requestFor project rpc) state).2) := by
  have sent : send transport rpc.decoder (client.requestFor project rpc) state = _ :=
    if_pos sendable
  rw [call_eq_single client transport rounds project alone]
  unfold single
  unfold requestFor at sent ⊢
  rw [sent]

theorem call_of_not_sendable (rounds : Nat) (project : String) {rpc : Rpc} (alone : rpc ≠ .list)
    (stuck : isSendable (client.requestFor project rpc) = false) (state : State) :
    client.call transport rounds project rpc state =
      (⟨some (.error (.request .rejected)), 0, [requestEntry (client.requestFor project rpc)]⟩,
        state) := by
  have sent : send transport rpc.decoder (client.requestFor project rpc) state = _ :=
    if_neg (by simp [stuck])
  rw [call_eq_single client transport rounds project alone]
  unfold single
  unfold requestFor at sent ⊢
  rw [sent]

/-- A call hands over one request, once. Its answer decides the result, and an error is of the
kinds that the status of the answer says, whatever the body tells. -/
theorem one_exchange_decides (rounds : Nat) (project : String) {rpc : Rpc} (alone : rpc ≠ .list)
    (state : State) :
    let request := client.requestFor project rpc
    let answer := (transport.exchange request state).1
    let reply := (client.call transport rounds project rpc state).1
    let kept := client.call transport.recorded rounds project rpc (state, [])
    (kept.1 = reply ∧ kept.2.1 = (client.call transport rounds project rpc state).2) ∧
      (isSendable request = false → kept.2 = (state, []) ∧
        reply = ⟨some (.error (.request .rejected)), 0, [requestEntry request]⟩ ∧
        (ApiError.request .rejected).Follows none) ∧
      (isSendable request = true →
        kept.2 = ((transport.exchange request state).2, [(request, answer)]) ∧
        ∃ result, reply = ⟨some result, 0, requestEntry request :: answerEntries answer⟩ ∧
          Means rpc.decoder answer result ∧
          (∀ status, 200 ≤ status ∧ status ≤ 299 → answer = .complete status [] →
            result = .error (.decode .truncated)) ∧
          (∀ status message, result = .error (.http status message) → message ≠ "") ∧
          (∀ error, result = .error error → error.Follows answer.status?) ∧
          (∀ status details message, ¬ (200 ≤ status ∧ status ≤ 299) → message ≠ "" →
            (∀ detail ∈ details, detail.1 ≠ "message") →
            (∀ detail ∈ details, detail.2.Integral) →
            answer = .complete status (Text.Utf8.encode (envelope details message).toText) →
            result = .error (.http status message))) := by
  intro request answer reply kept
  by_cases sendable : isSendable request = true
  · have called : client.call transport rounds project rpc state = _ :=
      call_of_sendable client transport rounds project alone sendable state
    have recorded : kept = _ :=
      call_of_sendable client transport.recorded rounds project alone sendable (state, [])
    have means := means_interpret rpc.decoder answer
    refine ⟨?_, fun stuck => absurd (stuck.symm.trans sendable) Bool.false_ne_true, fun _ => ?_⟩
    · rw [recorded, called]
      exact ⟨congrArg Prod.fst called.symm, rfl⟩
    · refine ⟨congrArg Prod.snd recorded, _, congrArg Prod.fst called, means, ?_, ?_, ?_, ?_⟩
      · intro status success empty
        apply means.unique
        rw [empty]
        exact .unreadable success (decoder_refuses_nothing rpc)
      · intro status message failed
        rw [failed] at means
        exact not_empty_of_means means
      · intro error failed
        rw [failed] at means
        exact follows_of_means means
      · intro status details message failed filled others integral enveloped
        apply means.unique
        rw [enveloped]
        exact means_of_envelope rpc.decoder failed filled others integral
  · have stuck := Bool.not_eq_true _ ▸ sendable
    have called : client.call transport rounds project rpc state = _ :=
      call_of_not_sendable client transport rounds project alone stuck state
    have recorded : kept = _ :=
      call_of_not_sendable client transport.recorded rounds project alone stuck (state, [])
    refine ⟨?_, fun _ => ?_, fun sent => absurd sent sendable⟩
    · rw [recorded, called]
      exact ⟨congrArg Prod.fst called.symm, rfl⟩
    · refine ⟨congrArg Prod.snd recorded, congrArg Prod.fst called, ?_⟩
      exact ApiError.follows_of_not_http (by simp) (by simp)

def misleadingDetails : List (String × Json.Value) :=
  [("code", .number (.int 500)), ("status", .text "INTERNAL")]

def misleadingServer : Http.Server :=
  ⟨[.complete 404 (Text.Utf8.encode (envelope misleadingDetails "gone").toText)], []⟩

theorem status_outweighs_body :
    Rpc.get "c" ≠ .list ∧ isSendable (localClient.requestFor "p" (.get "c")) = true ∧
      (localClient.call Http.Server.transport 1 "p" (.get "c") misleadingServer).1.result =
        some (.error (.http 404 "gone")) := by
  have alone : Rpc.get "c" ≠ .list := by decide
  have sendable : isSendable (localClient.requestFor "p" (.get "c")) = true := by decide
  have integral : ∀ detail ∈ misleadingDetails, detail.2.Integral := by
    have code : Json.Value.Integral (.number (.int 500)) := ⟨by decide, by decide⟩
    simpa [misleadingDetails] using ⟨code, trivial⟩
  obtain ⟨-, -, decided⟩ :=
    one_exchange_decides localClient Http.Server.transport 1 "p" alone misleadingServer
  obtain ⟨-, result, reply, -, -, -, -, enveloped⟩ := decided sendable
  refine ⟨alone, sendable, ?_⟩
  rw [reply, enveloped 404 misleadingDetails "gone" (by decide) (by decide) (by decide) integral
    rfl]

end Client

end CertSteward
