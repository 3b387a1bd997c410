import CertSteward.Proofs.Json.Records
import CertSteward.Proofs.Timestamp.RoundTrip
import CertSteward.Proofs.Wire.Tolerance

/-!
# Decoding undoes encoding

Every certificate, every list of them and every operation is read back from
its own text, with all its absent, empty and present parts, and so it is from
a text that lists the same members in another order.
-/

namespace CertSteward

set_option autoImplicit false

open CertSteward.Json

theorem Timestamp.undoes : Undoes Timestamp.decoder Timestamp.encode where
  decoded := by
    intro source stamp
    have outline : (Timestamp.encode stamp).outline = .text stamp.toText := rfl
    rw [outline, Timestamp.decoder, of_text_to_text]
  integral := fun _ => trivial

theorem CertificateType.undoes : Undoes CertificateType.decoder CertificateType.encode where
  decoded := by
    intro source type
    refine (CertificateType.decoder_text source type.tag).trans ?_
    cases type <;> rfl
  integral := fun _ => trivial

theorem word_undoes : Undoes decodeWord encodeWord where
  decoded := by
    intro source word
    have low := word.le_toInt
    have high := word.toInt_lt
    have outline : (encodeWord word).outline = .number (.int word.toInt) := rfl
    rw [outline, decodeWord, Decoder.integer, if_pos ⟨low, by omega⟩]
    exact congrArg Except.ok (Int32.ofInt_toInt word)
  integral := by
    intro word
    have low := word.le_toInt
    have high := word.toInt_lt
    have least : -(Int.pow 2 63) ≤ -2 ^ 31 := by decide
    have greatest : 2 ^ 31 ≤ Int.pow 2 64 := by decide
    exact ⟨Int.le_trans least low, Int.lt_of_lt_of_le high greatest⟩

theorem ManagedCertificate.undoes : Undoes shape.decoder encode := by
  refine Shape.undoes_of_writes (show ["domains", "status", "domainStatus"].Nodup by decide) ?_
  rintro ⟨domains, status, domainStatus⟩
  have first : shape.Writes ["domains"] [("domains", .texts domains)] blank
      ⟨domains, none, Mapping.empty⟩ :=
    Shape.writes_defaulted rfl undoes_text.sequence rfl
  have second : shape.Writes ["status"] (optionalMember "status" .text status)
      ⟨domains, none, Mapping.empty⟩ ⟨domains, status, Mapping.empty⟩ :=
    Shape.writes_optional rfl undoes_text (fun _ => nofun) rfl rfl
  have third : shape.Writes ["domainStatus"]
      (if domainStatus.isEmpty then [] else [("domainStatus",
        .object (domainStatus.entries.map fun entry => (entry.1, .text entry.2)))])
      ⟨domains, status, Mapping.empty⟩ ⟨domains, status, domainStatus⟩ := by
    split
    · rename_i empty
      have none : domainStatus = Mapping.empty :=
        Mapping.ext_entries (List.isEmpty_iff.mp empty)
      exact Shape.writes_nothing (by rw [none])
    · exact Shape.writes_defaulted rfl undoes_text.mapping rfl
  have optional : ∀ field ∈ shape.fields, field.required ≠ true := by decide
  exact ⟨_, rfl, (first.append second).append third,
    fun field member required => absurd required (optional field member)⟩

theorem Certificate.undoes : Undoes decoder encode := by
  refine Shape.undoes_of_writes (show ["name", "type", "managed", "id", "description", "selfLink",
    "creationTimestamp", "expireTime", "subjectAlternativeNames"].Nodup by decide) ?_
  rintro ⟨name, type, managed, id, description, link, created, expires, names⟩
  have first : shape.Writes ["name"] [("name", .text name)] blank
      ⟨name, .unspecified, none, none, none, none, none, none, []⟩ :=
    Shape.writes_needed rfl undoes_text rfl
  have second : shape.Writes ["type"] [("type", type.encode)]
      ⟨name, .unspecified, none, none, none, none, none, none, []⟩
      ⟨name, type, none, none, none, none, none, none, []⟩ :=
    Shape.writes_defaulted rfl CertificateType.undoes rfl
  have third : shape.Writes ["managed"] (optionalMember "managed" ManagedCertificate.encode managed)
      ⟨name, type, none, none, none, none, none, none, []⟩
      ⟨name, type, managed, none, none, none, none, none, []⟩ :=
    Shape.writes_optional rfl ManagedCertificate.undoes (fun _ => nofun) rfl rfl
  have fourth : shape.Writes ["id"] (optionalMember "id" .text id)
      ⟨name, type, managed, none, none, none, none, none, []⟩
      ⟨name, type, managed, id, none, none, none, none, []⟩ :=
    Shape.writes_optional rfl undoes_text (fun _ => nofun) rfl rfl
  have fifth : shape.Writes ["description"] (optionalMember "description" .text description)
      ⟨name, type, managed, id, none, none, none, none, []⟩
      ⟨name, type, managed, id, description, none, none, none, []⟩ :=
    Shape.writes_optional rfl undoes_text (fun _ => nofun) rfl rfl
  have sixth : shape.Writes ["selfLink"] (optionalMember "selfLink" .text link)
      ⟨name, type, managed, id, description, none, none, none, []⟩
      ⟨name, type, managed, id, description, link, none, none, []⟩ :=
    Shape.writes_optional rfl undoes_text (fun _ => nofun) rfl rfl
  have seventh : shape.Writes ["creationTimestamp"]
      (optionalMember "creationTimestamp" Timestamp.encode created)
      ⟨name, type, managed, id, description, link, none, none, []⟩
      ⟨name, type, managed, id, description, link, created, none, []⟩ :=
    Shape.writes_optional rfl Timestamp.undoes (fun _ => nofun) rfl rfl
  have eighth : shape.Writes ["expireTime"] (optionalMember "expireTime" Timestamp.encode expires)
      ⟨name, type, managed, id, description, link, created, none, []⟩
      ⟨name, type, managed, id, description, link, created, expires, []⟩ :=
    Shape.writes_optional rfl Timestamp.undoes (fun _ => nofun) rfl rfl
  have ninth : shape.Writes ["subjectAlternativeNames"]
      (listMember "subjectAlternativeNames" .text names)
      ⟨name, type, managed, id, description, link, created, expires, []⟩
      ⟨name, type, managed, id, description, link, created, expires, names⟩ :=
    Shape.writes_list rfl undoes_text rfl rfl
  have required : ∀ field ∈ shape.fields, field.required = true → field.name = "name" := by decide
  refine ⟨_, rfl, ((((((((first.append second).append third).append fourth).append fifth).append
    sixth).append seventh).append eighth).append ninth), ?_⟩
  intro field member needed
  rw [required field member needed]
  simp

theorem CertificateList.undoes : Undoes decoder encode := by
  refine Shape.undoes_of_writes (show ["items", "nextPageToken"].Nodup by decide) ?_
  rintro ⟨items, next⟩
  have first : shape.Writes ["items"] [("items", .array (items.map Certificate.encode))] blank
      ⟨items, none⟩ :=
    Shape.writes_defaulted rfl Certificate.undoes.sequence rfl
  have second : shape.Writes ["nextPageToken"] (optionalMember "nextPageToken" .text next)
      ⟨items, none⟩ ⟨items, next⟩ :=
    Shape.writes_optional rfl undoes_text (fun _ => nofun) rfl rfl
  have optional : ∀ field ∈ shape.fields, field.required ≠ true := by decide
  exact ⟨_, rfl, first.append second,
    fun field member required => absurd required (optional field member)⟩

theorem OperationErrorEntry.undoes : Undoes shape.decoder encode := by
  refine Shape.undoes_of_writes (show ["code", "message", "location"].Nodup by decide) ?_
  rintro ⟨code, message, location⟩
  have first : shape.Writes ["code"] [("code", .text code)] shape.blank ⟨code, "", none⟩ :=
    Shape.writes_defaulted rfl undoes_text rfl
  have second : shape.Writes ["message"] [("message", .text message)] ⟨code, "", none⟩
      ⟨code, message, none⟩ :=
    Shape.writes_defaulted rfl undoes_text rfl
  have third : shape.Writes ["location"] (optionalMember "location" .text location)
      ⟨code, message, none⟩ ⟨code, message, location⟩ :=
    Shape.writes_optional rfl undoes_text (fun _ => nofun) rfl rfl
  have optional : ∀ field ∈ shape.fields, field.required ≠ true := by decide
  exact ⟨_, rfl, (first.append second).append third,
    fun field member required => absurd required (optional field member)⟩

theorem OperationErrorDetail.undoes : Undoes shape.decoder encode := by
  refine Shape.undoes_of_writes (show ["errors"].Nodup by decide) ?_
  rintro ⟨errors⟩
  have first : shape.Writes ["errors"] [("errors", .array (errors.map OperationErrorEntry.encode))]
      shape.blank ⟨errors⟩ :=
    Shape.writes_defaulted rfl OperationErrorEntry.undoes.sequence rfl
  have optional : ∀ field ∈ shape.fields, field.required ≠ true := by decide
  exact ⟨_, rfl, first, fun field member required => absurd required (optional field member)⟩

theorem Operation.undoes : Undoes decoder encode := by
  refine Shape.undoes_of_writes (show ["name", "status", "id", "operationType", "targetLink",
    "progress", "error", "httpErrorStatusCode", "httpErrorMessage"].Nodup by decide) ?_
  rintro ⟨name, status, id, type, target, progress, error, code, message⟩
  have first : shape.Writes ["name"] [("name", .text name)] blank
      ⟨name, "", none, none, none, none, none, none, none⟩ :=
    Shape.writes_needed rfl undoes_text rfl
  have second : shape.Writes ["status"] [("status", .text status)]
      ⟨name, "", none, none, none, none, none, none, none⟩
      ⟨name, status, none, none, none, none, none, none, none⟩ :=
    Shape.writes_defaulted rfl undoes_text rfl
  have third : shape.Writes ["id"] (optionalMember "id" .text id)
      ⟨name, status, none, none, none, none, none, none, none⟩
      ⟨name, status, id, none, none, none, none, none, none⟩ :=
    Shape.writes_optional rfl undoes_text (fun _ => nofun) rfl rfl
  have fourth : shape.Writes ["operationType"] (optionalMember "operationType" .text type)
      ⟨name, status, id, none, none, none, none, none, none⟩
      ⟨name, status, id, type, none, none, none, none, none⟩ :=
    Shape.writes_optional rfl undoes_text (fun _ => nofun) rfl rfl
  have fifth : shape.Writes ["targetLink"] (optionalMember "targetLink" .text target)
      ⟨name, status, id, type, none, none, none, none, none⟩
      ⟨name, status, id, type, target, none, none, none, none⟩ :=
    Shape.writes_optional rfl undoes_text (fun _ => nofun) rfl rfl
  have sixth : shape.Writes ["progress"] (optionalMember "progress" encodeWord progress)
      ⟨name, status, id, type, target, none, none, none, none⟩
      ⟨name, status, id, type, target, progress, none, none, none⟩ :=
    Shape.writes_optional rfl word_undoes (fun _ => nofun) rfl rfl
  have seventh : shape.Writes ["error"] (optionalMember "error" OperationErrorDetail.encode error)
      ⟨name, status, id, type, target, progress, none, none, none⟩
      ⟨name, status, id, type, target, progress, error, none, none⟩ :=
    Shape.writes_optional rfl OperationErrorDetail.undoes (fun _ => nofun) rfl rfl
  have eighth : shape.Writes ["httpErrorStatusCode"]
      (optionalMember "httpErrorStatusCode" encodeWord code)
      ⟨name, status, id, type, target, progress, error, none, none⟩
      ⟨name, status, id, type, target, progress, error, code, none⟩ :=
    Shape.writes_optional rfl word_undoes (fun _ => nofun) rfl rfl
  have ninth : shape.Writes ["httpErrorMessage"] (optionalMember "httpErrorMessage" .text message)
      ⟨name, status, id, type, target, progress, error, code, none⟩
      ⟨name, status, id, type, target, progress, error, code, message⟩ :=
    Shape.writes_optional rfl undoes_text (fun _ => nofun) rfl rfl
  have required : ∀ field ∈ shape.fields, field.required = true → field.name = "name" := by decide
  refine ⟨_, rfl, ((((((((first.append second).append third).append fourth).append fifth).append
    sixth).append seventh).append eighth).append ninth), ?_⟩
  intro field member needed
  rw [required field member needed]
  simp

/-- What an encoder writes is read as the value: its own text, any text of the same members in
another order, and so the text of whatever a text was read as. -/
structure RoundTrips {α : Type} (encode : α → Value) (decoder : Decoder α)
    (grows : Document → Document → Prop) : Prop where
  undone : ∀ value, decoder.ofText (encode value).toText = .ok value
  relisted : ∀ {value : α} {written : Value}, written.Integral →
    grows (encode value).outline written.outline → decoder.ofText written.toText = .ok value
  settled : ∀ {bytes : List UInt8} {value : α}, decoder.ofBytes bytes = .ok value →
    decoder.ofBytes (Text.Utf8.encode (encode value).toText) = .ok value

theorem of_text_of_outline {α : Type} {decoder : Decoder α} {written : Value}
    (integral : written.Integral) {value : α}
    (decoded : decoder .text written.outline = .ok value) :
    decoder.ofText written.toText = .ok value := by
  rw [Decoder.ofText, Decoder.ofCells, read_to_text integral]
  dsimp only
  rw [decoded]
  rfl

theorem round_trips {α : Type} {encode : α → Value} {decoder : Decoder α}
    {grows : Document → Document → Prop} (undoes : Undoes decoder encode)
    (sees : decoder.Sees grows) : RoundTrips encode decoder grows where
  undone := fun value =>
    of_text_of_outline (undoes.integral value) (undoes.decoded .text value)
  relisted := fun integral related =>
    of_text_of_outline integral (sees related (undoes.decoded .text _))
  settled := by
    intro bytes value _
    have read := read_bytes (encode value) (undoes.integral value)
    apply Decoder.of_bytes_of_document
    · rw [read]
      exact undoes.decoded .text value
    · rw [read]

/-- Certificates, lists of them and operations come back from their own texts. -/
theorem decoding_undoes_encoding :
    RoundTrips Certificate.encode Certificate.decoder Certificate.Grows ∧
      RoundTrips CertificateList.encode CertificateList.decoder CertificateList.Grows ∧
      RoundTrips Operation.encode Operation.decoder Operation.Grows :=
  ⟨round_trips Certificate.undoes Certificate.tolerates.sees,
    round_trips CertificateList.undoes CertificateList.tolerates.sees,
    round_trips Operation.undoes Operation.tolerates.sees⟩

def watchedCertificate : Certificate :=
  { Certificate.blank with
    name := "c"
    managed := some ⟨[], none, Mapping.ofList [("a", "ACTIVE"), ("b", "PROVISIONING")]⟩ }

def watchedText : Value :=
  .object [("managed", .object [("domainStatus",
      .object [("b", .text "PROVISIONING"), ("a", .text "ACTIVE")]), ("domains", .array [])]),
    ("type", .text "TYPE_UNSPECIFIED"), ("name", .text "c")]

theorem turned_text_is_read :
    Certificate.decoder.ofText watchedText.toText = .ok watchedCertificate ∧
      Certificate.decoder.ofBytes (Text.Utf8.encode watchedCertificate.encode.toText) =
        .ok watchedCertificate := by
  obtain ⟨certificates, _, _⟩ := decoding_undoes_encoding
  have states : Relisted
      (.object [(some "a", .text "ACTIVE"), (some "b", .text "PROVISIONING")] .closed)
      (.object [(some "b", .text "PROVISIONING"), (some "a", .text "ACTIVE")] .closed) :=
    .object (by decide) (List.Perm.swap _ _ _)
  have part : ManagedCertificate.Grows
      (.object [(some "domains", .array [] .closed), (some "domainStatus",
        .object [(some "a", .text "ACTIVE"), (some "b", .text "PROVISIONING")] .closed)] .closed)
      (.object [(some "domainStatus",
          .object [(some "b", .text "PROVISIONING"), (some "a", .text "ACTIVE")] .closed),
        (some "domains", .array [] .closed)] .closed) :=
    @Shape.Grows.object _ _ _ _ _ [] _ _ (.cons (.same _) (.cons (.inside rfl ⟨rfl, states⟩) .nil))
      (fun _ absent => absurd absent List.not_mem_nil) (List.Perm.swap _ _ _)
  have turned : Certificate.Grows watchedCertificate.encode.outline watchedText.outline :=
    @Shape.Grows.object _ _ _ _ _ [] _ _ (.cons (.same _) (.cons (.same _)
      (.cons (.inside rfl ⟨rfl, part⟩) .nil))) (fun _ absent => absurd absent List.not_mem_nil)
      (List.reverse_perm _).symm
  have read := certificates.relisted (by simp [watchedText, Value.Integral, IntegralMembers,
    IntegralItems]) turned
  refine ⟨read, @certificates.settled (Text.Utf8.encode watchedText.toText) _ ?_⟩
  unfold Decoder.ofBytes
  rw [Text.Utf8.encode, Text.Utf8.read_encode_chars]
  exact read

end CertSteward
