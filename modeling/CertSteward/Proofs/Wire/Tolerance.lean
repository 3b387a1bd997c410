import CertSteward.Certificate.Json
import CertSteward.Operation.Json
import CertSteward.Proofs.Json.Growth
import CertSteward.Proofs.Json.Written

/-!
# What the service may add

The service may list the members of its resources in any order and add
members of its own, in a resource and in the records inside it, and nothing
of this is seen. A field that it gives twice is refused. Any type tag is read.
-/

namespace CertSteward

set_option autoImplicit false

open CertSteward.Json

/-- How the documents of a record may grow unseen, and which of them are refused for a repeated
field, held in memory or read from a text. -/
structure Tolerates {α : Type} (decoder : Decoder α) (grows : Document → Document → Prop)
    (repeats : Document → Prop) : Prop where
  sees : decoder.Sees grows
  refuses : decoder.Refuses repeats
  text : ∀ {old new : List UInt8} {value : α},
    grows (read (Text.Utf8.read old)).1 (read (Text.Utf8.read new)).1 →
      (read (Text.Utf8.read new)).2 = false → decoder.ofBytes old = .ok value →
        decoder.ofBytes new = .ok value
  refusesText : ∀ {bytes : List UInt8}, repeats (read (Text.Utf8.read bytes)).1 → ∀ value,
    decoder.ofBytes bytes ≠ .ok value

theorem tolerates_of_documents {α : Type} {decoder : Decoder α}
    {grows : Document → Document → Prop} {repeats : Document → Prop} (sees : decoder.Sees grows)
    (refuses : decoder.Refuses repeats) : Tolerates decoder grows repeats where
  sees := sees
  refuses := refuses
  text := sees.of_bytes
  refusesText := refuses.of_bytes

/-- The members of a resource can be entered in any order. -/
theorem shapes_independent :
    ManagedCertificate.shape.Independent ∧ Certificate.shape.Independent ∧
      CertificateList.shape.Independent ∧ OperationErrorEntry.shape.Independent ∧
      OperationErrorDetail.shape.Independent ∧ Operation.shape.Independent := by
  and_intros
  all_goals
    apply Shape.independent_of_pairwise
    simp only [ManagedCertificate.shape, Certificate.shape, CertificateList.shape,
      OperationErrorEntry.shape, OperationErrorDetail.shape, Operation.shape, List.pairwise_cons,
      List.forall_mem_cons]
    and_intros
  all_goals first
    | exact Field.commutes_puts _ _ _ _ _ _ fun _ _ _ => rfl
    | simp

namespace ManagedCertificate

def Grows : Document → Document → Prop :=
  shape.Grows (Shape.At "domainStatus" Relisted)

def Repeats : Document → Prop :=
  shape.Repeats fun _ _ => False

theorem sees_grows : shape.decoder.Sees Grows := by
  apply Shape.sees_grows shapes_independent.1
  exact Shape.fields_see_at (by decide) rfl (Decoder.mapping_sees_relisted Decoder.text)

theorem refuses_repeats : shape.decoder.Refuses Repeats :=
  Shape.refuses_repeats fun _ _ _ _ _ _ impossible => impossible.elim

end ManagedCertificate

namespace CertificateType

theorem decoder_text (source : Source) (tag : String) :
    decoder source (.text tag) = .ok (ofTag tag) := by
  cases source <;> rfl

theorem of_tag_cases (tag : String) :
    (ofTag tag = .managed ↔ tag = "MANAGED") ∧
      (ofTag tag = .selfManaged ↔ tag = "SELF_MANAGED") ∧
      (ofTag tag = .unspecified ↔ tag ≠ "MANAGED" ∧ tag ≠ "SELF_MANAGED") := by
  by_cases managed : tag = "MANAGED"
  · subst managed
    decide
  by_cases selfManaged : tag = "SELF_MANAGED"
  · subst selfManaged
    decide
  simp [ofTag, managed, selfManaged]

end CertificateType

namespace Certificate

def Grows : Document → Document → Prop :=
  shape.Grows (Shape.At "managed" ManagedCertificate.Grows)

def Repeats : Document → Prop :=
  shape.Repeats (Shape.Within "managed" ManagedCertificate.Repeats)

theorem tolerates : Tolerates decoder Grows Repeats := by
  apply tolerates_of_documents
  · apply Shape.sees_grows shapes_independent.2.1
    apply Shape.fields_see_at (by decide) rfl
    exact ManagedCertificate.sees_grows.optional Shape.grows_null
  · apply Shape.refuses_repeats
    apply Shape.fields_refuse_within (by decide) rfl
    exact ManagedCertificate.refuses_repeats.optional Shape.not_repeats_null

/-- A type member changes nothing but the type, and whatever its text is, the type is read. -/
theorem decoder_type_eq_ok_iff {before after : List (Option String × Document)}
    (fresh : "type" ∉ (before ++ after).filterMap Prod.fst) (source : Source) (tag : String)
    (ending : Ending) (certificate : Certificate) :
    decoder source (.object (before ++ (some "type", .text tag) :: after) ending) =
        .ok certificate ↔
      ∃ rest, decoder source (.object (before ++ after) ending) = .ok rest ∧
        certificate = { rest with certificateType := .ofTag tag } := by
  have unknown : "type" ∉ shape.given (before ++ after) := by
    intro given
    obtain ⟨entry, member, named⟩ := List.mem_filterMap.mp given
    have same := (Option.filter_eq_some_iff.mp named).1
    exact fresh (List.mem_filterMap.mpr ⟨entry, member, same⟩)
  have inserted := @Shape.decoder_insert_eq_ok_iff _ shape source shapes_independent.2.1
    (by decide) "type" _ rfl rfl _ _ unknown (.text tag) ending certificate
  refine inserted.trans (exists_congr fun rest => and_congr_right fun _ => ?_)
  refine (Field.enter_defaulted_iff ..).trans ?_
  rw [CertificateType.decoder_text]
  simp

end Certificate

namespace CertificateList

def Grows : Document → Document → Prop :=
  shape.Grows (Shape.At "items" (Itemwise Certificate.Grows))

def Repeats : Document → Prop :=
  shape.Repeats (Shape.Within "items" (SomeItem Certificate.Repeats))

theorem tolerates : Tolerates decoder Grows Repeats := by
  apply tolerates_of_documents
  · apply Shape.sees_grows shapes_independent.2.2.1
    exact Shape.fields_see_at (by decide) rfl Certificate.tolerates.sees.sequence
  · apply Shape.refuses_repeats
    exact Shape.fields_refuse_within (by decide) rfl Certificate.tolerates.refuses.sequence

end CertificateList

namespace OperationErrorEntry

def Grows : Document → Document → Prop :=
  shape.Grows fun _ _ _ => False

def Repeats : Document → Prop :=
  shape.Repeats fun _ _ => False

theorem sees_grows : shape.decoder.Sees Grows := by
  apply Shape.sees_grows shapes_independent.2.2.2.1
  exact fun _ _ _ _ _ _ _ impossible => impossible.elim

theorem refuses_repeats : shape.decoder.Refuses Repeats :=
  Shape.refuses_repeats fun _ _ _ _ _ _ impossible => impossible.elim

end OperationErrorEntry

namespace OperationErrorDetail

def Grows : Document → Document → Prop :=
  shape.Grows (Shape.At "errors" (Itemwise OperationErrorEntry.Grows))

def Repeats : Document → Prop :=
  shape.Repeats (Shape.Within "errors" (SomeItem OperationErrorEntry.Repeats))

theorem sees_grows : shape.decoder.Sees Grows := by
  apply Shape.sees_grows shapes_independent.2.2.2.2.1
  exact Shape.fields_see_at (by decide) rfl OperationErrorEntry.sees_grows.sequence

theorem refuses_repeats : shape.decoder.Refuses Repeats := by
  apply Shape.refuses_repeats
  exact Shape.fields_refuse_within (by decide) rfl OperationErrorEntry.refuses_repeats.sequence

end OperationErrorDetail

namespace Operation

def Grows : Document → Document → Prop :=
  shape.Grows (Shape.At "error" OperationErrorDetail.Grows)

def Repeats : Document → Prop :=
  shape.Repeats (Shape.Within "error" OperationErrorDetail.Repeats)

theorem tolerates : Tolerates decoder Grows Repeats := by
  apply tolerates_of_documents
  · apply Shape.sees_grows shapes_independent.2.2.2.2.2
    apply Shape.fields_see_at (by decide) rfl
    exact OperationErrorDetail.sees_grows.optional Shape.grows_null
  · apply Shape.refuses_repeats
    apply Shape.fields_refuse_within (by decide) rfl
    exact OperationErrorDetail.refuses_repeats.optional Shape.not_repeats_null

end Operation

/-- Members in another order and members of the service's own leave every resource as it was, a
repeated field is refused, and every type tag is read. -/
theorem additions_are_not_seen :
    Tolerates Certificate.decoder Certificate.Grows Certificate.Repeats ∧
      Tolerates CertificateList.decoder CertificateList.Grows CertificateList.Repeats ∧
      Tolerates Operation.decoder Operation.Grows Operation.Repeats ∧
      (∀ source tag, CertificateType.decoder source (.text tag) = .ok (.ofTag tag)) ∧
      (∀ tag, (CertificateType.ofTag tag = .managed ↔ tag = "MANAGED") ∧
        (CertificateType.ofTag tag = .selfManaged ↔ tag = "SELF_MANAGED") ∧
        (CertificateType.ofTag tag = .unspecified ↔ tag ≠ "MANAGED" ∧ tag ≠ "SELF_MANAGED")) ∧
      ∀ {before after : List (Option String × Document)},
        "type" ∉ (before ++ after).filterMap Prod.fst → ∀ source tag ending certificate,
          Certificate.decoder source
              (.object (before ++ (some "type", .text tag) :: after) ending) = .ok certificate ↔
            ∃ rest, Certificate.decoder source (.object (before ++ after) ending) = .ok rest ∧
              certificate = { rest with certificateType := .ofTag tag } :=
  ⟨Certificate.tolerates, CertificateList.tolerates, Operation.tolerates,
    CertificateType.decoder_text, CertificateType.of_tag_cases,
    Certificate.decoder_type_eq_ok_iff⟩

def namedText : List (String × Value) :=
  [("name", .text "c")]

def grownText : List (String × Value) :=
  [("x", .array [.int 0]), ("name", .text "c"), ("x", .null)]

def doubledText : List (String × Value) :=
  [("name", .text "c"), ("x", .null), ("name", .text "c")]

def provisioned : List (Option String × Document) :=
  [(some "name", .text "c"), (some "type", .text "MANAGED"),
    (some "managed", .object [(some "domains", .array [.text "a.b"] .closed)] .closed)]

def swollen : List (Option String × Document) :=
  [(some "kind", .hugeNumber), (some "managed", .object [(some "kind", .null),
      (some "domains", .array [.text "a.b"] .closed), (some "kind", .null)] .closed),
    (some "type", .text "MANAGED"), (some "name", .text "c")]

theorem growth_is_not_seen :
    Certificate.decoder .memory (.object swollen .closed) = .ok (.forDomains "c" ["a.b"]) ∧
      Certificate.decoder.ofBytes (Text.Utf8.encode (Value.object grownText).toText) =
        .ok { Certificate.blank with name := "c" } ∧
      (∀ value, Certificate.decoder.ofBytes
        (Text.Utf8.encode (Value.object doubledText).toText) ≠ .ok value) ∧
      Certificate.decoder .text (.object [(some "name", .text "c"), (some "type", .text "NEW")]
        .closed) = .ok { Certificate.blank with name := "c" } := by
  obtain ⟨certificates, _, _, _, _, types⟩ := additions_are_not_seen
  have named := read_bytes (.object namedText) ⟨trivial, trivial⟩
  have grown := read_bytes (.object grownText)
    ⟨⟨⟨by decide, by decide⟩, trivial⟩, trivial, trivial, trivial⟩
  have doubled := read_bytes (.object doubledText) ⟨trivial, trivial, trivial, trivial⟩
  refine ⟨@certificates.sees _ (.object provisioned .closed) _ _ ?_ (by decide),
    @certificates.text (Text.Utf8.encode (Value.object namedText).toText) _ _ ?_
      (by rw [grown]) ?_, certificates.refusesText ?_, ?_⟩
  · have inner : ManagedCertificate.Grows
        (.object [(some "domains", .array [.text "a.b"] .closed)] .closed)
        (.object [(some "kind", .null), (some "domains", .array [.text "a.b"] .closed),
          (some "kind", .null)] .closed) := by
      apply @Shape.Grows.object _ _ _ _ _ [(some "kind", .null), (some "kind", .null)] _ _
        (List.forall₂_same.mpr fun entry _ => .same entry)
      · rw [List.forall_mem_cons, List.forall_mem_singleton]
        exact ⟨⟨⟨"kind", rfl, rfl⟩, rfl⟩, ⟨"kind", rfl, rfl⟩, rfl⟩
      · exact List.Perm.swap _ _ _
    apply @Shape.Grows.object _ _ _ _ _ [(some "kind", .hugeNumber)] _ _ (.cons (.same _)
      (.cons (.same _) (.cons (.inside rfl ⟨rfl, inner⟩) .nil)))
    · rw [List.forall_mem_singleton]
      exact ⟨⟨"kind", rfl, rfl⟩, rfl⟩
    · exact (List.reverse_perm swollen).symm
  · rw [named, grown]
    apply @Shape.Grows.object _ _ _ _ _
      [(some "x", .array [.number (.int 0)] .closed), (some "x", .null)] _ _
      (List.forall₂_same.mpr fun entry _ => .same entry)
    · rw [List.forall_mem_cons, List.forall_mem_singleton]
      exact ⟨⟨⟨"x", rfl, rfl⟩, rfl⟩, ⟨"x", rfl, rfl⟩, rfl⟩
    · exact List.Perm.swap _ _ _
  · exact Decoder.of_bytes_of_document (by rw [named]; decide) (by rw [named])
  · rw [doubled]
    exact @Shape.Repeats.twice _ _ _ _ _ _ _ [] [(some "x", .null)] [] _ rfl
  · exact (@types [(some "name", .text "c")] [] (by decide) .text "NEW" .closed _).mpr
      ⟨{ Certificate.blank with name := "c" }, by decide, rfl⟩

end CertSteward
