import CertSteward.Proofs.Json.Growth
import CertSteward.Proofs.Json.Written

/-!
# Written members enter a record

The members that an encoder writes are entered one after the other, each
leaving its own value in the record. Where a value is absent there is no
member, and the record keeps the blank.
-/

namespace CertSteward.Json

set_option autoImplicit false

theorem member_outlines_eq_map (members : List (String × Value)) :
    memberOutlines members = members.map fun member => (some member.1, member.2.outline) := by
  induction members with
  | nil => rfl
  | cons member rest ih => exact congrArg (_ :: ·) ih

theorem integral_members_iff (members : List (String × Value)) :
    IntegralMembers members ↔ ∀ member ∈ members, member.2.Integral := by
  induction members with
  | nil => exact iff_of_true trivial fun _ absent => absurd absent List.not_mem_nil
  | cons member rest ih =>
      rw [List.forall_mem_cons]
      exact and_congr_right fun _ => ih

theorem integral_items_iff (items : List Value) :
    IntegralItems items ↔ ∀ item ∈ items, item.Integral := by
  induction items with
  | nil => exact iff_of_true trivial fun _ absent => absurd absent List.not_mem_nil
  | cons item rest ih =>
      rw [List.forall_mem_cons]
      exact and_congr_right fun _ => ih

mutual

/-- A written value is a document without a fault. -/
theorem outline_value : ∀ value : Value, value.outline.value? = some value
  | .null => rfl
  | .bool _ => rfl
  | .number _ => rfl
  | .text _ => rfl
  | .array items => by simp [Value.outline, Document.value?, item_outlines_value items]
  | .object members => by simp [Value.outline, Document.value?, member_outlines_value members]

theorem item_outlines_value : ∀ items : List Value,
    Document.valueItems (itemOutlines items) = some items
  | [] => rfl
  | item :: rest => by
      simp [itemOutlines, Document.valueItems, outline_value item, item_outlines_value rest]

theorem member_outlines_value : ∀ members : List (String × Value),
    Document.valueMembers (memberOutlines members) = some members
  | [] => rfl
  | (key, item) :: rest => by
      simp [memberOutlines, Document.valueMembers, outline_value item,
        member_outlines_value rest]

end

structure Undoes {α : Type} (decoder : Decoder α) (encode : α → Value) : Prop where
  decoded : ∀ source value, decoder source (encode value).outline = .ok value
  integral : ∀ value, (encode value).Integral

theorem undoes_text : Undoes Decoder.text Value.text where
  decoded := fun _ _ => rfl
  integral := fun _ => trivial

namespace Undoes

variable {α : Type} {decoder : Decoder α} {encode : α → Value}

theorem map_m (undoes : Undoes decoder encode) (source : Source) (values : List α) :
    (itemOutlines (values.map encode)).mapM (decoder source) = .ok values := by
  induction values with
  | nil => rfl
  | cons value rest ih =>
      exact map_m_ok_cons.mpr ⟨value, rest, undoes.decoded source value, ih, rfl⟩

theorem sequence (undoes : Undoes decoder encode) :
    Undoes decoder.sequence fun values => .array (values.map encode) where
  decoded := by
    intro source values
    show ((itemOutlines (values.map encode)).mapM (decoder source) >>= fun values =>
      finish .closed values) = _
    rw [undoes.map_m]
    rfl
  integral := by
    intro values
    apply (integral_items_iff _).mpr
    intro item member
    obtain ⟨value, _, rfl⟩ := List.mem_map.mp member
    exact undoes.integral value

theorem optional (undoes : Undoes decoder encode) (source : Source) (value : α)
    (present : (encode value).outline ≠ .null) :
    decoder.optional source (encode value).outline = .ok (some value) := by
  rw [Decoder.optional_of_ne_null present, undoes.decoded]
  rfl

theorem entries (undoes : Undoes decoder encode) (source : Source)
    (values : List (String × α)) :
    Decoder.entries decoder source
        (memberOutlines (values.map fun entry => (entry.1, encode entry.2))) = .ok values := by
  induction values with
  | nil => rfl
  | cons entry rest ih =>
      obtain ⟨key, value⟩ := entry
      show (decoder source (encode value).outline >>= fun value =>
        Decoder.entries decoder source _ >>= fun values => Except.ok ((key, value) :: values)) = _
      rw [undoes.decoded, ih]
      rfl

theorem mapping (undoes : Undoes decoder encode) :
    Undoes decoder.mapping fun (mapping : Mapping α) =>
      .object (mapping.entries.map fun entry => (entry.1, encode entry.2)) where
  decoded := by
    intro source mapping
    show (Decoder.entries decoder source (memberOutlines _) >>= fun values =>
      finish .closed (Mapping.ofList values)) = _
    rw [undoes.entries]
    show Except.ok (Mapping.ofList mapping.entries) = _
    rw [Mapping.of_list_of_perm (List.Perm.refl _)]
  integral := by
    intro mapping
    apply (integral_members_iff _).mpr
    intro member given
    obtain ⟨entry, _, rfl⟩ := List.mem_map.mp given
    exact undoes.integral entry.2

end Undoes

namespace Shape

variable {Record α : Type} {shape : Shape Record}

structure Writes (shape : Shape Record) (names : List String) (members : List (String × Value))
    (record next : Record) : Prop where
  enters : ∀ source, shape.Enters source (memberOutlines members) record next
  named : (members.map Prod.fst).Sublist names
  integral : ∀ member ∈ members, member.2.Integral

theorem Writes.append {names others : List String} {left right : List (String × Value)}
    {record next result : Record} (first : shape.Writes names left record next)
    (second : shape.Writes others right next result) :
    shape.Writes (names ++ others) (left ++ right) record result where
  enters := by
    intro source
    have outlines :
        memberOutlines (left ++ right) = memberOutlines left ++ memberOutlines right := by
      simp only [member_outlines_eq_map, List.map_append]
    rw [outlines]
    exact enters_append_iff.mpr ⟨next, first.enters source, second.enters source⟩
  named := by
    rw [List.map_append]
    exact first.named.append second.named
  integral := by
    intro member given
    exact (List.mem_append.mp given).elim (first.integral member) (second.integral member)

variable {decoder : Decoder α} {encode : α → Value} {name : String}

theorem writes_nothing {names : List String} {record next : Record} (kept : record = next) :
    shape.Writes names [] record next where
  enters := fun _ => kept ▸ Enters.nil record
  named := List.nil_sublist names
  integral := fun _ absent => absurd absent List.not_mem_nil

theorem writes_value {field : Field Record} (found : shape.field? name = some field) {value : α}
    {record next : Record}
    (entered : ∀ source, field.enter source (encode value).outline record = .ok next)
    (integral : (encode value).Integral) :
    shape.Writes [name] [(name, encode value)] record next where
  enters := fun source => (enters_field_iff found).mpr (entered source)
  named := List.Sublist.refl _
  integral := List.forall_mem_singleton.mpr integral

variable {record next : Record}

theorem writes_defaulted {put : α → Record → Record}
    (found : shape.field? name = some (.defaulted name decoder put))
    (undoes : Undoes decoder encode) {value : α} (stored : put value record = next) :
    shape.Writes [name] [(name, encode value)] record next := by
  apply writes_value found _ (undoes.integral value)
  intro source
  exact (Field.enter_defaulted_iff ..).mpr ⟨value, undoes.decoded source value, stored.symm⟩

theorem writes_needed {put : α → Record → Record}
    (found : shape.field? name = some (.needed name decoder put))
    (undoes : Undoes decoder encode) {value : α} (stored : put value record = next) :
    shape.Writes [name] [(name, encode value)] record next := by
  apply writes_value found _ (undoes.integral value)
  intro source
  exact (Field.enter_defaulted_iff name decoder put ..).mpr
    ⟨value, undoes.decoded source value, stored.symm⟩

theorem writes_optional {put : Option α → Record → Record}
    (found : shape.field? name = some (.defaulted name decoder.optional put))
    (undoes : Undoes decoder encode) (present : ∀ value, (encode value).outline ≠ .null)
    {value : Option α} (kept : put none record = record) (stored : put value record = next) :
    shape.Writes [name] (optionalMember name encode value) record next := by
  cases value with
  | none => exact writes_nothing (kept.symm.trans stored)
  | some value =>
      apply writes_value found _ (undoes.integral value)
      intro source
      exact (Field.enter_defaulted_iff ..).mpr
        ⟨some value, undoes.optional source value (present value), stored.symm⟩

theorem writes_list {put : List α → Record → Record}
    (found : shape.field? name = some (.defaulted name decoder.sequence put))
    (undoes : Undoes decoder encode) {values : List α} (kept : put [] record = record)
    (stored : put values record = next) :
    shape.Writes [name] (listMember name encode values) record next := by
  cases values with
  | nil => exact writes_nothing (kept.symm.trans stored)
  | cons value rest => exact writes_defaulted found undoes.sequence stored

/-- Written members are all that it takes to read the record. -/
theorem Writes.undoes {names : List String} {record : Record} {members : List (String × Value)}
    (writes : shape.Writes names members shape.blank record) (distinct : names.Nodup)
    (complete : ∀ field ∈ shape.fields, field.required = true →
      field.name ∈ members.map Prod.fst) (source : Source) :
    shape.decoder source (Value.object members).outline = .ok record := by
  have given : shape.given (memberOutlines members) =
      (members.map Prod.fst).filter fun name => (shape.field? name).isSome := by
    rw [member_outlines_eq_map, given, List.filterMap_map, ← List.filterMap_eq_filter,
      List.filterMap_map]
    rfl
  apply (decoder_object_eq_ok_iff _ _ _).mpr
  refine ⟨rfl, writes.enters source, ?_, ?_⟩
  · rw [given]
    exact (distinct.sublist writes.named).filter _
  · intro field member required
    rw [given, List.mem_filter]
    refine ⟨complete field member required, ?_⟩
    have known : field ∈ shape.fields ∧ (field.name == field.name) = true :=
      ⟨member, beq_self_eq_true _⟩
    exact List.find?_isSome.mpr ⟨field, known⟩

/-- An encoder is undone if the members it writes are under different names, enter the record and
include what is required. -/
theorem undoes_of_writes {encode : Record → Value} {names : List String} (distinct : names.Nodup)
    (each : ∀ record, ∃ members, encode record = .object members ∧
      shape.Writes names members shape.blank record ∧
      ∀ field ∈ shape.fields, field.required = true → field.name ∈ members.map Prod.fst) :
    Undoes shape.decoder encode where
  decoded := by
    intro source record
    obtain ⟨members, written, writes, complete⟩ := each record
    rw [written]
    exact writes.undoes distinct complete source
  integral := by
    intro record
    obtain ⟨members, written, writes, _⟩ := each record
    rw [written]
    exact (integral_members_iff members).mpr writes.integral

end Shape

end CertSteward.Json
