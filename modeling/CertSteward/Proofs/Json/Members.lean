import CertSteward.Json.Shape
import CertSteward.Proofs.Outcome

/-!
# The members of a decoded record

A record that was read from an object holds, field by field, what the members
of the field's name say: the value of the only one, or what the blank record
holds where there is none. Two members of one field are never read.
-/

namespace CertSteward.Json

set_option autoImplicit false

def membersNamed (name : String) (members : List (Option String × Document)) :
    List (Option String × Document) :=
  members.filter fun entry => entry.1 == some name

@[simp] theorem members_named_nil (name : String) : membersNamed name [] = [] := rfl

theorem members_named_cons_same (name : String) (item : Document)
    (rest : List (Option String × Document)) :
    membersNamed name ((some name, item) :: rest) =
      (some name, item) :: membersNamed name rest := by
  simp [membersNamed]

theorem members_named_cons_other {name key : String} (different : key ≠ name)
    (item : Document) (rest : List (Option String × Document)) :
    membersNamed name ((some key, item) :: rest) = membersNamed name rest := by
  simp [membersNamed, different]

namespace Field

variable {Record α β : Type}

def Keeps (field : Field Record) (part : Record → α) : Prop :=
  ∀ source document record entered,
    field.enter source document record = .ok entered → part entered = part record

def Sets (field : Field Record) (decoder : Decoder α) (part : Record → α) : Prop :=
  ∀ source document record entered,
    field.enter source document record = .ok entered →
      decoder source document = .ok (part entered)

theorem put_of_enter {decoder : Decoder α} {put : α → Record → Record} {source : Source}
    {document : Document} {record entered : Record}
    (done : ((decoder source document).map fun value => put value record) = .ok entered) :
    ∃ value, decoder source document = .ok value ∧ entered = put value record := by
  cases decoded : decoder source document with
  | error error =>
      rw [decoded] at done
      contradiction
  | ok value =>
      rw [decoded] at done
      exact ⟨value, rfl, (Except.ok.inj done).symm⟩

theorem keeps_defaulted (name : String) (decoder : Decoder β) {put : β → Record → Record}
    {part : Record → α} (kept : ∀ value record, part (put value record) = part record) :
    (Field.defaulted name decoder put).Keeps part := by
  intro source document record entered done
  obtain ⟨value, _, same⟩ := put_of_enter done
  rw [same, kept]

theorem keeps_needed (name : String) (decoder : Decoder β) {put : β → Record → Record}
    {part : Record → α} (kept : ∀ value record, part (put value record) = part record) :
    (Field.needed name decoder put).Keeps part :=
  keeps_defaulted name decoder kept

theorem sets_defaulted (name : String) (decoder : Decoder α) {put : α → Record → Record}
    {part : Record → α} (stored : ∀ value record, part (put value record) = value) :
    (Field.defaulted name decoder put).Sets decoder part := by
  intro source document record entered done
  obtain ⟨value, decoded, same⟩ := put_of_enter done
  rw [same, stored, decoded]

end Field

namespace Shape

variable {Record α : Type}

/-- A part of a record that the field of a name sets and every other field keeps. -/
structure Fills (shape : Shape Record) (name : String) (decoder : Decoder α)
    (part : Record → α) : Prop where
  isField : ∃ field ∈ shape.fields, field.name = name
  sets : ∀ field ∈ shape.fields, field.name = name → field.Sets decoder part
  keeps : ∀ field ∈ shape.fields, field.name ≠ name → field.Keeps part

variable {shape : Shape Record} {name : String} {decoder : Decoder α} {part : Record → α}

/-- A part is filled if each field, one by one, sets it under its name or keeps it under
another. -/
theorem fills_of_each (isField : ∃ field ∈ shape.fields, field.name = name)
    (each : ∀ field ∈ shape.fields,
      field.name = name ∧ field.Sets decoder part ∨ field.name ≠ name ∧ field.Keeps part) :
    shape.Fills name decoder part where
  isField := isField
  sets := by
    intro field member same
    rcases each field member with ⟨_, sets⟩ | ⟨different, _⟩
    · exact sets
    · exact absurd same different
  keeps := by
    intro field member different
    rcases each field member with ⟨same, _⟩ | ⟨_, keeps⟩
    · exact absurd same different
    · exact keeps

theorem Fills.field_is_some (fills : shape.Fills name decoder part) :
    shape.field? name ≠ none := by
  obtain ⟨field, member, named⟩ := fills.isField
  intro missing
  have different := List.find?_eq_none.1 missing field member
  exact different (beq_iff_eq.2 named)

theorem mem_of_field {key : String} {field : Field Record}
    (found : shape.field? key = some field) : field ∈ shape.fields ∧ field.name = key :=
  ⟨List.mem_of_find?_eq_some found, beq_iff_eq.1 (List.find?_some (p := fun (field : Field
    Record) => field.name == key) found)⟩

/-- Members entered into a record: a field that was given before is not given again, and any
other one is given at most once. -/
theorem Fills.enter_members (fills : shape.Fills name decoder part) (source : Source)
    {members : List (Option String × Document)} {given after : List String}
    {record result : Record}
    (entered : shape.enterMembers source members given record = .ok (after, result)) :
    (name ∈ given → membersNamed name members = [] ∧ part result = part record) ∧
      (name ∉ given →
        membersNamed name members = [] ∧ part result = part record ∨
          ∃ item, membersNamed name members = [(some name, item)] ∧
            decoder source item = .ok (part result)) := by
  induction members generalizing given record with
  | nil =>
      obtain ⟨-, rfl⟩ := Prod.mk.inj (Except.ok.inj entered)
      exact ⟨fun _ => ⟨rfl, rfl⟩, fun _ => Or.inl ⟨rfl, rfl⟩⟩
  | cons entry rest ih =>
      obtain ⟨key, item⟩ := entry
      cases key with
      | none => contradiction
      | some key =>
          unfold enterMembers at entered
          cases found : shape.field? key with
          | none =>
              have different : key ≠ name := by
                rintro rfl
                exact fills.field_is_some found
              simp only [found] at entered
              cases fault : item.skipFault? with
              | some fault' =>
                  rw [fault] at entered
                  contradiction
              | none =>
                  rw [fault] at entered
                  rw [members_named_cons_other different]
                  exact ih entered
          | some field =>
              obtain ⟨member, named⟩ := mem_of_field found
              simp only [found] at entered
              by_cases repeated : key ∈ given
              · rw [if_pos repeated] at entered
                contradiction
              rw [if_neg repeated] at entered
              cases step : field.enter source item record with
              | error error =>
                  rw [step] at entered
                  contradiction
              | ok next =>
                  rw [step] at entered
                  have later := ih entered
                  by_cases same : key = name
                  · subst same
                    obtain ⟨alone, kept⟩ := later.1 (List.mem_cons_self ..)
                    have decoded := fills.sets field member named source item record next step
                    refine ⟨fun earlier => absurd earlier repeated, fun _ => Or.inr ⟨item, ?_, ?_⟩⟩
                    · rw [members_named_cons_same, alone]
                    · rw [kept, decoded]
                  · have kept := fills.keeps field member (named ▸ same) source item record
                      next step
                    have unchanged : name ∈ key :: given ↔ name ∈ given := by
                      rw [List.mem_cons]
                      exact or_iff_right (Ne.symm same)
                    rw [members_named_cons_other same, ← kept, ← unchanged]
                    exact later

/-- A field of a record read from an object has its value from the only member of its name, or
the blank one where there is no such member. -/
theorem Fills.decoded_object (fills : shape.Fills name decoder part) {source : Source}
    {members : List (Option String × Document)} {ending : Ending} {result : Record}
    (decoded : shape.decoder source (.object members ending) = .ok result) :
    membersNamed name members = [] ∧ part result = part shape.blank ∨
      ∃ item, membersNamed name members = [(some name, item)] ∧
        decoder source item = .ok (part result) := by
  unfold Shape.decoder at decoded
  dsimp only at decoded
  obtain ⟨⟨given, record⟩, entered, rest⟩ := ok_of_bind decoded
  obtain ⟨_, _, rest⟩ := ok_of_bind rest
  obtain ⟨_, _, same⟩ := ok_of_bind rest
  rw [← Except.ok.inj same]
  exact (fills.enter_members source entered).2 List.not_mem_nil

end Shape

theorem refuse_ne_ok {α : Type} (wanted : String) (document : Document) (value : α) :
    refuse wanted document ≠ .ok value := by
  unfold refuse mismatch
  cases document.found <;> exact fun same => by contradiction

theorem Decoder.text_eq_ok_iff (source : Source) (document : Document) (value : String) :
    Decoder.text source document = .ok value ↔ document = .text value := by
  constructor
  · intro decoded
    unfold Decoder.text at decoded
    split at decoded
    · rw [Except.ok.inj decoded]
    · exact absurd decoded (refuse_ne_ok _ _ _)
  · rintro rfl
    rfl

/-- Only a null is taken for a missing value. -/
theorem Decoder.optional_eq_ok_none_iff {α : Type} (decoder : Decoder α) (source : Source)
    (document : Document) :
    decoder.optional source document = .ok none ↔ document = .null := by
  constructor
  · intro decoded
    unfold Decoder.optional at decoded
    split at decoded
    · rfl
    · cases value : decoder source document with
      | error error =>
          rw [value] at decoded
          contradiction
      | ok found =>
          rw [value] at decoded
          exact absurd (Except.ok.inj decoded) (Option.some_ne_none found)
  · rintro rfl
    rfl

theorem Decoder.of_bytes_eq_ok {α : Type} {decoder : Decoder α} {bytes : List UInt8} {value : α}
    (decoded : decoder.ofBytes bytes = .ok value) :
    decoder .text (read (Text.Utf8.read bytes)).1 = .ok value := by
  unfold Decoder.ofBytes Decoder.ofCells at decoded
  generalize read (Text.Utf8.read bytes) = reading at decoded ⊢
  obtain ⟨document, more⟩ := reading
  obtain ⟨found, taken, rest⟩ := ok_of_bind decoded
  cases more with
  | true => contradiction
  | false => exact taken.trans rest

end CertSteward.Json
