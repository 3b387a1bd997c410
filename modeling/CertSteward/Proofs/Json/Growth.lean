import CertSteward.Proofs.Json.Entering
import CertSteward.Proofs.Mapping

/-!
# Grown objects

An object grows by having its members in another order and further members
that are no fields, and by growing inside the values of its fields. Decoders
do not see it. A field that is given twice is seen, wherever it is.
-/

namespace CertSteward.Json

set_option autoImplicit false

/-- Documents that a decoder takes for the same value if it takes the first. -/
def Decoder.Sees {α : Type} (decoder : Decoder α) (relation : Document → Document → Prop) : Prop :=
  ∀ ⦃source old new value⦄, relation old new → decoder source old = .ok value →
    decoder source new = .ok value

def Decoder.Refuses {α : Type} (decoder : Decoder α) (fault : Document → Prop) : Prop :=
  ∀ ⦃source document value⦄, fault document → decoder source document ≠ .ok value

theorem Decoder.of_bytes_of_document {α : Type} {decoder : Decoder α} {bytes : List UInt8}
    {value : α} (taken : decoder .text (read (Text.Utf8.read bytes)).1 = .ok value)
    (ends : (read (Text.Utf8.read bytes)).2 = false) : decoder.ofBytes bytes = .ok value := by
  unfold Decoder.ofBytes Decoder.ofCells
  generalize read (Text.Utf8.read bytes) = reading at taken ends ⊢
  obtain ⟨document, more⟩ := reading
  dsimp only at taken ends ⊢
  rw [taken, ends]
  rfl

/-- What a decoder sees in documents it sees in texts. -/
theorem Decoder.Sees.of_bytes {α : Type} {decoder : Decoder α}
    {relation : Document → Document → Prop} (sees : decoder.Sees relation)
    {old new : List UInt8} {value : α}
    (related : relation (read (Text.Utf8.read old)).1 (read (Text.Utf8.read new)).1)
    (ends : (read (Text.Utf8.read new)).2 = false) (decoded : decoder.ofBytes old = .ok value) :
    decoder.ofBytes new = .ok value :=
  of_bytes_of_document (sees related (of_bytes_eq_ok decoded)) ends

theorem Decoder.Refuses.of_bytes {α : Type} {decoder : Decoder α} {fault : Document → Prop}
    (refuses : decoder.Refuses fault) {bytes : List UInt8}
    (faulty : fault (read (Text.Utf8.read bytes)).1) (value : α) :
    decoder.ofBytes bytes ≠ .ok value :=
  fun decoded => refuses faulty (of_bytes_eq_ok decoded)

mutual

/-- A document that has a value is skipped without a fault. -/
theorem skip_fault_of_value : ∀ {document : Document} {value : Value},
    document.value? = some value → document.skipFault? = none
  | .null, _, _ => rfl
  | .bool _, _, _ => rfl
  | .number _, _, _ => rfl
  | .text _, _, _ => rfl
  | .array items .closed, _, sound => by
      obtain ⟨values, each, _⟩ := Option.map_eq_some_iff.mp sound
      have items := skip_items_of_value each
      simp [Document.skipFault?, items, Ending.fault?]
  | .object members .closed, _, sound => by
      obtain ⟨values, each, _⟩ := Option.map_eq_some_iff.mp sound
      have members := skip_members_of_value each
      simp [Document.skipFault?, members, Ending.fault?]

theorem skip_items_of_value : ∀ {items : List Document} {values : List Value},
    Document.valueItems items = some values → Document.skipItems items = none
  | [], _, _ => rfl
  | item :: rest, _, sound => by
      obtain ⟨value, first, later⟩ := Option.bind_eq_some_iff.mp sound
      obtain ⟨values, others, _⟩ := Option.bind_eq_some_iff.mp later
      simp [Document.skipItems, skip_fault_of_value first, skip_items_of_value others]

theorem skip_members_of_value : ∀ {members : List (Option String × Document)}
    {values : List (String × Value)},
    Document.valueMembers members = some values → Document.skipMembers members = none
  | [], _, _ => rfl
  | (key, item) :: rest, _, sound => by
      obtain ⟨_, _, later⟩ := Option.bind_eq_some_iff.mp sound
      obtain ⟨value, first, later⟩ := Option.bind_eq_some_iff.mp later
      obtain ⟨values, others, _⟩ := Option.bind_eq_some_iff.mp later
      simp [Document.skipMembers, skip_fault_of_value first, skip_members_of_value others]

end

/-- Any member of an unknown name whose value is a JSON value is skipped. -/
theorem Shape.foreign_of_value {Record : Type} {shape : Shape Record} {key : String}
    (unknown : shape.field? key = none) {document : Document} {value : Value}
    (sound : document.value? = some value) : shape.Foreign (some key, document) :=
  ⟨⟨key, rfl, unknown⟩, skip_fault_of_value sound⟩

inductive Itemwise (relation : Document → Document → Prop) : Document → Document → Prop where
  | same (document : Document) : Itemwise relation document document
  | array {old new : List Document} {ending : Ending} (items : List.Forall₂ relation old new) :
      Itemwise relation (.array old ending) (.array new ending)

inductive SomeItem (fault : Document → Prop) : Document → Prop where
  | array {items : List Document} {ending : Ending} {item : Document} (member : item ∈ items)
      (faulty : fault item) : SomeItem fault (.array items ending)

inductive Relisted : Document → Document → Prop where
  | object {old new : List (Option String × Document)} {ending : Ending}
      (distinct : (old.map Prod.fst).Nodup) (perm : new.Perm old) :
      Relisted (.object old ending) (.object new ending)

theorem map_m_ok_cons {α β : Type} {f : α → Except DecodeError β} {head : α} {tail : List α}
    {values : List β} :
    (head :: tail).mapM f = .ok values ↔
      ∃ first rest, f head = .ok first ∧ tail.mapM f = .ok rest ∧ values = first :: rest := by
  rw [List.mapM_cons]
  constructor
  · intro done
    obtain ⟨first, taken, later⟩ := ok_of_bind done
    obtain ⟨rest, others, same⟩ := ok_of_bind later
    exact ⟨first, rest, taken, others, (Except.ok.inj same).symm⟩
  · rintro ⟨first, rest, taken, others, rfl⟩
    rw [taken, others]
    rfl

namespace Decoder

variable {α : Type} {decoder : Decoder α} {relation : Document → Document → Prop}
  {fault : Document → Prop}

theorem Sees.map_m (sees : decoder.Sees relation) {source : Source} {old new : List Document}
    (items : List.Forall₂ relation old new) {values : List α}
    (decoded : old.mapM (decoder source) = .ok values) :
    new.mapM (decoder source) = .ok values := by
  induction items generalizing values with
  | nil => exact decoded
  | cons related _ ih =>
      obtain ⟨first, rest, taken, others, same⟩ := map_m_ok_cons.mp decoded
      exact map_m_ok_cons.mpr ⟨first, rest, sees related taken, ih others, same⟩

theorem Sees.sequence (sees : decoder.Sees relation) :
    decoder.sequence.Sees (Itemwise relation) := by
  intro source old new value related decoded
  cases related with
  | same document => exact decoded
  | array items =>
      obtain ⟨values, taken, rest⟩ := ok_of_bind decoded
      unfold Decoder.sequence
      dsimp only
      rw [sees.map_m items taken]
      exact rest

theorem map_m_ne_ok (refuses : decoder.Refuses fault) {source : Source} {items : List Document}
    {item : Document} (member : item ∈ items) (faulty : fault item) (values : List α) :
    items.mapM (decoder source) ≠ .ok values := by
  induction items generalizing values with
  | nil => exact absurd member List.not_mem_nil
  | cons head tail ih =>
      intro decoded
      obtain ⟨first, rest, taken, others, _⟩ := map_m_ok_cons.mp decoded
      rcases List.mem_cons.mp member with rfl | later
      · exact refuses faulty taken
      · exact ih later rest others

theorem Refuses.sequence (refuses : decoder.Refuses fault) :
    decoder.sequence.Refuses (SomeItem fault) := by
  intro source document value faulty decoded
  cases faulty with
  | array member faulty =>
      obtain ⟨values, taken, _⟩ := ok_of_bind decoded
      exact map_m_ne_ok refuses member faulty values taken

theorem optional_eq_ok {source : Source} {document : Document} {value : Option α}
    (decoded : decoder.optional source document = .ok value) :
    document = .null ∧ value = none ∨
      ∃ found, decoder source document = .ok found ∧ value = some found := by
  unfold Decoder.optional at decoded
  split at decoded
  · exact Or.inl ⟨rfl, (Except.ok.inj decoded).symm⟩
  · right
    cases taken : decoder source document with
    | error error =>
        rw [taken] at decoded
        contradiction
    | ok found =>
        rw [taken] at decoded
        exact ⟨found, rfl, (Except.ok.inj decoded).symm⟩

theorem optional_of_ne_null {source : Source} {document : Document} (present : document ≠ .null) :
    decoder.optional source document = (decoder source document).map some := by
  unfold Decoder.optional
  split
  · contradiction
  · rfl

theorem Sees.optional (sees : decoder.Sees relation)
    (null : ∀ ⦃old new⦄, relation old new → (old = .null ↔ new = .null)) :
    decoder.optional.Sees relation := by
  intro source old new value related decoded
  rcases optional_eq_ok decoded with ⟨rfl, rfl⟩ | ⟨found, taken, rfl⟩
  · rw [(null related).mp rfl]
    rfl
  · by_cases missing : old = .null
    · rw [missing] at decoded
      exact absurd (Except.ok.inj decoded) (Option.some_ne_none found).symm
    · rw [optional_of_ne_null fun absent => missing ((null related).mpr absent),
        sees related taken]
      rfl

theorem Refuses.optional (refuses : decoder.Refuses fault) (null : ¬ fault .null) :
    decoder.optional.Refuses fault := by
  intro source document value faulty decoded
  rcases optional_eq_ok decoded with ⟨rfl, _⟩ | ⟨found, taken, _⟩
  · exact null faulty
  · exact refuses faulty taken

theorem entries_eq_ok_iff {source : Source} {members : List (Option String × Document)}
    {values : List (String × α)} :
    entries decoder source members = .ok values ↔
      List.Forall₂ (fun member entry => member.1 = some entry.1 ∧
        decoder source member.2 = .ok entry.2) members values := by
  induction members generalizing values with
  | nil =>
      rw [List.forall₂_nil_left_iff]
      exact ⟨fun done => (Except.ok.inj done).symm, fun same => congrArg Except.ok same.symm⟩
  | cons member rest ih =>
      obtain ⟨key, item⟩ := member
      rw [List.forall₂_cons_left_iff]
      constructor
      · intro done
        cases key with
        | none => contradiction
        | some key =>
            obtain ⟨value, taken, later⟩ := ok_of_bind done
            obtain ⟨others, decoded, same⟩ := ok_of_bind later
            exact ⟨(key, value), others, ⟨rfl, taken⟩, ih.mp decoded,
              (Except.ok.inj same).symm⟩
      · rintro ⟨⟨key, value⟩, others, ⟨rfl, taken⟩, decoded, rfl⟩
        have later := ih.mpr decoded
        dsimp only at taken
        rw [entries, taken, later]
        rfl

theorem mapping_sees_relisted (decoder : Decoder α) : decoder.mapping.Sees Relisted := by
  intro source old new value related decoded
  cases related with
  | @object old new ending distinct perm =>
      obtain ⟨values, taken, finished⟩ := ok_of_bind decoded
      have listed := entries_eq_ok_iff.mp taken
      obtain ⟨others, swapped, reordered⟩ := List.perm_comp_forall₂ perm listed
      have names : ∀ {members : List (Option String × Document)} {entries : List (String × α)},
          List.Forall₂ (fun member entry => member.1 = some entry.1 ∧
            decoder source member.2 = .ok entry.2) members entries →
          members.map Prod.fst = (entries.map Prod.fst).map some := by
        intro members entries each
        induction each with
        | nil => rfl
        | cons head _ ih => simp [head.1, ih]
      have unrepeated : (values.map Prod.fst).Nodup := by
        rw [names listed] at distinct
        exact distinct.of_map _
      have same : Mapping.ofList others = Mapping.ofList values :=
        Mapping.of_list_of_perm (reordered.trans (Mapping.of_list_perm unrepeated).symm)
      unfold Decoder.mapping
      dsimp only
      rw [entries_eq_ok_iff.mpr swapped]
      show finish ending (Mapping.ofList others) = _
      rw [same]
      exact finished

end Decoder

namespace Shape

variable {Record : Type}

inductive Member (shape : Shape Record) (inside : String → Document → Document → Prop) :
    Option String × Document → Option String × Document → Prop where
  | same (entry : Option String × Document) : shape.Member inside entry entry
  | inside {key : String} {field : Field Record} {old new : Document}
      (found : shape.field? key = some field) (related : inside key old new) :
      shape.Member inside (some key, old) (some key, new)

inductive Placed (inside : String → Document → Document → Prop) :
    List (Field Record) → List Document → List Document → Prop where
  | nil (fields : List (Field Record)) : Placed inside fields [] []
  | same {field : Field Record} {fields : List (Field Record)} {old new : List Document}
      (item : Document) (rest : Placed inside fields old new) :
      Placed inside (field :: fields) (item :: old) (item :: new)
  | inside {field : Field Record} {fields : List (Field Record)} {old new : List Document}
      {first second : Document} (related : inside field.name first second)
      (rest : Placed inside fields old new) :
      Placed inside (field :: fields) (first :: old) (second :: new)

/-- A document of a record grown by members that are no fields, with its members in any order and
the values of its fields grown as `inside` says. -/
inductive Grows (shape : Shape Record) (inside : String → Document → Document → Prop) :
    Document → Document → Prop where
  | same (document : Document) : shape.Grows inside document document
  | object {old changed added new : List (Option String × Document)} {ending : Ending}
      (kept : List.Forall₂ (shape.Member inside) old changed)
      (foreign : ∀ entry ∈ added, shape.Foreign entry)
      (listed : new.Perm (changed ++ added)) :
      shape.Grows inside (.object old ending) (.object new ending)
  | array {old new : List Document} {ending : Ending}
      (items : Placed inside shape.fields old new) :
      shape.Grows inside (.array old ending) (.array new ending)

/-- A document of a record that gives a field twice, or that holds the value of a field in which
the like happens. -/
inductive Repeats (shape : Shape Record) (inside : String → Document → Prop) :
    Document → Prop where
  | twice {key : String} {field : Field Record} {first second : Document}
      {before between after : List (Option String × Document)} {ending : Ending}
      (found : shape.field? key = some field) :
      shape.Repeats inside
        (.object (before ++ (some key, first) :: (between ++ (some key, second) :: after)) ending)
  | member {key : String} {field : Field Record} {item : Document}
      {members : List (Option String × Document)} {ending : Ending}
      (found : shape.field? key = some field) (given : (some key, item) ∈ members)
      (faulty : inside key item) : shape.Repeats inside (.object members ending)
  | item {before after : List (Field Record)} {field : Field Record} {item : Document}
      {earlier later : List Document} {ending : Ending}
      (fields : shape.fields = before ++ field :: after) (place : earlier.length = before.length)
      (faulty : inside field.name item) :
      shape.Repeats inside (.array (earlier ++ item :: later) ending)

section

variable {shape : Shape Record} {source : Source}
  {inside : String → Document → Document → Prop} {fault : String → Document → Prop}

def FieldsSee (shape : Shape Record) (inside : String → Document → Document → Prop) : Prop :=
  ∀ field ∈ shape.fields, ∀ ⦃source old new record next⦄, inside field.name old new →
    field.enter source old record = .ok next → field.enter source new record = .ok next

def FieldsRefuse (shape : Shape Record) (fault : String → Document → Prop) : Prop :=
  ∀ field ∈ shape.fields, ∀ ⦃source document record next⦄, fault field.name document →
    field.enter source document record ≠ .ok next

/-- One place of a record where a relation or a fault is looked for. -/
def At (name : String) (relation : Document → Document → Prop) (key : String)
    (old new : Document) : Prop :=
  key = name ∧ relation old new

def Within (name : String) (fault : Document → Prop) (key : String) (document : Document) : Prop :=
  key = name ∧ fault document

theorem fields_see_at {α : Type} (distinct : (shape.fields.map Field.name).Nodup) {name : String}
    {decoder : Decoder α} {put : α → Record → Record}
    (found : shape.field? name = some (Field.defaulted name decoder put))
    {relation : Document → Document → Prop} (sees : decoder.Sees relation) :
    shape.FieldsSee (At name relation) := by
  intro field member source old new record next related entered
  obtain ⟨named, related⟩ := related
  have same := field_of_mem distinct member
  rw [named, found] at same
  obtain rfl := Option.some.inj same
  obtain ⟨value, decoded, rfl⟩ := Field.put_of_enter entered
  exact (Field.enter_defaulted_iff ..).mpr ⟨value, sees related decoded, rfl⟩

theorem fields_refuse_within {α : Type} (distinct : (shape.fields.map Field.name).Nodup)
    {name : String} {decoder : Decoder α} {put : α → Record → Record}
    (found : shape.field? name = some (Field.defaulted name decoder put))
    {fault : Document → Prop} (refuses : decoder.Refuses fault) :
    shape.FieldsRefuse (Within name fault) := by
  intro field member source document record next faulty entered
  obtain ⟨named, faulty⟩ := faulty
  have same := field_of_mem distinct member
  rw [named, found] at same
  obtain rfl := Option.some.inj same
  obtain ⟨value, decoded, _⟩ := Field.put_of_enter entered
  exact refuses faulty decoded

theorem given_of_members {old new : List (Option String × Document)}
    (kept : List.Forall₂ (shape.Member inside) old new) : shape.given new = shape.given old := by
  induction kept with
  | nil => rfl
  | cons head _ ih =>
      cases head with
      | same entry =>
          unfold given at ih ⊢
          rw [List.filterMap_cons, List.filterMap_cons, ih]
      | inside found _ => rw [given_field found, given_field found, ih]

theorem Enters.of_members (see : shape.FieldsSee inside)
    {old new : List (Option String × Document)} (kept : List.Forall₂ (shape.Member inside) old new)
    {record result : Record} (enters : shape.Enters source old record result) :
    shape.Enters source new record result := by
  induction kept generalizing record with
  | nil => exact enters
  | cons head _ ih =>
      cases enters with
      | foreign skipped later =>
          cases head with
          | same entry => exact Enters.foreign skipped (ih later)
          | inside found _ => exact absurd skipped (not_foreign_of_field found _)
      | @field key item _ field _ next _ found entered later =>
          cases head with
          | same entry => exact Enters.field found entered (ih later)
          | inside _ related =>
              obtain ⟨member, named⟩ := mem_of_field found
              have changed := see field member (named ▸ related) entered
              exact Enters.field found changed (ih later)

theorem Reads.of_members (see : shape.FieldsSee inside)
    {old new : List (Option String × Document)} (kept : List.Forall₂ (shape.Member inside) old new)
    {result : Record} (reads : shape.Reads source old result) : shape.Reads source new result := by
  have same := given_of_members kept
  constructor
  · exact reads.enters.of_members see kept
  · rw [same]
    exact reads.unrepeated
  · rw [same]
    exact reads.complete

theorem enter_items_of_placed {ending : Ending} {total : Nat} {fields : List (Field Record)}
    {old new : List Document}
    (see : ∀ field ∈ fields, ∀ ⦃source old new record next⦄, inside field.name old new →
      field.enter source old record = .ok next → field.enter source new record = .ok next)
    (items : Placed inside fields old new) {record result : Record}
    (entered : shape.enterItems source ending total fields old record = .ok result) :
    shape.enterItems source ending total fields new record = .ok result := by
  induction items generalizing record with
  | nil fields => exact entered
  | @same field fields old new item _ ih =>
      obtain ⟨next, first, rest⟩ := ok_of_bind entered
      unfold enterItems
      rw [first]
      exact ih (fun other member => see other (List.mem_cons_of_mem field member)) rest
  | @inside field fields old new _ _ related _ ih =>
      obtain ⟨next, first, rest⟩ := ok_of_bind entered
      unfold enterItems
      rw [see field List.mem_cons_self related first]
      exact ih (fun other member => see other (List.mem_cons_of_mem field member)) rest

theorem Placed.length_eq {fields : List (Field Record)} {old new : List Document}
    (items : Placed inside fields old new) : new.length = old.length := by
  induction items with
  | nil => rfl
  | same _ _ ih => exact congrArg Nat.succ ih
  | inside _ _ ih => exact congrArg Nat.succ ih

/-- A grown document is the same record. -/
theorem sees_grows (independent : shape.Independent) (see : shape.FieldsSee inside) :
    shape.decoder.Sees (shape.Grows inside) := by
  intro source old new value grows decoded
  cases grows with
  | same document => exact decoded
  | object kept foreign listed =>
      obtain ⟨closed, reads⟩ := (decoder_object_eq_ok_iff _ _ _).mp decoded
      have grown := (reads.of_members see kept).append_foreign foreign
      exact (decoder_object_eq_ok_iff _ _ _).mpr ⟨closed, grown.perm independent listed.symm⟩
  | @array old new ending items =>
      have entered : shape.enterItems source ending old.length shape.fields old shape.blank =
        .ok value := decoded
      show shape.enterItems source ending new.length shape.fields new shape.blank = .ok value
      rw [items.length_eq]
      exact enter_items_of_placed see items entered

theorem grows_null ⦃old new : Document⦄ (grows : shape.Grows inside old new) :
    old = .null ↔ new = .null := by
  cases grows with
  | same document => rfl
  | object kept foreign listed => exact iff_of_false (by simp) (by simp)
  | array items => exact iff_of_false (by simp) (by simp)

theorem enters_ne_of_faulty (refuse : shape.FieldsRefuse fault) {key : String}
    {field : Field Record} {item : Document} {members : List (Option String × Document)}
    (found : shape.field? key = some field) (given : (some key, item) ∈ members)
    (faulty : fault key item) {record result : Record} :
    ¬ shape.Enters source members record result := by
  intro enters
  induction enters with
  | nil record => exact absurd given List.not_mem_nil
  | foreign skipped later ih =>
      rcases List.mem_cons.mp given with same | further
      · exact not_foreign_of_field found item (same ▸ skipped)
      · exact ih further
  | field known entered later ih =>
      rcases List.mem_cons.mp given with same | further
      · obtain ⟨named, rfl⟩ := Prod.mk.inj same
        obtain rfl := Option.some.inj named
        obtain ⟨member, named⟩ := mem_of_field known
        exact refuse _ member (named ▸ faulty) entered
      · exact ih further

theorem enter_items_ne_of_faulty {ending : Ending} {total : Nat}
    {before after : List (Field Record)} {field : Field Record} {earlier later : List Document}
    {item : Document} (place : earlier.length = before.length)
    (refused : ∀ ⦃source record next⦄, field.enter source item record ≠ .ok next)
    {record result : Record} :
    shape.enterItems source ending total (before ++ field :: after) (earlier ++ item :: later)
      record ≠ .ok result := by
  intro entered
  induction before generalizing earlier record with
  | nil =>
      obtain rfl := List.eq_nil_of_length_eq_zero place
      obtain ⟨next, first, _⟩ := ok_of_bind entered
      exact refused first
  | cons other before ih =>
      cases earlier with
      | nil => contradiction
      | cons sooner earlier =>
          obtain ⟨next, _, rest⟩ := ok_of_bind entered
          exact ih (Nat.succ.inj place) rest

/-- A document that gives a field twice is no record. -/
theorem refuses_repeats (refuse : shape.FieldsRefuse fault) :
    shape.decoder.Refuses (shape.Repeats fault) := by
  intro source document value repeats decoded
  cases repeats with
  | twice found =>
      have distinct := ((decoder_object_eq_ok_iff _ _ _).mp decoded).2.unrepeated
      rw [given_append, given_field found, given_append, given_field found] at distinct
      have tail := (List.nodup_append.mp distinct).2.1
      exact (List.nodup_cons.mp tail).1 (List.mem_append_right _ List.mem_cons_self)
  | member found given faulty =>
      have enters := ((decoder_object_eq_ok_iff _ _ _).mp decoded).2.enters
      exact enters_ne_of_faulty refuse found given faulty enters
  | @item before after field item earlier later ending fields place faulty =>
      have entered : shape.enterItems source ending (earlier ++ item :: later).length shape.fields
        (earlier ++ item :: later) shape.blank = .ok value := decoded
      rw [fields] at entered
      apply enter_items_ne_of_faulty place _ entered
      intro source record next
      apply refuse field _ faulty
      rw [fields]
      exact List.mem_append_right before List.mem_cons_self

theorem not_repeats_null : ¬ shape.Repeats fault .null := by
  rintro ⟨⟩

end

end Shape

end CertSteward.Json
