import CertSteward.Proofs.Json.Members
import Mathlib.Data.List.Nodup
import Mathlib.Data.List.Pairwise
import Mathlib.Data.List.Perm.Basic

/-!
# Entering members in any order

A record is read from an object exactly if its members can be entered one by
one, no field is given twice and every required one is given. Where fields
write to different places, the order in which they are entered leaves nothing
behind.
-/

namespace CertSteward.Json

set_option autoImplicit false

def Field.Commutes {Record : Type} (left right : Field Record) : Prop :=
  ∀ source first second record result,
    (∃ next, left.enter source first record = .ok next ∧
        right.enter source second next = .ok result) ↔
      ∃ next, right.enter source second record = .ok next ∧
        left.enter source first next = .ok result

namespace Shape

variable {Record : Type}

def Independent (shape : Shape Record) : Prop :=
  ∀ left ∈ shape.fields, ∀ right ∈ shape.fields, left.name ≠ right.name → left.Commutes right

def given (shape : Shape Record) (members : List (Option String × Document)) : List String :=
  members.filterMap fun entry => entry.1.filter fun key => (shape.field? key).isSome

/-- A member that is skipped: no field has its name, and nothing is wrong with its value. -/
structure Foreign (shape : Shape Record) (entry : Option String × Document) : Prop where
  unknown : ∃ key, entry.1 = some key ∧ shape.field? key = none
  sound : entry.2.skipFault? = none

inductive Enters (shape : Shape Record) (source : Source) :
    List (Option String × Document) → Record → Record → Prop where
  | nil (record : Record) : shape.Enters source [] record record
  | foreign {entry : Option String × Document} {rest : List (Option String × Document)}
      {record result : Record} (skipped : shape.Foreign entry)
      (later : shape.Enters source rest record result) :
      shape.Enters source (entry :: rest) record result
  | field {key : String} {item : Document} {rest : List (Option String × Document)}
      {field : Field Record} {record next result : Record}
      (found : shape.field? key = some field) (entered : field.enter source item record = .ok next)
      (later : shape.Enters source rest next result) :
      shape.Enters source ((some key, item) :: rest) record result

section

variable {shape : Shape Record} {source : Source}

theorem given_foreign {entry : Option String × Document} (foreign : shape.Foreign entry)
    (rest : List (Option String × Document)) : shape.given (entry :: rest) = shape.given rest := by
  obtain ⟨key, named, unknown⟩ := foreign.unknown
  obtain ⟨name, item⟩ := entry
  subst named
  simp [given, unknown]

theorem given_field {key : String} {field : Field Record}
    (found : shape.field? key = some field) (item : Document)
    (rest : List (Option String × Document)) :
    shape.given ((some key, item) :: rest) = key :: shape.given rest :=
  List.filterMap_cons_some (by simp [found])

theorem enter_members_foreign {entry : Option String × Document} (foreign : shape.Foreign entry)
    (rest : List (Option String × Document)) (before : List String) (record : Record) :
    shape.enterMembers source (entry :: rest) before record =
      shape.enterMembers source rest before record := by
  obtain ⟨⟨key, named, unknown⟩, sound⟩ := foreign
  obtain ⟨name, item⟩ := entry
  subst named
  simp only [enterMembers, unknown, sound]

theorem enter_members_field {key : String} {field : Field Record}
    (found : shape.field? key = some field) (item : Document)
    (rest : List (Option String × Document)) {before : List String} (fresh : key ∉ before)
    (record : Record) :
    shape.enterMembers source ((some key, item) :: rest) before record =
      field.enter source item record >>= shape.enterMembers source rest (key :: before) := by
  simp only [enterMembers, found, if_neg fresh]

theorem enter_members_of_enters {members : List (Option String × Document)}
    {record result : Record} (enters : shape.Enters source members record result)
    {before : List String} (fresh : ((shape.given members).reverse ++ before).Nodup) :
    shape.enterMembers source members before record =
      .ok ((shape.given members).reverse ++ before, result) := by
  induction enters generalizing before with
  | nil record => rfl
  | foreign skipped later ih =>
      rw [given_foreign skipped] at fresh ⊢
      rw [enter_members_foreign skipped]
      exact ih fresh
  | @field key item rest field record next result found entered later ih =>
      rw [given_field found, List.reverse_cons, List.append_assoc] at fresh ⊢
      have new : key ∉ before := by
        have tail := (List.nodup_append.mp fresh).2.1
        exact (List.nodup_cons.mp tail).1
      rw [enter_members_field found item rest new, entered]
      exact ih fresh

theorem enters_of_enter_members {members : List (Option String × Document)}
    {before after : List String} {record result : Record} (distinct : before.Nodup)
    (done : shape.enterMembers source members before record = .ok (after, result)) :
    shape.Enters source members record result ∧
      after = (shape.given members).reverse ++ before ∧ after.Nodup := by
  induction members generalizing before record with
  | nil =>
      obtain ⟨rfl, rfl⟩ := Prod.mk.inj (Except.ok.inj done)
      exact ⟨Enters.nil record, rfl, distinct⟩
  | cons entry rest ih =>
      obtain ⟨key, item⟩ := entry
      cases key with
      | none => contradiction
      | some key =>
          cases found : shape.field? key with
          | none =>
              cases fault : item.skipFault? with
              | some broken =>
                  simp only [enterMembers, found, fault] at done
                  contradiction
              | none =>
                  have foreign : shape.Foreign (some key, item) := ⟨⟨key, rfl, found⟩, fault⟩
                  rw [enter_members_foreign foreign] at done
                  obtain ⟨enters, same, unrepeated⟩ := ih distinct done
                  rw [given_foreign foreign]
                  exact ⟨Enters.foreign foreign enters, same, unrepeated⟩
          | some field =>
              by_cases repeated : key ∈ before
              · simp only [enterMembers, found, if_pos repeated] at done
                contradiction
              · rw [enter_members_field found item rest repeated] at done
                obtain ⟨next, entered, later⟩ := ok_of_bind done
                have longer : (key :: before).Nodup := List.nodup_cons.mpr ⟨repeated, distinct⟩
                obtain ⟨enters, same, unrepeated⟩ := ih longer later
                rw [given_field found, List.reverse_cons, List.append_assoc]
                exact ⟨Enters.field found entered enters, same, unrepeated⟩

theorem check_given_eq_ok_iff (fields : List (Field Record)) (names : List String) :
    checkGiven fields names = .ok () ↔
      ∀ field ∈ fields, field.required = true → field.name ∈ names := by
  induction fields with
  | nil => simp [checkGiven]
  | cons field rest ih =>
      rw [checkGiven, List.forall_mem_cons, ← ih]
      split
      · rename_i missing
        simp_all [mismatch]
      · rename_i present
        simp_all

/-- What it takes to read a record from an object. -/
structure Reads (shape : Shape Record) (source : Source)
    (members : List (Option String × Document)) (result : Record) : Prop where
  enters : shape.Enters source members shape.blank result
  unrepeated : (shape.given members).Nodup
  complete : ∀ field ∈ shape.fields, field.required = true → field.name ∈ shape.given members

theorem finish_eq_ok_iff {α : Type} (ending : Ending) (value result : α) :
    finish ending value = .ok result ↔ ending = .closed ∧ value = result := by
  cases ending <;> simp [finish, Ending.fault?]

theorem decoder_object_eq_ok_iff (members : List (Option String × Document)) (ending : Ending)
    (result : Record) :
    shape.decoder source (.object members ending) = .ok result ↔
      ending = .closed ∧ shape.Reads source members result := by
  constructor
  · intro decoded
    unfold Shape.decoder at decoded
    dsimp only at decoded
    obtain ⟨⟨after, record⟩, entered, rest⟩ := ok_of_bind decoded
    obtain ⟨_, finished, rest⟩ := ok_of_bind rest
    obtain ⟨_, checked, same⟩ := ok_of_bind rest
    obtain rfl : record = result := Except.ok.inj same
    obtain ⟨enters, rfl, unrepeated⟩ := enters_of_enter_members List.nodup_nil entered
    rw [List.append_nil] at checked unrepeated
    have complete := (check_given_eq_ok_iff _ _).mp checked
    simp only [List.mem_reverse] at complete
    exact ⟨((finish_eq_ok_iff _ _ _).mp finished).1,
      enters, List.nodup_reverse.mp unrepeated, complete⟩
  · rintro ⟨rfl, enters, unrepeated, complete⟩
    have fresh : ((shape.given members).reverse ++ []).Nodup := by
      rw [List.append_nil]
      exact List.nodup_reverse.mpr unrepeated
    have checked : checkGiven shape.fields (shape.given members).reverse = .ok () := by
      apply (check_given_eq_ok_iff _ _).mpr
      simpa only [List.mem_reverse] using complete
    unfold Shape.decoder
    dsimp only
    rw [enter_members_of_enters enters fresh, List.append_nil]
    show (finish Ending.closed () >>= fun _ =>
      checkGiven shape.fields (shape.given members).reverse >>= fun _ => Except.ok result) = _
    rw [checked]
    rfl

theorem enters_append_iff {left right : List (Option String × Document)}
    {record result : Record} :
    shape.Enters source (left ++ right) record result ↔
      ∃ next, shape.Enters source left record next ∧ shape.Enters source right next result := by
  constructor
  · intro enters
    induction left generalizing record with
    | nil => exact ⟨record, Enters.nil record, enters⟩
    | cons entry rest ih =>
        cases enters with
        | foreign skipped later =>
            obtain ⟨next, first, second⟩ := ih later
            exact ⟨next, Enters.foreign skipped first, second⟩
        | field found entered later =>
            obtain ⟨next, first, second⟩ := ih later
            exact ⟨next, Enters.field found entered first, second⟩
  · rintro ⟨next, first, second⟩
    induction first with
    | nil record => exact second
    | foreign skipped later ih => exact Enters.foreign skipped (ih second)
    | field found entered later ih => exact Enters.field found entered (ih second)

theorem enters_of_foreign {members : List (Option String × Document)}
    (foreign : ∀ entry ∈ members, shape.Foreign entry) (record : Record) :
    shape.Enters source members record record := by
  induction members with
  | nil => exact Enters.nil record
  | cons entry rest ih =>
      apply Enters.foreign (foreign entry List.mem_cons_self)
      exact ih fun other member => foreign other (List.mem_cons_of_mem entry member)

theorem not_foreign_of_field {key : String} {field : Field Record}
    (found : shape.field? key = some field) (item : Document) :
    ¬ shape.Foreign (some key, item) := by
  rintro ⟨⟨other, named, unknown⟩, _⟩
  rw [← Option.some.inj named, found] at unknown
  contradiction

theorem Enters.swap (independent : shape.Independent) {first second : Option String × Document}
    {rest : List (Option String × Document)} {record result : Record}
    (different : (shape.given [first, second]).Nodup)
    (enters : shape.Enters source (first :: second :: rest) record result) :
    shape.Enters source (second :: first :: rest) record result := by
  cases enters with
  | foreign skipped later =>
      cases later with
      | foreign also later => exact Enters.foreign also (Enters.foreign skipped later)
      | field found entered later => exact Enters.field found entered (Enters.foreign skipped later)
  | @field key item _ left _ next _ found entered later =>
      cases later with
      | foreign also later => exact Enters.foreign also (Enters.field found entered later)
      | @field other taken _ right _ last _ known placed later =>
          rw [given_field found, given_field known] at different
          have apart : left.name ≠ right.name := by
            rw [(mem_of_field found).2, (mem_of_field known).2]
            exact fun same => (List.nodup_cons.mp different).1 (same ▸ List.mem_cons_self)
          have turned := independent left (mem_of_field found).1 right (mem_of_field known).1 apart
            source item taken record last
          obtain ⟨between, sooner, after⟩ := turned.mp ⟨next, entered, placed⟩
          exact Enters.field known sooner (Enters.field found after later)

theorem given_perm {left right : List (Option String × Document)} (perm : left.Perm right) :
    (shape.given left).Perm (shape.given right) :=
  perm.filterMap _

theorem given_append (left right : List (Option String × Document)) :
    shape.given (left ++ right) = shape.given left ++ shape.given right :=
  List.filterMap_append

theorem Enters.perm (independent : shape.Independent)
    {left right : List (Option String × Document)} (perm : left.Perm right)
    {record result : Record} (unrepeated : (shape.given left).Nodup)
    (enters : shape.Enters source left record result) :
    shape.Enters source right record result := by
  induction perm generalizing record with
  | nil => exact enters
  | cons entry _ ih =>
      have shorter : ∀ tail : List (Option String × Document),
          (shape.given (entry :: tail)).Nodup → (shape.given tail).Nodup := fun tail =>
        List.Pairwise.sublist ((List.sublist_cons_self entry tail).filterMap _)
      cases enters with
      | foreign skipped later => exact Enters.foreign skipped (ih (shorter _ unrepeated) later)
      | field found entered later =>
          exact Enters.field found entered (ih (shorter _ unrepeated) later)
  | swap second first rest =>
      apply enters.swap independent
      apply List.Pairwise.sublist _ unrepeated
      exact (List.Sublist.append_left (List.nil_sublist rest) [first, second]).filterMap _
  | trans front _ ihFront ihBack =>
      exact ihBack ((given_perm front).nodup_iff.mp unrepeated) (ihFront unrepeated enters)

/-- Members of a record may stand in any order. -/
theorem Reads.perm (independent : shape.Independent)
    {left right : List (Option String × Document)} (perm : left.Perm right) {result : Record}
    (reads : shape.Reads source left result) : shape.Reads source right result where
  enters := reads.enters.perm independent perm reads.unrepeated
  unrepeated := (given_perm perm).nodup_iff.mp reads.unrepeated
  complete := fun field member required =>
    (given_perm perm).mem_iff.mp (reads.complete field member required)

/-- Members without a field of their own may be added. -/
theorem Reads.append_foreign {members added : List (Option String × Document)}
    (foreign : ∀ entry ∈ added, shape.Foreign entry) {result : Record}
    (reads : shape.Reads source members result) : shape.Reads source (members ++ added) result := by
  have none : shape.given added = [] := by
    apply List.filterMap_eq_nil_iff.mpr
    intro entry member
    obtain ⟨key, named, unknown⟩ := (foreign entry member).unknown
    simp [named, unknown]
  have same : shape.given (members ++ added) = shape.given members := by
    rw [given_append, none, List.append_nil]
  constructor
  · exact enters_append_iff.mpr ⟨result, reads.enters, enters_of_foreign foreign result⟩
  · rw [same]
    exact reads.unrepeated
  · rw [same]
    exact reads.complete

theorem field_of_mem (distinct : (shape.fields.map Field.name).Nodup) {field : Field Record}
    (member : field ∈ shape.fields) : shape.field? field.name = some field := by
  cases found : shape.field? field.name with
  | none =>
      have different := List.find?_eq_none.mp found field member
      exact absurd (beq_iff_eq.mpr rfl) different
  | some other =>
      obtain ⟨known, named⟩ := mem_of_field found
      rw [List.inj_on_of_nodup_map distinct known member named]

theorem enters_field_iff {key : String} {field : Field Record} {item : Document}
    (found : shape.field? key = some field) {record result : Record} :
    shape.Enters source [(some key, item)] record result ↔
      field.enter source item record = .ok result := by
  constructor
  · intro enters
    cases enters with
    | foreign skipped later => exact absurd skipped (not_foreign_of_field found item)
    | field known entered later =>
        obtain rfl := Option.some.inj (found.symm.trans known)
        cases later
        exact entered
  · intro entered
    exact Enters.field found entered (Enters.nil result)

/-- A member of an optional field that is not given otherwise enters last, wherever it stands. -/
theorem decoder_insert_eq_ok_iff (independent : shape.Independent)
    (distinct : (shape.fields.map Field.name).Nodup) {key : String} {field : Field Record}
    (found : shape.field? key = some field) (optional : field.required = false)
    {before after : List (Option String × Document)}
    (fresh : key ∉ shape.given (before ++ after)) (item : Document) (ending : Ending)
    (result : Record) :
    shape.decoder source (.object (before ++ (some key, item) :: after) ending) = .ok result ↔
      ∃ rest, shape.decoder source (.object (before ++ after) ending) = .ok rest ∧
        field.enter source item rest = .ok result := by
  have perm : (before ++ (some key, item) :: after).Perm
      ((before ++ after) ++ [(some key, item)]) :=
    List.perm_middle.trans (List.perm_append_singleton _ _).symm
  have named : shape.given ((before ++ after) ++ [(some key, item)]) =
      shape.given (before ++ after) ++ [key] := by
    rw [given_append, given_field found]
    rfl
  constructor
  · intro decoded
    obtain ⟨closed, reads⟩ := (decoder_object_eq_ok_iff _ _ _).mp decoded
    obtain ⟨enters, unrepeated, complete⟩ := reads.perm independent perm
    rw [named] at unrepeated complete
    obtain ⟨rest, first, last⟩ := enters_append_iff.mp enters
    refine ⟨rest, (decoder_object_eq_ok_iff _ _ _).mpr ⟨closed, first, ?_, ?_⟩,
      (enters_field_iff found).mp last⟩
    · exact (List.nodup_append.mp unrepeated).1
    · intro other member required
      rcases List.mem_append.mp (complete other member required) with known | same
      · exact known
      · have alike := field_of_mem distinct member
        rw [List.mem_singleton.mp same, found] at alike
        rw [← Option.some.inj alike, optional] at required
        contradiction
  · rintro ⟨rest, decoded, entered⟩
    obtain ⟨closed, enters, unrepeated, complete⟩ := (decoder_object_eq_ok_iff _ _ _).mp decoded
    have longer : shape.Reads source ((before ++ after) ++ [(some key, item)]) result := by
      constructor
      · exact enters_append_iff.mpr ⟨rest, enters, (enters_field_iff found).mpr entered⟩
      · rw [named]
        exact (List.perm_append_singleton _ _).nodup_iff.mpr
          (List.nodup_cons.mpr ⟨fresh, unrepeated⟩)
      · intro other member required
        rw [named]
        exact List.mem_append_left _ (complete other member required)
    exact (decoder_object_eq_ok_iff _ _ _).mpr ⟨closed, longer.perm independent perm.symm⟩

end

theorem independent_of_pairwise {shape : Shape Record}
    (pairs : shape.fields.Pairwise Field.Commutes) : shape.Independent := by
  have symmetric : Std.Symm (@Field.Commutes Record) := by
    constructor
    intro first second commutes source item taken record result
    exact (commutes source taken item record result).symm
  intro left member right other different
  exact pairs.forall member other fun same => different (same ▸ rfl)

end Shape

namespace Field

variable {Record α β : Type}

theorem enter_defaulted_iff (name : String) (decoder : Decoder α) (put : α → Record → Record)
    (source : Source) (document : Document) (record next : Record) :
    (Field.defaulted name decoder put).enter source document record = .ok next ↔
      ∃ value, decoder source document = .ok value ∧ next = put value record := by
  constructor
  · exact put_of_enter
  · rintro ⟨value, decoded, rfl⟩
    exact congrArg (Except.map fun value => put value record) decoded

theorem commutes_defaulted (name other : String) (decoder : Decoder α) (reader : Decoder β)
    {put : α → Record → Record} {store : β → Record → Record}
    (apart : ∀ value taken record,
      store taken (put value record) = put value (store taken record)) :
    (Field.defaulted name decoder put).Commutes (Field.defaulted other reader store) := by
  intro source first second record result
  simp only [enter_defaulted_iff]
  constructor
  · rintro ⟨_, ⟨value, decoded, rfl⟩, taken, found, rfl⟩
    exact ⟨_, ⟨taken, found, rfl⟩, value, decoded, apart value taken record⟩
  · rintro ⟨_, ⟨taken, found, rfl⟩, value, decoded, rfl⟩
    exact ⟨_, ⟨value, decoded, rfl⟩, taken, found, (apart value taken record).symm⟩

/-- Fields that put what they decode into different places can be entered in either order, needed
ones and others. -/
theorem commutes_puts (name other : String) (required also : Bool) (decoder : Decoder α)
    (reader : Decoder β) {put : α → Record → Record} {store : β → Record → Record}
    (apart : ∀ value taken record,
      store taken (put value record) = put value (store taken record)) :
    Field.Commutes
      ⟨name, required, fun source document record =>
        (decoder source document).map fun value => put value record⟩
      ⟨other, also, fun source document record =>
        (reader source document).map fun value => store value record⟩ :=
  commutes_defaulted name other decoder reader apart

end Field

end CertSteward.Json
