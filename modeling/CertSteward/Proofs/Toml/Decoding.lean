import CertSteward.Proofs.Mapping
import CertSteward.Proofs.Outcome
import CertSteward.Proofs.Toml.Distinct

/-!
# One entry of a table decoded otherwise

A record is decoded from the entries of a table in the order of their names. If
nothing else depends on what is put under a name, another value there changes
just that part of the record; and in a map of values of one type, just the
value of the name.
-/

namespace CertSteward.Toml

set_option autoImplicit false

theorem Entries.put_of_find {entries : Entries} {name : String} {value : Value}
    (found : entries.find? name = some value) :
    ∃ front back, entries = front ++ (name, value) :: back ∧
      ∀ other, entries.put name other = front ++ (name, other) :: back := by
  induction entries with
  | nil => contradiction
  | cons entry rest ih =>
      obtain ⟨first, held⟩ := entry
      by_cases same : first = name
      · subst same
        unfold find? at found
        rw [List.lookup_cons_self] at found
        obtain rfl := Option.some.inj found
        refine ⟨[], rest, rfl, ?_⟩
        intro other
        rw [put, if_pos rfl]
        rfl
      · have later : Entries.find? rest name = some value := by
          unfold find? at found ⊢
          rwa [List.lookup_cons, beq_false_of_ne fun wrong => same wrong.symm] at found
        obtain ⟨front, back, rfl, puts⟩ := ih later
        refine ⟨(first, held) :: front, back, rfl, ?_⟩
        intro other
        rw [put, if_neg same, puts other]
        rfl

/-- The entries in the order of their names, before and after one of them is put anew. -/
theorem sorted_put {entries : Entries} {name : String} {value : Value}
    (distinct : (entries.map Prod.fst).Nodup) (found : entries.find? name = some value) :
    ∃ front back, sorted entries = front ++ (name, value) :: back ∧
      (∀ other, sorted (entries.put name other) = front ++ (name, other) :: back) ∧
        Ascending (front ++ (name, value) :: back) := by
  obtain ⟨before, behind, rfl, puts⟩ := Entries.put_of_find found
  have perm := Mapping.of_list_perm distinct
  have ascending := (Mapping.ofList (before ++ (name, value) :: behind)).ascending
  have member : (name, value) ∈ sorted (before ++ (name, value) :: behind) :=
    perm.mem_iff.mpr (List.mem_append_right before List.mem_cons_self)
  obtain ⟨front, back, order⟩ := List.append_of_mem member
  change (sorted (before ++ (name, value) :: behind)).Perm _ at perm
  change Ascending (sorted (before ++ (name, value) :: behind)) at ascending
  rw [order] at perm ascending
  refine ⟨front, back, order, ?_, ascending⟩
  intro other
  rw [puts other]
  apply Mapping.to_list_of_perm
  · have rest := (List.perm_middle.symm.trans (perm.trans List.perm_middle)).cons_inv
    exact List.perm_middle.trans ((rest.symm.cons (name, other)).trans List.perm_middle.symm)
  · rw [Ascending, ← List.pairwise_map (R := (· < ·))] at ascending ⊢
    simpa only [List.map_append, List.map_cons] using ascending

namespace Shape

variable {Record α : Type} {shape : Shape Record} {name : String} {decoder : Decoder α}
  {put : α → Record → Record}

structure Keeps (shape : Shape Record) (name : String) (decoder : Decoder α)
    (put : α → Record → Record) : Prop where
  known : ∃ field, shape.fields.find? (fun field => field.name == name) = some field ∧
    ∀ value record, field.enter value record = (decoder value).map fun held => put held record
  again : ∀ first second record, put first (put second record) = put first record
  apart : ∀ field ∈ shape.fields, field.name ≠ name → ∀ held value record,
    field.enter value (put held record) = (field.enter value record).map (put held)

theorem enter_entries_append (shape : Shape Record) (front back : Entries) (record : Record) :
    shape.enterEntries (front ++ back) record =
      (shape.enterEntries front record).bind (shape.enterEntries back) := by
  induction front generalizing record with
  | nil => rfl
  | cons entry front ih =>
      obtain ⟨name, value⟩ := entry
      rw [List.cons_append, enterEntries, enterEntries]
      split
      next field known =>
        cases entered : field.enter value record with
        | error fault => rfl
        | ok record => exact ih record
      next =>
        split
        · exact ih record
        · rfl

theorem Keeps.enter_apart (keeps : shape.Keeps name decoder put) (held : α) {entries : Entries}
    (lacks : entries.Lacks name) (record : Record) :
    shape.enterEntries entries (put held record) =
      (shape.enterEntries entries record).map (put held) := by
  induction entries generalizing record with
  | nil => rfl
  | cons entry rest ih =>
      obtain ⟨other, value⟩ := entry
      obtain ⟨different, later⟩ := not_or.mp (mt List.mem_cons.mpr lacks)
      rw [enterEntries, enterEntries]
      split
      next field known =>
        have named : field.name = other := by simpa using List.find?_some known
        have unlike : field.name ≠ name := by
          rintro rfl
          exact different named
        rw [keeps.apart field (List.mem_of_find?_eq_some known) unlike]
        cases field.enter value record with
        | error fault => rfl
        | ok entered => exact ih later entered
      next =>
        split
        · exact ih later record
        · rfl

theorem Keeps.enter_at (keeps : shape.Keeps name decoder put) (front : Entries) (value : Value)
    {back : Entries} (lacks : back.Lacks name) (record : Record) :
    shape.enterEntries (front ++ (name, value) :: back) record =
      (shape.enterEntries front record).bind fun begun => (decoder value).bind fun held =>
        (shape.enterEntries back begun).map (put held) := by
  obtain ⟨field, known, enters⟩ := keeps.known
  rw [enter_entries_append]
  apply congrArg
  funext begun
  rw [enterEntries, known]
  dsimp only
  rw [enters]
  cases decoder value with
  | error fault => rfl
  | ok held => exact keeps.enter_apart held lacks begun

theorem decode_table_iff {kind : TableKind} {entries : Entries} {record : Record} :
    shape.decoder (.table kind entries) = .ok record ↔
      shape.enterEntries (sorted entries) shape.blank = .ok record ∧
        checkGiven ((sorted entries).map Prod.fst) shape.fields = .ok () := by
  simp only [decoder, Value.entries?, bind, Except.bind]
  cases shape.enterEntries (sorted entries) shape.blank with
  | error fault => simp
  | ok entered =>
      cases checkGiven ((sorted entries).map Prod.fst) shape.fields with
      | error fault => simp
      | ok done => simp [pure, Except.pure]

/-- With another value under the name the record differs in what is put there. -/
theorem Keeps.decode_put (keeps : shape.Keeps name decoder put) {entries : Entries} {value : Value}
    {kind : TableKind} {record : Record} (distinct : (entries.map Prod.fst).Nodup)
    (found : entries.find? name = some value)
    (decodes : shape.decoder (.table kind entries) = .ok record) :
    ∃ held, decoder value = .ok held ∧ put held record = record ∧
      ∀ other again, decoder other = .ok again →
        shape.decoder (.table kind (entries.put name other)) = .ok (put again record) := by
  obtain ⟨front, back, order, reorder, ascending⟩ := sorted_put distinct found
  have lacks : Entries.Lacks back name := by
    intro member
    obtain ⟨entry, later, same⟩ := List.mem_map.mp member
    have below := (List.pairwise_cons.mp (List.pairwise_append.mp ascending).2.1).1 entry later
    rw [same] at below
    exact String.lt_irrefl name below
  obtain ⟨entered, given⟩ := decode_table_iff.mp decodes
  rw [order, keeps.enter_at front value lacks] at entered
  obtain ⟨begun, first, entered⟩ := ok_of_bind entered
  obtain ⟨held, decoded, entered⟩ := ok_of_bind entered
  obtain ⟨ended, last, rfl⟩ := ok_of_map entered
  refine ⟨held, decoded, keeps.again held held ended, ?_⟩
  intro other again decoded
  refine decode_table_iff.mpr ⟨?_, ?_⟩
  · rw [reorder, keeps.enter_at front other lacks, first, keeps.again again held]
    simp only [Except.bind, decoded, last, Except.map]
  · rw [order] at given
    rw [reorder]
    simpa only [List.map_append, List.map_cons] using given

end Shape

section

variable {α : Type} {decoder : Decoder α} {name : String}

theorem decode_entries_append (decoder : Decoder α) (front back : Entries) :
    decodeEntries decoder (front ++ back) =
      (decodeEntries decoder front).bind fun first =>
        (decodeEntries decoder back).map (first ++ ·) := by
  induction front with
  | nil =>
      rw [List.nil_append, decodeEntries]
      cases decodeEntries decoder back <;> rfl
  | cons entry front ih =>
      obtain ⟨name, value⟩ := entry
      rw [List.cons_append, decodeEntries, decodeEntries, ih]
      cases decoder value with
      | error fault => rfl
      | ok held =>
          cases decodeEntries decoder front with
          | error fault => rfl
          | ok first => cases decodeEntries decoder back <;> rfl

theorem decode_entries_names {entries : Entries} {values : List (String × α)}
    (done : decodeEntries decoder entries = .ok values) :
    values.map Prod.fst = entries.map Prod.fst := by
  induction entries generalizing values with
  | nil =>
      cases done
      rfl
  | cons entry rest ih =>
      obtain ⟨name, value⟩ := entry
      obtain ⟨held, -, done⟩ := ok_of_bind done
      obtain ⟨others, later, done⟩ := ok_of_bind done
      cases done
      rw [List.map_cons, List.map_cons, ih later]

theorem mapping_put {entries : Entries} {value : Value} {kind : TableKind} {mapping : Mapping α}
    (distinct : (entries.map Prod.fst).Nodup) (found : entries.find? name = some value)
    (decodes : Decoder.mapping decoder (.table kind entries) = .ok mapping) :
    ∃ held, decoder value = .ok held ∧ mapping.get? name = some held ∧
      ∀ other again, decoder other = .ok again →
        Decoder.mapping decoder (.table kind (entries.put name other)) =
          .ok (mapping.insert name again) := by
  obtain ⟨front, back, order, reorder, ascending⟩ := sorted_put distinct found
  obtain ⟨values, decoded, rfl⟩ := ok_of_map
    (show (decodeEntries decoder (sorted entries)).map Mapping.ofList = .ok mapping from decodes)
  rw [order, decode_entries_append] at decoded
  obtain ⟨first, frontDone, decoded⟩ := ok_of_bind decoded
  obtain ⟨last, tailDone, rfl⟩ := ok_of_map decoded
  obtain ⟨held, done, restDone⟩ := ok_of_bind tailDone
  obtain ⟨behind, backDone, same⟩ := ok_of_bind restDone
  cases same
  have names (value : α) : (first ++ (name, value) :: behind).map Prod.fst =
      (front ++ (name, Value.hugeNumber) :: back).map Prod.fst := by
    simp only [List.map_append, List.map_cons, decode_entries_names frontDone,
      decode_entries_names backDone]
  have listed (value : α) : Ascending (first ++ (name, value) :: behind) := by
    rw [Ascending, ← List.pairwise_map (R := (· < ·))] at ascending ⊢
    rw [names]
    simpa only [List.map_append, List.map_cons] using ascending
  have known : (Mapping.ofList (first ++ (name, held) :: behind)).entries =
      first ++ (name, held) :: behind :=
    Mapping.to_list_of_perm (List.Perm.refl _) (listed held)
  refine ⟨held, done, Mapping.get_entry known, ?_⟩
  intro other again decoded
  have replaced : Mapping.ofList (first ++ (name, again) :: behind) =
      (Mapping.ofList (first ++ (name, held) :: behind)).insert name again := by
    apply Mapping.ext_entries
    change _ = Mapping.insertEntry name again (Mapping.ofList _).entries
    rw [known, Mapping.insert_entry_at again (listed held)]
    exact Mapping.to_list_of_perm (List.Perm.refl _) (listed again)
  have values : decodeEntries decoder (sorted (entries.put name other)) =
      .ok (first ++ (name, again) :: behind) := by
    rw [reorder, decode_entries_append, frontDone]
    simp only [Except.bind, decodeEntries, bind, decoded, backDone, pure, Except.pure, Except.map]
  rw [← replaced]
  exact congrArg (Except.map Mapping.ofList) values

end

end CertSteward.Toml
