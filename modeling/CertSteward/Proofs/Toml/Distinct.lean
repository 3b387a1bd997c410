import CertSteward.Proofs.Toml.Readings
import CertSteward.Proofs.Toml.Tables

/-!
# No table has two entries of one name

Dotted keys and headers change a table at the end of a path, both in the same
way but for the tables that they may pass. Such a change puts values under
names, so names stay distinct, from the tables between braces up to the table
that a text stands for.
-/

namespace CertSteward.Toml

set_option autoImplicit false

namespace Entries

variable {entries : Entries} {name other : String}

theorem find_put_self (entries : Entries) (name : String) (value : Value) :
    (entries.put name value).find? name = some value := by
  induction entries with
  | nil => exact List.lookup_cons_self
  | cons entry rest ih =>
      rw [put]
      split
      · exact List.lookup_cons_self
      next different =>
        obtain ⟨first, held⟩ := entry
        have apart : (name == first) = false := beq_false_of_ne fun same => different same.symm
        unfold find? at ih ⊢
        rw [List.lookup_cons, apart]
        exact ih

theorem find_put_other (apart : other ≠ name) (entries : Entries) (value : Value) :
    (entries.put name value).find? other = entries.find? other := by
  have unlike : (other == name) = false := beq_false_of_ne apart
  induction entries with
  | nil =>
      unfold find?
      rw [put, List.lookup_cons, unlike]
  | cons entry rest ih =>
      obtain ⟨first, held⟩ := entry
      unfold find? at ih ⊢
      rw [put]
      split
      next same =>
        change first = name at same
        rw [List.lookup_cons, List.lookup_cons, unlike, same, unlike]
      next =>
        rw [List.lookup_cons, List.lookup_cons, ih]

theorem put_put (entries : Entries) (name : String) (old value : Value) :
    (entries.put name old).put name value = entries.put name value := by
  induction entries with
  | nil => simp [put]
  | cons entry rest ih =>
      rw [put, put]
      split
      · rw [put, if_pos rfl]
      next different => rw [put, if_neg different, ih]

/-- A value that replaces another may be put before or after one under another name. -/
theorem put_comm {held : Value} (found : entries.find? name = some held) (apart : other ≠ name)
    (value added : Value) :
    (entries.put name value).put other added = (entries.put other added).put name value := by
  induction entries with
  | nil => contradiction
  | cons entry rest ih =>
      obtain ⟨first, known⟩ := entry
      by_cases same : first = name
      · subst same
        simp [put, apart.symm]
      · by_cases hit : first = other
        · subst hit
          simp [put, same]
        · have later : find? rest name = some held := by
            unfold find? at found ⊢
            rwa [List.lookup_cons, beq_false_of_ne fun wrong => same wrong.symm] at found
          simp only [put, same, hit, if_false, ih later]

theorem add_new_eq {added : Entries} {value : Value}
    (done : addNew name value entries = some added) :
    entries.find? name = none ∧ added = entries.put name value := by
  unfold addNew at done
  split at done
  next absent =>
    refine ⟨absent, ?_⟩
    have lacks : entries.Lacks name := by
      intro known
      obtain ⟨entry, member, rfl⟩ := List.mem_map.mp known
      have none_ := List.lookup_eq_none_iff.mp absent entry member
      simp at none_
    rw [put_of_lacks lacks]
    exact (Option.some.inj done).symm
  next => contradiction

theorem add_new_of_absent (absent : entries.find? name = none) (value : Value) :
    addNew name value entries = some (entries.put name value) := by
  have done : addNew name value entries = some (entries ++ [(name, value)]) := by
    rw [addNew, absent]
  rw [done, (add_new_eq done).2]

/-- Which tables may be passed on the way to another. -/
structure Rules where
  /-- The kinds of single tables that may be entered. -/
  admits : TableKind → Bool
  /-- Whether the last of repeated tables may be entered. -/
  repeated : Bool
  /-- The kind of a table that is made on the way. -/
  made : TableKind

def Rules.enter (rules : Rules) : Option Value → Option (Entries × (Entries → Value))
  | none => some ([], .table rules.made)
  | some (.table kind inner) => if rules.admits kind then some (inner, .table kind) else none
  | some (.tables elements) =>
      if rules.repeated then
        elements.getLast?.map fun last =>
          (last, fun changed => .tables (elements.dropLast ++ [changed]))
      else none
  | some _ => none

/-- Changes the table at the end of a path, under rules that know whether the path goes on. -/
def along (rules : Bool → Rules) (change : Entries → Option Entries) :
    List String → Entries → Option Entries
  | [], entries => change entries
  | name :: path, entries => do
      let (inner, rebuild) ← (rules path.isEmpty).enter (entries.find? name)
      let changed ← along rules change path inner
      return entries.put name (rebuild changed)

def keyRules (atEnd : Bool) : Rules where
  admits kind := kind != .inline && kind != .header && (!atEnd || kind == .dotted)
  repeated := !atEnd
  made := .dotted

def headerRules (_ : Bool) : Rules where
  admits kind := kind != .inline
  repeated := true
  made := .implied

theorem along_key_eq (change : Entries → Option Entries) (path : List String)
    (entries : Entries) : alongKey change path entries = along keyRules change path entries := by
  induction path generalizing entries with
  | nil => rfl
  | cons name path ih =>
      rw [alongKey, along]
      cases entries.find? name with
      | none =>
          rw [ih]
          rfl
      | some value =>
          cases value with
          | table kind inner =>
              dsimp only
              rw [ih]
              cases path <;> cases kind <;> rfl
          | tables elements =>
              dsimp only
              cases path with
              | nil => rfl
              | cons next path =>
                  cases found : elements.getLast? with
                  | none =>
                      simp [Rules.enter, keyRules, found]
                  | some last =>
                      simp [Rules.enter, keyRules, found, ih]
          | _ => rfl

theorem along_header_eq (change : Entries → Option Entries) (path : List String)
    (entries : Entries) :
    alongHeader change path entries = along headerRules change path entries := by
  induction path generalizing entries with
  | nil => rfl
  | cons name path ih =>
      rw [alongHeader, along]
      cases entries.find? name with
      | none =>
          rw [ih]
          rfl
      | some value =>
          cases value with
          | table kind inner =>
              dsimp only
              rw [ih]
              cases kind <;> rfl
          | tables elements =>
              cases found : elements.getLast? with
              | none => simp [Rules.enter, headerRules, found]
              | some last => simp [Rules.enter, headerRules, found, ih]
          | _ => rfl

theorem assign_eq (key : Key) (value : Value) :
    (fun entries => assign entries key value) =
      along keyRules (addNew key.name value) key.path := by
  funext entries
  exact along_key_eq (addNew key.name value) key.path entries

theorem add_table_eq (key : Key) (assignments : List (Key × Value)) :
    (fun entries => Outline.addSection entries ⟨.table key, assignments⟩) =
      along headerRules (openTable key.name assignments) key.path := by
  funext entries
  exact along_header_eq (openTable key.name assignments) key.path entries

theorem add_element_eq (key : Key) (assignments : List (Key × Value)) :
    (fun entries => Outline.addSection entries ⟨.element key, assignments⟩) =
      along headerRules (openElement key.name assignments) key.path := by
  funext entries
  exact along_header_eq (openElement key.name assignments) key.path entries

theorem along_cons {rules : Bool → Rules} {change : Entries → Option Entries}
    {path : List String} {changed : Entries} :
    along rules change (name :: path) entries = some changed ↔
      ∃ inner rebuild, (rules path.isEmpty).enter (entries.find? name) = some (inner, rebuild) ∧
        ∃ deeper, along rules change path inner = some deeper ∧
          changed = entries.put name (rebuild deeper) := by
  rw [along]
  constructor
  · intro done
    obtain ⟨⟨inner, rebuild⟩, entered, done⟩ := Option.bind_eq_some_iff.mp done
    obtain ⟨deeper, later, same⟩ := Option.bind_eq_some_iff.mp done
    exact ⟨inner, rebuild, entered, deeper, later, (Option.some.inj same).symm⟩
  · rintro ⟨inner, rebuild, entered, deeper, later, rfl⟩
    exact Option.bind_eq_some_iff.mpr ⟨_, entered, Option.bind_eq_some_iff.mpr ⟨deeper, later, rfl⟩⟩

inductive Entered : Option Value → Entries → (Entries → Value) → Prop where
  | fresh (kind : TableKind) : Entered none [] (.table kind)
  | single (kind : TableKind) (inner : Entries) :
    Entered (some (.table kind inner)) inner (.table kind)
  | last (front : List Entries) (inner : Entries) :
    Entered (some (.tables (front ++ [inner]))) inner fun changed => .tables (front ++ [changed])

theorem entered_of_enter {rules : Rules} {found : Option Value} {inner : Entries}
    {rebuild : Entries → Value} (entered : rules.enter found = some (inner, rebuild)) :
    Entered found inner rebuild := by
  unfold Rules.enter at entered
  split at entered
  next =>
    cases entered
    exact .fresh rules.made
  next kind inner =>
    split at entered
    · cases entered
      exact .single kind inner
    · contradiction
  next elements =>
    split at entered
    · obtain ⟨last, ended, same⟩ := Option.map_eq_some_iff.mp entered
      cases same
      have opened := Entered.last elements.dropLast inner
      rwa [List.dropLast_append_getLast? inner ended] at opened
    · contradiction
  next => contradiction

end Entries

def Value.tabular : Value → Bool
  | .table _ _ => true
  | .tables _ => true
  | _ => false

/-- Whether no table in a value, arrays apart, has two entries of one name. -/
inductive Value.Distinct : Value → Prop where
  | table (kind : TableKind) {entries : Entries} (names : (entries.map Prod.fst).Nodup)
    (inner : ∀ entry ∈ entries, entry.2.Distinct) : Value.Distinct (.table kind entries)
  | tables {elements : List Entries}
    (each : ∀ entries ∈ elements, Value.Distinct (.table .header entries)) :
    Value.Distinct (.tables elements)
  | plain {value : Value} (single : value.tabular = false) : value.Distinct

def Entries.Distinct (entries : Entries) : Prop :=
  (entries.map Prod.fst).Nodup ∧ ∀ entry ∈ entries, entry.2.Distinct

theorem Value.distinct_table {kind : TableKind} {entries : Entries} :
    Value.Distinct (.table kind entries) ↔ entries.Distinct := by
  constructor
  · intro distinct
    cases distinct with
    | table _ names inner => exact ⟨names, inner⟩
    | plain single => contradiction
  · rintro ⟨names, inner⟩
    exact .table kind names inner

theorem Value.distinct_tables {elements : List Entries} :
    Value.Distinct (.tables elements) ↔ ∀ entries ∈ elements, entries.Distinct := by
  constructor
  · intro distinct entries member
    cases distinct with
    | tables each => exact Value.distinct_table.mp (each entries member)
    | plain single => contradiction
  · intro each
    exact .tables fun entries member => Value.distinct_table.mpr (each entries member)

namespace Entries

variable {entries : Entries} {name : String}

theorem distinct_nil : Distinct [] :=
  ⟨List.nodup_nil, fun _ member => absurd member List.not_mem_nil⟩

theorem mem_put {value : Value} {entry : String × Value} (member : entry ∈ entries.put name value) :
    entry = (name, value) ∨ entry ∈ entries := by
  induction entries with
  | nil => exact .inl (List.mem_singleton.mp member)
  | cons first rest ih =>
      rw [put] at member
      split at member
      · obtain same | later := List.mem_cons.mp member
        · exact .inl same
        · exact .inr (List.mem_cons_of_mem first later)
      · obtain rfl | later := List.mem_cons.mp member
        · exact .inr List.mem_cons_self
        · exact (ih later).imp_right (List.mem_cons_of_mem first)

theorem distinct_put {value : Value} (distinct : entries.Distinct) (inner : value.Distinct) :
    (entries.put name value).Distinct := by
  refine ⟨?_, ?_⟩
  · replace distinct := distinct.1
    induction entries with
    | nil => exact List.nodup_cons.mpr ⟨List.not_mem_nil, List.nodup_nil⟩
    | cons first rest ih =>
        obtain ⟨new, later⟩ := List.nodup_cons.mp distinct
        rw [put]
        split
        next same =>
          rw [same] at new
          exact List.nodup_cons.mpr ⟨new, later⟩
        next different =>
          refine List.nodup_cons.mpr ⟨?_, ih later⟩
          intro known
          obtain ⟨entry, member, same⟩ := List.mem_map.mp known
          obtain rfl | earlier := mem_put member
          · exact different same.symm
          · exact new (List.mem_map.mpr ⟨entry, earlier, same⟩)
  · intro entry member
    obtain rfl | earlier := mem_put member
    · exact inner
    · exact distinct.2 entry earlier

theorem distinct_of_find {value : Value} (distinct : entries.Distinct)
    (found : entries.find? name = some value) : value.Distinct := by
  obtain ⟨front, back, rfl, -⟩ := List.lookup_eq_some_iff.mp found
  exact distinct.2 (name, value) (List.mem_append_right front List.mem_cons_self)

theorem distinct_of_entered {found : Option Value} {inner : Entries} {rebuild : Entries → Value}
    (entered : Entered found inner rebuild)
    (distinct : ∀ value, found = some value → value.Distinct) :
    inner.Distinct ∧ ∀ changed : Entries, changed.Distinct → (rebuild changed).Distinct := by
  cases entered with
  | fresh kind => exact ⟨distinct_nil, fun changed known => Value.distinct_table.mpr known⟩
  | single kind inner =>
      exact ⟨Value.distinct_table.mp (distinct _ rfl),
        fun changed known => Value.distinct_table.mpr known⟩
  | last front inner =>
      have each := Value.distinct_tables.mp (distinct _ rfl)
      refine ⟨each inner (List.mem_append_right front List.mem_cons_self), ?_⟩
      intro changed known
      apply Value.distinct_tables.mpr
      intro other member
      obtain earlier | same := List.mem_append.mp member
      · exact each other (List.mem_append_left _ earlier)
      · rwa [List.mem_singleton.mp same]

def Orderly (change : Entries → Option Entries) : Prop :=
  ∀ entries changed : Entries, entries.Distinct → change entries = some changed → changed.Distinct

theorem orderly_along (rules : Bool → Rules) {change : Entries → Option Entries}
    (orderly : Orderly change) (path : List String) : Orderly (along rules change path) := by
  induction path with
  | nil => exact orderly
  | cons name path ih =>
      intro entries changed distinct done
      obtain ⟨inner, rebuild, entered, deeper, later, rfl⟩ := along_cons.mp done
      obtain ⟨inside, rebuilt⟩ := distinct_of_entered (entered_of_enter entered)
        fun value found => distinct_of_find distinct found
      exact distinct_put distinct (rebuilt deeper (ih inner deeper inside later))

theorem orderly_add_new (name : String) {value : Value} (distinct : value.Distinct) :
    Orderly (addNew name value) := by
  intro entries changed known done
  rw [(add_new_eq done).2]
  exact distinct_put known distinct

theorem orderly_assign (key : Key) {value : Value} (distinct : value.Distinct) :
    Orderly fun entries => entries.assign key value := by
  rw [assign_eq]
  exact orderly_along keyRules (orderly_add_new key.name distinct) key.path

theorem assign_all_cons {key : Key} {value : Value} {rest : List (Key × Value)}
    {changed : Entries} :
    entries.assignAll ((key, value) :: rest) = some changed ↔
      ∃ added, entries.assign key value = some added ∧ added.assignAll rest = some changed :=
  Option.bind_eq_some_iff

theorem orderly_assign_all {assignments : List (Key × Value)}
    (distinct : ∀ assignment ∈ assignments, assignment.2.Distinct) :
    Orderly fun entries => entries.assignAll assignments := by
  induction assignments with
  | nil =>
      intro entries changed known done
      rwa [← Option.some.inj done]
  | cons assignment rest ih =>
      intro entries changed known done
      obtain ⟨added, first, later⟩ := assign_all_cons.mp done
      exact ih (fun other member => distinct other (List.mem_cons_of_mem assignment member)) added
        changed
        (orderly_assign _ (distinct assignment List.mem_cons_self) entries added known first) later

/-- The table that a header opens is a new one, or one that was only implied. -/
theorem open_table_iff {assignments : List (Key × Value)} {changed : Entries} :
    entries.openTable name assignments = some changed ↔
      ∃ inner : Entries, (entries.find? name = none ∧ inner = [] ∨
          entries.find? name = some (.table .implied inner)) ∧
        ∃ filled, inner.assignAll assignments = some filled ∧
          changed = entries.put name (.table .header filled) := by
  constructor
  · intro done
    unfold openTable at done
    split at done
    next absent =>
      obtain ⟨filled, made, same⟩ := Option.bind_eq_some_iff.mp done
      exact ⟨[], .inl ⟨absent, rfl⟩, filled, made, (Option.some.inj same).symm⟩
    next inner implied =>
      obtain ⟨filled, made, same⟩ := Option.bind_eq_some_iff.mp done
      exact ⟨inner, .inr implied, filled, made, (Option.some.inj same).symm⟩
    next => contradiction
  · rintro ⟨inner, ⟨absent, rfl⟩ | implied, filled, made, rfl⟩
    · rw [openTable, absent]
      exact Option.bind_eq_some_iff.mpr ⟨filled, made, rfl⟩
    · rw [openTable, implied]
      exact Option.bind_eq_some_iff.mpr ⟨filled, made, rfl⟩

theorem open_element_iff {assignments : List (Key × Value)} {changed : Entries} :
    entries.openElement name assignments = some changed ↔
      ∃ filled, assignAll [] assignments = some filled ∧
        ∃ elements : List Entries, (entries.find? name = none ∧ elements = [] ∨
            entries.find? name = some (.tables elements)) ∧
          changed = entries.put name (.tables (elements ++ [filled])) := by
  constructor
  · intro done
    obtain ⟨filled, made, done⟩ := Option.bind_eq_some_iff.mp done
    refine ⟨filled, made, ?_⟩
    split at done
    next absent => exact ⟨[], .inl ⟨absent, rfl⟩, (Option.some.inj done).symm⟩
    next elements known => exact ⟨elements, .inr known, (Option.some.inj done).symm⟩
    next => contradiction
  · rintro ⟨filled, made, elements, ⟨absent, rfl⟩ | known, rfl⟩
    · refine Option.bind_eq_some_iff.mpr ⟨filled, made, ?_⟩
      rw [absent]
      rfl
    · refine Option.bind_eq_some_iff.mpr ⟨filled, made, ?_⟩
      rw [known]
      rfl

theorem orderly_open_table (name : String) {assignments : List (Key × Value)}
    (distinct : ∀ assignment ∈ assignments, assignment.2.Distinct) :
    Orderly (openTable name assignments) := by
  intro entries changed known done
  obtain ⟨inner, found, filled, made, rfl⟩ := open_table_iff.mp done
  have inside : inner.Distinct := by
    obtain ⟨-, rfl⟩ | implied := found
    · exact distinct_nil
    · exact Value.distinct_table.mp (distinct_of_find known implied)
  exact distinct_put known
    (Value.distinct_table.mpr (orderly_assign_all distinct inner filled inside made))

theorem orderly_open_element (name : String) {assignments : List (Key × Value)}
    (distinct : ∀ assignment ∈ assignments, assignment.2.Distinct) :
    Orderly (openElement name assignments) := by
  intro entries changed known done
  obtain ⟨filled, made, elements, found, rfl⟩ := open_element_iff.mp done
  have earlier : ∀ element ∈ elements, element.Distinct := by
    obtain ⟨-, rfl⟩ | repeated := found
    · exact fun _ member => absurd member List.not_mem_nil
    · exact Value.distinct_tables.mp (distinct_of_find known repeated)
  apply distinct_put known
  apply Value.distinct_tables.mpr
  intro element member
  obtain old | new := List.mem_append.mp member
  · exact earlier element old
  · rw [List.mem_singleton.mp new]
    exact orderly_assign_all distinct [] filled distinct_nil made

end Entries

namespace Outline

open Entries (Orderly)

theorem orderly_add_section {part : Section}
    (distinct : ∀ assignment ∈ part.assignments, assignment.2.Distinct) :
    Orderly fun entries => addSection entries part := by
  obtain ⟨key | key, assignments⟩ := part
  · rw [Entries.add_table_eq]
    exact Entries.orderly_along _ (Entries.orderly_open_table key.name distinct) key.path
  · rw [Entries.add_element_eq]
    exact Entries.orderly_along _ (Entries.orderly_open_element key.name distinct) key.path

theorem add_sections_cons {entries changed : Entries} {part : Section} {rest : List Section} :
    addSections entries (part :: rest) = some changed ↔
      ∃ added, addSection entries part = some added ∧ addSections added rest = some changed :=
  Option.bind_eq_some_iff

theorem orderly_add_sections {parts : List Section}
    (distinct : ∀ part ∈ parts, ∀ assignment ∈ part.assignments, assignment.2.Distinct) :
    Orderly fun entries => addSections entries parts := by
  induction parts with
  | nil =>
      intro entries changed known done
      rwa [← Option.some.inj done]
  | cons part rest ih =>
      intro entries changed known done
      obtain ⟨added, first, later⟩ := add_sections_cons.mp done
      exact ih (fun other member => distinct other (List.mem_cons_of_mem part member)) added changed
        (orderly_add_section (distinct part List.mem_cons_self) entries added known first) later

def Distinct (outline : Outline) : Prop :=
  (∀ assignment ∈ outline.assignments, assignment.2.Distinct) ∧
    ∀ part ∈ outline.sections, ∀ assignment ∈ part.assignments, assignment.2.Distinct

theorem distinct_entries {outline : Outline} {entries : Entries} (distinct : outline.Distinct)
    (made : outline.entries? = some entries) : entries.Distinct := by
  obtain ⟨root, first, later⟩ := Option.bind_eq_some_iff.mp made
  have begun := Entries.orderly_assign_all distinct.1 [] root Entries.distinct_nil first
  exact orderly_add_sections distinct.2 root entries begun later

end Outline

theorem integer_plain (value : Int) : (integer value).tabular = false := by
  unfold integer
  split <;> rfl

theorem integer_word_plain {word : List Char} {value : Value}
    (known : integerWord? word = some value) : value.tabular = false := by
  unfold integerWord? at known
  split at known
  all_goals
    obtain ⟨digits, -, rfl⟩ := Option.map_eq_some_iff.mp known
    exact integer_plain _

theorem real_word_plain {word : List Char} {value : Value}
    (known : realWord? word = some value) : value.tabular = false := by
  unfold realWord? at known
  simp only [Option.bind_eq_bind, Option.pure_def] at known
  split at known
  · cases known
    rfl
  split at known
  · cases known
    rfl
  split at known
  · contradiction
  obtain ⟨whole, -, known⟩ := Option.bind_eq_some_iff.mp known
  obtain ⟨fraction, -, known⟩ := Option.bind_eq_some_iff.mp known
  obtain ⟨power, -, known⟩ := Option.bind_eq_some_iff.mp known
  split at known <;>
  · cases known
    rfl

theorem datetime_word_plain {word : List Char} {value : Value}
    (known : datetimeWord? word = some value) : value.tabular = false := by
  unfold datetimeWord? at known
  split at known
  · obtain rfl := Option.some.inj known
    rfl
  · contradiction

theorem word_plain {word : List Char} {value : Value} (known : wordValue? word = some value) :
    value.tabular = false := by
  unfold wordValue? at known
  split at known
  · obtain rfl := Option.some.inj known
    rfl
  split at known
  · obtain rfl := Option.some.inj known
    rfl
  cases whole : integerWord? word with
  | some number =>
      rw [whole] at known
      obtain rfl := Option.some.inj known
      exact integer_word_plain whole
  | none =>
      rw [whole] at known
      cases fraction : realWord? word with
      | some number =>
          rw [fraction] at known
          obtain rfl := Option.some.inj known
          exact real_word_plain fraction
      | none =>
          rw [fraction] at known
          exact datetime_word_plain known

theorem distinct_values (fuel : Nat) :
    (∀ depth value input rest, readValue fuel depth input = some (value, rest) →
        value.Distinct) ∧
      ∀ depth assignments input rest, readAssignments fuel depth input = some (assignments, rest) →
        ∀ assignment ∈ assignments, assignment.2.Distinct := by
  induction fuel with
  | zero =>
      refine ⟨?_, ?_⟩
      all_goals
        intro depth found input rest read
        contradiction
  | succ fuel ih =>
      obtain ⟨values, members⟩ := ih
      refine ⟨?_, ?_⟩
      · intro depth value input rest read
        obtain ⟨inside, items, -, -, -, rfl⟩ |
          ⟨inside, assignments, entries, -, -, found, made, rfl⟩ | ⟨text, -, rfl⟩ | word :=
            read_value_succ.mp read
        · exact .plain rfl
        · have given := members _ _ _ _ found
          exact Value.distinct_table.mpr
            (Entries.orderly_assign_all given [] entries Entries.distinct_nil made)
        · exact .plain rfl
        · obtain ⟨found, known, same⟩ := Option.map_eq_some_iff.mp word
          cases same
          exact .plain (word_plain known)
      · intro depth assignments input rest read
        obtain ⟨start, -, ⟨-, rfl⟩ | ⟨key, equals, -, given, -, value, behind, found, mark, -,
          ⟨next, -, tail, later, rfl⟩ | ⟨-, rfl⟩⟩⟩ := read_assignments_succ.mp read
        · intro assignment member
          exact absurd member List.not_mem_nil
        · intro assignment member
          obtain rfl | further := List.mem_cons.mp member
          · exact values _ _ _ _ found
          · exact members _ _ _ _ later assignment further
        · intro assignment member
          obtain rfl := List.mem_singleton.mp member
          exact values _ _ _ _ found

theorem distinct_lines {fuel : Nat} {input : List Char} {outline : Outline}
    (read : readLines fuel input = some outline) : outline.Distinct := by
  induction fuel generalizing input outline with
  | zero => contradiction
  | succ fuel ih =>
      obtain ⟨start, -, ⟨-, rfl⟩ | ⟨header, next, -, inner, later, rfl⟩ |
        ⟨⟨key, value⟩, next, found, inner, later, rfl⟩⟩ := read_lines_succ.mp read
      · refine ⟨?_, ?_⟩
        all_goals
          intro member known
          exact absurd known List.not_mem_nil
      · obtain ⟨front, sections⟩ := ih later
        refine ⟨fun _ member => absurd member List.not_mem_nil, ?_⟩
        intro part member
        obtain rfl | further := List.mem_cons.mp member
        · exact front
        · exact sections part further
      · obtain ⟨front, sections⟩ := ih later
        refine ⟨?_, sections⟩
        intro assignment member
        obtain rfl | further := List.mem_cons.mp member
        · obtain ⟨equals, -, given, -, behind, settled, -⟩ := read_assignment_iff.mp found
          exact (distinct_values _).1 _ _ _ _ (settled.2 (given.length + 1) (by omega))
        · exact front assignment further

/-- No table of a text that can be read gives two values to one name. -/
theorem distinct_of_read {input : List Char} {entries : Entries}
    (reads : read input = some entries) : entries.Distinct := by
  obtain ⟨outline, found, made⟩ := Option.bind_eq_some_iff.mp reads
  exact Outline.distinct_entries (distinct_lines found) made

end CertSteward.Toml
