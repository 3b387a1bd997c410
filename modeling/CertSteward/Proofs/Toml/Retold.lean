import CertSteward.Proofs.Toml.Distinct

/-!
# Tables that differ in one text

Two tables may be the same but for the text under one path of names. A change
that is made to one of them can be made to the other, and keeps the difference
where it is; and assignments that differ in a text make such tables.
-/

namespace CertSteward.Toml

set_option autoImplicit false

inductive Value.Retold (new : String) : List String → Value → Value → Prop where
  | text (old : String) : Value.Retold new [] (.text old) (.text new)
  | table (kind : TableKind) {entries : Entries} {name : String} {path : List String}
    {value other : Value} (found : entries.find? name = some value)
    (inner : Value.Retold new path value other) :
    Value.Retold new (name :: path) (.table kind entries) (.table kind (entries.put name other))
  | element (front back : List Entries) {path : List String} {entries other : Entries}
    (inner : Value.Retold new path (.table .header entries) (.table .header other)) :
    Value.Retold new path (.tables (front ++ entries :: back)) (.tables (front ++ other :: back))

def Entries.Retold (new : String) (path : List String) (entries other : Entries) : Prop :=
  Value.Retold new path (.table .header entries) (.table .header other)

variable {new : String} {path : List String}

theorem Value.retold_table_iff {kind : TableKind} {entries : Entries} {other : Value} :
    Value.Retold new path (.table kind entries) other ↔
      ∃ name rest value retold, path = name :: rest ∧ entries.find? name = some value ∧
        Value.Retold new rest value retold ∧ other = .table kind (entries.put name retold) := by
  constructor
  · intro told
    cases told with
    | table _ found inner => exact ⟨_, _, _, _, rfl, found, inner, rfl⟩
  · rintro ⟨name, rest, value, retold, rfl, found, inner, rfl⟩
    exact .table kind found inner

theorem Entries.retold_iff {entries other : Entries} :
    entries.Retold new path other ↔
      ∃ name rest value retold, path = name :: rest ∧ entries.find? name = some value ∧
        Value.Retold new rest value retold ∧ other = entries.put name retold := by
  refine Value.retold_table_iff.trans ?_
  simp only [Value.table.injEq, true_and]

theorem Value.retold_of_entries (kind : TableKind) {entries other : Entries}
    (told : entries.Retold new path other) :
    Value.Retold new path (.table kind entries) (.table kind other) := by
  obtain ⟨name, rest, value, retold, rfl, found, inner, rfl⟩ := Entries.retold_iff.mp told
  exact .table kind found inner

namespace Entries

variable {entries other : Entries} {name : String}

theorem retold_put (name : String) {value retold : Value}
    (told : Value.Retold new path value retold) :
    (entries.put name value).Retold new (name :: path) (entries.put name retold) := by
  have again := Value.Retold.table .header (find_put_self entries name value) told
  rwa [put_put] at again

theorem retold_put_apart {rest : List String} {value retold : Value}
    (found : entries.find? name = some value) (told : Value.Retold new rest value retold)
    {beside : String} (apart : beside ≠ name) (added : Value) :
    (entries.put beside added).Retold new (name :: rest)
      ((entries.put name retold).put beside added) := by
  rw [put_comm found apart]
  refine Value.Retold.table .header ?_ told
  rw [find_put_other apart.symm]
  exact found

/-- What is entered is told the same way, or the difference lies outside. -/
theorem retold_enter {rules : Rules} {value retold : Value} {inner : Entries}
    {rebuild : Entries → Value} (entered : rules.enter (some value) = some (inner, rebuild))
    (told : Value.Retold new path value retold) :
    ∃ inside rebuilt, rules.enter (some retold) = some (inside, rebuilt) ∧
      ((inner.Retold new path inside ∧ ∀ changed again : Entries, changed.Retold new path again →
          Value.Retold new path (rebuild changed) (rebuilt again)) ∨
        (inside = inner ∧
          ∀ changed, Value.Retold new path (rebuild changed) (rebuilt changed))) := by
  cases told with
  | text old => contradiction
  | table kind found deeper =>
      unfold Rules.enter at entered ⊢
      dsimp only at entered ⊢
      split at entered
      next admitted =>
        cases entered
        refine ⟨_, _, if_pos admitted, .inl ⟨.table .header found deeper, ?_⟩⟩
        intro changed again later
        exact Value.retold_of_entries kind later
      next => contradiction
  | element front back deeper =>
      rename_i element again
      unfold Rules.enter at entered ⊢
      dsimp only at entered ⊢
      split at entered
      next admitted =>
        rw [if_pos admitted]
        obtain ⟨last, ended, same⟩ := Option.map_eq_some_iff.mp entered
        cases same
        -- The difference is in the last table, which is entered, or in one before it.
        obtain rfl | ⟨before, final, rfl⟩ := List.eq_nil_or_concat back
        · rw [List.getLast?_concat] at ended
          obtain rfl := Option.some.inj ended
          refine ⟨again, fun changed => .tables (front ++ [changed]), ?_, .inl ⟨deeper, ?_⟩⟩
          · rw [List.getLast?_concat, List.dropLast_concat]
            rfl
          · intro changed later told
            rw [List.dropLast_concat]
            exact .element front [] told
        · have regroup (table : Entries) :
              front ++ table :: before.concat final = (front ++ table :: before) ++ [final] := by
            simp
          simp only [regroup, List.getLast?_concat, List.dropLast_concat] at ended ⊢
          obtain rfl := Option.some.inj ended
          refine ⟨final, fun changed => .tables ((front ++ again :: before) ++ [changed]), rfl,
            .inr ⟨rfl, ?_⟩⟩
          intro changed
          simp only [List.append_assoc, List.cons_append]
          exact .element front (before ++ [changed]) deeper
      next => contradiction

/-- Whether a change goes the same way in two tables that differ in a text. -/
def Carries (new : String) (change : Entries → Option Entries) : Prop :=
  ∀ path (entries other changed : Entries), entries.Retold new path other →
    change entries = some changed → ∃ again, change other = some again ∧
      changed.Retold new path again

def Plants (new : String) (path : List String) (change other : Entries → Option Entries) : Prop :=
  ∀ entries changed, change entries = some changed → ∃ again, other entries = some again ∧
    changed.Retold new path again

theorem carries_along (rules : Bool → Rules) {change : Entries → Option Entries}
    (carries : Carries new change) (route : List String) :
    Carries new (along rules change route) := by
  induction route with
  | nil => exact carries
  | cons step route ih =>
      intro path entries other changed told done
      obtain ⟨inner, rebuild, entered, deeper, later, rfl⟩ := along_cons.mp done
      obtain ⟨name, rest, value, retold, rfl, found, inside, rfl⟩ := retold_iff.mp told
      by_cases same : step = name
      · subst same
        rw [found] at entered
        obtain ⟨inner', rebuilt, entered', within | ⟨rfl, outside⟩⟩ := retold_enter entered inside
        · obtain ⟨again, later', further⟩ := ih rest inner inner' deeper within.1 later
          refine ⟨_, along_cons.mpr ⟨inner', rebuilt, ?_, again, later', rfl⟩, ?_⟩
          · rw [find_put_self]
            exact entered'
          · rw [put_put]
            exact retold_put step (within.2 deeper again further)
        · refine ⟨_, along_cons.mpr ⟨inner', rebuilt, ?_, deeper, later, rfl⟩, ?_⟩
          · rw [find_put_self]
            exact entered'
          · rw [put_put]
            exact retold_put step (outside deeper)
      · refine ⟨_, along_cons.mpr ⟨inner, rebuild, ?_, deeper, later, rfl⟩, ?_⟩
        · rw [find_put_other same]
          exact entered
        · exact retold_put_apart found inside same (rebuild deeper)

theorem retold_rebuilt {found : Option Value} {inner : Entries} {rebuild : Entries → Value}
    (entered : Entered found inner rebuild) {changed again : Entries}
    (told : changed.Retold new path again) :
    Value.Retold new path (rebuild changed) (rebuild again) := by
  cases entered with
  | fresh kind => exact Value.retold_of_entries kind told
  | single kind inner => exact Value.retold_of_entries kind told
  | last front inner => exact .element front [] told

theorem plants_along (rules : Bool → Rules) {change other : Entries → Option Entries}
    (plants : Plants new path change other) (route : List String) :
    Plants new (route ++ path) (along rules change route) (along rules other route) := by
  induction route with
  | nil => exact plants
  | cons name route ih =>
      intro entries changed done
      obtain ⟨inner, rebuild, entered, deeper, later, rfl⟩ := along_cons.mp done
      obtain ⟨again, further, told⟩ := ih inner deeper later
      refine ⟨_, along_cons.mpr ⟨inner, rebuild, entered, again, further, rfl⟩, ?_⟩
      exact retold_put name (retold_rebuilt (entered_of_enter entered) told)

theorem carries_add_new (name : String) (value : Value) : Carries new (addNew name value) := by
  intro path entries other changed told done
  obtain ⟨absent, rfl⟩ := add_new_eq done
  obtain ⟨first, rest, held, retold, rfl, found, inside, rfl⟩ := retold_iff.mp told
  have apart : name ≠ first := by
    rintro rfl
    rw [absent] at found
    contradiction
  refine ⟨_, add_new_of_absent ?_ value, ?_⟩
  · rw [find_put_other apart]
    exact absent
  · exact retold_put_apart found inside apart value

theorem carries_assign (key : Key) (value : Value) :
    Carries new fun entries => entries.assign key value := by
  rw [assign_eq]
  exact carries_along keyRules (carries_add_new key.name value) key.path

theorem carries_assign_all (assignments : List (Key × Value)) :
    Carries new fun entries => entries.assignAll assignments := by
  induction assignments with
  | nil =>
      intro path entries other changed told done
      obtain rfl := Option.some.inj done
      exact ⟨other, rfl, told⟩
  | cons assignment rest ih =>
      intro path entries other changed told done
      obtain ⟨added, first, later⟩ := assign_all_cons.mp done
      obtain ⟨again, first', told'⟩ := carries_assign _ _ path entries other added told first
      obtain ⟨final, later', told'⟩ := ih path added again changed told' later
      exact ⟨final, assign_all_cons.mpr ⟨again, first', later'⟩, told'⟩

theorem plants_add_new (name : String) {value retold : Value}
    (told : Value.Retold new path value retold) :
    Plants new (name :: path) (addNew name value) (addNew name retold) := by
  intro entries changed done
  obtain ⟨absent, rfl⟩ := add_new_eq done
  exact ⟨_, add_new_of_absent absent retold, retold_put name told⟩

theorem plants_assign (key : Key) {value retold : Value}
    (told : Value.Retold new path value retold) :
    Plants new (key.path ++ key.name :: path) (fun entries => entries.assign key value)
      fun entries => entries.assign key retold := by
  rw [assign_eq, assign_eq]
  exact plants_along keyRules (plants_add_new key.name told) key.path

end Entries

def AssignmentsRetold (new : String) (path : List String) (given other : List (Key × Value)) :
    Prop :=
  ∃ front key value retold back rest, given = front ++ (key, value) :: back ∧
    other = front ++ (key, retold) :: back ∧ path = key.path ++ key.name :: rest ∧
      Value.Retold new rest value retold

theorem AssignmentsRetold.first {key : Key} {value retold : Value}
    (told : Value.Retold new path value retold) (back : List (Key × Value)) :
    AssignmentsRetold new (key.path ++ key.name :: path) ((key, value) :: back)
      ((key, retold) :: back) :=
  ⟨[], key, value, retold, back, path, rfl, rfl, rfl, told⟩

theorem AssignmentsRetold.behind {given other : List (Key × Value)}
    (told : AssignmentsRetold new path given other) (assignment : Key × Value) :
    AssignmentsRetold new path (assignment :: given) (assignment :: other) := by
  obtain ⟨front, key, value, retold, back, rest, rfl, rfl, same, told⟩ := told
  exact ⟨assignment :: front, key, value, retold, back, rest, rfl, rfl, same, told⟩

namespace Entries

theorem plants_assign_all {given other : List (Key × Value)}
    (told : AssignmentsRetold new path given other) :
    Plants new path (fun entries => entries.assignAll given) fun entries =>
      entries.assignAll other := by
  obtain ⟨front, key, value, retold, back, rest, rfl, rfl, rfl, told⟩ := told
  induction front with
  | nil =>
      intro entries changed done
      obtain ⟨added, first, later⟩ := assign_all_cons.mp done
      obtain ⟨again, first', told'⟩ := plants_assign key told entries added first
      obtain ⟨final, later', told'⟩ := carries_assign_all back _ added again changed told' later
      exact ⟨final, assign_all_cons.mpr ⟨again, first', later'⟩, told'⟩
  | cons assignment front ih =>
      intro entries changed done
      obtain ⟨added, first, later⟩ := assign_all_cons.mp done
      obtain ⟨again, later', told'⟩ := ih added changed later
      exact ⟨again, assign_all_cons.mpr ⟨added, first, later'⟩, told'⟩

theorem carries_open_table (name : String) (assignments : List (Key × Value)) :
    Carries new (openTable name assignments) := by
  intro path entries other changed told done
  obtain ⟨inner, found, filled, made, rfl⟩ := open_table_iff.mp done
  obtain ⟨first, rest, held, retold, rfl, known, inside, rfl⟩ := retold_iff.mp told
  by_cases same : name = first
  · subst same
    obtain ⟨absent, -⟩ | implied := found
    · rw [absent] at known
      contradiction
    rw [implied] at known
    obtain rfl := Option.some.inj known
    obtain ⟨deep, more, value, again, rfl, deeper, told', rfl⟩ := Value.retold_table_iff.mp inside
    have within : inner.Retold new (deep :: more) (inner.put deep again) :=
      .table .header deeper told'
    obtain ⟨final, made', told'⟩ := carries_assign_all assignments _ _ _ _ within made
    refine ⟨_, open_table_iff.mpr ⟨_, .inr (find_put_self _ _ _), final, made', rfl⟩, ?_⟩
    rw [put_put]
    exact retold_put name (Value.retold_of_entries .header told')
  · refine ⟨_, open_table_iff.mpr ⟨inner, ?_, filled, made, rfl⟩, ?_⟩
    · rw [find_put_other same]
      exact found
    · exact retold_put_apart known inside same _

theorem carries_open_element (name : String) (assignments : List (Key × Value)) :
    Carries new (openElement name assignments) := by
  intro path entries other changed told done
  obtain ⟨filled, made, elements, found, rfl⟩ := open_element_iff.mp done
  obtain ⟨first, rest, held, retold, rfl, known, inside, rfl⟩ := retold_iff.mp told
  by_cases same : name = first
  · subst same
    obtain ⟨absent, -⟩ | repeated := found
    · rw [absent] at known
      contradiction
    rw [repeated] at known
    obtain rfl := Option.some.inj known
    cases inside with
    | element front back deeper =>
        rename_i element again
        refine ⟨_, open_element_iff.mpr ⟨filled, made, front ++ again :: back,
          .inr (find_put_self _ _ _), rfl⟩, ?_⟩
        rw [put_put]
        apply retold_put name
        simp only [List.append_assoc, List.cons_append]
        exact .element front (back ++ [filled]) deeper
  · refine ⟨_, open_element_iff.mpr ⟨filled, made, elements, ?_, rfl⟩, ?_⟩
    · rw [find_put_other same]
      exact found
    · exact retold_put_apart known inside same _

theorem plants_open_table (name : String) {given other : List (Key × Value)}
    (told : AssignmentsRetold new path given other) :
    Plants new (name :: path) (openTable name given) (openTable name other) := by
  intro entries changed done
  obtain ⟨inner, found, filled, made, rfl⟩ := open_table_iff.mp done
  obtain ⟨again, made', told'⟩ := plants_assign_all told inner filled made
  exact ⟨_, open_table_iff.mpr ⟨inner, found, again, made', rfl⟩,
    retold_put name (Value.retold_of_entries .header told')⟩

theorem plants_open_element (name : String) {given other : List (Key × Value)}
    (told : AssignmentsRetold new path given other) :
    Plants new (name :: path) (openElement name given) (openElement name other) := by
  intro entries changed done
  obtain ⟨filled, made, elements, found, rfl⟩ := open_element_iff.mp done
  obtain ⟨again, made', told'⟩ := plants_assign_all told [] filled made
  exact ⟨_, open_element_iff.mpr ⟨again, made', elements, found, rfl⟩,
    retold_put name (.element elements [] told')⟩

end Entries

def Header.names : Header → List String
  | .table key => key.path ++ [key.name]
  | .element key => key.path ++ [key.name]

namespace Outline

open Entries (Carries Plants)

theorem carries_add_section (part : Section) :
    Carries new fun entries => addSection entries part := by
  obtain ⟨key | key, assignments⟩ := part
  · rw [Entries.add_table_eq]
    exact Entries.carries_along _ (Entries.carries_open_table key.name assignments) key.path
  · rw [Entries.add_element_eq]
    exact Entries.carries_along _ (Entries.carries_open_element key.name assignments) key.path

theorem plants_add_section (header : Header) {given other : List (Key × Value)}
    (told : AssignmentsRetold new path given other) :
    Plants new (header.names ++ path) (fun entries => addSection entries ⟨header, given⟩)
      fun entries => addSection entries ⟨header, other⟩ := by
  cases header with
  | table key =>
      rw [Entries.add_table_eq, Entries.add_table_eq, Header.names, List.append_assoc]
      exact Entries.plants_along _ (Entries.plants_open_table key.name told) key.path
  | element key =>
      rw [Entries.add_element_eq, Entries.add_element_eq, Header.names, List.append_assoc]
      exact Entries.plants_along _ (Entries.plants_open_element key.name told) key.path

theorem carries_add_sections (parts : List Section) :
    Carries new fun entries => addSections entries parts := by
  induction parts with
  | nil =>
      intro path entries other changed told done
      obtain rfl := Option.some.inj done
      exact ⟨other, rfl, told⟩
  | cons part rest ih =>
      intro path entries other changed told done
      obtain ⟨added, first, later⟩ := add_sections_cons.mp done
      obtain ⟨again, first', told'⟩ := carries_add_section part path entries other added told first
      obtain ⟨final, later', told'⟩ := ih path added again changed told' later
      exact ⟨final, add_sections_cons.mpr ⟨again, first', later'⟩, told'⟩

/-- Whether two outlines differ in a text that an assignment gives; those before the first header
belong to the names given. -/
inductive Retold (new : String) (owner : List String) : List String → Outline → Outline → Prop where
  | front {path : List String} {given other : List (Key × Value)} (sections : List Section)
    (told : AssignmentsRetold new path given other) :
    Retold new owner (owner ++ path) ⟨given, sections⟩ ⟨other, sections⟩
  | part (assignments : List (Key × Value)) (before after : List Section) (header : Header)
    {path : List String} {given other : List (Key × Value)}
    (told : AssignmentsRetold new path given other) :
    Retold new owner (header.names ++ path) ⟨assignments, before ++ ⟨header, given⟩ :: after⟩
      ⟨assignments, before ++ ⟨header, other⟩ :: after⟩

theorem Retold.behind {owner : List String} {outline other : Outline}
    (told : Retold new owner path outline other) (assignment : Key × Value) :
    Retold new owner path ⟨assignment :: outline.assignments, outline.sections⟩
      ⟨assignment :: other.assignments, other.sections⟩ := by
  cases told with
  | front sections told => exact .front sections (told.behind assignment)
  | part assignments before after header told =>
      exact .part (assignment :: assignments) before after header told

theorem Retold.under {outline other : Outline} {header : Header}
    (told : Retold new header.names path outline other) (owner : List String) :
    Retold new owner path ⟨[], ⟨header, outline.assignments⟩ :: outline.sections⟩
      ⟨[], ⟨header, other.assignments⟩ :: other.sections⟩ := by
  cases told with
  | front sections told => exact .part [] [] sections header told
  | part assignments before after below told =>
      exact .part [] (⟨header, assignments⟩ :: before) after below told

theorem plants_add_sections {header : Header} {given other : List (Key × Value)}
    (told : AssignmentsRetold new path given other) (before after : List Section) :
    Plants new (header.names ++ path)
      (fun entries => addSections entries (before ++ ⟨header, given⟩ :: after))
      fun entries => addSections entries (before ++ ⟨header, other⟩ :: after) := by
  induction before with
  | nil =>
      intro entries changed done
      obtain ⟨added, first, later⟩ := add_sections_cons.mp done
      obtain ⟨again, first', told'⟩ := plants_add_section header told entries added first
      obtain ⟨final, later', told'⟩ := carries_add_sections after _ added again changed told' later
      exact ⟨final, add_sections_cons.mpr ⟨again, first', later'⟩, told'⟩
  | cons part before ih =>
      intro entries changed done
      obtain ⟨added, first, later⟩ := add_sections_cons.mp done
      obtain ⟨again, later', told'⟩ := ih added changed later
      exact ⟨again, add_sections_cons.mpr ⟨added, first, later'⟩, told'⟩

/-- Outlines that differ in a text make tables that differ in it. -/
theorem retold_entries {outline other : Outline} {entries : Entries}
    (told : Retold new [] path outline other) (made : outline.entries? = some entries) :
    ∃ again, other.entries? = some again ∧ entries.Retold new path again := by
  obtain ⟨root, first, later⟩ := Option.bind_eq_some_iff.mp made
  cases told with
  | front sections told =>
      obtain ⟨root', first', told'⟩ := Entries.plants_assign_all told [] root first
      obtain ⟨again, later', told'⟩ :=
        carries_add_sections sections _ root root' entries told' later
      exact ⟨again, Option.bind_eq_some_iff.mpr ⟨root', first', later'⟩, told'⟩
  | part assignments before after header told =>
      obtain ⟨again, later', told'⟩ := plants_add_sections told before after root entries later
      exact ⟨again, Option.bind_eq_some_iff.mpr ⟨root, first, later'⟩, told'⟩

end Outline

end CertSteward.Toml
