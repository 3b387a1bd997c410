import CertSteward.Mapping
import Mathlib.Data.List.Nodup
import Mathlib.Data.List.Perm.Basic

/-!
# Maps by what they hold under each name

A map is told by what it holds under each name. A list of entries with different
names leaves behind the map of these entries, in whatever order they come, and
what is put in or taken out changes one name.
-/

namespace CertSteward.Mapping

set_option autoImplicit false

variable {α : Type}

theorem insert_entry_perm {name : String} (value : α) {entries : List (String × α)}
    (fresh : ∀ entry ∈ entries, entry.1 ≠ name) :
    (insertEntry name value entries).Perm ((name, value) :: entries) := by
  induction entries with
  | nil => exact List.Perm.refl _
  | cons head rest ih =>
      have later := ih fun entry member => fresh entry (List.mem_cons_of_mem head member)
      rw [insertEntry]
      split
      · exact List.Perm.refl _
      split
      · exact (later.cons head).trans (List.Perm.swap (name, value) head rest)
      · rename_i notBelow notAbove
        exact absurd (name_eq_of_not_lt notBelow notAbove).symm (fresh head List.mem_cons_self)

theorem fold_insert_perm {entries : List (String × α)} (mapping : Mapping α)
    (distinct : (entries.map Prod.fst).Nodup)
    (apart : ∀ entry ∈ entries, ∀ other ∈ mapping.entries, other.1 ≠ entry.1) :
    (entries.foldl (fun mapping entry => mapping.insert entry.1 entry.2) mapping).entries.Perm
      (mapping.entries ++ entries) := by
  induction entries generalizing mapping with
  | nil => rw [List.append_nil]; exact List.Perm.refl _
  | cons entry rest ih =>
      obtain ⟨new, distinct⟩ := List.nodup_cons.mp distinct
      have inserted := insert_entry_perm entry.2 (apart entry List.mem_cons_self)
      have others : ∀ later ∈ rest, ∀ other ∈ (mapping.insert entry.1 entry.2).entries,
          other.1 ≠ later.1 := by
        intro later member other known
        obtain rfl | earlier := mem_insert_entry known
        · intro same
          exact new (List.mem_map.mpr ⟨later, member, same.symm⟩)
        · exact apart later (List.mem_cons_of_mem entry member) other earlier
      have grown := (ih (mapping.insert entry.1 entry.2) distinct others).trans
        (inserted.append_right rest)
      exact grown.trans List.perm_middle.symm

theorem of_list_perm {entries : List (String × α)} (distinct : (entries.map Prod.fst).Nodup) :
    (ofList entries).entries.Perm entries :=
  fold_insert_perm empty distinct fun _ _ _ known => absurd known List.not_mem_nil

theorem distinct_names (mapping : Mapping α) : (mapping.entries.map Prod.fst).Nodup := by
  rw [List.Nodup, List.pairwise_map]
  apply mapping.ascending.imp
  intro left right below same
  rw [same] at below
  exact String.lt_irrefl _ below

/-- Ascending lists with the same entries are the same. -/
theorem ascending_unique {left right : List (String × α)} (first : Ascending left)
    (second : Ascending right) (perm : left.Perm right) : left = right := by
  apply perm.eq_of_pairwise _ first second
  intro a b _ _ below above
  exact absurd above (String.lt_asymm below)

/-- The order in which the entries of a map are listed is not left in it. -/
theorem of_list_of_perm {mapping : Mapping α} {listed : List (String × α)}
    (perm : listed.Perm mapping.entries) : ofList listed = mapping := by
  have distinct := (perm.map Prod.fst).nodup_iff.mpr mapping.distinct_names
  exact ext_entries (ascending_unique (ofList listed).ascending mapping.ascending
    ((of_list_perm distinct).trans perm))

/-- Entries sorted by name, from those of an ascending list. -/
theorem to_list_of_perm {listed entries : List (String × α)} (perm : listed.Perm entries)
    (ascending : Ascending entries) : (ofList listed).toList = entries :=
  congrArg Mapping.entries
    (of_list_of_perm (show listed.Perm (Mapping.mk entries ascending).entries from perm))

variable {front back : List (String × α)} {name : String} {held : α}

theorem below_of_ascending (ascending : Ascending (front ++ (name, held) :: back))
    {entry : String × α} (member : entry ∈ front) : entry.1 < name :=
  (List.pairwise_append.mp ascending).2.2 entry member (name, held) List.mem_cons_self

theorem get_entry {mapping : Mapping α} (same : mapping.entries = front ++ (name, held) :: back) :
    mapping.get? name = some held := by
  have ascending := mapping.ascending
  rw [same] at ascending
  have earlier : front.find? (fun entry => entry.1 == name) = none := by
    rw [List.find?_eq_none]
    intro entry member wrong
    have below := below_of_ascending ascending member
    rw [beq_iff_eq.mp wrong] at below
    exact String.lt_irrefl name below
  rw [get?, same, List.find?_append, earlier, Option.none_or, List.find?_cons, beq_self_eq_true]
  rfl

theorem insert_entry_at (value : α) (ascending : Ascending (front ++ (name, held) :: back)) :
    insertEntry name value (front ++ (name, held) :: back) = front ++ (name, value) :: back := by
  induction front with
  | nil =>
      have same := String.lt_irrefl name
      rw [List.nil_append, insertEntry, if_neg same, if_neg same]
      rfl
  | cons entry front ih =>
      have below := below_of_ascending ascending List.mem_cons_self
      rw [List.cons_append, insertEntry, if_neg (String.lt_asymm below), if_pos below,
        ih (List.pairwise_cons.mp ascending).2]
      rfl

theorem find_insert_entry (name other : String) (value : α) (entries : List (String × α)) :
    (insertEntry name value entries).find? (fun entry => entry.1 == other) =
      if name = other then some (name, value)
      else entries.find? fun entry => entry.1 == other := by
  have first (rest : List (String × α)) :
      ((name, value) :: rest).find? (fun entry => entry.1 == other) =
        if name = other then some (name, value) else rest.find? fun entry => entry.1 == other := by
    by_cases same : name = other <;> simp [same]
  induction entries with
  | nil => exact first []
  | cons head rest ih =>
      rw [insertEntry]
      split
      · exact first (head :: rest)
      · split
        · rename_i below
          rw [List.find?_cons, List.find?_cons, ih]
          by_cases found : head.1 = other
          · have apart : name ≠ other := fun same =>
              String.lt_irrefl other (by rwa [found, same] at below)
            simp [found, apart]
          · rw [beq_eq_false_iff_ne.mpr found]
        · rename_i notBelow notAbove
          rw [first, List.find?_cons, ← name_eq_of_not_lt notBelow notAbove]
          by_cases same : name = other
          · rw [if_pos same, if_pos same]
          · rw [if_neg same, if_neg same, beq_eq_false_iff_ne.mpr same]

theorem get_insert (mapping : Mapping α) (name other : String) (value : α) :
    (mapping.insert name value).get? other =
      if name = other then some value else mapping.get? other := by
  rw [get?, insert, find_insert_entry]
  split <;> rfl

theorem get_erase (mapping : Mapping α) (name other : String) :
    (mapping.erase name).get? other = if name = other then none else mapping.get? other := by
  rw [get?, erase, List.find?_filter]
  by_cases same : name = other
  · rw [if_pos same, Option.map_eq_none_iff, List.find?_eq_none]
    intro entry _
    simp [same]
  · have kept : (fun entry : String × α => decide ((entry.1 != name) = true ∧
        (entry.1 == other) = true)) = fun entry => entry.1 == other := by
      funext entry
      by_cases found : entry.1 = other
      · simp [found, Ne.symm same]
      · simp [found]
    rw [kept, if_neg same, get?]

theorem get_eq_some_iff {mapping : Mapping α} {name : String} {value : α} :
    mapping.get? name = some value ↔ (name, value) ∈ mapping.entries := by
  constructor
  · intro held
    obtain ⟨entry, found, rfl⟩ := Option.map_eq_some_iff.mp held
    have named := List.find?_some found
    rw [← beq_iff_eq.mp named]
    exact List.mem_of_find?_eq_some found
  · intro member
    obtain ⟨front, back, same⟩ := List.append_of_mem member
    exact get_entry same

theorem get_ne_none_iff {mapping : Mapping α} {name : String} :
    mapping.get? name ≠ none ↔ name ∈ mapping.names := by
  rw [Option.ne_none_iff_exists']
  simp only [get_eq_some_iff, names, List.mem_map, Prod.exists, exists_and_right,
    exists_eq_right]

/-- Maps that hold the same under every name are the same. -/
theorem ext_get {left right : Mapping α} (same : ∀ name, left.get? name = right.get? name) :
    left = right := by
  have members (entry : String × α) : entry ∈ left.entries ↔ entry ∈ right.entries := by
    rw [← get_eq_some_iff, ← get_eq_some_iff, same]
  have perm : left.entries.Perm right.entries :=
    (List.perm_ext_iff_of_nodup (List.Nodup.of_map Prod.fst left.distinct_names)
      (List.Nodup.of_map Prod.fst right.distinct_names)).mpr members
  exact ext_entries (ascending_unique left.ascending right.ascending perm)

end CertSteward.Mapping
