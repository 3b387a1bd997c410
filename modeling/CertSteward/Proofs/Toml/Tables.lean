import CertSteward.Toml.Table
import Mathlib.Data.List.Basic

/-!
# Tables of different names

Assignments of different names make a table of exactly these entries, in their
order. Headers under one owner, each of a name of its own, make the table of
the owner, with one table for each of them.
-/

namespace CertSteward.Toml

set_option autoImplicit false

namespace Entries

def Lacks (entries : Entries) (name : String) : Prop :=
  name ∉ entries.map Prod.fst

variable {entries : Entries} {name : String}

theorem lacks_of_distinct {added : Entries} {entry : String × Value}
    (distinct : ((entries ++ entry :: added).map Prod.fst).Nodup) : entries.Lacks entry.1 := by
  intro known
  rw [List.map_append, List.nodup_append] at distinct
  exact distinct.2.2 entry.1 known entry.1 List.mem_cons_self rfl

theorem find_none_of_lacks (lacks : entries.Lacks name) : entries.find? name = none := by
  unfold find?
  rw [List.lookup_eq_none_iff]
  intro entry member
  rw [bne_iff_ne]
  rintro rfl
  exact lacks (List.mem_map_of_mem member)

theorem put_of_lacks (lacks : entries.Lacks name) (value : Value) :
    entries.put name value = entries ++ [(name, value)] := by
  induction entries with
  | nil => rfl
  | cons entry rest ih =>
      obtain ⟨other, later⟩ := not_or.mp (mt List.mem_cons.mpr lacks)
      rw [put, if_neg fun same => other same.symm, ih later]
      rfl

theorem find_last (lacks : entries.Lacks name) (value : Value) :
    Entries.find? (entries ++ [(name, value)]) name = some value := by
  have front : List.lookup name entries = none := find_none_of_lacks lacks
  unfold find?
  rw [List.lookup_append, front, Option.none_or, List.lookup_cons_self]

theorem put_last (lacks : entries.Lacks name) (old value : Value) :
    Entries.put (entries ++ [(name, old)]) name value = entries ++ [(name, value)] := by
  induction entries with
  | nil => simp [put]
  | cons entry rest ih =>
      obtain ⟨other, later⟩ := not_or.mp (mt List.mem_cons.mpr lacks)
      rw [List.cons_append, put, if_neg fun same => other same.symm, ih later]
      rfl

def assignments (entries : Entries) : List (Key × Value) :=
  entries.map fun entry => (⟨[], entry.1⟩, entry.2)

theorem assign_all_new (entries added : Entries)
    (distinct : ((entries ++ added).map Prod.fst).Nodup) :
    entries.assignAll added.assignments = some (entries ++ added) := by
  induction added generalizing entries with
  | nil =>
      rw [List.append_nil]
      rfl
  | cons entry added ih =>
      have lacks := lacks_of_distinct distinct
      have first : entries.assign ⟨[], entry.1⟩ entry.2 = some (entries ++ [entry]) := by
        rw [assign, alongKey, addNew, find_none_of_lacks lacks]
      have whole : entries ++ entry :: added = entries ++ [entry] ++ added := by simp
      rw [assignments, List.map_cons, assignAll, first, whole]
      rw [whole] at distinct
      exact ih _ distinct

/-- A table with a header of its own for each entry. -/
def headed (tables : List (String × Entries)) : Entries :=
  tables.map fun table => (table.1, .table .header table.2)

def sections (owner : String) (tables : List (String × Entries)) : List Section :=
  tables.map fun table => ⟨.table ⟨[owner], table.1⟩, assignments table.2⟩

theorem open_new_table (lacks : entries.Lacks name) {members : Entries}
    (distinct : (members.map Prod.fst).Nodup) :
    entries.openTable name members.assignments =
      some (entries ++ [(name, .table .header members)]) := by
  have filled := assign_all_new [] members distinct
  rw [openTable, find_none_of_lacks lacks, filled, List.nil_append]
  exact congrArg some (put_of_lacks lacks _)

variable {front : Entries} {owner : String}

/-- A further table under an owner that is known from earlier headers. -/
theorem add_to_owner (absent : front.Lacks owner) {inner : Entries}
    (lacks : inner.Lacks name) {members : Entries} (distinct : (members.map Prod.fst).Nodup) :
    Outline.addSection (front ++ [(owner, .table .implied inner)])
        ⟨.table ⟨[owner], name⟩, members.assignments⟩ =
      some (front ++ [(owner, .table .implied (inner ++ [(name, .table .header members)]))]) := by
  rw [Outline.addSection]
  dsimp only
  rw [alongHeader, find_last absent]
  dsimp only
  rw [if_neg (by decide), alongHeader, open_new_table lacks distinct]
  exact congrArg some (put_last absent _ _)

theorem add_all_to_owner (absent : front.Lacks owner) (tables : List (String × Entries))
    {inner : Entries} (apart : ((inner ++ headed tables).map Prod.fst).Nodup)
    (distinct : ∀ table ∈ tables, (table.2.map Prod.fst).Nodup) :
    Outline.addSections (front ++ [(owner, .table .implied inner)]) (sections owner tables) =
      some (front ++ [(owner, .table .implied (inner ++ headed tables))]) := by
  induction tables generalizing inner with
  | nil =>
      rw [headed, List.map_nil, List.append_nil]
      rfl
  | cons table tables ih =>
      have lacks : inner.Lacks table.1 := lacks_of_distinct apart
      have first := add_to_owner absent lacks (distinct table List.mem_cons_self)
      have whole : inner ++ headed (table :: tables) =
          inner ++ [(table.1, .table .header table.2)] ++ headed tables := by simp [headed]
      rw [sections, List.map_cons, Outline.addSections, first, whole]
      rw [whole] at apart
      exact ih apart fun other member => distinct other (List.mem_cons_of_mem table member)

/-- The tables under an owner that nothing else speaks of. -/
theorem add_owner (absent : front.Lacks owner) {tables : List (String × Entries)}
    (some_table : tables ≠ []) (apart : (tables.map Prod.fst).Nodup)
    (distinct : ∀ table ∈ tables, (table.2.map Prod.fst).Nodup) :
    Outline.addSections front (sections owner tables) =
      some (front ++ [(owner, .table .implied (headed tables))]) := by
  cases tables with
  | nil => contradiction
  | cons table tables =>
      have filled := open_new_table (show Lacks [] table.1 from List.not_mem_nil)
        (distinct table List.mem_cons_self)
      have first : Outline.addSection front ⟨.table ⟨[owner], table.1⟩, assignments table.2⟩ =
          some (front ++ [(owner, .table .implied [(table.1, .table .header table.2)])]) := by
        rw [Outline.addSection]
        dsimp only
        rw [alongHeader, find_none_of_lacks absent]
        dsimp only
        rw [alongHeader, filled]
        exact congrArg some (put_of_lacks absent _)
      have names : ([(table.1, Value.table .header table.2)] ++ headed tables).map Prod.fst =
          (table :: tables).map Prod.fst := by simp [headed]
      rw [sections, List.map_cons, Outline.addSections, first]
      exact add_all_to_owner absent tables (by rw [names]; exact apart)
        fun other member => distinct other (List.mem_cons_of_mem table member)

end Entries

end CertSteward.Toml
