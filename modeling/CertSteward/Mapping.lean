/-!
# Finite maps from names

A map is its list of entries in strictly ascending order of the names, so two
maps with the same entries are equal however they were built. Names are
ordered by their characters, which is also the order of their UTF-8 bytes.
-/

namespace CertSteward

set_option autoImplicit false

/-- Strictly ascending names. -/
def Ascending {α : Type} (entries : List (String × α)) : Prop :=
  entries.Pairwise fun left right => left.1 < right.1

structure Mapping (α : Type) where
  entries : List (String × α)
  ascending : Ascending entries

namespace Mapping

variable {α : Type}

def insertEntry (name : String) (value : α) : List (String × α) → List (String × α)
  | [] => [(name, value)]
  | entry :: rest =>
      if name < entry.1 then (name, value) :: entry :: rest
      else if entry.1 < name then entry :: insertEntry name value rest
      else (name, value) :: rest

theorem mem_insert_entry {name : String} {value : α} {entries : List (String × α)}
    {entry : String × α} (member : entry ∈ insertEntry name value entries) :
    entry = (name, value) ∨ entry ∈ entries := by
  induction entries with
  | nil => simpa [insertEntry] using member
  | cons head rest ih =>
      simp only [insertEntry] at member
      split at member
      · simpa using member
      · split at member
        · rcases List.mem_cons.1 member with same | later
          · simp [same]
          · rcases ih later with same | earlier
            · exact Or.inl same
            · exact Or.inr (List.mem_cons_of_mem _ earlier)
        · rcases List.mem_cons.1 member with same | later
          · exact Or.inl same
          · exact Or.inr (List.mem_cons_of_mem _ later)

theorem name_eq_of_not_lt {left right : String} (notBelow : ¬ left < right)
    (notAbove : ¬ right < left) : left = right :=
  String.le_antisymm (String.not_lt.1 notAbove) (String.not_lt.1 notBelow)

theorem ascending_insert_entry (name : String) (value : α) {entries : List (String × α)}
    (ascending : Ascending entries) : Ascending (insertEntry name value entries) := by
  induction entries with
  | nil => simp [insertEntry, Ascending]
  | cons head rest ih =>
      obtain ⟨above, tail⟩ := List.pairwise_cons.1 ascending
      simp only [insertEntry]
      split
      · rename_i below
        refine List.pairwise_cons.2 ⟨fun entry member => ?_, ascending⟩
        rcases List.mem_cons.1 member with same | later
        · simpa [same] using below
        · exact String.lt_trans below (above entry later)
      · split
        · rename_i notBelow below
          refine List.pairwise_cons.2 ⟨fun entry member => ?_, ih tail⟩
          rcases mem_insert_entry member with same | later
          · simpa [same] using below
          · exact above entry later
        · rename_i notBelow notAbove
          have same : name = head.1 := name_eq_of_not_lt notBelow notAbove
          refine List.pairwise_cons.2 ⟨fun entry member => ?_, tail⟩
          simpa [same] using above entry member

def empty : Mapping α :=
  ⟨[], List.Pairwise.nil⟩

instance : Inhabited (Mapping α) := ⟨empty⟩

def toList (mapping : Mapping α) : List (String × α) :=
  mapping.entries

def names (mapping : Mapping α) : List String :=
  mapping.entries.map Prod.fst

def size (mapping : Mapping α) : Nat :=
  mapping.entries.length

def isEmpty (mapping : Mapping α) : Bool :=
  mapping.entries.isEmpty

def get? (mapping : Mapping α) (name : String) : Option α :=
  (mapping.entries.find? fun entry => entry.1 == name).map Prod.snd

/-- Gives a name a value, in place of the one it had. -/
def insert (mapping : Mapping α) (name : String) (value : α) : Mapping α :=
  ⟨insertEntry name value mapping.entries, ascending_insert_entry name value mapping.ascending⟩

def erase (mapping : Mapping α) (name : String) : Mapping α :=
  ⟨mapping.entries.filter fun entry => entry.1 != name, mapping.ascending.filter _⟩

/-- The map that a list of assignments leaves behind: the last one of a name counts. -/
def ofList (entries : List (String × α)) : Mapping α :=
  entries.foldl (fun mapping entry => mapping.insert entry.1 entry.2) empty

theorem ext_entries {left right : Mapping α} (same : left.entries = right.entries) :
    left = right := by
  cases left; cases right; cases same; rfl

instance [DecidableEq α] : DecidableEq (Mapping α) := fun left right =>
  decidable_of_iff (left.entries = right.entries)
    ⟨ext_entries, fun same => congrArg entries same⟩

instance [Repr α] : Repr (Mapping α) := ⟨fun mapping => reprPrec mapping.entries⟩

end Mapping

end CertSteward
