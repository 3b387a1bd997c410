import CertSteward.Proofs.Toml.Readings
import CertSteward.Proofs.Toml.Retold

/-!
# A text between double quotes can be replaced

The reader comes to a text between double quotes through lines, headers, keys
and braces that it reads without looking at the text. With another text in its
place it therefore comes to the same place, goes on behind it as before, and
makes a table that differs in this text only.
-/

namespace CertSteward.Toml

set_option autoImplicit false

inductive Past (depth : Nat) : List Char → List Char → Prop where
  | none (input : List Char) : Past depth input input
  | one {input start equals given behind next later : List Char} {key : Key} {value : Value}
    {fuel : Nat} (skipped : skipFiller false input = some start)
    (named : readKey start = some (key, equals)) (sign : readEquals equals = some ((), given))
    (found : readValue fuel depth given = some (value, behind))
    (further : skipFiller false behind = some (',' :: next)) (rest : Past depth next later) :
    Past depth input later

inductive Leads (place : List Char) : Nat → List String → List Char → Prop where
  | here (depth : Nat) : Leads place depth [] place
  | member {depth : Nat} {names : List String} {rest later start equals given : List Char}
    {key : Key} (past : Past (depth + 1) rest later) (skipped : skipFiller false later = some start)
    (named : readKey start = some (key, equals)) (sign : readEquals equals = some ((), given))
    (inside : Leads place (depth + 1) names given) :
    Leads place depth (key.path ++ key.name :: names) ('\x7b' :: rest)

/-- Whether lines under a header come to an assignment that has the value at a place in it, with all
the names that lead to it. -/
inductive Comes (place : List Char) : List String → List String → List Char → Prop where
  | line {owner names : List String} {input start equals given : List Char} {key : Key}
    (skipped : skipFiller false input = some start) (named : readKey start = some (key, equals))
    (sign : readEquals equals = some ((), given)) (inside : Leads place 0 names given) :
    Comes place owner (owner ++ (key.path ++ key.name :: names)) input
  | pastAssignment {owner names : List String} {input start next : List Char}
    {assignment : Key × Value} (skipped : skipFiller false input = some start)
    (found : readAssignment start = some (assignment, next))
    (later : Comes place owner names next) : Comes place owner names input
  | pastHeader {owner names : List String} {input start next : List Char} {header : Header}
    (skipped : skipFiller false input = some start)
    (found : readHeader start = some (header, next))
    (later : Comes place header.names names next) : Comes place owner names input

/-- Whether a value is a text that is written between double quotes, or a table between braces that
gives this text, with the names that lead to it. -/
inductive Inside (written after : List Char) : Nat → List String → List Char → Prop where
  | here (depth : Nat) {text : String}
    (reads : readString ('"' :: (written ++ '"' :: after)) = some (text, after)) :
    Inside written after depth [] ('"' :: (written ++ '"' :: after))
  | member {depth : Nat} {names : List String} {rest later start equals given : List Char}
    {key : Key} (past : Past (depth + 1) rest later) (skipped : skipFiller false later = some start)
    (named : readKey start = some (key, equals)) (sign : readEquals equals = some ((), given))
    (inside : Inside written after (depth + 1) names given) :
    Inside written after depth (key.path ++ key.name :: names) ('\x7b' :: rest)

inductive Reaches (written after : List Char) : List String → List String → List Char → Prop where
  | line {owner names : List String} {input start equals given : List Char} {key : Key}
    (skipped : skipFiller false input = some start) (named : readKey start = some (key, equals))
    (sign : readEquals equals = some ((), given)) (inside : Inside written after 0 names given) :
    Reaches written after owner (owner ++ (key.path ++ key.name :: names)) input
  | pastAssignment {owner names : List String} {input start next : List Char}
    {assignment : Key × Value} (skipped : skipFiller false input = some start)
    (found : readAssignment start = some (assignment, next))
    (later : Reaches written after owner names next) : Reaches written after owner names input
  | pastHeader {owner names : List String} {input start next : List Char} {header : Header}
    (skipped : skipFiller false input = some start)
    (found : readHeader start = some (header, next))
    (later : Reaches written after header.names names next) :
    Reaches written after owner names input

theorem Inside.leads {written after : List Char} {depth : Nat} {names : List String}
    {input : List Char} (inside : Inside written after depth names input) :
    Leads ('"' :: (written ++ '"' :: after)) depth names input ∧
      ∃ text, readString ('"' :: (written ++ '"' :: after)) = some (text, after) := by
  induction inside with
  | here depth reads => exact ⟨.here depth, _, reads⟩
  | member past skipped named sign _ ih => exact ⟨.member past skipped named sign ih.1, ih.2⟩

theorem Reaches.comes {written after : List Char} {owner names : List String} {input : List Char}
    (reaches : Reaches written after owner names input) :
    Comes ('"' :: (written ++ '"' :: after)) owner names input ∧
      ∃ text, readString ('"' :: (written ++ '"' :: after)) = some (text, after) := by
  induction reaches with
  | line skipped named sign inside =>
      exact ⟨.line skipped named sign inside.leads.1, inside.leads.2⟩
  | pastAssignment skipped found _ ih => exact ⟨.pastAssignment skipped found ih.1, ih.2⟩
  | pastHeader skipped found _ ih => exact ⟨.pastHeader skipped found ih.1, ih.2⟩

theorem alike_of_front {front : List Char} (long : 2 ≤ front.length) (rest other : List Char) :
    Alike (front ++ rest) (front ++ other) := by
  unfold Alike
  rw [List.take_append_of_le_length long, List.take_append_of_le_length long]

/-- What is read up to a place that is two characters off can be read so with another text there. -/
theorem Local.frames {outcome : List Char → List Char → Prop} (known : Local outcome)
    {input front old : List Char} (reads : outcome input (front ++ old))
    (long : 2 ≤ front.length) :
    ∃ whole, 2 ≤ whole.length ∧ input = whole ++ old ∧
      ∀ now, outcome (whole ++ now) (front ++ now) := by
  obtain ⟨used, rfl, same⟩ := known _ _ reads
  refine ⟨used ++ front, ?_, (List.append_assoc _ _ _).symm, ?_⟩
  · rw [List.length_append]
    omega
  · intro now
    rw [List.append_assoc]
    exact same _ (alike_of_front long old now)

theorem equals_frames {equals front old : List Char} (filled : front ≠ [])
    (sign : readEquals equals = some ((), front ++ old)) :
    ∃ whole, 2 ≤ whole.length ∧ equals = whole ++ old ∧
      ∀ now, readEquals (whole ++ now) = some ((), front ++ now) := by
  obtain ⟨tail, rfl, skipped⟩ := read_equals_iff.mp sign
  cases front with
  | nil => contradiction
  | cons c front =>
      have visible : isSpace c = false := by
        have ended := List.head?_dropWhile_not isSpace tail
        rw [show tail.dropWhile isSpace = _ from skipped] at ended
        simpa using ended
      have whole : tail = tail.takeWhile isSpace ++ (c :: front ++ old) := by
        rw [← skipped]
        exact List.takeWhile_append_dropWhile.symm
      refine ⟨'=' :: (tail.takeWhile isSpace ++ c :: front), ?_, ?_, ?_⟩
      · simp only [List.length_cons, List.length_append]
        omega
      · rw [List.cons_append, List.append_assoc, ← whole]
      · intro now
        rw [List.cons_append, List.append_assoc]
        refine read_equals_iff.mpr ⟨_, rfl, (take_word ?_ ?_).2⟩
        · intro other member
          exact List.mem_takeWhile_imp member
        · intro other first
          rwa [← Option.some.inj first]

/-- Up to the value of an assignment, the blanks in front of it included. -/
theorem assignment_frames {input start equals front old : List Char} {key : Key}
    (skipped : skipFiller false input = some start) (named : readKey start = some (key, equals))
    (sign : readEquals equals = some ((), front ++ old)) (filled : front ≠ []) :
    ∃ whole, 2 ≤ whole.length ∧ input = whole ++ old ∧
      ∀ now, ∃ begun, skipFiller false (whole ++ now) = some begun ∧
        ∃ mark, readKey begun = some (key, mark) ∧ readEquals mark = some ((), front ++ now) := by
  obtain ⟨last, long, rfl, signed⟩ := equals_frames filled sign
  obtain ⟨middle, longer, rfl, keyed⟩ := (local_read_key key).frames named long
  obtain ⟨whole, longest, rfl, filler⟩ := (local_skip_filler false).frames skipped longer
  exact ⟨whole, longest, rfl, fun now => ⟨_, filler now, _, keyed now, signed now⟩⟩

variable {new : String} {old now : List Char}

/-- Whether a reader makes values that differ so of an input with the old text in it and the same
input with the new one. -/
def Tells {α : Type} (least : Nat) (reader : Nat → Reading α) (differ : α → α → Prop)
    (old now input : List Char) : Prop :=
  ∃ front, least ≤ front.length ∧ input = front ++ old ∧
    ∀ value rest, Settled reader value (front ++ old) rest →
      ∃ other, Settled reader other (front ++ now) rest ∧ differ value other

theorem Settled.unique {α : Type} {reader : Nat → Reading α} {value other : α}
    {input rest tail : List Char} (first : Settled reader value input rest)
    (second : Settled reader other input tail) : value = other ∧ rest = tail := by
  have one := first.2 (input.length + 1) (by omega)
  have two := second.2 (input.length + 1) (by omega)
  exact Prod.mk.inj (Option.some.inj (one.symm.trans two))

theorem settled_text {depth : Nat} {input rest : List Char} {text : String}
    (read : readString input = some (text, rest)) :
    Settled (fun fuel => readValue fuel depth) (.text text) input rest := by
  apply Settled.of_succ (local_read_string text input rest read).length_le
  intro fuel enough
  exact read_value_succ.mpr (.inr (.inr (.inl ⟨text, read, rfl⟩)))

/-- A string and another one that begins alike. -/
theorem tells_here {opened after : List Char} {text : String} (depth : Nat) (filled : opened ≠ [])
    (reads : readString (opened ++ old) = some (text, after))
    (again : readString (opened ++ now) = some (new, after)) :
    Tells 1 (fun fuel => readValue fuel depth) (Value.Retold new []) old now (opened ++ old) := by
  refine ⟨opened, List.length_pos_iff.mpr filled, rfl, ?_⟩
  intro value rest settled
  obtain ⟨rfl, rfl⟩ := settled.unique (settled_text reads)
  exact ⟨.text new, settled_text again, .text text⟩

/-- What follows on a key between braces. -/
theorem settled_given {depth : Nat} {input start equals given rest : List Char} {key : Key}
    {assignments : List (Key × Value)} (skipped : skipFiller false input = some start)
    (named : readKey start = some (key, equals)) (sign : readEquals equals = some ((), given))
    (settled : Settled (fun fuel => readAssignments fuel depth) assignments input rest) :
    ∃ value behind, Settled (fun fuel => readValue fuel depth) value given behind ∧
      ∃ mark, skipFiller false behind = some mark ∧
        ((∃ next, mark = ',' :: next ∧
            ∃ tail, Settled (fun fuel => readAssignments fuel depth) tail next rest ∧
              assignments = (key, value) :: tail) ∨
          (mark = '\x7d' :: rest ∧ assignments = [(key, value)])) := by
  obtain ⟨begun, skipped', ⟨rfl, -⟩ | ⟨key', equals', named', given', sign', found⟩⟩ :=
    settled_assignments_iff.mp settled
  · obtain rfl := Option.some.inj (skipped.symm.trans skipped')
    exact absurd rfl (key_starts named (by decide) (by decide) (by decide) (by decide) rest)
  · obtain rfl := Option.some.inj (skipped.symm.trans skipped')
    obtain ⟨rfl, rfl⟩ := Prod.mk.inj (Option.some.inj (named.symm.trans named'))
    obtain ⟨-, rfl⟩ := Prod.mk.inj (Option.some.inj (sign.symm.trans sign'))
    exact found

theorem tells_member {depth : Nat} {names : List String} {input start equals given : List Char}
    {key : Key} (skipped : skipFiller false input = some start)
    (named : readKey start = some (key, equals)) (sign : readEquals equals = some ((), given))
    (tells : Tells 1 (fun fuel => readValue fuel depth) (Value.Retold new names) old now given) :
    Tells 2 (fun fuel => readAssignments fuel depth)
      (AssignmentsRetold new (key.path ++ key.name :: names)) old now input := by
  obtain ⟨front, long, rfl, told⟩ := tells
  obtain ⟨whole, longer, rfl, frames⟩ :=
    assignment_frames skipped named sign (List.length_pos_iff.mp long)
  refine ⟨whole, longer, rfl, ?_⟩
  intro assignments rest settled
  obtain ⟨value, behind, found, comma, further, more⟩ := settled_given skipped named sign settled
  obtain ⟨other, again, differ⟩ := told value behind found
  obtain ⟨begun, skipped, mark, named, sign⟩ := frames now
  obtain ⟨next, rfl, tail, later, rfl⟩ | ⟨rfl, rfl⟩ := more
  · exact ⟨(key, other) :: tail, settled_assignments_iff.mpr ⟨begun, skipped, .inr
      ⟨key, mark, named, _, sign, other, behind, again, _, further,
        .inl ⟨next, rfl, tail, later, rfl⟩⟩⟩, .first differ tail⟩
  · exact ⟨[(key, other)], settled_assignments_iff.mpr ⟨begun, skipped, .inr
      ⟨key, mark, named, _, sign, other, behind, again, _, further, .inr ⟨rfl, rfl⟩⟩⟩,
      .first differ []⟩

theorem tells_past {depth : Nat} {names : List String} {input later : List Char}
    (past : Past depth input later)
    (tells : Tells 2 (fun fuel => readAssignments fuel depth) (AssignmentsRetold new names) old now
      later) :
    Tells 2 (fun fuel => readAssignments fuel depth) (AssignmentsRetold new names) old now
      input := by
  induction past with
  | none => exact tells
  | @one input start equals given behind next later key value fuel skipped named sign found further
      _ ih =>
    obtain ⟨front, long, rfl, told⟩ := ih tells
    have comma : skipFiller false behind = some ((',' :: front) ++ old) := further
    obtain ⟨first, longFirst, rfl, filler⟩ :=
      (local_skip_filler false).frames comma (Nat.le_succ_of_le long)
    have valued := settled_of_read found
    obtain ⟨second, longSecond, rfl, reads⟩ := (local_settled depth value).frames valued longFirst
    obtain ⟨whole, longer, rfl, frames⟩ :=
      assignment_frames skipped named sign (List.length_pos_iff.mp (Nat.le_of_succ_le longSecond))
    refine ⟨whole, longer, rfl, ?_⟩
    intro assignments rest settled
    obtain ⟨value', behind', found', mark, further', more⟩ :=
      settled_given skipped named sign settled
    obtain ⟨rfl, rfl⟩ := valued.unique found'
    obtain rfl := Option.some.inj (comma.symm.trans further')
    obtain ⟨next, same, tail, later, rfl⟩ | ⟨closed, -⟩ := more
    · obtain rfl := (List.cons.inj same).2
      obtain ⟨other, again, differ⟩ := told tail rest later
      obtain ⟨begun, skipped, mark, named, sign⟩ := frames now
      exact ⟨(key, value) :: other, settled_assignments_iff.mpr ⟨begun, skipped, .inr
        ⟨key, mark, named, _, sign, value, _, reads now, _, filler now,
          .inl ⟨_, rfl, other, again, rfl⟩⟩⟩, differ.behind (key, value)⟩
    · exact absurd (List.cons.inj closed).1 (by decide)

theorem tells_braces {depth : Nat} {names : List String} {rest : List Char}
    (tells : Tells 2 (fun fuel => readAssignments fuel (depth + 1)) (AssignmentsRetold new names)
      old now rest) :
    Tells 1 (fun fuel => readValue fuel depth) (Value.Retold new names) old now
      ('\x7b' :: rest) := by
  obtain ⟨front, long, rfl, told⟩ := tells
  refine ⟨'\x7b' :: front, Nat.succ_pos _, rfl, ?_⟩
  intro value tail settled
  have read := settled.2 (('\x7b' :: front ++ old).length + 1) (by omega)
  obtain ⟨inside, items, same, -⟩ |
    ⟨inside, assignments, entries, same, shallow, found, made, rfl⟩ |
    scalar := read_value_succ.mp read
  · exact absurd (List.cons.inj same).1 (by decide)
  · obtain rfl := (List.cons.inj same).2
    obtain ⟨used, whole, settled⟩ := (readers_keep _).2.2 _ _ _ _ found
    have inner := settled tail rfl
    rw [← whole] at inner
    obtain ⟨other, ⟨shorter, again⟩, differ⟩ := told assignments tail inner
    obtain ⟨entries', made', retold⟩ := Entries.plants_assign_all differ [] entries made
    refine ⟨.table .inline entries', ?_, Value.retold_of_entries .inline retold⟩
    apply Settled.of_succ (Nat.le_succ_of_le shorter)
    intro fuel enough
    exact read_value_succ.mpr (.inr (.inl
      ⟨_, other, entries', rfl, shallow, again fuel enough, made', rfl⟩))
  · obtain ⟨c, behind, same, start⟩ := scalar_starts scalar
    obtain ⟨rfl, -⟩ := List.cons.inj same
    exact absurd start (by decide)

theorem tells_leads {place : List Char} {depth : Nat} {names : List String} {input : List Char}
    (leads : Leads place depth names input)
    (tells : ∀ depth, Tells 1 (fun fuel => readValue fuel depth) (Value.Retold new []) old now
      place) :
    Tells 1 (fun fuel => readValue fuel depth) (Value.Retold new names) old now input := by
  induction leads with
  | here depth => exact tells depth
  | member past skipped named sign _ ih =>
      exact tells_braces (tells_past past (tells_member skipped named sign ih))

def TellsLines (new : String) (owner names : List String) (old now input : List Char) : Prop :=
  ∃ front, 2 ≤ front.length ∧ input = front ++ old ∧
    ∀ fuel outline, readLines fuel (front ++ old) = some outline →
      ∃ other more, readLines more (front ++ now) = some other ∧
        outline.Retold new owner names other

/-- A line that begins with a key is an assignment. -/
theorem read_lines_at_key {fuel : Nat} {input start equals : List Char} {key : Key}
    {outline : Outline} (skipped : skipFiller false input = some start)
    (named : readKey start = some (key, equals)) (read : readLines fuel input = some outline) :
    ∃ fewer assignment next, readAssignment start = some (assignment, next) ∧
      ∃ inner, readLines fewer next = some inner ∧
        outline = ⟨assignment :: inner.assignments, inner.sections⟩ := by
  cases fuel with
  | zero => contradiction
  | succ fuel =>
      obtain ⟨begun, skipped', ⟨rfl, -⟩ | ⟨header, next, found, -⟩ | ⟨assignment, next, found⟩⟩ :=
        read_lines_succ.mp read
      · obtain rfl := Option.some.inj (skipped.symm.trans skipped')
        contradiction
      · obtain rfl := Option.some.inj (skipped.symm.trans skipped')
        obtain ⟨inside, rfl⟩ := header_starts found
        exact absurd rfl (key_starts named (by decide) (by decide) (by decide) (by decide) inside)
      · obtain rfl := Option.some.inj (skipped.symm.trans skipped')
        exact ⟨fuel, assignment, next, found⟩

theorem read_lines_at_header {fuel : Nat} {input start next : List Char} {header : Header}
    {outline : Outline} (skipped : skipFiller false input = some start)
    (found : readHeader start = some (header, next)) (read : readLines fuel input = some outline) :
    ∃ fewer inner, readLines fewer next = some inner ∧
      outline = ⟨[], ⟨header, inner.assignments⟩ :: inner.sections⟩ := by
  cases fuel with
  | zero => contradiction
  | succ fuel =>
      obtain ⟨inside, rfl⟩ := header_starts found
      obtain ⟨begun, skipped', ⟨rfl, -⟩ | ⟨header', next', found', inner, later⟩ |
        ⟨assignment, next', found', -⟩⟩ := read_lines_succ.mp read
      · cases skipped.symm.trans skipped'
      · obtain rfl := Option.some.inj (skipped.symm.trans skipped')
        obtain ⟨rfl, rfl⟩ := Prod.mk.inj (Option.some.inj (found.symm.trans found'))
        exact ⟨fuel, inner, later⟩
      · obtain rfl := Option.some.inj (skipped.symm.trans skipped')
        obtain ⟨equals, named, -⟩ :=
          read_assignment_iff.mp (show readAssignment _ = some ((_, _), next') from found')
        exact absurd rfl (key_starts named (by decide) (by decide) (by decide) (by decide) inside)

theorem tells_line {owner names : List String} {input start equals given : List Char} {key : Key}
    (skipped : skipFiller false input = some start) (named : readKey start = some (key, equals))
    (sign : readEquals equals = some ((), given))
    (tells : Tells 1 (fun fuel => readValue fuel 0) (Value.Retold new names) old now given) :
    TellsLines new owner (owner ++ (key.path ++ key.name :: names)) old now input := by
  obtain ⟨front, long, rfl, told⟩ := tells
  obtain ⟨whole, longer, rfl, frames⟩ :=
    assignment_frames skipped named sign (List.length_pos_iff.mp long)
  refine ⟨whole, longer, rfl, ?_⟩
  intro fuel outline read
  obtain ⟨fewer, ⟨key', value⟩, next, found, inner, later, rfl⟩ :=
    read_lines_at_key skipped named read
  obtain ⟨equals', named', given', sign', behind, settled, ended⟩ := read_assignment_iff.mp found
  obtain ⟨rfl, rfl⟩ := Prod.mk.inj (Option.some.inj (named.symm.trans named'))
  obtain ⟨-, rfl⟩ := Prod.mk.inj (Option.some.inj (sign.symm.trans sign'))
  obtain ⟨other, again, differ⟩ := told value behind settled
  obtain ⟨begun, skipped, mark, named, sign⟩ := frames now
  have line := read_assignment_iff.mpr ⟨mark, named, _, sign, behind, again, ended⟩
  refine ⟨⟨(key, other) :: inner.assignments, inner.sections⟩, fewer + 1, ?_, ?_⟩
  · exact read_lines_succ.mpr ⟨begun, skipped, .inr (.inr ⟨_, next, line, inner, later, rfl⟩)⟩
  · exact .front inner.sections (.first differ inner.assignments)

theorem tells_past_assignment {owner names : List String} {input start next : List Char}
    {assignment : Key × Value} (skipped : skipFiller false input = some start)
    (found : readAssignment start = some (assignment, next))
    (tells : TellsLines new owner names old now next) :
    TellsLines new owner names old now input := by
  obtain ⟨front, long, rfl, told⟩ := tells
  obtain ⟨line, longer, rfl, lines⟩ := (local_read_assignment assignment).frames found long
  obtain ⟨whole, longest, rfl, fillers⟩ := (local_skip_filler false).frames skipped longer
  refine ⟨whole, longest, rfl, ?_⟩
  intro fuel outline read
  obtain ⟨equals, named, -⟩ :=
    read_assignment_iff.mp (show readAssignment _ = some ((_, _), _) from found)
  obtain ⟨fewer, assignment', next', found', inner, later, rfl⟩ :=
    read_lines_at_key skipped named read
  obtain ⟨rfl, rfl⟩ := Prod.mk.inj (Option.some.inj (found.symm.trans found'))
  obtain ⟨other, more, again, differ⟩ := told fewer inner later
  refine ⟨⟨assignment :: other.assignments, other.sections⟩, more + 1, ?_, differ.behind assignment⟩
  exact read_lines_succ.mpr ⟨_, fillers now, .inr (.inr ⟨_, _, lines now, other, again, rfl⟩)⟩

theorem tells_past_header {owner names : List String} {input start next : List Char}
    {header : Header} (skipped : skipFiller false input = some start)
    (found : readHeader start = some (header, next))
    (tells : TellsLines new header.names names old now next) :
    TellsLines new owner names old now input := by
  obtain ⟨front, long, rfl, told⟩ := tells
  obtain ⟨line, longer, rfl, lines⟩ := (local_read_header header).frames found long
  obtain ⟨whole, longest, rfl, fillers⟩ := (local_skip_filler false).frames skipped longer
  refine ⟨whole, longest, rfl, ?_⟩
  intro fuel outline read
  obtain ⟨fewer, inner, later, rfl⟩ := read_lines_at_header skipped found read
  obtain ⟨other, more, again, differ⟩ := told fewer inner later
  refine ⟨⟨[], ⟨header, other.assignments⟩ :: other.sections⟩, more + 1, ?_, differ.under owner⟩
  exact read_lines_succ.mpr ⟨_, fillers now, .inr (.inl ⟨_, _, lines now, other, again, rfl⟩)⟩

theorem tells_comes {place : List Char} {owner names : List String} {input : List Char}
    (comes : Comes place owner names input)
    (tells : ∀ depth, Tells 1 (fun fuel => readValue fuel depth) (Value.Retold new []) old now
      place) : TellsLines new owner names old now input := by
  induction comes with
  | line skipped named sign inside => exact tells_line skipped named sign (tells_leads inside tells)
  | pastAssignment skipped found _ ih => exact tells_past_assignment skipped found ih
  | pastHeader skipped found _ ih => exact tells_past_header skipped found ih

theorem drop_mark_append {front : List Char} (filled : front ≠ []) (rest : List Char) :
    dropMark (front ++ rest) = dropMark front ++ rest := by
  cases front with
  | nil => contradiction
  | cons c front =>
      by_cases mark : c = '\uFEFF'
      · rw [mark]
        rfl
      · rw [dropMark, dropMark]
        · intro tail same
          exact mark (List.cons.inj same).1
        · intro tail same
          exact mark (List.cons.inj same).1

theorem drop_mark_length (input : List Char) : (dropMark input).length ≤ input.length := by
  unfold dropMark
  split
  · exact Nat.le_succ _
  · exact Nat.le_refl _

/-- A string can be replaced by another one that begins alike, and the table differs only in its
text. -/
theorem read_string_retold (opened : List Char) {after front : List Char} {names : List String}
    {text : String} {entries : Entries} (begun : front ≠ []) (filled : opened ≠ [])
    (comes : Comes (opened ++ old) [] names (dropMark (front ++ old)))
    (written : readString (opened ++ old) = some (text, after))
    (again : readString (opened ++ now) = some (new, after))
    (reads : read (front ++ old) = some entries) :
    ∃ other, read (front ++ now) = some other ∧ entries.Retold new names other := by
  obtain ⟨passed, -, whole, told⟩ :=
    tells_comes comes fun depth => tells_here depth filled written again
  rw [drop_mark_append begun] at whole
  obtain rfl := List.append_cancel_right whole
  obtain ⟨outline, found, made⟩ := Option.bind_eq_some_iff.mp reads
  unfold readOutline at found
  rw [drop_mark_append begun] at found
  obtain ⟨other, more, again, differ⟩ := told _ outline found
  obtain ⟨entries', made', retold⟩ := Outline.retold_entries differ made
  refine ⟨entries', Option.bind_eq_some_iff.mpr ⟨other, ?_, made'⟩, retold⟩
  unfold readOutline
  rw [drop_mark_append begun]
  have shorter := drop_mark_length front
  apply read_lines_enough again
  simp only [List.length_append]
  omega

/-- A text that stands between double quotes can be replaced by another that can stand there, and
the table differs only in it. -/
theorem read_retold {written fresh after front : List Char} {names : List String}
    {entries : Entries} (filled : front ≠ [])
    (reaches : Reaches written after [] names (dropMark (front ++ (written ++ '"' :: after))))
    (again : readString ('"' :: (fresh ++ '"' :: after)) = some (new, after))
    (reads : read (front ++ (written ++ '"' :: after)) = some entries) :
    ∃ other, read (front ++ (fresh ++ '"' :: after)) = some other ∧
      entries.Retold new names other := by
  obtain ⟨comes, text, stood⟩ := reaches.comes
  exact read_string_retold ['"'] filled (by decide) comes stood again reads

end CertSteward.Toml
