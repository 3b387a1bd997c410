import CertSteward.Proofs.Toml.Words

/-!
# What values and lines are read from

One round of each reader with fuel, as what it takes from the input. A reader
that comes to a value with some fuel comes to it with any fuel beyond the
characters it takes, and looks no further ahead than the others.
-/

namespace CertSteward.Toml

set_option autoImplicit false

/-- What is no string is a word, and begins like one. -/
theorem word_starts {input rest : List Char} {value : Value}
    (read : readWord input = some (value, rest)) :
    ∃ c tail, input = c :: tail ∧ isWordChar c = true := by
  cases input with
  | nil => contradiction
  | cons c tail =>
      refine ⟨c, tail, rfl, ?_⟩
      by_contra outside
      have word : (c :: tail).takeWhile isWordChar = [] := by
        rw [List.takeWhile_cons, if_neg outside]
      have stops : ¬ GoesOn ((c :: tail).takeWhile isWordChar)
          ((c :: tail).dropWhile isWordChar) := by
        rintro ⟨date, -⟩
        rw [word] at date
        exact absurd date (by decide)
      unfold readWord at read
      rw [split_word_stops stops, word] at read
      contradiction

def ReadsScalar (value : Value) (input rest : List Char) : Prop :=
  (∃ text, readString input = some (text, rest) ∧ value = .text text) ∨
    readWord input = some (value, rest)

theorem scalar_starts {value : Value} {input rest : List Char}
    (reads : ReadsScalar value input rest) :
    ∃ c tail, input = c :: tail ∧ (c = '"' ∨ c = '\'' ∨ isWordChar c = true) := by
  obtain ⟨text, read, -⟩ | word := reads
  · cases input with
    | nil => contradiction
    | cons c tail =>
        refine ⟨c, tail, rfl, ?_⟩
        by_contra outside
        obtain ⟨double, single, -⟩ : c ≠ '"' ∧ c ≠ '\'' ∧ ¬ isWordChar c = true := by
          simpa only [not_or] using outside
        rw [no_string_without_quote double single] at read
        contradiction
  · obtain ⟨c, tail, same, inside⟩ := word_starts word
    exact ⟨c, tail, same, .inr (.inr inside)⟩

theorem local_reads_scalar (value : Value) : Local (ReadsScalar value) := by
  rintro input rest (⟨text, read, rfl⟩ | word)
  · apply (local_read_string text input rest read).mono
    intro other left again
    exact .inl ⟨text, again, rfl⟩
  · apply (local_read_word value input rest word).mono
    intro other left again
    exact .inr again

theorem read_value_succ {fuel depth : Nat} {input rest : List Char} {value : Value} :
    readValue (fuel + 1) depth input = some (value, rest) ↔
      (∃ inside items, input = '[' :: inside ∧ depth < deepest ∧
          readItems fuel (depth + 1) inside = some (items, rest) ∧ value = .array items) ∨
        (∃ inside assignments entries, input = '\x7b' :: inside ∧ depth < deepest ∧
          readAssignments fuel (depth + 1) inside = some (assignments, rest) ∧
          Entries.assignAll [] assignments = some entries ∧ value = .table .inline entries) ∨
        ReadsScalar value input rest := by
  constructor
  · intro read
    unfold readValue at read
    split at read
    next inside =>
      split at read
      next => contradiction
      next shallow =>
        obtain ⟨⟨items, left⟩, found, same⟩ := Option.map_eq_some_iff.mp read
        cases same
        exact .inl ⟨inside, items, rfl, Nat.lt_of_not_le shallow, found, rfl⟩
    next inside =>
      split at read
      next => contradiction
      next shallow =>
        obtain ⟨⟨assignments, left⟩, found, read⟩ := Option.bind_eq_some_iff.mp read
        obtain ⟨entries, made, same⟩ := Option.bind_eq_some_iff.mp read
        cases same
        exact .inr (.inl
          ⟨inside, assignments, entries, rfl, Nat.lt_of_not_le shallow, found, made, rfl⟩)
    next =>
      split at read
      next text left found =>
        cases read
        exact .inr (.inr (.inl ⟨text, found, rfl⟩))
      next => exact .inr (.inr (.inr read))
  · rintro (⟨inside, items, rfl, shallow, found, rfl⟩ |
      ⟨inside, assignments, entries, rfl, shallow, found, made, rfl⟩ | scalar)
    · rw [readValue, if_neg (Nat.not_le_of_lt shallow), found]
      rfl
    · rw [readValue, if_neg (Nat.not_le_of_lt shallow), found]
      simp only [Option.bind_eq_bind, Option.bind_some, made]
      rfl
    · obtain ⟨c, tail, rfl, start⟩ := scalar_starts scalar
      have bracket : c ≠ '[' := by
        rintro rfl
        exact absurd start (by decide)
      have brace : c ≠ '\x7b' := by
        rintro rfl
        exact absurd start (by decide)
      obtain ⟨text, found, rfl⟩ | word := scalar
      · rw [readValue, found] <;> simp [bracket, brace]
      · obtain ⟨d, behind, same, inside⟩ := word_starts word
        cases same
        have double : c ≠ '"' := by
          rintro rfl
          exact absurd inside (by decide)
        have single : c ≠ '\'' := by
          rintro rfl
          exact absurd inside (by decide)
        rw [readValue, no_string_without_quote double single, word] <;> simp [bracket, brace]

theorem value_starts {fuel depth : Nat} {input rest : List Char} {value : Value}
    (read : readValue fuel depth input = some (value, rest)) (tail : List Char) :
    input ≠ ']' :: tail := by
  rintro rfl
  cases fuel with
  | zero => contradiction
  | succ fuel =>
      obtain ⟨inside, items, same, -⟩ | ⟨inside, assignments, entries, same, -⟩ | scalar :=
        read_value_succ.mp read
      · exact absurd (List.cons.inj same).1 (by decide)
      · exact absurd (List.cons.inj same).1 (by decide)
      · obtain ⟨c, behind, same, start⟩ := scalar_starts scalar
        obtain ⟨rfl, -⟩ := List.cons.inj same
        exact absurd start (by decide)

theorem read_items_succ {fuel depth : Nat} {input rest : List Char} {items : List Value} :
    readItems (fuel + 1) depth input = some (items, rest) ↔
      ∃ start, skipFiller false input = some start ∧
        ((start = ']' :: rest ∧ items = []) ∨
          ∃ item behind, readValue fuel depth start = some (item, behind) ∧
            ∃ mark, skipFiller false behind = some mark ∧
              ((∃ next, mark = ',' :: next ∧
                  ∃ tail, readItems fuel depth next = some (tail, rest) ∧ items = item :: tail) ∨
                (mark = ']' :: rest ∧ items = [item]))) := by
  rw [readItems]
  constructor
  · intro read
    obtain ⟨start, skipped, read⟩ := Option.bind_eq_some_iff.mp read
    refine ⟨start, skipped, ?_⟩
    split at read
    next =>
      cases read
      exact .inl ⟨rfl, rfl⟩
    next =>
      obtain ⟨⟨item, behind⟩, found, read⟩ := Option.bind_eq_some_iff.mp read
      obtain ⟨mark, skipped, read⟩ := Option.bind_eq_some_iff.mp read
      refine .inr ⟨item, behind, found, mark, skipped, ?_⟩
      split at read
      next next_ =>
        obtain ⟨tail, later, same⟩ := push_eq_some.mp read
        exact .inl ⟨next_, rfl, tail, later, same⟩
      next =>
        cases read
        exact .inr ⟨rfl, rfl⟩
      next => contradiction
  · rintro ⟨start, skipped, ⟨rfl, rfl⟩ | ⟨item, behind, found, mark, further, more⟩⟩
    · rw [skipped]
      rfl
    · rw [skipped]
      simp only [Option.bind_eq_bind, Option.bind_some]
      split
      next tail => exact absurd rfl (value_starts found tail)
      next =>
        rw [found]
        simp only [Option.bind_some, further]
        obtain ⟨next, rfl, tail, later, rfl⟩ | ⟨rfl, rfl⟩ := more
        · exact push_eq_some.mpr ⟨tail, later, rfl⟩
        · rfl

theorem key_starts {input rest : List Char} {key : Key}
    (read : readKey input = some (key, rest)) {mark : Char} (outside : isKeyChar mark = false)
    (visible : isSpace mark = false) (double : mark ≠ '"') (single : mark ≠ '\'')
    (tail : List Char) : input ≠ mark :: tail := by
  rintro rfl
  obtain ⟨⟨names, left⟩, found, -⟩ := Option.bind_eq_some_iff.mp read
  obtain ⟨name, behind, simple, -⟩ := read_names_succ.mp found
  rw [skip_space_at visible] at simple
  obtain ⟨⟨filled, -⟩, word, -⟩ := bare_of_read (fun _ same => double (List.cons.inj same).1)
    (fun _ same => single (List.cons.inj same).1) simple
  rw [List.takeWhile_cons, outside] at word
  exact filled word.symm

def AssignmentsStep (value : Value → List Char → List Char → Prop)
    (later : List (Key × Value) → List Char → List Char → Prop)
    (assignments : List (Key × Value)) (input rest : List Char) : Prop :=
  ∃ start, skipFiller false input = some start ∧
    ((start = '\x7d' :: rest ∧ assignments = []) ∨
      ∃ key equals, readKey start = some (key, equals) ∧
        ∃ given, readEquals equals = some ((), given) ∧
          ∃ first behind, value first given behind ∧
            ∃ mark, skipFiller false behind = some mark ∧
              ((∃ next, mark = ',' :: next ∧
                  ∃ tail, later tail next rest ∧ assignments = (key, first) :: tail) ∨
                (mark = '\x7d' :: rest ∧ assignments = [(key, first)])))

theorem read_assignments_succ {fuel depth : Nat} {input rest : List Char}
    {assignments : List (Key × Value)} :
    readAssignments (fuel + 1) depth input = some (assignments, rest) ↔
      AssignmentsStep (fun value input rest => readValue fuel depth input = some (value, rest))
        (fun assignments input rest => readAssignments fuel depth input = some (assignments, rest))
        assignments input rest := by
  rw [readAssignments]
  constructor
  · intro read
    obtain ⟨start, skipped, read⟩ := Option.bind_eq_some_iff.mp read
    refine ⟨start, skipped, ?_⟩
    split at read
    next =>
      cases read
      exact .inl ⟨rfl, rfl⟩
    next =>
      obtain ⟨⟨key, equals⟩, named, read⟩ := Option.bind_eq_some_iff.mp read
      obtain ⟨⟨_, given⟩, sign, read⟩ := Option.bind_eq_some_iff.mp read
      obtain ⟨⟨value, behind⟩, found, read⟩ := Option.bind_eq_some_iff.mp read
      obtain ⟨mark, skipped, read⟩ := Option.bind_eq_some_iff.mp read
      refine .inr ⟨key, equals, named, given, sign, value, behind, found, mark, skipped, ?_⟩
      split at read
      next next_ =>
        obtain ⟨tail, later, same⟩ := push_eq_some.mp read
        exact .inl ⟨next_, rfl, tail, later, same⟩
      next =>
        cases read
        exact .inr ⟨rfl, rfl⟩
      next => contradiction
  · rintro ⟨start, skipped, ⟨rfl, rfl⟩ |
      ⟨key, equals, named, given, sign, value, behind, found, mark, further, more⟩⟩
    · rw [skipped]
      rfl
    · rw [skipped]
      simp only [Option.bind_eq_bind, Option.bind_some]
      split
      next tail =>
        exact absurd rfl (key_starts named (by decide) (by decide) (by decide) (by decide) tail)
      next =>
        rw [named]
        simp only [Option.bind_some, sign, found, further]
        obtain ⟨next, rfl, tail, later, rfl⟩ | ⟨rfl, rfl⟩ := more
        · exact push_eq_some.mpr ⟨tail, later, rfl⟩
        · rfl

/-- Whether a fuelled reader comes to a value with any fuel beyond the characters it takes. -/
def Settled {α : Type} (reader : Nat → Reading α) (value : α) (input rest : List Char) : Prop :=
  rest.length ≤ input.length ∧
    ∀ fuel, input.length < rest.length + fuel → reader fuel input = some (value, rest)

theorem Settled.of_succ {α : Type} {reader : Nat → Reading α} {value : α}
    {input rest : List Char} (shorter : rest.length ≤ input.length)
    (read : ∀ fuel, input.length ≤ rest.length + fuel →
      reader (fuel + 1) input = some (value, rest)) : Settled reader value input rest := by
  refine ⟨shorter, ?_⟩
  intro fuel enough
  cases fuel with
  | zero => omega
  | succ fuel => exact read fuel (by omega)

def Keeps {α : Type} (reader : Nat → Nat → Reading α) (fuel : Nat) : Prop :=
  ∀ depth value input rest, reader fuel depth input = some (value, rest) →
    Kept (Settled (fun fuel => reader fuel depth) value) input rest

theorem keeps_value {fuel : Nat} (keptItems : Keeps readItems fuel)
    (keptAssignments : Keeps readAssignments fuel) : Keeps readValue (fuel + 1) := by
  intro depth value input rest read
  obtain ⟨inside, items, rfl, shallow, found, rfl⟩ |
    ⟨inside, assignments, entries, rfl, shallow, found, made, rfl⟩ | scalar :=
      read_value_succ.mp read
  · apply (keptItems _ _ _ _ found).after ['[']
    rintro other left - ⟨shorter, reads⟩
    apply Settled.of_succ (Nat.le_succ_of_le shorter)
    intro more enough
    exact read_value_succ.mpr (.inl ⟨other, items, rfl, shallow, reads more enough, rfl⟩)
  · apply (keptAssignments _ _ _ _ found).after ['\x7b']
    rintro other left - ⟨shorter, reads⟩
    apply Settled.of_succ (Nat.le_succ_of_le shorter)
    intro more enough
    exact read_value_succ.mpr
      (.inr (.inl ⟨other, assignments, entries, rfl, shallow, reads more enough, made, rfl⟩))
  · have kept := local_reads_scalar value input rest scalar
    apply kept.mono
    intro other left again
    apply Settled.of_succ (local_reads_scalar value other left again).length_le
    intro more enough
    exact read_value_succ.mpr (.inr (.inr again))

/-- Each closing mark is taken by the reader itself, so it pays for the fuel of those inside. -/
theorem keeps_items {fuel : Nat} (keptValue : Keeps readValue fuel)
    (keptItems : Keeps readItems fuel) : Keeps readItems (fuel + 1) := by
  intro depth items input rest read
  obtain ⟨start, skipped, ⟨rfl, rfl⟩ | ⟨item, behind, found, mark, further, more⟩⟩ :=
    read_items_succ.mp read
  · have closed : Kept (fun start left => start = ']' :: left) (']' :: rest) rest :=
      .of_front [']'] rest fun other _ => rfl
    apply ((local_skip_filler false).before skipped closed).mono
    rintro other left ⟨_, skipped, rfl⟩
    have first := (local_skip_filler false _ _ skipped).length_le
    apply Settled.of_succ (Nat.le_of_succ_le first)
    intro more enough
    exact read_items_succ.mpr ⟨_, skipped, .inl ⟨rfl, rfl⟩⟩
  · have ending : Kept (fun mark left => left.length < mark.length ∧
        ((∃ next, mark = ',' :: next ∧ ∃ tail,
            Settled (fun fuel => readItems fuel depth) tail next left ∧ items = item :: tail) ∨
          (mark = ']' :: left ∧ items = [item]))) mark rest := by
      obtain ⟨next, rfl, tail, later, rfl⟩ | ⟨rfl, rfl⟩ := more
      · apply (keptItems _ _ _ _ later).after [',']
        intro other left _ settled
        exact ⟨Nat.lt_succ_of_le settled.1, .inl ⟨other, rfl, tail, settled, rfl⟩⟩
      · apply Kept.of_front [']']
        intro other _
        exact ⟨Nat.lt_succ_self _, .inr ⟨rfl, rfl⟩⟩
    have valued := (keptValue _ _ _ _ found).chain
      ((local_skip_filler false).before further ending)
    apply ((local_skip_filler false).before skipped valued).mono
    rintro other left ⟨start, skipped, behind, found, mark, further, longer, more⟩
    have first := (local_skip_filler false _ _ skipped).length_le
    have second := found.1
    have third := (local_skip_filler false _ _ further).length_le
    apply Settled.of_succ (by omega)
    intro fuel enough
    refine read_items_succ.mpr ⟨start, skipped, .inr ⟨item, behind, ?_, mark, further, ?_⟩⟩
    · exact found.2 fuel (by omega)
    obtain ⟨next, rfl, tail, later, rfl⟩ | last := more
    · refine .inl ⟨next, rfl, tail, later.2 fuel ?_, rfl⟩
      rw [List.length_cons] at third
      omega
    · exact .inr last

/-- A reader with enough fuel for all of it has enough for each part. -/
theorem settled_of_step {depth : Nat} {assignments : List (Key × Value)} {input rest : List Char}
    (step : AssignmentsStep (fun value => Settled (fun fuel => readValue fuel depth) value)
      (fun assignments => Settled (fun fuel => readAssignments fuel depth) assignments)
      assignments input rest) :
    Settled (fun fuel => readAssignments fuel depth) assignments input rest := by
  obtain ⟨start, skipped, ⟨rfl, rfl⟩ |
    ⟨key, equals, named, given, sign, value, behind, found, mark, further, more⟩⟩ := step
  · have first := (local_skip_filler false _ _ skipped).length_le
    apply Settled.of_succ (Nat.le_of_succ_le first)
    intro fuel enough
    exact read_assignments_succ.mpr ⟨_, skipped, .inl ⟨rfl, rfl⟩⟩
  · have first := (local_skip_filler false _ _ skipped).length_le
    have second := (local_read_key key _ _ named).length_le
    have third := (local_read_equals _ _ sign).length_le
    have fourth := found.1
    have fifth := (local_skip_filler false _ _ further).length_le
    obtain ⟨next, rfl, tail, later, rfl⟩ | ⟨rfl, rfl⟩ := more
    · have sixth := later.1
      rw [List.length_cons] at fifth
      apply Settled.of_succ (by omega)
      intro fuel enough
      exact read_assignments_succ.mpr ⟨start, skipped, .inr ⟨key, equals, named, given, sign,
        value, behind, found.2 fuel (by omega), _, further,
        .inl ⟨next, rfl, tail, later.2 fuel (by omega), rfl⟩⟩⟩
    · rw [List.length_cons] at fifth
      apply Settled.of_succ (by omega)
      intro fuel enough
      exact read_assignments_succ.mpr ⟨start, skipped, .inr ⟨key, equals, named, given, sign,
        value, behind, found.2 fuel (by omega), _, further, .inr ⟨rfl, rfl⟩⟩⟩

theorem keeps_assignments {fuel : Nat} (keptValue : Keeps readValue fuel)
    (keptAssignments : Keeps readAssignments fuel) : Keeps readAssignments (fuel + 1) := by
  intro depth assignments input rest read
  obtain ⟨start, skipped, ⟨rfl, rfl⟩ |
    ⟨key, equals, named, given, sign, value, behind, found, mark, further, more⟩⟩ :=
      read_assignments_succ.mp read
  · have closed : Kept (fun start left => start = '\x7d' :: left) ('\x7d' :: rest) rest :=
      .of_front ['\x7d'] rest fun other _ => rfl
    apply ((local_skip_filler false).before skipped closed).mono
    rintro other left ⟨start, skipped, same⟩
    exact settled_of_step ⟨start, skipped, .inl ⟨same, rfl⟩⟩
  · have ending : Kept (fun mark left =>
        (∃ next, mark = ',' :: next ∧ ∃ tail,
            Settled (fun fuel => readAssignments fuel depth) tail next left ∧
              assignments = (key, value) :: tail) ∨
          (mark = '\x7d' :: left ∧ assignments = [(key, value)])) mark rest := by
      obtain ⟨next, rfl, tail, later, rfl⟩ | ⟨rfl, rfl⟩ := more
      · apply (keptAssignments _ _ _ _ later).after [',']
        intro other left _ settled
        exact .inl ⟨other, rfl, tail, settled, rfl⟩
      · apply Kept.of_front ['\x7d']
        intro other _
        exact .inr ⟨rfl, rfl⟩
    have valued := (keptValue _ _ _ _ found).chain
      ((local_skip_filler false).before further ending)
    have signed := (local_read_key key).before named (local_read_equals.before sign valued)
    apply ((local_skip_filler false).before skipped signed).mono
    rintro other left ⟨start, skipped, equals, named, given, sign, behind, found, last⟩
    exact settled_of_step
      ⟨start, skipped, .inr ⟨key, equals, named, given, sign, value, behind, found, last⟩⟩

theorem readers_keep (fuel : Nat) :
    Keeps readValue fuel ∧ Keeps readItems fuel ∧ Keeps readAssignments fuel := by
  induction fuel with
  | zero =>
      refine ⟨?_, ?_, ?_⟩
      all_goals
        intro depth found input rest read
        contradiction
  | succ fuel ih =>
      obtain ⟨values, items, assignments⟩ := ih
      exact ⟨keeps_value items assignments, keeps_items values items,
        keeps_assignments values assignments⟩

theorem settled_of_read {fuel depth : Nat} {value : Value} {input rest : List Char}
    (read : readValue fuel depth input = some (value, rest)) :
    Settled (fun fuel => readValue fuel depth) value input rest := by
  obtain ⟨used, rfl, settled⟩ := (readers_keep fuel).1 depth value input rest read
  exact settled rest rfl

theorem settled_assignments_iff {depth : Nat} {assignments : List (Key × Value)}
    {input rest : List Char} :
    Settled (fun fuel => readAssignments fuel depth) assignments input rest ↔
      AssignmentsStep (fun value => Settled (fun fuel => readValue fuel depth) value)
        (fun assignments => Settled (fun fuel => readAssignments fuel depth) assignments)
        assignments input rest := by
  refine ⟨?_, settled_of_step⟩
  intro settled
  have read := settled.2 (input.length + 1) (by omega)
  obtain ⟨start, skipped, empty | ⟨key, equals, named, given, sign, value, behind, found, mark,
    further, ⟨next, same, tail, later, whole⟩ | last⟩⟩ := read_assignments_succ.mp read
  · exact ⟨start, skipped, .inl empty⟩
  · obtain ⟨used, rfl, settledLater⟩ := (readers_keep _).2.2 _ _ _ _ later
    exact ⟨start, skipped, .inr ⟨key, equals, named, given, sign, value, behind,
      settled_of_read found, mark, further, .inl ⟨_, same, tail, settledLater rest rfl, whole⟩⟩⟩
  · exact ⟨start, skipped, .inr ⟨key, equals, named, given, sign, value, behind,
      settled_of_read found, mark, further, .inr last⟩⟩

theorem local_settled (depth : Nat) (value : Value) :
    Local (Settled (fun fuel => readValue fuel depth) value) := by
  intro input rest settled
  have read := settled.2 (input.length + 1) (by omega)
  exact (readers_keep _).1 depth value input rest read

theorem read_assignment_iff {input rest : List Char} {key : Key} {value : Value} :
    readAssignment input = some ((key, value), rest) ↔
      ∃ equals, readKey input = some (key, equals) ∧
        ∃ given, readEquals equals = some ((), given) ∧
          ∃ behind, Settled (fun fuel => readValue fuel 0) value given behind ∧
            endLine false behind = some rest := by
  constructor
  · intro read
    obtain ⟨⟨_, equals⟩, named, read⟩ := Option.bind_eq_some_iff.mp read
    obtain ⟨⟨_, given⟩, sign, read⟩ := Option.bind_eq_some_iff.mp read
    obtain ⟨⟨_, behind⟩, found, read⟩ := Option.bind_eq_some_iff.mp read
    obtain ⟨_, ended, same⟩ := Option.bind_eq_some_iff.mp read
    cases same
    exact ⟨equals, named, given, sign, behind, settled_of_read found, ended⟩
  · rintro ⟨equals, named, given, sign, behind, settled, ended⟩
    have first := (local_read_key key _ _ named).length_le
    have second := (local_read_equals _ _ sign).length_le
    have found := settled.2 (2 * input.length + 2) (by omega)
    exact Option.bind_eq_some_iff.mpr ⟨_, named, Option.bind_eq_some_iff.mpr ⟨_, sign,
      Option.bind_eq_some_iff.mpr ⟨_, found, Option.bind_eq_some_iff.mpr ⟨_, ended, rfl⟩⟩⟩⟩

theorem local_read_assignment (assignment : Key × Value) :
    Local fun input rest => readAssignment input = some (assignment, rest) := by
  obtain ⟨key, value⟩ := assignment
  intro input rest read
  obtain ⟨equals, named, given, sign, behind, settled, ended⟩ := read_assignment_iff.mp read
  have valued := (local_settled 0 value).before settled (local_end_line false _ _ ended)
  apply ((local_read_key key).before named (local_read_equals.before sign valued)).mono
  rintro other left found
  exact read_assignment_iff.mpr found

theorem read_header_iff {input rest : List Char} {header : Header} :
    readHeader input = some (header, rest) ↔
      (∃ inside, input = '[' :: '[' :: inside ∧ ∃ key mark, readKey inside = some (key, mark) ∧
          ∃ behind, mark = ']' :: ']' :: behind ∧ endLine false behind = some rest ∧
            header = .element key) ∨
        ∃ inside, input = '[' :: inside ∧ ∃ key mark, readKey inside = some (key, mark) ∧
          ∃ behind, mark = ']' :: behind ∧ endLine false behind = some rest ∧
            header = .table key := by
  constructor
  · intro read
    unfold readHeader at read
    split at read
    next inside =>
      obtain ⟨⟨key, mark⟩, named, read⟩ := Option.bind_eq_some_iff.mp read
      dsimp only at read
      split at read
      next behind =>
        obtain ⟨_, ended, same⟩ := Option.bind_eq_some_iff.mp read
        cases same
        exact .inl ⟨inside, rfl, key, _, named, behind, rfl, ended, rfl⟩
      next => contradiction
    next inside _ =>
      obtain ⟨⟨key, mark⟩, named, read⟩ := Option.bind_eq_some_iff.mp read
      dsimp only at read
      split at read
      next behind =>
        obtain ⟨_, ended, same⟩ := Option.bind_eq_some_iff.mp read
        cases same
        exact .inr ⟨inside, rfl, key, _, named, behind, rfl, ended, rfl⟩
      next => contradiction
    next => contradiction
  · rintro (⟨inside, rfl, key, mark, named, behind, rfl, ended, rfl⟩ |
      ⟨inside, rfl, key, mark, named, behind, rfl, ended, rfl⟩)
    · exact Option.bind_eq_some_iff.mpr
        ⟨_, named, Option.bind_eq_some_iff.mpr ⟨_, ended, rfl⟩⟩
    · rw [readHeader]
      · exact Option.bind_eq_some_iff.mpr
          ⟨_, named, Option.bind_eq_some_iff.mpr ⟨_, ended, rfl⟩⟩
      · exact key_starts named (by decide) (by decide) (by decide) (by decide)

theorem local_read_header (header : Header) :
    Local fun input rest => readHeader input = some (header, rest) := by
  intro input rest read
  obtain ⟨inside, rfl, key, mark, named, behind, rfl, ended, rfl⟩ |
    ⟨inside, rfl, key, mark, named, behind, rfl, ended, rfl⟩ := read_header_iff.mp read
  · have closed : Kept (fun mark left => ∃ behind, mark = ']' :: ']' :: behind ∧
        endLine false behind = some left) (']' :: ']' :: behind) rest := by
      apply (local_end_line false _ _ ended).after [']', ']']
      intro other left _ found
      exact ⟨other, rfl, found⟩
    apply ((local_read_key key).before named closed).after ['[', '[']
    rintro other left - ⟨mark, named, behind, same, ended⟩
    exact read_header_iff.mpr (.inl ⟨other, rfl, key, mark, named, behind, same, ended, rfl⟩)
  · have closed : Kept (fun mark left => ∃ behind, mark = ']' :: behind ∧
        endLine false behind = some left) (']' :: behind) rest := by
      apply (local_end_line false _ _ ended).after [']']
      intro other left _ found
      exact ⟨other, rfl, found⟩
    apply ((local_read_key key).before named closed).after ['[']
    rintro other left - ⟨mark, named, behind, same, ended⟩
    exact read_header_iff.mpr (.inr ⟨other, rfl, key, mark, named, behind, same, ended, rfl⟩)

theorem header_starts {input rest : List Char} {header : Header}
    (read : readHeader input = some (header, rest)) : ∃ inside, input = '[' :: inside := by
  obtain ⟨inside, rfl, -⟩ | ⟨inside, rfl, -⟩ := read_header_iff.mp read
  · exact ⟨_, rfl⟩
  · exact ⟨_, rfl⟩

theorem read_header_shorter {input rest : List Char} {header : Header}
    (read : readHeader input = some (header, rest)) : rest.length < input.length := by
  obtain ⟨inside, rfl, key, mark, named, behind, rfl, ended, -⟩ |
    ⟨inside, rfl, key, mark, named, behind, rfl, ended, -⟩ := read_header_iff.mp read <;>
  · have first := (local_read_key key _ _ named).length_le
    have second := (local_end_line false _ _ ended).length_le
    simp only [List.length_cons] at first ⊢
    omega

theorem read_assignment_shorter {input rest : List Char} {assignment : Key × Value}
    (read : readAssignment input = some (assignment, rest)) : rest.length < input.length := by
  obtain ⟨equals, named, given, sign, behind, settled, ended⟩ :=
    read_assignment_iff.mp (show readAssignment input = some ((_, _), rest) from read)
  have first := (local_read_key _ _ _ named).length_le
  obtain ⟨tail, rfl, space⟩ := read_equals_iff.mp sign
  have second := (local_skip_space _ _ space).length_le
  have third := settled.1
  have fourth := (local_end_line false _ _ ended).length_le
  rw [List.length_cons] at first
  omega

theorem read_lines_succ {fuel : Nat} {input : List Char} {outline : Outline} :
    readLines (fuel + 1) input = some outline ↔
      ∃ start, skipFiller false input = some start ∧
        ((start = [] ∧ outline = ⟨[], []⟩) ∨
          (∃ header next, readHeader start = some (header, next) ∧
            ∃ inner, readLines fuel next = some inner ∧
              outline = ⟨[], ⟨header, inner.assignments⟩ :: inner.sections⟩) ∨
          (∃ assignment next, readAssignment start = some (assignment, next) ∧
            ∃ inner, readLines fuel next = some inner ∧
              outline = ⟨assignment :: inner.assignments, inner.sections⟩)) := by
  rw [readLines]
  constructor
  · intro read
    obtain ⟨start, skipped, read⟩ := Option.bind_eq_some_iff.mp read
    refine ⟨start, skipped, ?_⟩
    split at read
    next =>
      cases read
      exact .inl ⟨rfl, rfl⟩
    next =>
      obtain ⟨⟨header, next⟩, found, read⟩ := Option.bind_eq_some_iff.mp read
      obtain ⟨inner, later, same⟩ := Option.bind_eq_some_iff.mp read
      cases same
      exact .inr (.inl ⟨header, next, found, inner, later, rfl⟩)
    next =>
      obtain ⟨⟨assignment, next⟩, found, read⟩ := Option.bind_eq_some_iff.mp read
      obtain ⟨inner, later, same⟩ := Option.bind_eq_some_iff.mp read
      cases same
      exact .inr (.inr ⟨assignment, next, found, inner, later, rfl⟩)
  · rintro ⟨start, skipped, ⟨rfl, rfl⟩ | ⟨header, next, found, inner, later, rfl⟩ |
      ⟨assignment, next, found, inner, later, rfl⟩⟩
    · rw [skipped]
      rfl
    · rw [skipped]
      simp only [Option.bind_eq_bind, Option.bind_some]
      split
      next => contradiction
      next =>
        rw [found, Option.bind_some, later]
        rfl
      next _ noBracket =>
        obtain ⟨inside, same⟩ := header_starts found
        exact absurd same (noBracket inside)
    · obtain ⟨equals, named, -⟩ := read_assignment_iff.mp found
      rw [skipped]
      simp only [Option.bind_eq_bind, Option.bind_some]
      split
      next => contradiction
      next tail =>
        exact absurd rfl (key_starts named (by decide) (by decide) (by decide) (by decide) tail)
      next =>
        rw [found, Option.bind_some, later]
        rfl

theorem read_lines_enough {fuel more : Nat} {input : List Char} {outline : Outline}
    (read : readLines fuel input = some outline) (enough : input.length < more) :
    readLines more input = some outline := by
  induction fuel generalizing input outline more with
  | zero => contradiction
  | succ fuel ih =>
      cases more with
      | zero => exact absurd enough (Nat.not_lt_zero _)
      | succ more =>
          obtain ⟨start, skipped, empty | ⟨header, next, found, inner, later, rfl⟩ |
            ⟨assignment, next, found, inner, later, rfl⟩⟩ := read_lines_succ.mp read
          · exact read_lines_succ.mpr ⟨start, skipped, .inl empty⟩
          · have first := (local_skip_filler false _ _ skipped).length_le
            have second := read_header_shorter found
            exact read_lines_succ.mpr ⟨start, skipped, .inr (.inl
              ⟨header, next, found, inner, ih later (by omega), rfl⟩)⟩
          · have first := (local_skip_filler false _ _ skipped).length_le
            have second := read_assignment_shorter found
            exact read_lines_succ.mpr ⟨start, skipped, .inr (.inr
              ⟨assignment, next, found, inner, ih later (by omega), rfl⟩)⟩

end CertSteward.Toml
