import CertSteward.Toml.Writer

/-!
# Written strings are read back

A string in any style is read as the text that was written, up to its closing
quotes and no further, provided that the style can hold the text; and the style
that is chosen for a text can.
-/

namespace CertSteward.Toml

set_option autoImplicit false

theorem is_plain_of_not_escaped {c : Char} (unescaped : needsEscape c = false)
    (sameLine : c ≠ '\n') : isPlain c = true := by
  by_cases tab : c = '\t'
  · rw [tab]
    rfl
  · have bounds : 0x20 ≤ c.toNat ∧ c.toNat ≠ 0x7F := by
      simpa [needsEscape, tab, sameLine] using unescaped
    simp [isPlain, bounds.1, bounds.2]

theorem scalar_of_upper_hex {n : Nat} (small : n < 0x80) :
    scalar? ['0', '0', upperHexDigit (n / 16), upperHexDigit (n % 16)] = some (Char.ofNat n) :=
  (by decide : ∀ n < 0x80,
    scalar? ['0', '0', upperHexDigit (n / 16), upperHexDigit (n % 16)] = some (Char.ofNat n))
    n small

theorem escaped_small {c : Char} (control : needsEscape c = true) : c.toNat < 0x80 := by
  have range : c.toNat < 0x20 ∧ c ≠ '\t' ∧ c ≠ '\n' ∨ c.toNat = 0x7F := by
    simpa [needsEscape, and_assoc] using control
  omega

theorem scalar_of_escape {c : Char} (control : needsEscape c = true) :
    scalar? ['0', '0', upperHexDigit (c.toNat / 16), upperHexDigit (c.toNat % 16)] = some c := by
  rw [scalar_of_upper_hex (escaped_small control), Char.ofNat_toNat]

inductive Written (lines : Bool) (c : Char) : List Char → Prop where
  | itself (plain : isPlain c = true) (slashless : c ≠ '\\') : Written lines c [c]
  | newline (multiline : lines = true) (same : c = '\n') : Written lines c ['\n']
  | short (mark : Char) (known : shortEscape? mark = some c) (ordinary : mark ≠ 'x' ∧ mark ≠ 'u' ∧
      mark ≠ 'U' ∧ isSpace mark = false ∧ mark ≠ '\n' ∧ mark ≠ '\r') : Written lines c ['\\', mark]
  | numbered (control : needsEscape c = true) : Written lines c (numberedEscape c)

theorem written_char (lines : Bool) (c : Char) : Written lines c (basicChar lines c) := by
  unfold basicChar
  split
  next same => exact .short 'b' (by rw [same]; rfl) (by decide)
  split
  next same => exact .short 't' (by rw [same]; rfl) (by decide)
  split
  next same =>
    cases lines with
    | false => exact .short 'n' (by rw [same]; rfl) (by decide)
    | true => exact .newline rfl same
  split
  next same => exact .short 'f' (by rw [same]; rfl) (by decide)
  split
  next same => exact .short 'r' (by rw [same]; rfl) (by decide)
  split
  next same => exact .short '\\' (by rw [same]; rfl) (by decide)
  next sameLine _ _ slashless =>
    split
    next control => exact .numbered control
    next unescaped =>
      exact .itself (is_plain_of_not_escaped (Bool.eq_false_iff.mpr unescaped) sameLine) slashless

theorem read_basic_short {mark c : Char} (known : shortEscape? mark = some c)
    (ordinary : mark ≠ 'x' ∧ mark ≠ 'u' ∧ mark ≠ 'U') (rest : List Char) :
    readBasic ('\\' :: mark :: rest) = push c (readBasic rest) := by
  rw [readBasic, known] <;> simp [ordinary]

theorem read_basic_char {c : Char} (inside : c ≠ '"') (rest : List Char) :
    readBasic (basicChar false c ++ rest) = push c (readBasic rest) := by
  have written := written_char false c
  generalize basicChar false c = form at written ⊢
  cases written with
  | itself plain slashless => exact read_basic_plain plain slashless inside rest
  | newline multiline => contradiction
  | short mark known ordinary =>
      exact read_basic_short known ⟨ordinary.1, ordinary.2.1, ordinary.2.2.1⟩ rest
  | numbered control =>
      change readBasic ('\\' :: 'u' :: '0' :: '0' :: _ :: _ :: rest) = _
      rw [readBasic, scalar_of_escape control]
      rfl

/-- Every text can stand on one line between double quotes. -/
theorem read_basic (run : Nat) (text rest : List Char) :
    readBasic (basicChars false 0 run text ++ '"' :: rest) = some (text, rest) := by
  induction text generalizing run with
  | nil => rfl
  | cons c text ih =>
      rw [basicChars]
      split
      next quote =>
        rw [if_neg (Nat.not_lt_zero run), List.cons_append, List.cons_append,
          read_basic_short (c := '"') rfl (by decide), ih, quote]
        rfl
      next inside =>
        rw [List.append_assoc, read_basic_char inside, ih]
        rfl

theorem read_literal {text : List Char} (plain : ∀ c ∈ text, isPlain c = true ∧ c ≠ '\'')
    (rest : List Char) : readLiteral (text ++ '\'' :: rest) = some (text, rest) := by
  induction text with
  | nil => rfl
  | cons c text ih =>
      obtain ⟨printable, inside⟩ := plain c List.mem_cons_self
      rw [List.cons_append, readLiteral, if_pos printable,
        ih fun other member => plain other (List.mem_cons_of_mem c member)]
      · rfl
      · exact inside

theorem ne_cons_of_head {mark : Char} {rest : List Char} (apart : rest.head? ≠ some mark)
    (tail : List Char) : rest ≠ mark :: tail := by
  rintro rfl
  exact apart rfl

theorem longest_run_ge (mark : Char) (run : Nat) (text : List Char) :
    run ≤ longestRun mark run text := by
  induction text generalizing run with
  | nil => exact Nat.le_refl run
  | cons c text ih =>
      rw [longestRun]
      split
      · exact Nat.le_trans (Nat.le_succ run) (ih (run + 1))
      · exact Nat.le_max_left _ _

theorem read_literal_lines_inside {c : Char} (unescaped : needsEscape c = false)
    (inside : c ≠ '\'') (rest : List Char) :
    readLiteralLines (c :: rest) = push c (readLiteralLines rest) := by
  by_cases newline : c = '\n'
  · rw [newline, readLiteralLines]
  · exact read_literal_lines_plain (is_plain_of_not_escaped unescaped newline) inside rest

/-- Fewer than three quotes stand for themselves before any other character. -/
theorem read_single_quotes {run : Nat} (few : run ≤ 2) {c : Char} (other : c ≠ '\'')
    {inside text rest : List Char}
    (behind : readLiteralLines (c :: inside) = some (text, rest)) :
    readLiteralLines (List.replicate run '\'' ++ c :: inside) =
      some (List.replicate run '\'' ++ text, rest) := by
  have single : readLiteralLines ('\'' :: c :: inside) = some ('\'' :: text, rest) := by
    rw [readLiteralLines, if_pos (by decide), behind] <;> simp [other, push]
  obtain rfl | rfl | rfl : run = 0 ∨ run = 1 ∨ run = 2 := by omega
  · exact behind
  · exact single
  · change readLiteralLines ('\'' :: '\'' :: c :: inside) = _
    rw [readLiteralLines, if_pos (by decide), single] <;> simp [other, push, List.replicate]

/-- The closing quotes are the last three of those in a row. -/
theorem read_closing_single_quotes {run : Nat} (few : run ≤ 2) {rest : List Char}
    (alone : ∀ tail, rest ≠ '\'' :: tail) :
    readLiteralLines (List.replicate run '\'' ++ '\'' :: '\'' :: '\'' :: rest) =
      some (List.replicate run '\'', rest) := by
  obtain rfl | rfl | rfl : run = 0 ∨ run = 1 ∨ run = 2 := by omega
  · change readLiteralLines ('\'' :: '\'' :: '\'' :: rest) = _
    rw [readLiteralLines] <;> simp [alone]
  · change readLiteralLines ('\'' :: '\'' :: '\'' :: '\'' :: rest) = _
    rw [readLiteralLines] <;> simp [alone]
  · rfl

theorem read_literal_run {text rest : List Char} (unescaped : ∀ c ∈ text, needsEscape c = false)
    (apart : rest.head? ≠ some '\'') (run : Nat) (few : longestRun '\'' run text ≤ 2) :
    readLiteralLines (List.replicate run '\'' ++ (text ++ '\'' :: '\'' :: '\'' :: rest)) =
      some (List.replicate run '\'' ++ text, rest) := by
  have short := Nat.le_trans (longest_run_ge '\'' run text) few
  induction text generalizing run with
  | nil =>
      rw [List.nil_append, List.append_nil]
      exact read_closing_single_quotes short (ne_cons_of_head apart)
  | cons c text ih =>
      have later := ih fun other member => unescaped other (List.mem_cons_of_mem c member)
      rw [longestRun] at few
      -- The quotes of a run are held back until the character behind them is known.
      by_cases quote : c = '\''
      · rw [if_pos quote] at few
        have longer := later (run + 1) few (Nat.le_trans (longest_run_ge '\'' _ text) few)
        simpa only [quote, List.replicate_succ', List.append_assoc, List.cons_append,
          List.nil_append] using longer
      · rw [if_neg quote] at few
        have behind := later 0 (Nat.le_trans (Nat.le_max_right _ _) few) (Nat.zero_le 2)
        rw [List.replicate_zero, List.nil_append, List.nil_append] at behind
        rw [List.cons_append]
        apply read_single_quotes short quote
        rw [read_literal_lines_inside (unescaped c List.mem_cons_self) quote, behind]
        rfl

/-- A text without three single quotes in a row can stand between three of them. -/
theorem read_literal_lines {text rest : List Char}
    (unescaped : ∀ c ∈ text, needsEscape c = false) (few : longestRun '\'' 0 text ≤ 2)
    (apart : rest.head? ≠ some '\'') :
    readLiteralLines (text ++ '\'' :: '\'' :: '\'' :: rest) = some (text, rest) :=
  read_literal_run unescaped apart 0 few

theorem read_pieces_short {mark c : Char} (known : shortEscape? mark = some c)
    (ordinary : mark ≠ 'x' ∧ mark ≠ 'u' ∧ mark ≠ 'U' ∧ isSpace mark = false ∧ mark ≠ '\n' ∧
      mark ≠ '\r') (rest : List Char) :
    readPieces ('\\' :: mark :: rest) = push (.escaped c) (readPieces rest) := by
  rw [readPieces, known] <;> simp [ordinary]

theorem read_pieces_blank {mark : Char} (blank : (isSpace mark || mark == '\n') = true)
    (rest : List Char) :
    readPieces ('\\' :: mark :: rest) = push .join (push (.raw mark) (readPieces rest)) := by
  have ordinary : mark ≠ 'x' ∧ mark ≠ 'u' ∧ mark ≠ 'U' ∧ mark ≠ '\r' := by
    refine ⟨?_, ?_, ?_, ?_⟩ <;> rintro rfl <;> simp [isSpace] at blank
  rw [readPieces, if_pos blank] <;> simp [ordinary]

/-- Three quotes close a string, unless a fourth one follows. -/
theorem read_pieces_closing {rest : List Char} (alone : ∀ tail, rest ≠ '"' :: tail) :
    readPieces ('"' :: '"' :: '"' :: rest) = some ([], rest) := by
  rw [readPieces] <;> simp [alone]

theorem read_pieces_quote_closing {rest : List Char} (alone : ∀ tail, rest ≠ '"' :: tail) :
    readPieces ('"' :: '"' :: '"' :: '"' :: rest) = some ([.raw '"'], rest) := by
  rw [readPieces]
  exact alone

/-- Whether pieces are read up to some text, and join to a text. -/
def Joins (input text rest : List Char) : Prop :=
  ∃ pieces, readPieces input = some (pieces, rest) ∧ joinPieces .off pieces = some text

theorem Joins.raw {c : Char} {input inside text rest : List Char}
    (joins : Joins inside text rest)
    (first : readPieces input = push (.raw c) (readPieces inside)) :
    Joins input (c :: text) rest := by
  obtain ⟨pieces, read, joined⟩ := joins
  refine ⟨.raw c :: pieces, ?_, ?_⟩
  · rw [first, read]
    rfl
  · rw [joinPieces, joined]
    rfl

theorem Joins.escaped {c : Char} {input inside text rest : List Char}
    (joins : Joins inside text rest)
    (first : readPieces input = push (.escaped c) (readPieces inside)) :
    Joins input (c :: text) rest := by
  obtain ⟨pieces, read, joined⟩ := joins
  refine ⟨.escaped c :: pieces, ?_, ?_⟩
  · rw [first, read]
    rfl
  · rw [joinPieces, joined]
    · rfl
    · exact Joining.noConfusion

theorem joins_char {c : Char} (other : c ≠ '"') {inside text rest : List Char}
    (joins : Joins inside text rest) : Joins (basicChar true c ++ inside) (c :: text) rest := by
  have written := written_char true c
  generalize basicChar true c = form at written ⊢
  cases written with
  | itself plain slashless => exact joins.raw (read_pieces_plain plain slashless other inside)
  | newline multiline same =>
      rw [same]
      exact joins.raw rfl
  | short mark known ordinary => exact joins.escaped (read_pieces_short known ordinary inside)
  | numbered control =>
      apply joins.escaped
      change readPieces ('\\' :: 'u' :: '0' :: '0' :: _ :: _ :: inside) = _
      rw [readPieces, scalar_of_escape control]
      rfl

/-- Fewer than three quotes stand for themselves before any other character. -/
theorem joins_quotes {run : Nat} (few : run ≤ 2) {c : Char} (other : c ≠ '"')
    {inside text rest : List Char} (joins : Joins (c :: inside) text rest) :
    Joins (List.replicate run '"' ++ c :: inside) (List.replicate run '"' ++ text) rest := by
  have single : Joins ('"' :: c :: inside) ('"' :: text) rest := by
    apply joins.raw
    rw [readPieces, if_pos (by decide)] <;> simp [other]
  obtain rfl | rfl | rfl : run = 0 ∨ run = 1 ∨ run = 2 := by omega
  · exact joins
  · exact single
  · apply single.raw
    rw [List.replicate, List.replicate, List.cons_append, List.cons_append, readPieces,
      if_pos (by decide)] <;> simp [other]

theorem joins_closing_quotes {run : Nat} (few : run ≤ 2) {rest : List Char}
    (apart : rest.head? ≠ some '"') :
    Joins (List.replicate run '"' ++ '"' :: '"' :: '"' :: rest) (List.replicate run '"') rest := by
  have alone := ne_cons_of_head apart
  obtain rfl | rfl | rfl : run = 0 ∨ run = 1 ∨ run = 2 := by omega
  · exact ⟨[], read_pieces_closing alone, rfl⟩
  · exact ⟨[.raw '"'], read_pieces_quote_closing alone, rfl⟩
  · exact ⟨[.raw '"', .raw '"'], rfl, rfl⟩

/-- A character other than a quote begins with no quote and no carriage return, and with a line
break only if it is one. -/
theorem basic_char_head (lines : Bool) {c : Char} (other : c ≠ '"') :
    ∃ first tail, basicChar lines c = first :: tail ∧ first ≠ '"' ∧ first ≠ '\r' ∧
      (first = '\n' → c = '\n') := by
  have written := written_char lines c
  generalize basicChar lines c = form at written ⊢
  cases written with
  | itself plain slashless =>
      have noReturn : c ≠ '\r' := by
        rintro rfl
        contradiction
      exact ⟨c, [], rfl, other, noReturn, id⟩
  | newline multiline same => exact ⟨'\n', [], rfl, by decide, by decide, fun _ => same⟩
  | short mark => exact ⟨'\\', [mark], rfl, by simp⟩
  | numbered => exact ⟨'\\', _, rfl, by simp⟩

theorem joins_run (text : List Char) {rest : List Char} (apart : rest.head? ≠ some '"')
    (run : Nat) (few : run ≤ 2) :
    Joins (List.replicate run '"' ++ (basicChars true 2 run text ++ '"' :: '"' :: '"' :: rest))
      (List.replicate run '"' ++ text) rest := by
  induction text generalizing run with
  | nil =>
      rw [List.append_nil]
      exact joins_closing_quotes few apart
  | cons c text ih =>
      rw [basicChars]
      by_cases quote : c = '"'
      · rw [if_pos quote]
        -- Every third quote is escaped, which ends the run in front of it.
        by_cases room : run < 2
        · have longer := ih (run + 1) room
          rw [if_pos room]
          simpa only [quote, List.replicate_succ', List.append_assoc, List.cons_append,
            List.nil_append] using longer
        · rw [if_neg room, quote]
          exact joins_quotes few (by decide)
            ((ih 0 (Nat.zero_le 2)).escaped (read_pieces_short rfl (by decide) _))
      · obtain ⟨first, tail, form, other, -⟩ := basic_char_head true quote
        have behind := joins_char quote (ih 0 (Nat.zero_le 2))
        rw [form] at behind
        rw [if_neg quote, List.append_assoc, form]
        exact joins_quotes few other behind

/-- The break that is dropped behind an opening is the one written there. -/
theorem drop_opening_break {text body : List Char}
    (starts : '\n' ∉ text → body.head? ≠ some '\n' ∧ body.head? ≠ some '\r') :
    dropBreak (openingBreak text ++ body) = body := by
  unfold openingBreak
  by_cases broken : '\n' ∈ text
  · rw [if_pos (List.contains_iff_mem.mpr broken)]
    rfl
  · rw [if_neg (mt List.contains_iff_mem.mp broken), List.nil_append]
    obtain ⟨noBreak, noReturn⟩ := starts broken
    rw [dropBreak]
    · rintro rest rfl
      exact noReturn rfl
    · rintro rest rfl
      exact noBreak rfl

/-- Every text can stand on several lines between three double quotes. -/
theorem read_basic_lines (text : List Char) {rest : List Char} (apart : rest.head? ≠ some '"') :
    readBasicLines (openingBreak text ++ (basicChars true 2 0 text ++ '"' :: '"' :: '"' :: rest)) =
      some (text, rest) := by
  obtain ⟨pieces, read, joined⟩ := joins_run text apart 0 (Nat.zero_le 2)
  rw [List.replicate_zero, List.nil_append] at read joined
  rw [readBasicLines, drop_opening_break, read]
  · simp only [Option.bind_eq_bind, Option.bind_some, joined]
    rfl
  · intro unbroken
    cases text with
    | nil => simp [basicChars]
    | cons c text =>
        rw [basicChars]
        by_cases quote : c = '"'
        · simp [quote]
        · obtain ⟨first, tail, form, -, noReturn, breaks⟩ := basic_char_head true quote
          rw [if_neg quote, form]
          refine ⟨?_, ?_⟩
          · intro found
            rw [breaks (Option.some.inj found)] at unbroken
            exact unbroken List.mem_cons_self
          · intro found
            exact noReturn (Option.some.inj found)

theorem read_basic_string (text : List Char) {rest : List Char} (apart : rest.head? ≠ some '"') :
    readString ('"' :: (basicChars false 0 0 text ++ '"' :: rest)) =
      some (String.ofList text, rest) := by
  have single : ∀ tail, basicChars false 0 0 text ++ '"' :: rest ≠ '"' :: '"' :: tail := by
    intro tail same
    -- Two quotes make a blank text, and nothing behind them a third one.
    cases text with
    | nil =>
        rw [basicChars, List.nil_append] at same
        exact apart (congrArg List.head? (List.cons.inj same).2)
    | cons c text =>
        rw [basicChars] at same
        by_cases quote : c = '"'
        · simp [quote] at same
        · obtain ⟨first, others, form, other, -⟩ := basic_char_head false quote
          rw [if_neg quote, form] at same
          exact other (List.cons.inj same).1
  rw [readString, read_basic]
  · rfl
  · intro tail same
    exact single tail same

theorem read_literal_string {text : List Char} (plain : ∀ c ∈ text, isPlain c = true ∧ c ≠ '\'')
    {rest : List Char} (apart : rest.head? ≠ some '\'') :
    readString ('\'' :: (text ++ '\'' :: rest)) = some (String.ofList text, rest) := by
  rw [readString, read_literal plain]
  · rfl
  · intro tail same
    cases text with
    | nil => exact apart (congrArg List.head? (List.cons.inj same).2)
    | cons c text => exact (plain c List.mem_cons_self).2 (List.cons.inj same).1

theorem read_literal_lines_string {text : List Char}
    (unescaped : ∀ c ∈ text, needsEscape c = false) (few : longestRun '\'' 0 text ≤ 2)
    {rest : List Char} (apart : rest.head? ≠ some '\'') :
    readString ('\'' :: '\'' :: '\'' ::
      (openingBreak text ++ (text ++ '\'' :: '\'' :: '\'' :: rest))) =
      some (String.ofList text, rest) := by
  rw [readString, drop_opening_break, read_literal_lines unescaped few apart]
  · rfl
  · intro unbroken
    cases text with
    | nil => simp
    | cons c text =>
        have noReturn : c ≠ '\r' := by
          rintro rfl
          exact absurd (unescaped '\r' List.mem_cons_self) (by decide)
        have noBreak : c ≠ '\n' := by
          rintro rfl
          exact unbroken List.mem_cons_self
        simp [noReturn, noBreak]

def Style.Holds (text : List Char) : Style → Prop
  | .literal => ∀ c ∈ text, isPlain c = true ∧ c ≠ '\''
  | .literalLines => (∀ c ∈ text, needsEscape c = false) ∧ longestRun '\'' 0 text ≤ 2
  | _ => True

theorem read_styled {style : Style} {text rest : List Char} (holds : style.Holds text)
    (double : rest.head? ≠ some '"') (single : rest.head? ≠ some '\'') :
    readString (writeStyled style text ++ rest) = some (String.ofList text, rest) := by
  cases style <;> simp only [writeStyled, List.append_assoc, List.cons_append, List.nil_append]
  case basic => exact read_basic_string text double
  case literal => exact read_literal_string holds single
  case basicLines =>
    rw [readString, read_basic_lines text double]
    rfl
  case literalLines => exact read_literal_lines_string holds.1 holds.2 single

theorem not_mem_of_no_run {mark : Char} {text : List Char} (none : longestRun mark 0 text = 0) :
    mark ∉ text := by
  induction text with
  | nil => exact List.not_mem_nil
  | cons c text ih =>
      rw [longestRun] at none
      split at none
      · exact absurd none (Nat.ne_of_gt (longest_run_ge mark 1 text))
      · rename_i other
        have later := ih (by omega)
        simp only [List.mem_cons, not_or]
        exact ⟨fun same => other same.symm, later⟩

/-- The style of a value can hold it. -/
theorem value_style_holds (text : List Char) : (valueStyle text).Holds text := by
  unfold valueStyle
  dsimp only
  split
  · trivial
  split
  next fits =>
    simp only [Bool.and_eq_true, Bool.not_eq_true', beq_iff_eq, List.any_eq_false,
      Bool.not_eq_true] at fits
    obtain ⟨⟨unescaped, no_quote⟩, unbroken⟩ := fits
    have unbroken : '\n' ∉ text := fun member => by simp [member] at unbroken
    intro c member
    refine ⟨is_plain_of_not_escaped (unescaped c member) ?_, ?_⟩
    · rintro rfl
      exact unbroken member
    · rintro rfl
      exact not_mem_of_no_run no_quote member
  split
  · trivial
  split
  next fits =>
    simp only [Bool.and_eq_true, Bool.not_eq_true', decide_eq_true_eq, List.any_eq_false,
      Bool.not_eq_true] at fits
    exact fits
  split <;> trivial

/-- The style of a quoted key can hold it. -/
theorem key_style_holds (text : List Char) : (keyStyle text).Holds text := by
  unfold keyStyle
  dsimp only
  split
  · trivial
  split
  next fits =>
    simp only [Bool.and_eq_true, Bool.or_eq_false_iff, Bool.not_eq_true', List.any_eq_false,
      Bool.not_eq_true] at fits
    obtain ⟨⟨unescaped, unbroken⟩, no_quote⟩ := fits
    intro c member
    refine ⟨is_plain_of_not_escaped (unescaped c member) ?_, ?_⟩
    · rintro rfl
      simp [member] at unbroken
    · rintro rfl
      simp [member] at no_quote
  · trivial

/-- A written text is read as itself. -/
theorem read_write_text (text : String) {rest : List Char} (double : rest.head? ≠ some '"')
    (single : rest.head? ≠ some '\'') :
    readString (writeText text ++ rest) = some (text, rest) := by
  rw [writeText, read_styled (value_style_holds text.toList) double single, String.ofList_toList]

theorem write_styled_head (style : Style) (text : List Char) :
    ∃ tail, writeStyled style text = '"' :: tail ∨ writeStyled style text = '\'' :: tail := by
  cases style
  case basic => exact ⟨_, .inl rfl⟩
  case literal => exact ⟨_, .inr rfl⟩
  case basicLines => exact ⟨_, .inl rfl⟩
  case literalLines => exact ⟨_, .inr rfl⟩

end CertSteward.Toml
