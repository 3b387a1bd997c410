import CertSteward.Config.Text
import CertSteward.Proofs.Toml.Strings
import Mathlib.Data.List.Basic

/-!
# Written lines are read back

An assignment of a text or of a number, and a header, are each read as what
they say, and reading goes on behind the line. The outline of a text is so put
together line by line.
-/

namespace CertSteward.Toml

set_option autoImplicit false

/-- A word ends where the first other character stands. -/
theorem take_word {p : Char → Bool} {word rest : List Char} (inside : ∀ c ∈ word, p c = true)
    (boundary : ∀ c, rest.head? = some c → p c = false) :
    (word ++ rest).takeWhile p = word ∧ (word ++ rest).dropWhile p = rest := by
  rw [List.takeWhile_append_of_pos inside, List.dropWhile_append_of_pos inside]
  cases rest with
  | nil => exact ⟨List.append_nil word, rfl⟩
  | cons c rest =>
      have ended := boundary c rfl
      simp [ended]

theorem skip_space_at {c : Char} (visible : isSpace c = false) (rest : List Char) :
    skipSpace (c :: rest) = c :: rest := by
  rw [skipSpace, List.dropWhile_cons, visible]
  rfl

/-- A character of a bare key is none of the marks. -/
theorem key_char_ne {c : Char} (inside : isKeyChar c = true) (mark : Char)
    (outside : isKeyChar mark = false) : c ≠ mark := by
  rintro rfl
  rw [inside] at outside
  contradiction

theorem key_char_visible {c : Char} (inside : isKeyChar c = true) : isSpace c = false := by
  have blank := key_char_ne inside ' ' (by decide)
  have tab := key_char_ne inside '\t' (by decide)
  simp [isSpace, blank, tab]

def IsBare (name : String) : Prop :=
  name.toList ≠ [] ∧ ∀ c ∈ name.toList, isKeyChar c = true

instance (name : String) : Decidable (IsBare name) :=
  decidable_of_iff (name.toList ≠ [] ∧ name.toList.all isKeyChar = true)
    (and_congr Iff.rfl List.all_eq_true)

theorem read_bare_key {name : String} (bare : IsBare name) {rest : List Char}
    (boundary : ∀ c, rest.head? = some c → isKeyChar c = false) :
    readSimpleKey (name.toList ++ rest) = some (name, rest) := by
  obtain ⟨filled, inside⟩ := bare
  obtain ⟨word, tail⟩ := take_word inside boundary
  have back : String.ofList name.toList = name := String.ofList_toList
  generalize name.toList = text at *
  cases text with
  | nil => contradiction
  | cons c text =>
      have double := key_char_ne (inside c List.mem_cons_self) '"' (by decide)
      have single := key_char_ne (inside c List.mem_cons_self) '\'' (by decide)
      rw [List.cons_append] at word tail ⊢
      rw [readSimpleKey, word, tail]
      · dsimp only
        rw [back]
      · rintro rest same
        exact double (List.cons.inj same).1
      · rintro rest same
        exact single (List.cons.inj same).1

theorem read_quoted_key (text rest : List Char) :
    readSimpleKey (writeStyled (keyStyle text) text ++ rest) = some (String.ofList text, rest) := by
  have holds := key_style_holds text
  have oneLine : keyStyle text = .basic ∨ keyStyle text = .literal := by
    unfold keyStyle
    dsimp only
    split
    · exact .inl rfl
    split
    · exact .inr rfl
    · exact .inl rfl
  obtain style | style := oneLine <;> rw [style] at holds ⊢ <;>
    simp only [writeStyled, List.append_assoc, List.cons_append, List.nil_append]
  · rw [readSimpleKey, read_basic]
    rfl
  · rw [readSimpleKey, read_literal holds]
    rfl

theorem write_key_cases (name : String) :
    IsBare name ∧ writeKey name = name.toList ∨
      writeKey name = writeStyled (keyStyle name.toList) name.toList := by
  unfold writeKey
  dsimp only
  split
  next bare =>
    simp only [Bool.and_eq_true, Bool.not_eq_true', List.isEmpty_eq_false_iff, ne_eq,
      List.all_eq_true] at bare
    exact .inl ⟨bare, rfl⟩
  next => exact .inr rfl

/-- A written key is read as itself. -/
theorem read_write_key (name : String) {rest : List Char}
    (boundary : ∀ c, rest.head? = some c → isKeyChar c = false) :
    readSimpleKey (writeKey name ++ rest) = some (name, rest) := by
  obtain ⟨bare, written⟩ | written := write_key_cases name
  · rw [written, read_bare_key bare boundary]
  · rw [written, read_quoted_key, String.ofList_toList]

theorem bare_key_start {name : String} (bare : IsBare name) (rest : List Char) :
    ∃ c tail, name.toList ++ rest = c :: tail ∧ isKeyChar c = true := by
  obtain ⟨filled, inside⟩ := bare
  cases text : name.toList with
  | nil => contradiction
  | cons c tail =>
      rw [text] at inside
      exact ⟨c, tail ++ rest, rfl, inside c List.mem_cons_self⟩

theorem bare_key_visible {name : String} (bare : IsBare name) (rest : List Char) :
    skipSpace (name.toList ++ rest) = name.toList ++ rest := by
  obtain ⟨c, behind, same, inside⟩ := bare_key_start bare rest
  rw [same]
  exact skip_space_at (key_char_visible inside) behind

theorem written_key_visible (name : String) (rest : List Char) :
    skipSpace (writeKey name ++ rest) = writeKey name ++ rest := by
  obtain ⟨bare, written⟩ | written := write_key_cases name
  · rw [written, bare_key_visible bare]
  · obtain ⟨tail, head | head⟩ := write_styled_head (keyStyle name.toList) name.toList
    · rw [written, head]
      exact skip_space_at (by decide) _
    · rw [written, head]
      exact skip_space_at (by decide) _

/-- A name without dots behind it. -/
theorem read_last_name {input rest : List Char} {name : String} (fuel : Nat)
    (start : skipSpace input = input) (simple : readSimpleKey input = some (name, rest))
    (ended : (skipSpace rest).head? ≠ some '.') :
    readNames (fuel + 1) input = some ([name], skipSpace rest) := by
  rw [readNames, start, simple]
  simp only [Option.bind_eq_bind, Option.bind_some]
  split
  next more => exact absurd (congrArg List.head? more) ended
  next => rfl

theorem read_name_before_dot {input rest : List Char} {name : String} (fuel : Nat)
    (start : skipSpace input = input)
    (simple : readSimpleKey input = some (name, '.' :: rest)) :
    readNames (fuel + 1) input = push name (readNames fuel rest) := by
  rw [readNames, start, simple]
  rfl

theorem read_plain_key {input rest : List Char} {name : String}
    (start : skipSpace input = input) (simple : readSimpleKey input = some (name, rest))
    (ended : (skipSpace rest).head? ≠ some '.') :
    readKey input = some (⟨[], name⟩, skipSpace rest) := by
  rw [readKey, read_last_name _ start simple ended]
  rfl

theorem read_dotted_key {input rest tail : List Char} {owner name : String}
    (start : skipSpace input = input)
    (first : readSimpleKey input = some (owner, '.' :: rest))
    (visible : skipSpace rest = rest) (second : readSimpleKey rest = some (name, tail))
    (ended : (skipSpace tail).head? ≠ some '.') (filled : input ≠ []) :
    readKey input = some (⟨[owner], name⟩, skipSpace tail) := by
  cases input with
  | nil => contradiction
  | cons c input =>
      rw [readKey, List.length_cons, read_name_before_dot _ start first,
        read_last_name _ visible second ended]
      rfl

/-- Whether a text is read as a value that ends with the line. -/
def ReadsAs (text : List Char) (value : Value) : Prop :=
  (∃ c tail, text = c :: tail ∧ isSpace c = false) ∧
    ∀ fuel rest, readValue (fuel + 1) 0 (text ++ '\n' :: rest) = some (value, '\n' :: rest)

theorem text_reads_as (text : String) : ReadsAs (writeText text) (.text text) := by
  obtain ⟨tail, head⟩ := write_styled_head (valueStyle text.toList) text.toList
  refine ⟨?_, ?_⟩
  · obtain double | single := head
    · exact ⟨'"', tail, double, by decide⟩
    · exact ⟨'\'', tail, single, by decide⟩
  · intro fuel rest
    have read : readString (writeText text ++ '\n' :: rest) = some (text, '\n' :: rest) :=
      read_write_text text (by simp) (by simp)
    rw [writeText] at read ⊢
    obtain double | single := head
    · rw [double, List.cons_append] at read ⊢
      rw [readValue, read] <;> simp
    · rw [single, List.cons_append] at read ⊢
      rw [readValue, read] <;> simp

/-- The digits of a number, without a zero in front unless it is the number zero. -/
theorem decimal_digits (n : Nat) :
    ∃ digits : List Nat, Nat.toDigits 10 n = digits.map Nat.digitChar ∧
      (∀ digit ∈ digits, digit < 10) ∧ ofDigits 10 digits = n ∧ digits ≠ [] ∧
      (digits.head? = some 0 → digits = [0]) := by
  -- The last digit is split off, so the induction is on the number without it.
  induction n using Nat.strongRecOn with
  | ind n ih =>
      by_cases small : n < 10
      · refine ⟨[n], Nat.toDigits_of_lt_base small, ?_, ?_, List.cons_ne_nil n [], ?_⟩
        · intro digit member
          rwa [List.mem_singleton.mp member]
        · exact Nat.zero_add n
        · intro zero
          rw [Option.some.inj zero]
      · obtain ⟨digits, written, below, value, filled, front⟩ := ih (n / 10) (by omega)
        refine ⟨digits ++ [n % 10], ?_, ?_, ?_, by simp, ?_⟩
        · rw [Nat.toDigits_of_base_le (by decide) (Nat.le_of_not_lt small), written,
            List.map_append]
          rfl
        · intro digit member
          obtain member | member := List.mem_append.mp member
          · exact below digit member
          · rw [List.mem_singleton.mp member]
            exact Nat.mod_lt n (by decide)
        · rw [ofDigits, List.foldl_append, ← ofDigits, value]
          exact Nat.div_add_mod' n 10
        · intro zero
          rw [List.head?_append_of_ne_nil _ filled] at zero
          rw [front zero] at value
          have positive : 0 < n / 10 := Nat.div_pos (Nat.le_of_not_lt small) (by decide)
          change 0 = n / 10 at value
          omega

theorem digit_char_of {digit : Nat} (small : digit < 10) :
    digitOf? 10 digit.digitChar = some digit ∧ digit.digitChar ≠ '_' ∧
      isWordChar digit.digitChar = true ∧ digit.digitChar.isDigit = true :=
  (by decide : ∀ digit < 10, digitOf? 10 digit.digitChar = some digit ∧ digit.digitChar ≠ '_' ∧
    isWordChar digit.digitChar = true ∧ digit.digitChar.isDigit = true) digit small

theorem digits_of_written (open_ : Bool) {digits : List Nat}
    (small : ∀ digit ∈ digits, digit < 10) (filled : open_ = true → digits ≠ []) :
    digits? 10 open_ (digits.map Nat.digitChar) = some digits := by
  induction digits generalizing open_ with
  | nil =>
      cases open_ with
      | false => rfl
      | true => exact absurd rfl (filled rfl)
  | cons digit digits ih =>
      obtain ⟨value, line, -⟩ := digit_char_of (small digit List.mem_cons_self)
      have later := ih false (fun other member => small other (List.mem_cons_of_mem digit member))
        (fun wrong => absurd wrong (by decide))
      rw [List.map_cons, digits?, if_neg line, value, later]
      rfl

theorem whole_of_written {digits : List Nat} (small : ∀ digit ∈ digits, digit < 10)
    (filled : digits ≠ []) (front : digits.head? = some 0 → digits = [0]) :
    whole? (digits.map Nat.digitChar) = some digits := by
  rw [whole?, digits_of_written true small fun _ => filled]
  split
  next zero =>
    have single := front (by rw [Option.some.inj zero]; rfl)
    rw [single] at zero
    cases Option.some.inj zero
  next => rfl

theorem split_sign_of_digits {word : List Char} (digits : ∀ c ∈ word, c.isDigit = true) :
    splitSign word = (false, word) := by
  unfold splitSign
  split
  next => exact absurd (digits '-' List.mem_cons_self) (by decide)
  next => exact absurd (digits '+' List.mem_cons_self) (by decide)
  next => rfl

/-- A word of decimal digits has no sign and no other base. -/
theorem integer_word_of_digits {word : List Char} (digits : ∀ c ∈ word, c.isDigit = true) :
    integerWord? word = (whole? word).map fun digits => integer (ofDigits 10 digits) := by
  have second {first mark : Char} {rest : List Char} (same : word = first :: mark :: rest) :
      mark.isDigit = true := by
    apply digits
    rw [same]
    exact List.mem_cons_of_mem _ List.mem_cons_self
  rw [integerWord?, split_sign_of_digits digits]
  · rfl
  · intro rest same
    exact absurd (second same) (by decide)
  · intro rest same
    exact absurd (second same) (by decide)
  · intro rest same
    exact absurd (second same) (by decide)

/-- What a number is written with. -/
theorem number_characters (n : Nat) :
    ∀ c ∈ Nat.toDigits 10 n, isWordChar c = true ∧ c.isDigit = true := by
  obtain ⟨digits, written, small, -⟩ := decimal_digits n
  intro c member
  rw [written] at member
  obtain ⟨digit, found, rfl⟩ := List.mem_map.mp member
  exact (digit_char_of (small digit found)).2.2

theorem number_word {n : Nat} (fits : n < UInt64.size) :
    wordValue? (Nat.toDigits 10 n) = some (.integer n) := by
  obtain ⟨digits, written, small, value, filled, front⟩ := decimal_digits n
  have digit_only := fun c member => (number_characters n c member).2
  have notTrue : Nat.toDigits 10 n ≠ ['t', 'r', 'u', 'e'] := by
    intro same
    exact absurd (digit_only 't' (by simp [same])) (by decide)
  have notFalse : Nat.toDigits 10 n ≠ ['f', 'a', 'l', 's', 'e'] := by
    intro same
    exact absurd (digit_only 'f' (by simp [same])) (by decide)
  have range : -(Int.pow 2 127) ≤ (n : Int) ∧ (n : Int) < Int.pow 2 128 := by
    have low : -(Int.pow 2 127) ≤ 0 := by decide
    have high : (UInt64.size : Int) ≤ Int.pow 2 128 := by decide
    omega
  rw [wordValue?, if_neg notTrue, if_neg notFalse, integer_word_of_digits digit_only, written,
    whole_of_written small filled front, Option.map_some, value, integer, if_pos range]
  rfl

theorem split_word_before_break {word : List Char} (inside : ∀ c ∈ word, isWordChar c = true)
    (rest : List Char) : splitWord (word ++ '\n' :: rest) = (word, '\n' :: rest) := by
  obtain ⟨taken, dropped⟩ := take_word inside (show ∀ c,
    ('\n' :: rest).head? = some c → isWordChar c = false by simp [isWordChar])
  unfold splitWord
  rw [taken, dropped]
  rfl

theorem no_string_without_quote {c : Char} (double : c ≠ '"') (single : c ≠ '\'')
    (rest : List Char) : readString (c :: rest) = none := by
  rw [readString]
  · rfl
  all_goals
    intro inside same
    injection same
    contradiction

/-- A number that fits 64 bits is read as itself. -/
theorem number_reads_as {n : Nat} (fits : n < UInt64.size) :
    ReadsAs (Nat.toDigits 10 n) (.integer n) := by
  have characters := number_characters n
  have word := number_word fits
  cases text : Nat.toDigits 10 n with
  | nil => exact absurd text Nat.toDigits_ne_nil
  | cons c tail =>
      rw [text] at characters word
      have digit := (characters c List.mem_cons_self).2
      have other (mark : Char) (noDigit : mark.isDigit = false) : c ≠ mark := by
        rintro rfl
        rw [digit] at noDigit
        contradiction
      refine ⟨⟨c, tail, rfl, ?_⟩, ?_⟩
      · simp [isSpace, other ' ' (by decide), other '\t' (by decide)]
      · intro fuel rest
        have split := split_word_before_break (fun d member => (characters d member).1) rest
        rw [List.cons_append] at split ⊢
        rw [readValue, no_string_without_quote (other '"' (by decide)) (other '\'' (by decide)),
          readWord, split]
        · simp only [word]
          rfl
        · intro inner same
          exact other '[' (by decide) (List.cons.inj same).1
        · intro inner same
          exact other '\x7b' (by decide) (List.cons.inj same).1

theorem bare_key_ends {mark : Char} (outside : isKeyChar mark = false) (rest : List Char) :
    ∀ c, (mark :: rest).head? = some c → isKeyChar c = false := by
  intro c same
  rwa [← Option.some.inj same]

theorem read_write_assignment {name : String} {text : List Char} {value : Value}
    (bare : IsBare name) (reads : ReadsAs text value) (rest : List Char) :
    readAssignment (Config.writeAssignment name text ++ rest) =
      some ((⟨[], name⟩, value), rest) := by
  obtain ⟨⟨first, tail, head, visible⟩, reads⟩ := reads
  simp only [Config.writeAssignment, List.append_assoc, List.cons_append, List.nil_append]
  have simple := read_bare_key bare
    (bare_key_ends (show isKeyChar ' ' = false by decide) ('=' :: ' ' :: (text ++ '\n' :: rest)))
  have equals : skipSpace (' ' :: '=' :: ' ' :: (text ++ '\n' :: rest)) =
      '=' :: ' ' :: (text ++ '\n' :: rest) := rfl
  have behind : readEquals ('=' :: ' ' :: (text ++ '\n' :: rest)) =
      some ((), text ++ '\n' :: rest) := by
    rw [readEquals, head, List.cons_append]
    exact congrArg (fun left => some ((), left)) (skip_space_at visible _)
  rw [readAssignment, read_plain_key (bare_key_visible bare _) simple (by rw [equals]; simp),
    equals]
  simp only [Option.bind_eq_bind, Option.bind_some, behind, reads]
  rfl

/-- The header of a table is read as its key. -/
theorem read_table_header {name : String} (bare : IsBare name) {line rest : List Char} {key : Key}
    (reads : readKey (name.toList ++ line) = some (key, ']' :: '\n' :: rest)) :
    readHeader ('[' :: (name.toList ++ line)) = some (.table key, rest) := by
  obtain ⟨c, behind, same, inside⟩ := bare_key_start bare line
  rw [same] at reads ⊢
  rw [readHeader, reads]
  · rfl
  · intro tail bracket
    exact absurd (List.cons.inj bracket).1 (key_char_ne inside '[' (by decide))

theorem read_single_header {name : String} (bare : IsBare name) (rest : List Char) :
    readHeader ('[' :: (name.toList ++ ']' :: '\n' :: rest)) = some (.table ⟨[], name⟩, rest) := by
  have simple := read_bare_key bare
    (bare_key_ends (show isKeyChar ']' = false by decide) ('\n' :: rest))
  have ended : skipSpace (']' :: '\n' :: rest) = ']' :: '\n' :: rest := rfl
  apply read_table_header bare
  rw [read_plain_key (bare_key_visible bare _) simple (by rw [ended]; simp), ended]

theorem read_owned_header {owner : String} (bare : IsBare owner) (name : String)
    (rest : List Char) :
    readHeader ('[' :: (owner.toList ++ '.' :: (writeKey name ++ ']' :: '\n' :: rest))) =
      some (.table ⟨[owner], name⟩, rest) := by
  have first := read_bare_key bare
    (bare_key_ends (show isKeyChar '.' = false by decide) (writeKey name ++ ']' :: '\n' :: rest))
  have second := read_write_key name
    (bare_key_ends (show isKeyChar ']' = false by decide) ('\n' :: rest))
  have visible := written_key_visible name (']' :: '\n' :: rest)
  have ended : skipSpace (']' :: '\n' :: rest) = ']' :: '\n' :: rest := rfl
  apply read_table_header bare
  rw [read_dotted_key (bare_key_visible bare _) first visible second (by rw [ended]; simp)
    (by simp), ended]

def Outlined (text : List Char) (outline : Outline) : Prop :=
  ∀ fuel, text.length < fuel → readLines fuel text = some outline

theorem outlined_nil : Outlined [] ⟨[], []⟩ := by
  intro fuel enough
  cases fuel with
  | zero => exact absurd enough (Nat.lt_irrefl 0)
  | succ fuel => rfl

theorem outlined_blank {text : List Char} {outline : Outline} (outlined : Outlined text outline) :
    Outlined ('\n' :: text) outline := by
  intro fuel enough
  rw [List.length_cons] at enough
  have read := outlined fuel (by omega)
  cases fuel with
  | zero => exact absurd enough (Nat.not_lt_zero _)
  | succ fuel =>
      rw [readLines] at read ⊢
      exact read

/-- A line in front takes one round of reading. -/
theorem outlined_of_line {text rest : List Char} {before after : Outline}
    (shorter : rest.length < text.length)
    (reads : ∀ fuel, readLines fuel rest = some before → readLines (fuel + 1) text = some after)
    (outlined : Outlined rest before) : Outlined text after := by
  intro fuel enough
  cases fuel with
  | zero => exact absurd enough (Nat.not_lt_zero _)
  | succ fuel => exact reads fuel (outlined fuel (by omega))

theorem skip_filler_at_key {c : Char} (inside : isKeyChar c = true) (rest : List Char) :
    skipFiller false (c :: rest) = some (c :: rest) := by
  have visible := key_char_visible inside
  have comment := key_char_ne inside '#' (by decide)
  rw [skipFiller]
  · simp [visible, comment]
  · exact key_char_ne inside '\n' (by decide)
  · intro tail same
    exact absurd same (key_char_ne inside '\r' (by decide))

theorem outlined_assignment {name : String} {text rest : List Char} {value : Value}
    {outline : Outline} (bare : IsBare name) (reads : ReadsAs text value)
    (outlined : Outlined rest outline) :
    Outlined (Config.writeAssignment name text ++ rest)
      ⟨(⟨[], name⟩, value) :: outline.assignments, outline.sections⟩ := by
  refine outlined_of_line ?_ ?_ outlined
  · simp only [Config.writeAssignment, List.length_append, List.length_cons]
    omega
  intro fuel later
  have line := read_write_assignment bare reads rest
  obtain ⟨c, behind, same, inside⟩ := bare_key_start bare
    (' ' :: '=' :: ' ' :: (text ++ ['\n']) ++ rest)
  have front : Config.writeAssignment name text ++ rest = c :: behind := by
    rw [Config.writeAssignment, List.append_assoc, same]
  rw [front] at line ⊢
  rw [readLines, skip_filler_at_key inside]
  simp only [Option.bind_eq_bind, Option.bind_some]
  -- What begins with a bare key is neither an end nor a header.
  split
  next nothing => cases nothing
  next header => exact absurd (List.cons.inj header).1 (key_char_ne inside '[' (by decide))
  next =>
    rw [line, Option.bind_some, later]
    rfl

theorem outlined_header {header : Header} {line rest : List Char} {outline : Outline}
    (reads : readHeader ('[' :: (line ++ rest)) = some (header, rest))
    (outlined : Outlined rest outline) :
    Outlined ('[' :: (line ++ rest))
      ⟨[], ⟨header, outline.assignments⟩ :: outline.sections⟩ := by
  refine outlined_of_line ?_ ?_ outlined
  · simp only [List.length_cons, List.length_append]
    omega
  intro fuel later
  have start : skipFiller false ('[' :: (line ++ rest)) = some ('[' :: (line ++ rest)) := rfl
  rw [readLines, start]
  simp only [Option.bind_eq_bind, Option.bind_some]
  rw [reads, Option.bind_some, later]
  rfl

end CertSteward.Toml
