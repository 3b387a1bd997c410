import CertSteward.Proofs.Toml.Lines
import CertSteward.Proofs.Toml.Locality
import Mathlib.Data.List.TakeWhile

/-!
# Words, blanks and keys are read locally

A word or a bare name ends at the first character that cannot belong to it. A
date looks behind a blank for a time, a break behind a carriage return for a
line feed; no reader looks further.
-/

namespace CertSteward.Toml

set_option autoImplicit false

theorem local_span {inside : Char → Bool} (word : List Char) :
    Local fun input rest => input.takeWhile inside = word ∧ input.dropWhile inside = rest := by
  rintro input rest ⟨rfl, rfl⟩
  refine ⟨input.takeWhile inside, List.takeWhile_append_dropWhile.symm, ?_⟩
  intro other alike
  apply take_word
  · intro c member
    exact List.mem_takeWhile_imp member
  · intro c front
    have ended := List.head?_dropWhile_not inside input
    rw [alike.head, front] at ended
    simpa using ended

theorem local_skip_space : Local fun input rest => skipSpace input = rest := by
  intro input rest skipped
  exact (local_span _ input rest ⟨rfl, skipped⟩).mono fun _ _ span => span.2

def GoesOn (word rest : List Char) : Prop :=
  isDateWord word = true ∧ ∃ digit tail, rest = ' ' :: digit :: tail ∧ digit.isDigit = true

theorem split_word_stops {input : List Char}
    (stops : ¬ GoesOn (input.takeWhile isWordChar) (input.dropWhile isWordChar)) :
    splitWord input = (input.takeWhile isWordChar, input.dropWhile isWordChar) := by
  unfold splitWord
  dsimp only
  split
  next digit tail found =>
    rw [if_neg]
    intro goes
    rw [Bool.and_eq_true] at goes
    exact stops ⟨goes.1, digit, tail, found, goes.2⟩
  next => rfl

theorem split_word_goes_on {input rest : List Char}
    (found : input.dropWhile isWordChar = ' ' :: rest)
    (goes : GoesOn (input.takeWhile isWordChar) (input.dropWhile isWordChar)) :
    splitWord input =
      (input.takeWhile isWordChar ++ ' ' :: rest.takeWhile isWordChar,
        rest.dropWhile isWordChar) := by
  obtain ⟨date, digit, tail, same, known⟩ := goes
  rw [found] at same
  obtain rfl := (List.cons.inj same).2
  unfold splitWord
  simp only [found, date, known, Bool.and_self, if_true, List.drop_succ_cons, List.drop_zero]

theorem Alike.goes_on {rest other : List Char} (alike : Alike rest other) {word : List Char}
    (goes : GoesOn word rest) : GoesOn word other := by
  obtain ⟨date, digit, tail, rfl, known⟩ := goes
  refine ⟨date, digit, other.drop 2, ?_, known⟩
  have front : other.take 2 = [' ', digit] := Eq.symm alike
  rw [← List.take_append_drop 2 other, front]
  rfl

theorem local_split_word (word : List Char) :
    Local fun input rest => splitWord input = (word, rest) := by
  intro input rest split
  obtain ⟨front, same, spans⟩ :=
    local_span (input.takeWhile isWordChar) input (input.dropWhile isWordChar) ⟨rfl, rfl⟩
  by_cases goes : GoesOn (input.takeWhile isWordChar) (input.dropWhile isWordChar)
  · obtain ⟨-, digit, tail, found, -⟩ := id goes
    rw [split_word_goes_on found goes] at split
    cases split
    obtain ⟨time, later, ends⟩ := local_span _ (digit :: tail) _ ⟨rfl, rfl⟩
    refine ⟨front ++ ' ' :: time, ?_, ?_⟩
    · rw [List.append_assoc, List.cons_append, ← later, ← found]
      exact same
    · intro other alike
      have near : Alike (input.dropWhile isWordChar) (' ' :: (time ++ other)) := by
        rw [found, later]
        exact alike.behind (' ' :: time)
      obtain ⟨taken, dropped⟩ := spans _ near
      have again : GoesOn ((front ++ ' ' :: (time ++ other)).takeWhile isWordChar)
          ((front ++ ' ' :: (time ++ other)).dropWhile isWordChar) := by
        rw [taken, dropped]
        exact near.goes_on goes
      rw [List.append_assoc, List.cons_append, split_word_goes_on dropped again, taken,
        (ends other alike).1, (ends other alike).2]
  · rw [split_word_stops goes] at split
    cases split
    refine ⟨front, same, ?_⟩
    intro other alike
    obtain ⟨taken, dropped⟩ := spans other alike
    have stops : ¬ GoesOn ((front ++ other).takeWhile isWordChar)
        ((front ++ other).dropWhile isWordChar) := by
      rw [taken, dropped]
      exact mt alike.symm.goes_on goes
    rw [split_word_stops stops, taken, dropped]

theorem local_read_word (value : Value) :
    Local fun input rest => readWord input = some (value, rest) := by
  intro input rest read
  unfold readWord at read
  generalize split : splitWord input = pair at read
  obtain ⟨word, left⟩ := pair
  obtain ⟨found, known, same⟩ := Option.map_eq_some_iff.mp read
  cases same
  apply (local_split_word _ _ _ split).mono
  intro other left again
  unfold readWord
  rw [again]
  exact Option.map_eq_some_iff.mpr ⟨_, known, rfl⟩

theorem skip_filler_plain {c : Char} (plain : isPlain c = true) (rest : List Char) :
    skipFiller true (c :: rest) = skipFiller true rest := by
  have sameLine : c ≠ '\n' := by rintro rfl; contradiction
  have noReturn : c ≠ '\r' := by rintro rfl; contradiction
  rw [skipFiller, if_pos plain] <;> simp [sameLine, noReturn]

theorem skip_filler_space {c : Char} (blank : isSpace c = true) (rest : List Char) :
    skipFiller false (c :: rest) = skipFiller false rest := by
  have sameLine : c ≠ '\n' := by rintro rfl; contradiction
  have noReturn : c ≠ '\r' := by rintro rfl; contradiction
  rw [skipFiller, if_pos blank] <;> simp [sameLine, noReturn]

theorem skip_filler_stops {c : Char} (visible : ¬ isSpace c = true) (noComment : c ≠ '#')
    (noBreak : c ≠ '\n') {rest : List Char}
    (noReturn : ∀ tail, c :: rest ≠ '\r' :: '\n' :: tail) :
    skipFiller false (c :: rest) = some (c :: rest) := by
  rw [skipFiller, if_neg visible, if_neg noComment]
  · exact noBreak
  · intro tail return_ break_
    exact noReturn tail (by rw [return_, break_])

theorem end_line_plain {c : Char} (plain : isPlain c = true) (rest : List Char) :
    endLine true (c :: rest) = endLine true rest := by
  have sameLine : c ≠ '\n' := by rintro rfl; contradiction
  have noReturn : c ≠ '\r' := by rintro rfl; contradiction
  rw [endLine, if_pos plain] <;> simp [sameLine, noReturn]

theorem end_line_space {c : Char} (blank : isSpace c = true) (rest : List Char) :
    endLine false (c :: rest) = endLine false rest := by
  have sameLine : c ≠ '\n' := by rintro rfl; contradiction
  have noReturn : c ≠ '\r' := by rintro rfl; contradiction
  rw [endLine, if_pos blank] <;> simp [sameLine, noReturn]

theorem local_skip_filler (comment : Bool) :
    Local fun input rest => skipFiller comment input = some rest := by
  intro input rest skipped
  fun_induction skipFiller comment input with
  | case1 comment =>
      cases skipped
      apply Kept.of_front [] []
      intro other alike
      rw [alike.of_nil]
      rfl
  | case2 comment inside ih =>
      apply (ih skipped).after ['\n']
      intro other left _ behind
      cases comment <;> exact behind
  | case3 comment inside ih =>
      apply (ih skipped).after ['\r', '\n']
      intro other left _ behind
      cases comment <;> exact behind
  | case4 c inside noBreak noReturn plain ih =>
      apply (ih skipped).after [c]
      intro other left _ behind
      exact (skip_filler_plain plain other).trans behind
  | case5 => contradiction
  | case6 c inside noBreak noReturn blank ih =>
      apply (ih skipped).after [c]
      intro other left _ behind
      exact (skip_filler_space blank other).trans behind
  | case7 inside noBreak noReturn visible ih =>
      apply (ih skipped).after ['#']
      intro other left _ behind
      exact behind
  | case8 c inside noBreak noReturn visible noComment =>
      cases skipped
      apply Kept.of_front [] (c :: inside)
      intro other alike
      have pair := alike.no_pair fun tail same =>
        noReturn tail (List.cons.inj same).1 (List.cons.inj same).2
      obtain ⟨tail, rfl⟩ := List.head?_eq_some_iff.mp alike.head.symm
      exact skip_filler_stops visible noComment noBreak pair

theorem local_end_line (comment : Bool) :
    Local fun input rest => endLine comment input = some rest := by
  intro input rest ended
  fun_induction endLine comment input with
  | case1 comment =>
      cases ended
      apply Kept.of_front [] []
      intro other alike
      rw [alike.of_nil]
      rfl
  | case2 comment inside =>
      cases ended
      apply Kept.of_front ['\n']
      intro other _
      cases comment <;> rfl
  | case3 comment inside =>
      cases ended
      apply Kept.of_front ['\r', '\n']
      intro other _
      cases comment <;> rfl
  | case4 c inside noBreak noReturn plain ih =>
      apply (ih ended).after [c]
      intro other left _ behind
      exact (end_line_plain plain other).trans behind
  | case5 => contradiction
  | case6 c inside noBreak noReturn blank ih =>
      apply (ih ended).after [c]
      intro other left _ behind
      exact (end_line_space blank other).trans behind
  | case7 inside noBreak noReturn visible ih =>
      apply (ih ended).after ['#']
      intro other left _ behind
      exact behind
  | case8 => contradiction

theorem name_eq_some {read : Option (List Char × List Char)} {text : String} {rest : List Char} :
    (read.map fun found => (String.ofList found.1, found.2)) = some (text, rest) ↔
      read = some (text.toList, rest) := by
  rw [← string_eq_some]
  cases read <;> rfl

/-- What is read as a name without quotes is one. -/
theorem bare_of_read {input rest : List Char} {name : String}
    (double : ∀ tail, input ≠ '"' :: tail) (single : ∀ tail, input ≠ '\'' :: tail)
    (read : readSimpleKey input = some (name, rest)) :
    IsBare name ∧ input.takeWhile isKeyChar = name.toList ∧
      input.dropWhile isKeyChar = rest := by
  rw [readSimpleKey] at read
  · split at read
    next => contradiction
    next filled =>
      cases read
      rw [String.toList_ofList]
      refine ⟨⟨?_, ?_⟩, rfl, rfl⟩
      · rw [String.toList_ofList]
        exact filled
      · intro c member
        rw [String.toList_ofList] at member
        exact List.mem_takeWhile_imp member
  · exact double
  · exact single

theorem local_read_simple_key (name : String) :
    Local fun input rest => readSimpleKey input = some (name, rest) := by
  intro input rest read
  have unquoted (double : ∀ tail, input ≠ '"' :: tail) (single : ∀ tail, input ≠ '\'' :: tail) :
      Kept (fun input rest => readSimpleKey input = some (name, rest)) input rest := by
    obtain ⟨bare, word, behind⟩ := bare_of_read double single read
    have same : input = name.toList ++ rest := by
      rw [← word, ← behind, List.takeWhile_append_dropWhile]
    rw [same]
    apply Kept.of_front
    intro other alike
    apply read_bare_key bare
    intro c front
    rw [← alike.head, ← behind] at front
    have ended := List.head?_dropWhile_not isKeyChar input
    rw [front] at ended
    simpa using ended
  fun_cases readSimpleKey input with
  | case1 inside =>
      apply (local_read_basic _ _ _ (name_eq_some.mp read)).after ['"']
      intro other left _ behind
      exact name_eq_some.mpr behind
  | case2 inside =>
      apply (local_read_literal _ _ _ (name_eq_some.mp read)).after ['\'']
      intro other left _ behind
      exact name_eq_some.mpr behind
  | case3 =>
      rename_i double single _
      exact unquoted double single
  | case4 =>
      rename_i double single _
      exact unquoted double single

/-- A further name behind a dot, or no dot. -/
theorem read_names_succ {fuel : Nat} {input rest : List Char} {names : List String} :
    readNames (fuel + 1) input = some (names, rest) ↔
      ∃ name behind, readSimpleKey (skipSpace input) = some (name, behind) ∧
        ((∃ next tail, skipSpace behind = '.' :: next ∧
            readNames fuel next = some (tail, rest) ∧ names = name :: tail) ∨
          ((skipSpace behind).head? ≠ some '.' ∧ skipSpace behind = rest ∧ names = [name])) := by
  rw [readNames]
  constructor
  · intro read
    obtain ⟨⟨name, behind⟩, simple, read⟩ := Option.bind_eq_some_iff.mp read
    refine ⟨name, behind, simple, ?_⟩
    dsimp only at read
    split at read
    next next dot =>
      obtain ⟨tail, later, same⟩ := push_eq_some.mp read
      exact .inl ⟨next, tail, dot, later, same⟩
    next noDot =>
      cases read
      refine .inr ⟨?_, rfl, rfl⟩
      intro dot
      obtain ⟨tail, same⟩ := List.head?_eq_some_iff.mp dot
      exact noDot tail same
  · rintro ⟨name, behind, simple, ⟨next, tail, dot, later, rfl⟩ | ⟨noDot, rfl, rfl⟩⟩
    · rw [simple]
      dsimp only [Option.bind_eq_bind, Option.bind_some]
      rw [dot]
      exact push_eq_some.mpr ⟨tail, later, rfl⟩
    · rw [simple]
      dsimp only [Option.bind_eq_bind, Option.bind_some]
      split
      next more => exact absurd (congrArg List.head? more) noDot
      next => rfl

theorem local_read_names (names : List String) :
    Local fun input rest => ∃ fuel, readNames fuel input = some (names, rest) := by
  rintro input rest ⟨fuel, read⟩
  induction fuel generalizing input names with
  | zero => contradiction
  | succ fuel ih =>
      obtain ⟨name, behind, simple, ⟨next, tail, dot, later, rfl⟩ | ⟨noDot, ended, rfl⟩⟩ :=
        read_names_succ.mp read
      · have dotted : Kept (fun input left => ∃ next, input = '.' :: next ∧
            ∃ fuel, readNames fuel next = some (tail, left)) ('.' :: next) rest := by
          apply (ih _ _ later).after ['.']
          intro other left _ found
          exact ⟨other, rfl, found⟩
        have named :=
          (local_read_simple_key name).before simple (local_skip_space.before dot dotted)
        apply (local_skip_space.before rfl named).mono
        rintro other left ⟨_, rfl, behind, simple, _, rfl, next, dot, fuel, later⟩
        exact ⟨fuel + 1, read_names_succ.mpr
          ⟨name, behind, simple, .inl ⟨next, tail, dot, later, rfl⟩⟩⟩
      · have last : Kept (fun input left => skipSpace input = left ∧ left.head? ≠ some '.')
            behind rest := by
          obtain ⟨used, same, spaces⟩ := local_skip_space behind rest ended
          refine ⟨used, same, fun other alike => ⟨spaces other alike, ?_⟩⟩
          rw [← alike.head, ← ended]
          exact noDot
        have named := (local_read_simple_key name).before simple last
        apply (local_skip_space.before rfl named).mono
        rintro other left ⟨_, rfl, behind, simple, ended, noDot⟩
        exact ⟨1, read_names_succ.mpr
          ⟨name, behind, simple, .inr ⟨by rw [ended]; exact noDot, ended, rfl⟩⟩⟩

/-- Every round of reading a key takes a dot. -/
theorem read_names_enough {fuel more : Nat} {input rest : List Char} {names : List String}
    (read : readNames fuel input = some (names, rest)) (enough : input.length < more) :
    readNames more input = some (names, rest) := by
  induction fuel generalizing input names more with
  | zero => contradiction
  | succ fuel ih =>
      cases more with
      | zero => exact absurd enough (Nat.not_lt_zero _)
      | succ more =>
          obtain ⟨name, behind, simple, ⟨next, tail, dot, later, rfl⟩ | last⟩ :=
            read_names_succ.mp read
          · have first := (local_skip_space input _ rfl).length_le
            have second := (local_read_simple_key name _ _ simple).length_le
            have third := (local_skip_space behind _ dot).length_le
            rw [List.length_cons] at third
            exact read_names_succ.mpr
              ⟨name, behind, simple, .inl ⟨next, tail, dot, ih later (by omega), rfl⟩⟩
          · exact read_names_succ.mpr ⟨name, behind, simple, .inr last⟩

theorem local_read_key (key : Key) :
    Local fun input rest => readKey input = some (key, rest) := by
  intro input rest read
  obtain ⟨⟨names, left⟩, found, read⟩ := Option.bind_eq_some_iff.mp read
  obtain ⟨name, last, same⟩ := Option.bind_eq_some_iff.mp read
  cases same
  apply (local_read_names names input _ ⟨_, found⟩).mono
  rintro other left ⟨fuel, again⟩
  exact Option.bind_eq_some_iff.mpr ⟨_, read_names_enough again (Nat.lt_succ_self _),
    Option.bind_eq_some_iff.mpr ⟨name, last, rfl⟩⟩

theorem read_equals_iff {input rest : List Char} :
    readEquals input = some ((), rest) ↔ ∃ tail, input = '=' :: tail ∧ skipSpace tail = rest := by
  constructor
  · intro read
    unfold readEquals at read
    split at read
    next tail =>
      cases read
      exact ⟨tail, rfl, rfl⟩
    next => contradiction
  · rintro ⟨tail, rfl, rfl⟩
    rfl

theorem local_read_equals : Local fun input rest => readEquals input = some ((), rest) := by
  intro input rest read
  obtain ⟨tail, rfl, ended⟩ := read_equals_iff.mp read
  apply (local_skip_space tail rest ended).after ['=']
  intro other left _ same
  exact read_equals_iff.mpr ⟨other, rfl, same⟩

end CertSteward.Toml
