import CertSteward.Proofs.Url.Percent
import CertSteward.Proofs.Url.Punycode
import CertSteward.Url.Domain

/-!
# The one form of a domain name

A domain name in its one form has no capitals and nothing above ASCII, so nothing in it is
replaced, and its labels are opened as the texts they were written for. The one exception is a
label in Punycode that is longer than those that are read: a name with such a label is written,
and refused when it is read.
-/

namespace CertSteward.Domain

set_option autoImplicit false

open CertSteward.Text (isAscii)

variable {text name label : List Char} {labels texts : List (List Char)}

theorem split_on_eq (mark : Char) (text : List Char) : splitOn mark text = text.splitOn mark := by
  induction text with
  | nil => rw [List.splitOn_nil, splitOn]
  | cons c rest ih =>
      rw [splitOn, ih, List.splitOn_cons_eq_if_modifyHead]
      by_cases same : c = mark
      · rw [if_pos same, if_pos (beq_iff_eq.mpr same)]
      · rw [if_neg same, if_neg (mt beq_iff_eq.mp same)]
        cases parts : List.splitOn mark rest with
        | nil => exact absurd parts (List.splitOn_ne_nil mark rest)
        | cons part parts => rfl

theorem split_on_intercalate {mark : Char} (labelled : labels ≠ [])
    (apart : ∀ label ∈ labels, mark ∉ label) :
    splitOn mark ([mark].intercalate labels) = labels := by
  rw [split_on_eq, List.splitOn_intercalate mark apart labelled]

theorem mem_intercalate {mark c : Char} (member : c ∈ [mark].intercalate labels) :
    c = mark ∨ ∃ label ∈ labels, c ∈ label := by
  induction labels with
  | nil => simp at member
  | cons label labels ih =>
      cases labels with
      | nil => exact .inr ⟨label, List.mem_cons_self, by simpa using member⟩
      | cons next labels =>
          rw [List.intercalate_cons_cons, List.append_assoc, List.mem_append,
            List.singleton_append, List.mem_cons] at member
          obtain here | same | later := member
          · exact .inr ⟨label, List.mem_cons_self, here⟩
          · exact .inl same
          · refine (ih later).imp_right ?_
            rintro ⟨found, listed, inside⟩
            exact ⟨found, List.mem_cons_of_mem label listed, inside⟩

theorem apart_of_split_on {mark : Char} (listed : label ∈ splitOn mark text) : mark ∉ label := by
  induction text generalizing label with
  | nil =>
      rw [List.mem_singleton.mp listed]
      exact List.not_mem_nil
  | cons c rest ih =>
      rw [splitOn] at listed
      split at listed
      · obtain rfl | later := List.mem_cons.mp listed
        · exact List.not_mem_nil
        · exact ih later
      · rename_i other
        split at listed
        · rw [List.mem_singleton.mp listed, List.mem_singleton]
          exact Ne.symm other
        · rename_i part parts split
          obtain rfl | later := List.mem_cons.mp listed
          · rw [List.mem_cons, not_or]
            exact ⟨Ne.symm other, ih (split ▸ List.mem_cons_self)⟩
          · exact ih (split ▸ List.mem_cons_of_mem part later)

theorem folded_small {c : Char} (ascii : isAscii c = true) (small : c.isUpper = false) :
    folded? c = some [c] := by
  have same : c.toLower = c := dif_neg (of_decide_eq_false small)
  rw [folded?, if_pos ascii, same]

theorem normal_small (small : ∀ c ∈ name, isPlain c = true) : normal? name = some name := by
  have parts : ∀ c ∈ name, isAscii c = true ∧ c.isUpper = false := by
    simpa [isPlain] using small
  have folded : foldAll? name = some name := by
    clear small
    induction name with
    | nil => rfl
    | cons c name ih =>
        obtain ⟨ascii, small⟩ := parts c List.mem_cons_self
        rw [foldAll?, folded_small ascii small,
          ih fun other member => parts other (List.mem_cons_of_mem c member)]
        rfl
  have ascii : name.all isAscii = true := List.all_eq_true.mpr fun c member => (parts c member).1
  rw [normal?, folded, Option.map_some, Text.composed, if_pos ascii]

/-- Whether a label is not too long to be read, as one in Punycode can be. -/
def isReadable (label : List Char) : Bool :=
  !mark.isPrefixOf label || (label.drop mark.length).length ≤ longestCode

theorem closed_of_ascii (ascii : label.all isAscii = true) : closed label = label := by
  rw [closed, if_pos ascii]

theorem opened_mark (code : List Char) :
    opened? (mark ++ code) =
      if isReadable (mark ++ code) then (Punycode.decode? code).filter isLabel else none := by
  have front : mark.isPrefixOf (mark ++ code) = true :=
    List.isPrefixOf_iff_prefix.mpr (List.prefix_append mark code)
  simp only [opened?, isReadable, front, if_true, Bool.not_true, Bool.false_or, decide_eq_true_eq,
    List.drop_left]

/-- A label in its one form is opened as the text it was written for, if it is not too long. -/
theorem opened_closed (opened : opened? label = some text) :
    opened? (closed label) = if isReadable (closed label) then some text else none := by
  by_cases marked : mark.isPrefixOf label = true
  · obtain ⟨code, rfl⟩ := List.isPrefixOf_iff_prefix.mp marked
    have readable := opened_mark code
    rw [opened] at readable
    split at readable
    · rename_i short
      obtain ⟨decoded, -⟩ := Option.filter_eq_some_iff.mp readable.symm
      have ascii : (mark ++ code).all isAscii = true := by
        unfold Punycode.decode? at decoded
        split at decoded
        · rename_i basic
          rw [List.all_append]
          exact Bool.and_eq_true_iff.mpr ⟨by decide, basic⟩
        · contradiction
      rw [closed_of_ascii ascii, if_pos short, opened]
    · contradiction
  · have own := opened
    rw [opened?, if_neg marked] at own
    by_cases ascii : label.all isAscii = true
    · have readable : isReadable label = true := by simp [isReadable, marked]
      rw [ascii, Bool.true_or, if_pos rfl] at own
      rw [closed_of_ascii ascii, readable, if_pos rfl, opened]
    · rw [eq_false_of_ne_true ascii, Bool.false_or] at own
      split at own
      · rename_i fits
        obtain rfl : label = text := Option.some.inj own
        rw [closed, if_neg ascii, opened_mark, Punycode.decode_encode, Option.filter_some_pos fits]
      · contradiction

theorem opened_all_closed (opened : labels.mapM opened? = some texts) :
    (labels.map closed).mapM opened? =
      if (labels.map closed).all isReadable then some texts else none := by
  induction labels generalizing texts with
  | nil =>
      rw [← Option.some.inj opened]
      rfl
  | cons label labels ih =>
      rw [List.mapM_cons] at opened
      obtain ⟨text, first, opened⟩ := Option.bind_eq_some_iff.mp opened
      obtain ⟨texts, behind, opened⟩ := Option.bind_eq_some_iff.mp opened
      obtain rfl := (Option.some.inj opened).symm
      rw [List.map_cons, List.mapM_cons, opened_closed first, ih behind, List.all_cons]
      cases isReadable (closed label) <;> cases (labels.map closed).all isReadable <;> rfl

theorem code_char {c : Char} (code : Punycode.InCode c) :
    isPlain c = true ∧ isForbidden c = false ∧ c ≠ '.' := by
  obtain ⟨digit, small, rfl⟩ := code
  revert digit
  decide

theorem mark_char {c : Char} (marks : c ∈ mark) :
    isAscii c = true ∧ isPlain c = true ∧ isForbidden c = false ∧ c ≠ '.' := by
  simp only [mark, List.mem_cons, List.not_mem_nil, or_false] at marks
  obtain rfl | rfl | rfl | rfl := marks
  · decide
  · decide
  · decide
  · decide

theorem closed_ascii (label : List Char) : (closed label).all isAscii = true := by
  unfold closed
  split
  · rename_i ascii
    exact ascii
  · refine List.all_eq_true.mpr fun c member => ?_
    obtain front | code := List.mem_append.mp member
    · exact (mark_char front).1
    · exact Punycode.encode_basic code

theorem closed_apart (apart : '.' ∉ label) : '.' ∉ closed label := by
  unfold closed
  split
  · exact apart
  · intro member
    obtain front | code := List.mem_append.mp member
    · exact absurd front (by decide)
    · obtain hyphen | ⟨given, -⟩ | code := Punycode.mem_encode code
      · contradiction
      · exact apart given
      · exact (code_char code).2.2 rfl

theorem opened_small (ascii : label.all isAscii = true) (unmarked : mark.isPrefixOf label = false) :
    opened? label = some label ∧ isReadable label = true := by
  constructor
  · rw [opened?, if_neg (by simp [unmarked]), ascii, Bool.true_or, if_pos rfl]
  · rw [isReadable, unmarked, Bool.not_false, Bool.true_or]

theorem fits_of_ascii (ascii : ∀ text ∈ texts, text.all isAscii = true) :
    Direction.fits texts = true := by
  have none_rightward : texts.any (·.any Direction.isRightward) = false := by
    refine List.any_eq_false.mpr fun text listed => ?_
    rw [Bool.not_eq_true]
    refine List.any_eq_false.mpr fun c inside => ?_
    rw [Direction.isRightward, List.all_eq_true.mp (ascii text listed) c inside]
    exact Bool.false_ne_true
  rw [Direction.fits, none_rightward, Bool.not_false, Bool.true_or]

structure Accepted (labels : List (List Char)) : Prop where
  labelled : labels ≠ []
  ascii : ∀ label ∈ labels, label.all isAscii = true
  apart : ∀ label ∈ labels, '.' ∉ label
  opened : ∃ texts, Direction.fits texts = true ∧
    labels.mapM opened? = if labels.all isReadable then some texts else none
  plain : ∀ c ∈ ['.'].intercalate labels, isPlain c = true
  allowed : ∀ c ∈ ['.'].intercalate labels, isForbidden c = false

/-- A name in its one form is its own form, but for labels that are too long. -/
theorem Accepted.ascii_eq (accepted : Accepted labels) :
    ascii? (['.'].intercalate labels) =
      if labels.all isReadable then some (['.'].intercalate labels) else none := by
  obtain ⟨texts, fits, opened⟩ := accepted.opened
  have parts := split_on_intercalate accepted.labelled accepted.apart
  have kept : labels.map closed = labels := by
    refine (List.map_congr_left fun label listed => ?_).trans (List.map_id labels)
    exact closed_of_ascii (accepted.ascii label listed)
  have formed : (Direction.fits texts && (['.'].intercalate labels).all isPlain &&
      !(['.'].intercalate labels).any isForbidden) = true := by
    simp only [Bool.and_eq_true, List.all_eq_true, Bool.not_eq_true', List.any_eq_false]
    refine ⟨⟨fits, accepted.plain⟩, fun c member => ?_⟩
    rw [accepted.allowed c member]
    exact Bool.false_ne_true
  simp only [ascii?, normal_small accepted.plain, Option.bind_eq_bind, Option.bind_some, parts,
    opened, kept]
  split
  · exact if_pos formed
  · rfl

/-- The label has a character in it that keeps two letters apart. -/
example : ascii? "xn--mgba3gch31f060k.com".toList = some "xn--mgba3gch31f060k.com".toList := by
  decide +kernel

theorem accepted_of_ascii (found : ascii? text = some name) :
    ∃ labels, Accepted labels ∧ name = ['.'].intercalate labels := by
  unfold ascii? at found
  obtain ⟨folded, -, found⟩ := Option.bind_eq_some_iff.mp found
  obtain ⟨texts, opened, found⟩ := Option.bind_eq_some_iff.mp found
  dsimp only at found
  split at found
  · rename_i fits
    simp only [Bool.and_eq_true, List.all_eq_true, Bool.not_eq_true', List.any_eq_false] at fits
    obtain ⟨⟨fits, plain⟩, allowed⟩ := fits
    refine ⟨_, ⟨?_, ?_, ?_, ⟨texts, fits, opened_all_closed opened⟩, plain, ?_⟩,
      (Option.some.inj found).symm⟩
    · rw [ne_eq, List.map_eq_nil_iff, split_on_eq]
      exact List.splitOn_ne_nil '.' folded
    · intro label listed
      obtain ⟨part, -, rfl⟩ := List.mem_map.mp listed
      exact closed_ascii part
    · intro label listed
      obtain ⟨part, given, rfl⟩ := List.mem_map.mp listed
      exact closed_apart (apart_of_split_on given)
    · intro c member
      exact eq_false_of_ne_true (allowed c member)
  · contradiction

end CertSteward.Domain
