import CertSteward.Proofs.Outcome
import CertSteward.Proofs.Url.Domains
import CertSteward.Url.Host
import Mathlib.Data.List.Induction
import Mathlib.Data.List.TakeWhile

/-!
# Numeric addresses

The text of a numeric address is read as that address: the four numbers of a
version 4 address each as a decimal number, the pieces of a version 6 address
each as a hexadecimal one, with the zeros of the gap put back.
-/

namespace CertSteward.Host

set_option autoImplicit false

open CertSteward.Domain (Accepted splitOn split_on_intercalate)

/-- The characters of a number are its digits. -/
theorem digit_of_mem {base n : Nat} (several : 1 < base) {c : Char}
    (member : c ∈ Nat.toDigits base n) : ∃ digit < base, c = digit.digitChar := by
  induction n using Nat.strongRecOn with
  | ind n ih =>
      by_cases small : n < base
      · rw [Nat.toDigits_of_lt_base small, List.mem_singleton] at member
        exact ⟨n, small, member⟩
      · have base_le : base ≤ n := Nat.le_of_not_lt small
        rw [Nat.toDigits_of_base_le several base_le, List.mem_append, List.mem_singleton] at member
        obtain front | last := member
        · exact ih _ (Nat.div_lt_self (by omega) several) front
        · exact ⟨n % base, Nat.mod_lt n (by omega), last⟩

theorem digits_value_append (base : Nat) (digits : List Char) (c : Char) :
    digitsValue base (digits ++ [c]) =
      (digitsValue base digits).bind fun total => (hexValue? c).bind fun value =>
        if value < base then some (total * base + value) else none := by
  rw [digitsValue, List.foldl_append]
  rfl

theorem digits_value_lt {base value : Nat} {digits : List Char}
    (read : digitsValue base digits = some value) : value < Nat.pow base digits.length := by
  induction digits using List.reverseRecOn generalizing value with
  | nil =>
      have zero : 0 = value := Option.some.inj read
      rw [← zero]
      exact Nat.one_pos
  | append_singleton digits c ih =>
      rw [digits_value_append] at read
      obtain ⟨total, front, read⟩ := Option.bind_eq_some_iff.mp read
      obtain ⟨last, -, read⟩ := Option.bind_eq_some_iff.mp read
      split at read
      · rename_i small
        rw [← Option.some.inj read, List.length_append]
        calc total * base + last < total * base + base := Nat.add_lt_add_left small _
          _ = (total + 1) * base := (Nat.succ_mul total base).symm
          _ ≤ Nat.pow base digits.length * base := Nat.mul_le_mul_right base (ih front)
      · contradiction

theorem hex_digit_read : ∀ n < 16, hexValue? n.digitChar = some n := by decide

/-- A number is the value of its hexadecimal digits. -/
theorem digits_value_hex (n : Nat) : digitsValue 16 (Nat.toDigits 16 n) = some n := by
  induction n using Nat.strongRecOn with
  | ind n ih =>
      by_cases small : n < 16
      · rw [Nat.toDigits_of_lt_base small, ← List.nil_append [n.digitChar], digits_value_append,
          hex_digit_read n small]
        simp [digitsValue, small]
      · have last := Nat.mod_lt n (show 16 > 0 by decide)
        rw [Nat.toDigits_of_base_le (by decide) (by omega), digits_value_append, ih _ (by omega),
          hex_digit_read _ last]
        simp [last, Nat.div_add_mod' n 16]

def octets (address : Nat) : List Nat :=
  [address / Nat.pow 256 3 % 256, address / Nat.pow 256 2 % 256, address / 256 % 256,
    address % 256]

def octetLabels (address : Nat) : List (List Char) :=
  (octets address).map (Nat.toDigits 10)

theorem ipv4_text_labels (address : Nat) :
    (ipv4Text address).toList = ['.'].intercalate (octetLabels address) := by
  simp only [ipv4Text, String.toList_append, Nat.toString_eq_ofList_toDigits, String.toList_ofList,
    octetLabels, octets, List.map_cons, List.map_nil, List.intercalate_cons_cons,
    List.append_assoc]
  simp

theorem octet_small (address : Nat) : ∀ n ∈ octets address, n < 256 := by
  intro n member
  simp only [octets, List.mem_cons, List.not_mem_nil, or_false] at member
  omega

/-- A number below 256 is read back from its digits. -/
theorem octet_read : ∀ n < 256, part? (Nat.toDigits 10 n) = some n ∧
    (Nat.toDigits 10 n).all Char.isDigit = true := by
  decide +kernel

theorem octet_label_char {address : Nat} {label : List Char} {c : Char}
    (listed : label ∈ octetLabels address) (inside : c ∈ label) :
    Domain.isPlain c = true ∧ Domain.isForbidden c = false ∧ c ≠ '.' ∧ c ≠ 'x' := by
  obtain ⟨n, -, rfl⟩ := List.mem_map.mp listed
  obtain ⟨digit, small, rfl⟩ := digit_of_mem (by decide) inside
  exact (by decide : ∀ n < 10, Domain.isPlain n.digitChar = true ∧
    Domain.isForbidden n.digitChar = false ∧ n.digitChar ≠ '.' ∧ n.digitChar ≠ 'x') digit small

theorem octet_label_opened {address : Nat} {label : List Char}
    (listed : label ∈ octetLabels address) :
    label.all Text.isAscii = true ∧ Domain.opened? label = some label ∧
      Domain.isReadable label = true := by
  have ascii : label.all Text.isAscii = true := List.all_eq_true.mpr fun c inside =>
    (Bool.and_eq_true_iff.mp (octet_label_char listed inside).1).1
  have unmarked : Domain.mark.isPrefixOf label = false := by
    cases label with
    | nil => rfl
    | cons c rest =>
        have other := (octet_label_char listed List.mem_cons_self).2.2.2
        simp [Domain.mark, List.isPrefixOf, Ne.symm other]
  exact ⟨ascii, Domain.opened_small ascii unmarked⟩

theorem octet_labels_readable (address : Nat) :
    (octetLabels address).all Domain.isReadable = true :=
  List.all_eq_true.mpr fun _ listed => (octet_label_opened listed).2.2

theorem octet_labels_accepted (address : Nat) : Accepted (octetLabels address) where
  labelled := List.cons_ne_nil _ _
  ascii label listed := (octet_label_opened listed).1
  apart label listed inside := (octet_label_char listed inside).2.2.1 rfl
  opened := by
    refine ⟨octetLabels address, ?_, ?_⟩
    · exact Domain.fits_of_ascii fun label listed => (octet_label_opened listed).1
    · rw [octet_labels_readable, if_pos rfl, map_m_eq_some fun label listed =>
        (octet_label_opened listed).2.1, List.map_id']
  plain c member := by
    obtain rfl | ⟨label, listed, inside⟩ := Domain.mem_intercalate member
    · rfl
    · exact (octet_label_char listed inside).1
  allowed c member := by
    obtain rfl | ⟨label, listed, inside⟩ := Domain.mem_intercalate member
    · rfl
    · exact (octet_label_char listed inside).2.1

theorem octets_read (address : Nat) : (octetLabels address).mapM part? = some (octets address) := by
  have read (n : Nat) (listed : n ∈ octets address) : (part? ∘ Nat.toDigits 10) n = some n :=
    (octet_read n (octet_small address n listed)).1
  rw [octetLabels, List.mapM_map, map_m_eq_some read, List.map_id']

theorem combine_octets (address : Nat) :
    combine (octets address) = some (address % Nat.pow 256 4) := by
  simp [combine, octets]
  omega

theorem ipv4_text_mod (address : Nat) : ipv4Text (address % Nat.pow 256 4) = ipv4Text address := by
  have same : octets (address % Nat.pow 256 4) = octets address := by
    simp [octets]
    omega
  apply String.toList_injective
  rw [ipv4_text_labels, ipv4_text_labels, octetLabels, octetLabels, same]

/-- An address is read back from its text, the part of it that is written. -/
theorem ipv4_read (address : Nat) :
    endsInNumber (ipv4Text address).toList = true ∧
      ipv4? (ipv4Text address).toList = some (address % Nat.pow 256 4) := by
  have accepted := octet_labels_accepted address
  have parts : splitOn '.' (ipv4Text address).toList = octetLabels address := by
    rw [ipv4_text_labels]
    exact split_on_intercalate accepted.labelled accepted.apart
  have closed : withoutEmptyEnd (octetLabels address) = octetLabels address := by
    simp [withoutEmptyEnd, octetLabels, octets, Nat.toDigits_ne_nil]
  constructor
  · have digits := (octet_read (address % 256) (Nat.mod_lt address (by decide))).2
    simp only [endsInNumber, parts, closed]
    simp [octetLabels, octets, digits, Nat.toDigits_ne_nil]
  · simp only [ipv4?, parts, closed]
    rw [octets_read]
    simp [octetLabels, octets]
    exact combine_octets address

variable {pieces front back : List Nat} {part text : List Char} {parts : List (List Char)}

def shown (pieces : List Nat) : List Char :=
  [':'].intercalate (pieces.map (Nat.toDigits 16))

theorem shown_cons (piece next : Nat) (rest : List Nat) :
    shown (piece :: next :: rest) = Nat.toDigits 16 piece ++ ':' :: shown (next :: rest) := by
  rw [shown, List.map_cons, List.map_cons, List.intercalate_cons_cons, List.append_assoc]
  rfl

theorem hex_apart {n : Nat} {c : Char} (member : c ∈ Nat.toDigits 16 n) : c ≠ ':' ∧ c ≠ '.' := by
  obtain ⟨digit, small, rfl⟩ := digit_of_mem (by decide) member
  exact (by decide : ∀ n < 16, n.digitChar ≠ ':' ∧ n.digitChar ≠ '.') digit small

theorem no_dot_shown (pieces : List Nat) : '.' ∉ shown pieces := by
  intro member
  obtain same | ⟨part, listed, inside⟩ := Domain.mem_intercalate member
  · contradiction
  · obtain ⟨n, -, rfl⟩ := List.mem_map.mp listed
    exact (hex_apart inside).2 rfl

/-- The text of pieces begins with a digit. -/
theorem shown_front (piece : Nat) (rest : List Nat) :
    ∃ c tail, shown (piece :: rest) = c :: tail ∧ c ≠ ':' := by
  obtain ⟨c, digits, same⟩ := List.exists_cons_of_ne_nil (@Nat.toDigits_ne_nil piece 16)
  have apart : c ≠ ':' := (hex_apart (same ▸ List.mem_cons_self)).1
  cases rest with
  | nil => exact ⟨c, digits, by simp [shown, same], apart⟩
  | cons next rest =>
      rw [shown_cons, same]
      exact ⟨c, _, rfl, apart⟩

theorem piece_read {n : Nat} (small : n < 65536) : piece? (Nat.toDigits 16 n) = some n := by
  have short : (Nat.toDigits 16 n).length ≤ 4 :=
    (Nat.length_toDigits_le_iff (by decide) (by decide)).mpr small
  simp [piece?, Nat.toDigits_ne_nil, short, digits_value_hex]

theorem pieces_read (small : ∀ piece ∈ pieces, piece < 65536) :
    pieces? (pieces.map (Nat.toDigits 16)) = some pieces := by
  induction pieces with
  | nil => rfl
  | cons piece rest ih =>
      have first := piece_read (small piece List.mem_cons_self)
      have later := ih fun other member => small other (List.mem_cons_of_mem piece member)
      cases rest with
      | nil =>
          have dotless : '.' ∉ Nat.toDigits 16 piece := fun member => (hex_apart member).2 rfl
          simp [pieces?, dotless, first]
      | cons next rest =>
          rw [List.map_cons, List.map_cons, pieces?, ← List.map_cons, first, later]
          · rfl
          · exact List.cons_ne_nil _ _

theorem shown_parts (filled : pieces ≠ []) :
    splitOn ':' (shown pieces) = pieces.map (Nat.toDigits 16) := by
  apply split_on_intercalate (mt List.map_eq_nil_iff.mp filled)
  intro part listed inside
  obtain ⟨n, -, rfl⟩ := List.mem_map.mp listed
  exact (hex_apart inside).1 rfl

theorem group_read (small : ∀ piece ∈ pieces, piece < 65536) :
    group? (shown pieces) = some pieces := by
  cases pieces with
  | nil => rfl
  | cons piece rest =>
      obtain ⟨c, tail, same, -⟩ := shown_front piece rest
      have filled : (shown (piece :: rest)).isEmpty = false := by rw [same, List.isEmpty_cons]
      rw [group?, filled, shown_parts (List.cons_ne_nil piece rest), pieces_read small]
      rfl

theorem split_gap_behind (apart : ':' ∉ part) (rest : List Char) :
    splitGap (part ++ rest) = (part ++ (splitGap rest).1, (splitGap rest).2) := by
  induction part with
  | nil => rfl
  | cons c part ih =>
      obtain ⟨other, later⟩ := not_or.mp (mt List.mem_cons.mpr apart)
      rw [List.cons_append, splitGap, ih later, List.cons_append]
      rintro tail rfl
      exact absurd rfl other

/-- No gap is between pieces that are shown. -/
theorem split_gap_shown (pieces : List Nat) (rest : List Char) :
    splitGap (shown pieces ++ rest) = (shown pieces ++ (splitGap rest).1, (splitGap rest).2) := by
  induction pieces with
  | nil => rfl
  | cons piece pieces ih =>
      have apart : ':' ∉ Nat.toDigits 16 piece := fun member => (hex_apart member).1 rfl
      cases pieces with
      | nil =>
          have single : shown [piece] = Nat.toDigits 16 piece := by simp [shown]
          rw [single, split_gap_behind apart]
      | cons next pieces =>
          obtain ⟨c, tail, same, other⟩ := shown_front next pieces
          rw [shown_cons, List.append_assoc, split_gap_behind apart, List.append_assoc,
            List.cons_append, splitGap, ih]
          · rfl
          · rw [same]
            rintro behind - single
            exact other (List.cons.inj single).1

theorem zeros_run (pieces : List Nat) :
    pieces = List.replicate (zeros pieces) 0 ++ pieces.dropWhile (· == 0) := by
  have all_zero : pieces.takeWhile (· == 0) = List.replicate (zeros pieces) 0 :=
    List.eq_replicate_iff.mpr
      ⟨rfl, fun piece member => by simpa using List.mem_takeWhile_imp member⟩
  rw [← all_zero, List.takeWhile_append_dropWhile]

/-- The longest run of zeros is one, and starts where it is said to. -/
theorem longest_zeros_run (index : Nat) (pieces : List Nat) :
    (longestZeros index pieces).2 = 0 ∨
      ∃ front back, pieces = front ++ (List.replicate (longestZeros index pieces).2 0 ++ back) ∧
        (longestZeros index pieces).1 = index + front.length := by
  induction pieces generalizing index with
  | nil => exact .inl rfl
  | cons piece rest ih =>
      obtain none_ | ⟨front, back, same, start⟩ := ih (index + 1)
      all_goals
        rw [longestZeros]
        dsimp only
        split
      · exact .inr ⟨[], _, zeros_run (piece :: rest), rfl⟩
      · exact .inl none_
      · exact .inr ⟨[], _, zeros_run (piece :: rest), rfl⟩
      · refine .inr ⟨piece :: front, back, congrArg (piece :: ·) same, ?_⟩
        rw [start, List.length_cons]
        omega

/-- What an address looks like: all its pieces, or those around a gap of zeros. -/
theorem ipv6_text_cases (pieces : List Nat) :
    (ipv6Text pieces).toList = shown pieces ∨
      ∃ front back length, 2 ≤ length ∧ pieces = front ++ (List.replicate length 0 ++ back) ∧
        (ipv6Text pieces).toList = shown front ++ ':' :: ':' :: shown back := by
  have texts (pieces : List Nat) :
      (":".intercalate (pieces.map pieceText)).toList = shown pieces := by
    have digits : String.toList ∘ pieceText = Nat.toDigits 16 :=
      funext fun n => String.toList_ofList
    rw [String.toList_intercalate, List.map_map, digits]
    rfl
  rw [ipv6Text]
  dsimp only
  split
  · exact .inl (texts pieces)
  · rename_i long
    obtain none_ | ⟨front, back, same, start⟩ := longest_zeros_run 0 pieces
    · omega
    · generalize longestZeros 0 pieces = run at long same start
      obtain ⟨first, length⟩ := run
      dsimp only at long same start ⊢
      rw [Nat.zero_add] at start
      subst start same
      have before : ((front ++ (List.replicate length 0 ++ back)).map pieceText).take front.length =
          front.map pieceText := by
        rw [List.map_append, List.take_left' (by simp)]
      have behind : ((front ++ (List.replicate length 0 ++ back)).map pieceText).drop
          (front.length + length) = back.map pieceText := by
        rw [← List.append_assoc, List.map_append, List.drop_left' (by simp)]
      refine .inr ⟨front, back, length, by omega, rfl, ?_⟩
      rw [before, behind, String.toList_append, String.toList_append, texts, texts,
        List.append_assoc]
      rfl

theorem ipv6_char {c : Char} (member : c ∈ (ipv6Text pieces).toList) :
    c = ':' ∨ ∃ digit < 16, c = digit.digitChar := by
  have inside {pieces : List Nat} (member : c ∈ shown pieces) :
      c = ':' ∨ ∃ digit < 16, c = digit.digitChar := by
    obtain same | ⟨part, listed, inside⟩ := Domain.mem_intercalate member
    · exact .inl same
    · obtain ⟨n, -, rfl⟩ := List.mem_map.mp listed
      exact .inr (digit_of_mem (by decide) inside)
  obtain whole | ⟨front, back, length, -, -, gap⟩ := ipv6_text_cases pieces
  · rw [whole] at member
    exact inside member
  · rw [gap, List.mem_append, List.mem_cons, List.mem_cons] at member
    obtain before | same | same | behind := member
    · exact inside before
    · exact .inl same
    · exact .inl same
    · exact inside behind

/-- An address is read back from its text. -/
theorem ipv6_read (eight : pieces.length = 8) (small : ∀ piece ∈ pieces, piece < 65536) :
    ipv6? (ipv6Text pieces).toList = some pieces := by
  obtain whole | ⟨front, back, length, long, rfl, gap⟩ := ipv6_text_cases pieces
  · have ungapped : splitGap (shown pieces) = (shown pieces, none) := by
      simpa [splitGap] using split_gap_shown pieces []
    have filled : pieces ≠ [] := by
      rintro rfl
      contradiction
    rw [whole, ipv6?, ungapped]
    simp [shown_parts filled, pieces_read small, eight]
  · have gapped : splitGap (shown front ++ ':' :: ':' :: shown back) =
        (shown front, some (shown back)) := by
      simpa [splitGap] using split_gap_shown front (':' :: ':' :: shown back)
    have front_read : group? (shown front) = some front :=
      group_read fun piece member => small piece (by simp [member])
    have back_read : group? (shown back) = some back :=
      group_read fun piece member => small piece (by simp [member])
    simp only [List.length_append, List.length_replicate] at eight
    have shorter : front.length + back.length < 8 := by omega
    have zeros_left : 8 - front.length - back.length = length := by omega
    rw [gap, ipv6?, gapped]
    simp [no_dot_shown front, front_read, back_read, shorter, zeros_left]

theorem piece_lt {digits : List Char} {piece : Nat} (read : piece? digits = some piece) :
    piece < 65536 := by
  unfold piece? at read
  split at read
  · contradiction
  · rename_i short
    have most : digits.length ≤ 4 := by simp_all
    exact Nat.lt_of_lt_of_le (digits_value_lt read) (Nat.pow_le_pow_right (by decide) most)

theorem octet_lt {digits : List Char} {n : Nat} (read : octet? digits = some n) : n < 256 := by
  simp only [octet?, Option.bind_eq_bind, Option.bind_none] at read
  split at read
  · contradiction
  split at read
  · contradiction
  obtain ⟨value, -, read⟩ := Option.bind_eq_some_iff.mp read
  split at read
  · rename_i small
    rwa [← Option.some.inj read]
  · contradiction

theorem octets_lt {parts : List (List Char)} {numbers : List Nat}
    (read : parts.mapM octet? = some numbers) : ∀ n ∈ numbers, n < 256 := by
  induction parts generalizing numbers with
  | nil =>
      rw [List.mapM_nil] at read
      rw [← Option.some.inj read]
      simp
  | cons part parts ih =>
      rw [List.mapM_cons] at read
      obtain ⟨n, first, read⟩ := Option.bind_eq_some_iff.mp read
      obtain ⟨others, later, read⟩ := Option.bind_eq_some_iff.mp read
      rw [← Option.some.inj read]
      exact List.forall_mem_cons.mpr ⟨octet_lt first, ih later⟩

theorem embedded_lt (read : embedded? text = some pieces) : ∀ piece ∈ pieces, piece < 65536 := by
  obtain ⟨numbers, found, read⟩ := Option.bind_eq_some_iff.mp read
  have small := octets_lt found
  split at read
  · rename_i a b c d
    rw [← Option.some.inj read]
    have first := small a (by simp)
    have second := small b (by simp)
    have third := small c (by simp)
    have fourth := small d (by simp)
    intro piece member
    simp only [List.mem_cons, List.not_mem_nil, or_false] at member
    omega
  · contradiction

theorem pieces_lt (read : pieces? parts = some pieces) : ∀ piece ∈ pieces, piece < 65536 := by
  induction parts generalizing pieces with
  | nil =>
      rw [← Option.some.inj read]
      simp
  | cons part parts ih =>
      cases parts with
      | nil =>
          rw [pieces?] at read
          split at read
          · exact embedded_lt read
          · obtain ⟨piece, found, rfl⟩ := Option.map_eq_some_iff.mp read
            simp [piece_lt found]
      | cons next parts =>
          rw [pieces?] at read
          · obtain ⟨piece, first, read⟩ := Option.bind_eq_some_iff.mp read
            obtain ⟨others, later, read⟩ := Option.bind_eq_some_iff.mp read
            rw [← Option.some.inj read]
            exact List.forall_mem_cons.mpr ⟨piece_lt first, ih later⟩
          · exact List.cons_ne_nil _ _

theorem group_lt (read : group? text = some pieces) : ∀ piece ∈ pieces, piece < 65536 := by
  unfold group? at read
  split at read
  · rw [← Option.some.inj read]
    simp
  · exact pieces_lt read

/-- What is read as an address has eight pieces of four digits each. -/
theorem ipv6_some (read : ipv6? text = some pieces) :
    pieces.length = 8 ∧ ∀ piece ∈ pieces, piece < 65536 := by
  unfold ipv6? at read
  split at read
  · obtain ⟨found, listed, read⟩ := Option.bind_eq_some_iff.mp read
    split at read
    · rename_i eight
      rw [← Option.some.inj read]
      exact ⟨eight, pieces_lt listed⟩
    · contradiction
  · split at read
    · contradiction
    obtain ⟨front, before, read⟩ := Option.bind_eq_some_iff.mp read
    obtain ⟨back, behind, read⟩ := Option.bind_eq_some_iff.mp read
    split at read
    · rename_i shorter
      rw [← Option.some.inj read]
      constructor
      · simp only [List.length_append, List.length_replicate]
        omega
      · intro piece member
        simp only [List.mem_append, List.mem_replicate] at member
        obtain (inside | ⟨-, rfl⟩) | inside := member
        · exact group_lt before piece inside
        · decide
        · exact group_lt behind piece inside
    · contradiction

end CertSteward.Host
