import CertSteward.Url.Punycode
import Mathlib.Data.List.Sort
import Mathlib.Tactic.Ring

/-!
# Punycode is read back

What is written of a text is read as the text. Writer and reader go through the same places: where
the writer passes a character that is already there, the reader counts a step, and where the
writer writes a character, the reader has counted as many steps as were written.
-/

namespace CertSteward.Punycode

set_option autoImplicit false

variable {text front back rest code todo : List Char} {writer : Writer} {number fuel : Nat}
  {c : Char}

def InCode (c : Char) : Prop :=
  ∃ digit < 36, c = digitChar digit

theorem InCode.basic (code : InCode c) : isBasic c = true ∧ c ≠ '-' := by
  obtain ⟨digit, small, rfl⟩ := code
  exact (by decide : ∀ n < 36, isBasic (digitChar n) = true ∧ digitChar n ≠ '-') digit small

theorem digit_value_char {n : Nat} (small : n < 36) : digitValue? (digitChar n) = some n :=
  (by decide : ∀ n < 36, digitValue? (digitChar n) = some n) n small

theorem threshold_bounds (place bias : Nat) :
    1 ≤ threshold place bias ∧ threshold place bias ≤ 26 := by
  unfold threshold
  omega

theorem read_digits_within (bias place weight : Nat) {n : Nat} (enough : n ≤ fuel)
    (rest : List Char) :
    readDigits bias place weight (digitsWithin fuel bias place n ++ rest) =
      some (n * weight, rest) := by
  induction fuel generalizing place weight n with
  | zero =>
      obtain rfl : n = 0 := Nat.le_zero.mp enough
      obtain ⟨least, -⟩ := threshold_bounds place bias
      simp [digitsWithin, readDigits, digit_value_char (n := 0) (by decide),
        Nat.lt_of_lt_of_le Nat.zero_lt_one least]
  | succ fuel ih =>
      obtain ⟨least, most⟩ := threshold_bounds place bias
      rw [digitsWithin]
      by_cases small : n < threshold place bias
      · rw [if_pos small, List.singleton_append, readDigits,
          digit_value_char (Nat.lt_trans small (by omega))]
        simp [small]
      · rw [if_neg small, List.cons_append, readDigits]
        have base : 0 < 36 - threshold place bias := by omega
        have digit := Nat.mod_lt (n - threshold place bias) base
        have less := Nat.div_le_self (n - threshold place bias) (36 - threshold place bias)
        have parts := Nat.mod_add_div (n - threshold place bias) (36 - threshold place bias)
        rw [digit_value_char (by omega)]
        simp only [Option.bind_eq_bind, Option.bind_some]
        rw [if_neg (by omega), ih (place + 36) _ (by omega)]
        generalize (n - threshold place bias) / (36 - threshold place bias) = more at *
        generalize (n - threshold place bias) % (36 - threshold place bias) = low at *
        have whole : n = threshold place bias + low + more * (36 - threshold place bias) := by
          rw [Nat.mul_comm]
          omega
        simp only [Option.bind_some]
        congr 2
        conv_rhs => rw [whole]
        ring

theorem read_digits (bias n : Nat) (rest : List Char) :
    readDigits bias 36 1 (digits bias n ++ rest) = some (n, rest) := by
  rw [digits, read_digits_within bias 36 1 (Nat.le_refl n), Nat.mul_one]

theorem mem_digits_within {bias place n : Nat} (enough : n ≤ fuel)
    (member : c ∈ digitsWithin fuel bias place n) : InCode c := by
  induction fuel generalizing place n with
  | zero => exact ⟨n, by omega, List.mem_singleton.mp member⟩
  | succ fuel ih =>
      obtain ⟨least, most⟩ := threshold_bounds place bias
      rw [digitsWithin] at member
      split at member
      · exact ⟨n, by omega, List.mem_singleton.mp member⟩
      · obtain rfl | later := List.mem_cons.mp member
        · have digit := Nat.mod_lt (n - threshold place bias)
            (show 0 < 36 - threshold place bias by omega)
          exact ⟨_, by omega, rfl⟩
        · have less := Nat.div_le_self (n - threshold place bias) (36 - threshold place bias)
          exact ih (by omega) later

theorem mem_digits {bias n : Nat} (member : c ∈ digits bias n) : InCode c :=
  mem_digits_within (Nat.le_refl n) member

theorem read_digits_shorter {bias place weight steps : Nat}
    (read : readDigits bias place weight code = some (steps, rest)) :
    rest.length < code.length := by
  induction code generalizing place weight steps with
  | nil => contradiction
  | cons c code ih =>
      rw [readDigits] at read
      obtain ⟨digit, -, read⟩ := Option.bind_eq_some_iff.mp read
      dsimp only at read
      split at read
      · cases read
        exact Nat.lt_succ_self _
      · obtain ⟨⟨more, behind⟩, later, read⟩ := Option.bind_eq_some_iff.mp read
        cases read
        exact Nat.lt_succ_of_lt (ih later)

theorem place_enough {more : Nat} (enough : code.length ≤ fuel) (also : code.length ≤ more)
    (bias : Nat) (first : Bool) (number position : Nat) (text : List Char) :
    place fuel bias first number position text code =
      place more bias first number position text code := by
  induction fuel generalizing more code bias first number position text with
  | zero =>
      obtain rfl : code = [] := List.length_eq_zero_iff.mp (Nat.le_zero.mp enough)
      rw [place, place]
  | succ fuel ih =>
      cases code with
      | nil => rw [place, place]
      | cons c code =>
          cases more with
          | zero => exact absurd also (Nat.not_succ_le_zero _)
          | succ more =>
              simp only [place]
              refine Option.bind_congr fun ⟨steps, rest⟩ read => ?_
              have shorter := Nat.le_of_lt_succ (read_digits_shorter read)
              refine Option.bind_congr fun c _ => ?_
              exact ih (shorter.trans (Nat.le_of_succ_le_succ enough))
                (shorter.trans (Nat.le_of_succ_le_succ also)) _ _ _ _ _

structure Reader where
  bias : Nat
  first : Bool
  number : Nat
  position : Nat
  text : List Char

def Reader.read (reader : Reader) (code : List Char) : Option (List Char) :=
  place code.length reader.bias reader.first reader.number reader.position reader.text code

/-- Whether a reader has come to the place at which a writer stands with a number, between the
characters in `front` and those in `back`. -/
structure Agrees (writer : Writer) (number : Nat) (front back : List Char) (reader : Reader) :
    Prop where
  bias : reader.bias = writer.bias
  first : reader.first = writer.first
  text : reader.text = front ++ back
  count : writer.count = (front ++ back).length
  steps : reader.number * (writer.count + 1) + (reader.position + writer.steps) =
    number * (writer.count + 1) + front.length

theorem char_of_number (c : Char) : char? c.toNat = some c := by
  have valid := c.valid
  rw [char?, if_pos, Char.ofNat_toNat]
  simpa [UInt32.isValidChar, Nat.isValidChar] using valid

variable {reader : Reader}

/-- What the writer writes at a place puts the character there. -/
theorem Agrees.put (agrees : Agrees writer c.toNat front back reader) (rest : List Char) :
    reader.read (digits writer.bias writer.steps ++ rest) =
      Reader.read ⟨adapt writer.first writer.steps (writer.count + 1), false, c.toNat,
        front.length + 1, front ++ c :: back⟩ rest := by
  have within : front.length < writer.count + 1 := by
    rw [agrees.count, List.length_append]
    omega
  have index : reader.number + (reader.position + writer.steps) / (writer.count + 1) = c.toNat ∧
      (reader.position + writer.steps) % (writer.count + 1) = front.length := by
    have quotients := congrArg (· / (writer.count + 1)) agrees.steps
    have remainders := congrArg (· % (writer.count + 1)) agrees.steps
    simp only [Nat.mul_comm _ (writer.count + 1), Nat.mul_add_div (Nat.succ_pos writer.count),
      Nat.mul_add_mod, Nat.div_eq_of_lt within, Nat.mod_eq_of_lt within] at quotients remainders
    exact ⟨quotients, remainders⟩
  have length : (front ++ back).length + 1 = writer.count + 1 := by rw [agrees.count]
  have read := read_digits writer.bias writer.steps rest
  have shorter := read_digits_shorter read
  obtain ⟨digit, digits, code⟩ := List.exists_cons_of_length_pos (Nat.zero_lt_of_lt shorter)
  rw [Reader.read, agrees.bias]
  rw [code] at read shorter ⊢
  simp only [List.length_cons, place, read, Option.bind_eq_bind, Option.bind_some, agrees.text,
    agrees.first, length, index, char_of_number, List.take_left, List.drop_left]
  exact place_enough (Nat.le_of_lt_succ shorter) (Nat.le_refl _) _ _ _ _ _

/-- Passing one place of the text, the reader stays with the writer. -/
theorem Agrees.pass
    (agrees : Agrees writer number front ((c :: todo).filter (·.toNat < number)) reader)
    (rest : List Char) :
    ∃ next, Agrees (writer.pass number c).1 number (front ++ [c].filter (·.toNat ≤ number))
        (todo.filter (·.toNat < number)) next ∧
      reader.read ((writer.pass number c).2 ++ rest) = next.read rest := by
  obtain less | same | more := Nat.lt_trichotomy c.toNat number
  · -- The character is there already, and both count a step.
    rw [List.filter_cons_of_pos (by simpa using less)] at agrees
    have passed : writer.pass number c = ({ writer with steps := writer.steps + 1 }, []) :=
      if_pos less
    rw [passed, List.filter_cons_of_pos (by simpa using Nat.le_of_lt less), List.filter_nil]
    refine ⟨reader, ⟨agrees.bias, agrees.first, ?_, ?_, ?_⟩, rfl⟩
    · rw [agrees.text, List.append_assoc, List.singleton_append]
    · rw [agrees.count, List.append_assoc, List.singleton_append]
    · have steps := agrees.steps
      rw [List.length_append, List.length_singleton]
      dsimp only
      omega
  · subst same
    rw [List.filter_cons_of_neg (by simp)] at agrees
    have passed : writer.pass c.toNat c = (⟨adapt writer.first writer.steps (writer.count + 1), 0,
        writer.count + 1, false⟩, digits writer.bias writer.steps) := by
      rw [Writer.pass, if_neg (Nat.lt_irrefl _), if_pos rfl]
    rw [passed, List.filter_cons_of_pos (by simp), List.filter_nil]
    refine ⟨_, ⟨rfl, rfl, ?_, ?_, ?_⟩, agrees.put rest⟩
    · rw [List.append_assoc, List.singleton_append]
    · rw [agrees.count]
      simp only [List.length_append, List.length_singleton]
      omega
    · rw [List.length_append, List.length_singleton]
      rfl
  · rw [List.filter_cons_of_neg (by simpa using Nat.le_of_lt more)] at agrees
    have passed : writer.pass number c = (writer, []) := by
      rw [Writer.pass, if_neg (by omega), if_neg (by omega)]
    rw [passed, List.filter_cons_of_neg (by simpa using more), List.filter_nil, List.append_nil]
    exact ⟨reader, agrees, rfl⟩

theorem Agrees.pass_all
    (agrees : Agrees writer number front (todo.filter (·.toNat < number)) reader)
    (rest : List Char) :
    ∃ next, Agrees (writer.passAll number todo).1 number
        (front ++ todo.filter (·.toNat ≤ number)) [] next ∧
      reader.read ((writer.passAll number todo).2 ++ rest) = next.read rest := by
  induction todo generalizing writer front reader with
  | nil =>
      rw [List.filter_nil, List.append_nil]
      exact ⟨reader, agrees, rfl⟩
  | cons c todo ih =>
      obtain ⟨middle, passed, same⟩ :=
        agrees.pass (((writer.pass number c).1.passAll number todo).2 ++ rest)
      obtain ⟨next, all, later⟩ := ih passed
      rw [List.append_assoc, ← List.filter_append, List.singleton_append] at all
      rw [Writer.passAll, List.append_assoc]
      exact ⟨next, all, same.trans later⟩

theorem Agrees.move {next : Nat} (agrees : Agrees writer next [] back reader)
    (after : next ≤ number) :
    Agrees { writer with steps := writer.steps + (number - next) * (writer.count + 1) } number []
      back reader := by
  refine ⟨agrees.bias, agrees.first, agrees.text, agrees.count, ?_⟩
  have steps := agrees.steps
  have split : number * (writer.count + 1) =
      next * (writer.count + 1) + (number - next) * (writer.count + 1) := by
    rw [← Nat.add_mul, Nat.add_sub_cancel' after]
  dsimp only
  omega

/-- The step from the end of the text leads to its start, with the next number. -/
theorem Agrees.turn (agrees : Agrees writer number front [] reader) :
    Agrees { writer with steps := writer.steps + 1 } (number + 1) [] front reader := by
  have count : writer.count = front.length := by rw [agrees.count, List.append_nil]
  have text : reader.text = [] ++ front := by
    rw [agrees.text, List.append_nil, List.nil_append]
  refine ⟨agrees.bias, agrees.first, text, count, ?_⟩
  have steps := agrees.steps
  rw [← count] at steps
  rw [Nat.add_mul, Nat.one_mul, List.length_nil]
  dsimp only
  omega

/-- What is written with the numbers that are left is read as the whole text. -/
theorem Agrees.read_write {next : Nat} {numbers : List Nat}
    (agrees : Agrees writer next [] (text.filter (·.toNat < next)) reader)
    (ascending : numbers.Pairwise (· < ·)) (from_next : ∀ number ∈ numbers, next ≤ number)
    (left : ∀ c ∈ text, next ≤ c.toNat → c.toNat ∈ numbers) :
    reader.read (Writer.write text writer next numbers) = some text := by
  induction numbers generalizing writer next reader with
  | nil =>
      have all : text.filter (·.toNat < next) = text := by
        refine List.filter_eq_self.mpr fun c member => ?_
        simpa using left c member
      rw [Writer.write, Reader.read, place, agrees.text, List.nil_append, all]
  | cons number numbers ih =>
      obtain ⟨least, ascending⟩ := List.pairwise_cons.mp ascending
      have after := from_next number List.mem_cons_self
      -- No character lies between the last number and this one.
      have between : text.filter (·.toNat < next) = text.filter (·.toNat < number) := by
        refine List.filter_congr fun c member => ?_
        refine decide_eq_decide.mpr ⟨fun less => by omega, fun less => ?_⟩
        refine Nat.lt_of_not_le fun listed => ?_
        obtain same | later := List.mem_cons.mp (left c member listed)
        · omega
        · exact absurd (least c.toNat later) (by omega)
      have below : text.filter (·.toNat ≤ number) = text.filter (·.toNat < number + 1) := by
        simp only [Nat.lt_succ_iff]
      rw [between] at agrees
      obtain ⟨reader, passed, same⟩ :=
        (agrees.move after).pass_all (Writer.write text _ _ numbers)
      rw [List.nil_append, below] at passed
      rw [Writer.write]
      refine same.trans (ih passed.turn ascending least fun c member more => ?_)
      exact List.mem_of_ne_of_mem (by omega) (left c member (by omega))

theorem mem_pass_all (member : c ∈ (writer.passAll number text).2) : InCode c := by
  induction text generalizing writer with
  | nil => contradiction
  | cons other text ih =>
      rw [Writer.passAll] at member
      obtain here | later := List.mem_append.mp member
      · rw [Writer.pass] at here
        split at here
        · contradiction
        · split at here
          · exact mem_digits here
          · contradiction
      · exact ih later

theorem mem_write {next : Nat} {numbers : List Nat}
    (member : c ∈ Writer.write text writer next numbers) : InCode c := by
  induction numbers generalizing writer next with
  | nil => contradiction
  | cons number numbers ih =>
      obtain here | later := List.mem_append.mp member
      · exact mem_pass_all here
      · exact ih later

def codeOf (text : List Char) : List Char :=
  Writer.write text ⟨72, 0, (text.filter isBasic).length, true⟩ 0x80
    ((text.filter fun c => !isBasic c).map Char.toNat).mergeSort.eraseDups

theorem encode_eq (text : List Char) :
    encode text =
      if text.filter isBasic = [] then codeOf text
      else text.filter isBasic ++ '-' :: codeOf text := by
  simp only [encode, codeOf, List.isEmpty_iff]

theorem mem_encode (member : c ∈ encode text) :
    c = '-' ∨ (c ∈ text ∧ isBasic c = true) ∨ InCode c := by
  rw [encode_eq] at member
  split at member
  · exact .inr (.inr (mem_write member))
  · obtain basic | member := List.mem_append.mp member
    · exact .inr (.inl (List.mem_filter.mp basic))
    · obtain hyphen | code := List.mem_cons.mp member
      · exact .inl hyphen
      · exact .inr (.inr (mem_write code))

theorem encode_basic (member : c ∈ encode text) : isBasic c = true := by
  obtain rfl | given | code := mem_encode member
  · rfl
  · exact given.2
  · exact code.basic.1

theorem split_hyphen_encode (text : List Char) :
    splitHyphen (encode text) = (text.filter isBasic, codeOf text) := by
  have apart : ∀ c ∈ (codeOf text).reverse, (c != '-') = true := by
    intro c member
    exact bne_iff_ne.mpr (mem_write (List.mem_reverse.mp member)).basic.2
  rw [encode_eq]
  split
  · rename_i none_basic
    have back : (codeOf text).reverse.takeWhile (· != '-') = (codeOf text).reverse := by
      rw [← List.append_nil (codeOf text).reverse, List.takeWhile_append_of_pos apart,
        List.takeWhile_nil, List.append_nil]
    simp [splitHyphen, back, none_basic]
  · rename_i some_basic
    have back : (text.filter isBasic ++ '-' :: codeOf text).reverse.takeWhile (· != '-') =
        (codeOf text).reverse := by
      rw [List.reverse_append, List.reverse_cons, List.append_assoc,
        List.takeWhile_append_of_pos apart]
      simp
    have front : (text.filter isBasic ++ '-' :: codeOf text).length - (codeOf text).length - 1 =
        (text.filter isBasic).length := by
      simp only [List.length_append, List.length_cons]
      omega
    simp only [splitHyphen, back, List.reverse_reverse, front, List.take_left]
    rw [if_neg (by simpa using some_basic)]

theorem erase_dups_ascending {numbers : List Nat} (sorted : numbers.Pairwise (· ≤ ·)) :
    numbers.eraseDups.Pairwise (· < ·) := by
  induction size : numbers.length using Nat.strong_induction_on generalizing numbers with
  | _ size ih =>
      cases numbers with
      | nil => exact List.Pairwise.nil
      | cons number numbers =>
          obtain ⟨least, sorted⟩ := List.pairwise_cons.mp sorted
          have fewer := List.length_filter_le (fun other => !other == number) numbers
          rw [List.length_cons] at size
          rw [List.eraseDups_cons]
          refine List.pairwise_cons.mpr ⟨fun other member => ?_,
            ih _ (by omega) (sorted.filter _) rfl⟩
          obtain ⟨member, other_number⟩ := List.mem_filter.mp (List.mem_eraseDups.mp member)
          have above := least other member
          rw [Bool.not_eq_true', beq_eq_false_iff_ne] at other_number
          omega

/-- What is written of a text is read as the text. -/
theorem decode_encode (text : List Char) : decode? (encode text) = some text := by
  have basic : (encode text).all isBasic = true :=
    List.all_eq_true.mpr fun c member => encode_basic member
  have shorter : (codeOf text).length ≤ (encode text).length := by
    rw [encode_eq]
    split
    · exact Nat.le_refl _
    · simp only [List.length_append, List.length_cons]
      omega
  have start : Agrees ⟨72, 0, (text.filter isBasic).length, true⟩ 0x80 []
      (text.filter (·.toNat < 0x80)) ⟨72, true, 0x80, 0, text.filter isBasic⟩ :=
    ⟨rfl, rfl, rfl, rfl, rfl⟩
  rw [decode?, if_pos basic, split_hyphen_encode]
  refine (place_enough shorter (Nat.le_refl _) _ _ _ _ _).trans (start.read_write ?_ ?_ ?_)
  · exact erase_dups_ascending (List.pairwise_mergeSort' (· ≤ ·) _)
  · intro number member
    simp only [List.mem_eraseDups, List.mem_mergeSort, List.mem_map, List.mem_filter] at member
    obtain ⟨c, ⟨-, more⟩, rfl⟩ := member
    simpa [isBasic] using more
  · intro c member more
    simp only [List.mem_eraseDups, List.mem_mergeSort, List.mem_map, List.mem_filter]
    exact ⟨c, ⟨member, by simpa [isBasic] using more⟩, rfl⟩

theorem digits_within_ne_nil (fuel bias place n : Nat) : digitsWithin fuel bias place n ≠ [] := by
  cases fuel with
  | zero => exact List.cons_ne_nil _ _
  | succ fuel =>
      rw [digitsWithin]
      split <;> exact List.cons_ne_nil _ _

/-- Two digits are not enough for more than the greatest thresholds leave. -/
theorem three_digits {bias n : Nat} (many : 911 ≤ n) : 3 ≤ (digits bias n).length := by
  obtain ⟨fuel, rfl⟩ : ∃ fuel, n = fuel + 2 := ⟨n - 2, by omega⟩
  obtain ⟨least, most⟩ := threshold_bounds 36 bias
  obtain ⟨-, next⟩ := threshold_bounds (36 + 36) bias
  have left : threshold (36 + 36) bias ≤
      (fuel + 2 - threshold 36 bias) / (36 - threshold 36 bias) := by
    rw [Nat.le_div_iff_mul_le (by omega)]
    have product := Nat.mul_le_mul_right (36 - threshold 36 bias) next
    omega
  have more := List.length_pos_iff.mpr (digits_within_ne_nil fuel bias (36 + 36 + 36)
    (((fuel + 2 - threshold 36 bias) / (36 - threshold 36 bias) - threshold (36 + 36) bias) /
      (36 - threshold (36 + 36) bias)))
  rw [digits, digitsWithin, if_neg (by omega), digitsWithin, if_neg (by omega)]
  simp only [List.length_cons]
  omega

theorem pass_all_silent {next : Writer} (silent : writer.pass number c = (next, [])) :
    writer.passAll number (c :: rest) = next.passAll number rest := by
  rw [Writer.passAll, silent]
  rfl

theorem pass_all_below (below : ∀ c ∈ front, c.toNat < number) :
    writer.passAll number (front ++ back) =
      { writer with steps := writer.steps + front.length }.passAll number back := by
  induction front generalizing writer with
  | nil => rfl
  | cons c front ih =>
      obtain ⟨less, below⟩ := List.forall_mem_cons.mp below
      rw [List.cons_append, pass_all_silent (if_pos less), ih below, List.length_cons]
      dsimp only
      rw [Nat.add_right_comm, Nat.add_assoc]

theorem pass_all_above (above : ∀ c ∈ back, number < c.toNat) :
    writer.passAll number back = (writer, []) := by
  induction back generalizing writer with
  | nil => rfl
  | cons c back ih =>
      obtain ⟨more, above⟩ := List.forall_mem_cons.mp above
      have passed : writer.pass number c = (writer, []) := by
        rw [Writer.pass, if_neg (by omega), if_neg (by omega)]
      rw [pass_all_silent passed, ih above]

/-- In an ascending text, what is written of a character are the steps up to it. -/
theorem pass_all_ascending (below : ∀ d ∈ front, d.toNat < c.toNat)
    (above : ∀ d ∈ back, c.toNat < d.toNat) :
    writer.passAll c.toNat (front ++ c :: back) =
      (⟨adapt writer.first (writer.steps + front.length) (writer.count + 1), 0, writer.count + 1,
        false⟩, digits writer.bias (writer.steps + front.length)) := by
  rw [pass_all_below below, Writer.passAll, Writer.pass, if_neg (Nat.lt_irrefl _), if_pos rfl]
  simp only [pass_all_above above, List.append_nil]

/-- Whether each character of a text has a number that lies so far above those before it. -/
def Climbs (gap : Nat) (text : List Char) : Prop :=
  text.Pairwise fun c d => c.toNat + gap ≤ d.toNat

/-- From the thirtieth on, the characters of a climbing text take three digits each. -/
theorem long_write {next : Nat} (climbs : Climbs 30 (front ++ back))
    (later : ∀ c ∈ back, next + 29 ≤ c.toNat) (count : writer.count = front.length) :
    3 * back.length ≤
      (Writer.write (front ++ back) writer next (back.map Char.toNat)).length +
        3 * (30 - front.length) := by
  induction back generalizing front writer next with
  | nil => exact Nat.zero_le _
  | cons c back ih =>
      obtain ⟨-, climbing, apart⟩ := List.pairwise_append.mp climbs
      obtain ⟨above, -⟩ := List.pairwise_cons.mp climbing
      have below : ∀ d ∈ front, d.toNat < c.toNat := fun d member =>
        Nat.lt_of_lt_of_le (by omega) (apart d member c List.mem_cons_self)
      have beyond : ∀ d ∈ back, c.toNat < d.toNat := fun d member =>
        Nat.lt_of_lt_of_le (by omega) (above d member)
      have rest (other : Writer) (more : other.count = writer.count + 1) :
          3 * back.length ≤ (Writer.write (front ++ c :: back) other (c.toNat + 1)
            (back.map Char.toNat)).length + 3 * (30 - (front.length + 1)) := by
        rw [List.append_cons] at climbs ⊢
        have longer : (front ++ [c]).length = front.length + 1 := List.length_append
        rw [← longer]
        refine ih climbs (fun d member => ?_) (by rw [more, count, longer])
        have gap := above d member
        omega
      rw [List.map_cons, Writer.write, pass_all_ascending below beyond, List.length_cons]
      simp only [List.length_append]
      have rest := rest ⟨adapt writer.first (writer.steps + (c.toNat - next) * (writer.count + 1) +
        front.length) (writer.count + 1), 0 + 1, writer.count + 1, false⟩ rfl
      by_cases many : 30 ≤ front.length
      · have far := Nat.mul_le_mul (Nat.le_sub_of_add_le' (later c List.mem_cons_self))
          (show 31 ≤ writer.count + 1 by omega)
        have three := @three_digits writer.bias
          (writer.steps + (c.toNat - next) * (writer.count + 1) + front.length) (by omega)
        omega
      · omega

theorem erase_dups_of_ascending {numbers : List Nat} (ascending : numbers.Pairwise (· < ·)) :
    numbers.eraseDups = numbers := by
  induction numbers with
  | nil => rfl
  | cons number numbers ih =>
      obtain ⟨least, ascending⟩ := List.pairwise_cons.mp ascending
      have apart : numbers.filter (fun other => !other == number) = numbers := by
        refine List.filter_eq_self.mpr fun other member => ?_
        have above := least other member
        simpa using Nat.ne_of_gt above
      rw [List.eraseDups_cons, apart, ih ascending]

/-- A climbing text is written with three characters for each of its own, but for the first. -/
theorem long_encode (climbs : Climbs 30 text) (high : ∀ c ∈ text, 0x80 + 29 ≤ c.toNat) :
    3 * text.length ≤ (encode text).length + 90 := by
  have no_basic : ∀ c ∈ text, isBasic c = false := by
    intro c member
    have above := high c member
    simp only [isBasic, decide_eq_false_iff_not]
    omega
  have basic : text.filter isBasic = [] := List.filter_eq_nil_iff.mpr fun c member => by
    simp [no_basic c member]
  have others : text.filter (fun c => !isBasic c) = text :=
    List.filter_eq_self.mpr fun c member => by simp [no_basic c member]
  have ascending : (text.map Char.toNat).Pairwise (· < ·) :=
    List.pairwise_map.mpr (climbs.imp fun gap => by omega)
  have sorted : (text.map Char.toNat).mergeSort = text.map Char.toNat :=
    List.mergeSort_of_pairwise (ascending.imp fun less => by simpa using Nat.le_of_lt less)
  rw [encode_eq, if_pos basic, codeOf, basic, others, sorted, erase_dups_of_ascending ascending]
  rw [← List.nil_append text] at climbs
  exact long_write climbs high rfl

end CertSteward.Punycode
