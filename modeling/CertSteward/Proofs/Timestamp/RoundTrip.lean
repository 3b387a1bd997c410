import CertSteward.Proofs.Decimal.Digits
import CertSteward.Timestamp.Reader

/-!
# Written instants are read back

Every field stands in its full width, the fraction of a second in as many
digits as say it exactly, and no offset is left to apply.
-/

namespace CertSteward.Timestamp

set_option autoImplicit false

open CertSteward.Text (isBlank)
open CertSteward.Decimal (charDigit digits_value isDigit_of_mem)

theorem padded_digits (width n : Nat) : ∀ c ∈ padded width n, c.isDigit = true := by
  intro c member
  rcases List.mem_append.mp member with zero | digit
  · rw [List.eq_of_mem_replicate zero]
    decide
  · exact isDigit_of_mem digit

theorem length_padded {width n : Nat} (positive : 0 < width) (fits : n < Nat.pow 10 width) :
    (padded width n).length = width := by
  have short := (Nat.length_toDigits_le_iff (by decide) positive).mpr fits
  rw [padded, List.length_append, List.length_replicate]
  omega

theorem padded_value (width n : Nat) :
    (padded width n).foldl (fun total c => total * 10 + charDigit c) 0 = n := by
  have zeros : ∀ count : Nat,
      (List.replicate count '0').foldl (fun total c => total * 10 + charDigit c) 0 = 0 := by
    intro count
    induction count with
    | zero => rfl
    | succ count ih => exact ih
  rw [padded, List.foldl_append, zeros]
  exact (List.foldl_map).symm.trans (digits_value n)

theorem padded_start (width n : Nat) (rest : List Char) :
    ∃ c tail, padded width n ++ rest = c :: tail ∧ c.isDigit = true := by
  cases written : padded width n with
  | nil => exact absurd (List.append_eq_nil_iff.mp written).2 Nat.toDigits_ne_nil
  | cons c tail =>
      have digit := padded_digits width n c (by rw [written]; exact List.mem_cons_self)
      exact ⟨c, tail ++ rest, rfl, digit⟩

/-- Digits are taken up to the width or to the first other character. -/
theorem take_digits_append {digits rest : List Char} (each : ∀ c ∈ digits, c.isDigit = true)
    {width : Nat} (room : digits.length ≤ width)
    (stops : digits.length = width ∨ ∀ c, rest.head? = some c → c.isDigit = false) (total : Nat) :
    takeDigits width total (digits ++ rest) =
      (digits.foldl (fun total c => total * 10 + charDigit c) total, rest) := by
  induction digits generalizing width total with
  | nil =>
      cases width with
      | zero => rfl
      | succ width =>
          cases rest with
          | nil => rfl
          | cons c rest =>
              have other : c.isDigit = false := by
                rcases stops with full | other
                · exact absurd full.symm (Nat.succ_ne_zero width)
                · exact other c rfl
              simp [takeDigits, other]
  | cons c digits ih =>
      cases width with
      | zero => exact absurd room (Nat.not_succ_le_zero _)
      | succ width =>
          have digit := each c List.mem_cons_self
          have later := ih (fun other member => each other (List.mem_cons_of_mem c member))
            (Nat.le_of_succ_le_succ room) (stops.imp_left Nat.succ.inj)
            (total * 10 + charDigit c)
          rw [List.cons_append, takeDigits, if_pos digit]
          exact later

theorem read_number_padded {width room n : Nat} {rest : List Char}
    (enough : (padded width n).length ≤ room)
    (stops : (padded width n).length = room ∨ ∀ c, rest.head? = some c → c.isDigit = false) :
    readNumber room (padded width n ++ rest) = some (n, rest) := by
  have starts : startsWithDigit (padded width n ++ rest) = true := by
    obtain ⟨c, tail, same, digit⟩ := padded_start width n rest
    rw [same]
    exact digit
  rw [readNumber, if_pos starts, take_digits_append (padded_digits width n) enough stops,
    padded_value]

theorem digit_not_blank {c : Char} (digit : c.isDigit = true) : isBlank c = false := by
  obtain ⟨low, high⟩ := Char.isDigit_iff_toNat.mp digit
  have low : 0x30 ≤ c.toNat := low
  have high : c.toNat ≤ 0x39 := high
  simp only [isBlank]
  simp
  omega

theorem skip_blanks_padded (width n : Nat) (rest : List Char) :
    skipBlanks (padded width n ++ rest) = padded width n ++ rest := by
  obtain ⟨c, tail, same, digit⟩ := padded_start width n rest
  rw [same, skipBlanks, List.dropWhile_cons, digit_not_blank digit]
  rfl

theorem read_field_padded {width n : Nat} (positive : 0 < width) (fits : n < Nat.pow 10 width)
    (rest : List Char) : readField width (padded width n ++ rest) = some (n, rest) := by
  have full := length_padded positive fits
  rw [readField, skip_blanks_padded]
  exact read_number_padded (Nat.le_of_eq full) (Or.inl full)

theorem read_year_minus (rest : List Char) :
    readYear ('-' :: rest) =
      (readNumber rest.length rest).map fun read => (-(read.1 : Int), read.2) := rfl

theorem read_year_plus (rest : List Char) :
    readYear ('+' :: rest) =
      (readNumber rest.length rest).map fun read => ((read.1 : Int), read.2) := rfl

theorem read_year_digit {c : Char} (digit : c.isDigit = true) (rest : List Char) :
    readYear (c :: rest) =
      (readNumber 4 (c :: rest)).map fun read => ((read.1 : Int), read.2) := by
  have visible : skipBlanks (c :: rest) = c :: rest := by
    rw [skipBlanks, List.dropWhile_cons, digit_not_blank digit]
    rfl
  unfold readYear
  rw [visible]
  split
  · rename_i front
    obtain rfl := (List.cons.inj front).1
    contradiction
  · rename_i front
    obtain rfl := (List.cons.inj front).1
    contradiction
  · rfl

theorem read_year_text (year : Int) (rest : List Char) :
    readYear (yearText year ++ '-' :: rest) = some (year, '-' :: rest) := by
  have stops : ∀ c, ('-' :: rest).head? = some c → c.isDigit = false := by
    intro c first
    rw [← Option.some.inj first]
    decide
  have longer : (padded 4 year.natAbs).length ≤ (padded 4 year.natAbs ++ '-' :: rest).length := by
    rw [List.length_append]
    exact Nat.le_add_right _ _
  have signed := read_number_padded longer (Or.inr stops)
  unfold yearText
  split
  · rename_i negative
    have same : -((year.natAbs : Nat) : Int) = year := by omega
    rw [List.cons_append, read_year_minus, signed, Option.map_some, same]
  split
  · rename_i notNegative large
    have same : ((year.natAbs : Nat) : Int) = year := by omega
    rw [List.cons_append, read_year_plus, signed, Option.map_some, same]
  · rename_i notNegative small
    have same : ((year.natAbs : Nat) : Int) = year := by omega
    have full : (padded 4 year.natAbs).length = 4 :=
      length_padded (by decide) (show year.natAbs < 10000 by omega)
    have unsigned := @read_number_padded 4 4 year.natAbs ('-' :: rest) (Nat.le_of_eq full)
      (Or.inl full)
    obtain ⟨c, tail, front, digit⟩ := padded_start 4 year.natAbs ('-' :: rest)
    rw [front] at unsigned ⊢
    rw [read_year_digit digit, unsigned, Option.map_some, same]

theorem take_fraction {places n : Nat} (positive : 0 < places) (few : places ≤ 9)
    (fits : n < Nat.pow 10 places) (rest : List Char) :
    readFraction ('.' :: (padded places n ++ 'Z' :: rest)) =
      some (n * Nat.pow 10 (9 - places), 'Z' :: rest) := by
  have digits := padded_digits places n
  have full := length_padded positive fits
  have starts : startsWithDigit (padded places n ++ 'Z' :: rest) = true := by
    obtain ⟨c, tail, same, digit⟩ := padded_start places n ('Z' :: rest)
    rw [same]
    exact digit
  have taken : (padded places n ++ 'Z' :: rest).takeWhile Char.isDigit = padded places n := by
    rw [List.takeWhile_append_of_pos digits]
    exact List.append_nil _
  have left : (padded places n ++ 'Z' :: rest).dropWhile Char.isDigit = 'Z' :: rest := by
    rw [List.dropWhile_append_of_pos digits]
    rfl
  have value := @take_digits_append _ [] digits 9 (by rw [full]; exact few)
    (Or.inr fun c none => by contradiction) 0
  rw [List.append_nil, padded_value] at value
  rw [readFraction, if_pos starts]
  simp only [taken, left, value, full]

theorem read_fraction_text {nanosecond : Nat} (small : nanosecond < 1000000000)
    (rest : List Char) :
    readFraction (fractionText nanosecond ++ 'Z' :: rest) = some (nanosecond, 'Z' :: rest) := by
  unfold fractionText
  split
  · rename_i zero
    rw [zero]
    rfl
  split
  · rename_i exact_
    have fits : nanosecond / 1000000 < 1000 := by omega
    have same : nanosecond / 1000000 * 1000000 = nanosecond := by omega
    exact (take_fraction (by decide) (by decide) fits rest).trans (congrArg _ (by rw [same]))
  split
  · rename_i exact_
    have fits : nanosecond / 1000 < 1000000 := by omega
    have same : nanosecond / 1000 * 1000 = nanosecond := by omega
    exact (take_fraction (by decide) (by decide) fits rest).trans (congrArg _ (by rw [same]))
  · have same : nanosecond * 1 = nanosecond := Nat.mul_one nanosecond
    exact (take_fraction (by decide) (by decide) small rest).trans (congrArg _ (by rw [same]))

theorem minus_no_minutes {time : CalendarTime} (real : time.Exists) :
    time.minusMinutes 0 = time := by
  have hour := real.hour_high
  have minute := real.minute_high
  have inDay : (((time.hour : Int) * 60 + time.minute - 0) % 1440).toNat =
      time.hour * 60 + time.minute := by
    omega
  unfold CalendarTime.minusMinutes
  dsimp only
  rw [if_neg (by omega), if_neg (by omega), inDay]
  congr 1
  · omega
  · omega

theorem bind_of_some {α β : Type} {first : Option α} {next : α → Option β} {value : α}
    (known : first = some value) : (first >>= next) = next value := by
  rw [known]
  rfl

/-- Every instant is read from its own text. -/
theorem of_text_to_text (stamp : Timestamp) : ofText? stamp.toText = some stamp := by
  obtain ⟨time, real⟩ := stamp
  have days : daysInMonth time.year time.month ≤ 31 := by
    unfold daysInMonth
    split_ifs <;> decide
  have field : ∀ {n : Nat}, n < 100 → ∀ rest, readField 2 (padded 2 n ++ rest) = some (n, rest) :=
    fun fits => read_field_padded (by decide) fits
  have month := field (Nat.lt_of_le_of_lt real.month_high (by decide))
  have day := field (Nat.lt_of_le_of_lt (Nat.le_trans real.day_high days) (by decide))
  have hour := field (Nat.lt_trans real.hour_high (by decide))
  have minute := field (Nat.lt_trans real.minute_high (by decide))
  have second := field (Nat.lt_of_le_of_lt real.second_high (by decide))
  have dash : ∀ rest, readMark '-' ('-' :: rest) = some ((), rest) := fun _ => rfl
  have colon : ∀ rest, readMark ':' (':' :: rest) = some ((), rest) := fun _ => rfl
  have separator : ∀ rest, readSeparator ('T' :: rest) = some ((), rest) := fun _ => rfl
  have universal : readOffset ['Z'] = some (0, []) := by decide
  have known : time.timestamp? = some ⟨time, real⟩ := dif_pos real
  rw [ofText?, toText, String.toList_ofList, read, write]
  simp only [List.append_assoc, List.cons_append]
  apply (bind_of_some (read_year_text _ _)).trans
  apply (bind_of_some (dash _)).trans
  apply (bind_of_some (month _)).trans
  apply (bind_of_some (dash _)).trans
  apply (bind_of_some (day _)).trans
  apply (bind_of_some (separator _)).trans
  apply (bind_of_some (hour _)).trans
  apply (bind_of_some (colon _)).trans
  apply (bind_of_some (minute _)).trans
  apply (bind_of_some (colon _)).trans
  apply (bind_of_some (second _)).trans
  apply (bind_of_some (read_fraction_text real.nanosecond_high [])).trans
  apply (bind_of_some universal).trans
  apply (bind_of_some known).trans
  dsimp only
  rw [minus_no_minutes real, known]

end CertSteward.Timestamp
