import CertSteward.Json.Reader
import CertSteward.Json.Writer
import CertSteward.Proofs.Decimal.Digits
import CertSteward.Proofs.Text.Utf8
import Mathlib.Data.List.Basic
import Mathlib.Data.Nat.Init

/-!
# Written JSON is read back

A value without doubles is read from its own text as it was written: the
members in their order, every text character by character, and nothing left
behind. A text may be followed by a separator or a closing bracket.
-/

namespace CertSteward.Json

set_option autoImplicit false

open CertSteward.Text (Cell)
open CertSteward.Decimal (charDigit digits_value isDigit_of_mem zero_of_digits_head)

def writtenPiece (c : Char) : Piece :=
  if escapeLetter? c = none ∧ c.toNat < 0x20 then .unit c.toNat else .char c

theorem escape_letter_read {c letter : Char} (escaped : escapeLetter? c = some letter) :
    shortEscape? (some letter) = some c ∧ letter ≠ 'u' := by
  unfold escapeLetter? at escaped
  split_ifs at escaped with own back feed line carriage tab
  · obtain rfl := Option.some.inj escaped
    rcases own with rfl | rfl <;> decide
  all_goals
    subst c
    obtain rfl := Option.some.inj escaped
    decide

theorem hex_four_written {n : Nat} (small : n < 0x20) :
    ∃ a b c d, (hexFour n).map some = [a, b, c, d] ∧ hexFour? a b c d = some n := by
  refine ⟨_, _, _, _, rfl, ?_⟩
  exact (by decide : ∀ n < 0x20, hexFour? (some (hexDigit (n / 4096 % 16)))
    (some (hexDigit (n / 256 % 16))) (some (hexDigit (n / 16 % 16))) (some (hexDigit (n % 16))) =
      some n) n small

/-- A written character is one step through a string. -/
theorem read_written_char (c : Char) (rest : List Cell) :
    readPieces ((writeChar c).map some ++ rest) =
      (writtenPiece c :: (readPieces rest).1, (readPieces rest).2) := by
  unfold writeChar writtenPiece
  cases escaped : escapeLetter? c with
  | some letter =>
      obtain ⟨short, notUnit⟩ := escape_letter_read escaped
      simp only [List.map_cons, List.map_nil, List.cons_append, List.nil_append]
      rw [readPieces, short]
      · rfl
      · exact fun _ _ _ _ _ same _ => notUnit (Option.some.inj same)
      · exact fun same => notUnit (Option.some.inj same)
  | none =>
      by_cases control : c.toNat < 0x20
      · obtain ⟨a, b, x, y, digits, code⟩ := hex_four_written control
        simp only [if_pos control, List.map_cons, digits, List.cons_append, List.nil_append]
        rw [readPieces, code, if_pos ⟨trivial, control⟩]
      · have quote : c ≠ '"' := by
          rintro rfl
          exact absurd escaped (by decide)
        have slash : c ≠ '\\' := by
          rintro rfl
          exact absurd escaped (by decide)
        simp only [if_neg control, List.map_cons, List.map_nil, List.cons_append, List.nil_append]
        rw [readPieces, if_neg control, if_neg fun spelled => control spelled.2]
        · exact quote
        · exact fun _ => slash
        · exact fun _ _ _ _ _ _ => slash
        · exact fun _ _ => slash
        · exact fun _ _ _ => slash

theorem read_written_chars (text : List Char) (rest : List Cell) :
    readPieces ((text.flatMap writeChar).map some ++ some '"' :: rest) =
      (text.map writtenPiece, .ok rest) := by
  induction text with
  | nil => rfl
  | cons c text ih =>
      rw [List.flatMap_cons, List.map_append, List.append_assoc, read_written_char, ih]
      rfl

theorem join_pieces_unit {code : Nat} (small : code < 0x20) (pieces : List Piece) :
    joinPieces (.unit code :: pieces) = (joinPieces pieces).map (Char.ofNat code :: ·) := by
  have notHigh : isHigh code = false := by
    simp [isHigh]
    omega
  have notLow : isLow code = false := by
    simp [isLow]
    omega
  cases pieces with
  | nil => simp [joinPieces, notHigh, notLow]
  | cons piece rest => cases piece <;> simp [joinPieces, notHigh, notLow]

theorem join_written_pieces (text : List Char) :
    joinPieces (text.map writtenPiece) = some text := by
  induction text with
  | nil => rfl
  | cons c text ih =>
      rw [List.map_cons]
      by_cases spelled : escapeLetter? c = none ∧ c.toNat < 0x20
      · rw [writtenPiece, if_pos spelled, join_pieces_unit spelled.2, ih, Option.map_some,
          Char.ofNat_toNat]
      · rw [writtenPiece, if_neg spelled, joinPieces, ih]
        rfl

/-- A written text is read as itself. -/
theorem read_written_text (text : String) (rest : List Cell) :
    readString ((text.toList.flatMap writeChar).map some ++ some '"' :: rest) =
      .ok (some text, rest) := by
  unfold readString
  rw [read_written_chars]
  dsimp only
  rw [join_written_pieces, Option.map_some, String.ofList_toList]

theorem write_text_append (text : String) (rest : List Cell) :
    (writeText text).map some ++ rest =
      some '"' :: ((text.toList.flatMap writeChar).map some ++ some '"' :: rest) := by
  rw [writeText, List.map_cons, List.map_append, List.cons_append, List.append_assoc]
  rfl

def Closes (rest : List Cell) : Prop :=
  ∀ cell, rest.head? = some cell → cell = some ',' ∨ cell = some ']' ∨ cell = some '\x7d'

theorem closes_cons {c : Char} (mark : c = ',' ∨ c = ']' ∨ c = '\x7d') (rest : List Cell) :
    Closes (some c :: rest) := by
  intro cell first
  obtain rfl := Option.some.inj first
  rcases mark with rfl | rfl | rfl
  · exact Or.inl rfl
  · exact Or.inr (Or.inl rfl)
  · exact Or.inr (Or.inr rfl)

theorem read_digits_append {digits : List Char} (each : ∀ c ∈ digits, c.isDigit = true)
    {rest : List Cell} (closes : Closes rest) :
    readDigits (digits.map some ++ rest) = (digits.map charDigit, rest) := by
  induction digits with
  | nil =>
      cases rest with
      | nil => rfl
      | cons cell rest =>
          have none : digitValue? cell = none := by
            rcases closes cell rfl with rfl | rfl | rfl <;> rfl
          simp only [List.map_nil, List.nil_append, readDigits, none]
  | cons c digits ih =>
      have digit : digitValue? (some c) = some (charDigit c) :=
        if_pos (each c List.mem_cons_self)
      have later := ih fun other member => each other (List.mem_cons_of_mem c member)
      simp only [List.map_cons, List.cons_append, readDigits, digit, later]

theorem gather_within {significand : Nat} {digits : List Nat}
    (fits : digits.foldl (fun total digit => total * 10 + digit) significand ≤
      largestSignificand) :
    gather significand digits =
      (digits.foldl (fun total digit => total * 10 + digit) significand, []) := by
  induction digits generalizing significand with
  | nil => rfl
  | cons digit digits ih =>
      have grows : ∀ (more : List Nat) (start : Nat),
          start ≤ more.foldl (fun total digit => total * 10 + digit) start := by
        intro more
        induction more with
        | nil => exact fun start => Nat.le_refl start
        | cons next more above =>
            intro start
            have step := above (start * 10 + next)
            rw [List.foldl_cons]
            omega
      have below := grows digits (significand * 10 + digit)
      rw [List.foldl_cons] at fits ⊢
      rw [gather, if_neg (by omega), ih fits]

theorem read_fraction_closed {rest : List Cell} (closes : Closes rest) :
    readFraction rest = .ok (none, rest) := by
  unfold readFraction
  split
  · exact absurd (closes _ rfl) (by decide)
  · rfl

theorem read_exponent_closed {rest : List Cell} (closes : Closes rest) :
    readExponent rest = .ok (none, rest) := by
  unfold readExponent
  split
  · exact absurd (closes _ rfl) (by decide)
  · exact absurd (closes _ rfl) (by decide)
  · rfl

theorem read_written_numeral (negative : Bool) (n : Nat) {rest : List Cell}
    (closes : Closes rest) :
    readNumeral negative ((Nat.toDigits 10 n).map some ++ rest) =
      .ok (⟨negative, (Nat.toDigits 10 n).map charDigit, none, none⟩, rest) := by
  have each : ∀ c ∈ Nat.toDigits 10 n, c.isDigit = true := fun c => isDigit_of_mem
  unfold readNumeral
  rw [read_digits_append each closes]
  split
  · rename_i none
    exact absurd (List.map_eq_nil_iff.mp (Prod.mk.inj none).1) Nat.toDigits_ne_nil
  · rename_i second digits behind zero
    -- A zero in front of other digits would make the number zero, which has one digit.
    obtain ⟨front, back⟩ := Prod.mk.inj zero
    cases written : Nat.toDigits 10 n with
    | nil => exact absurd written Nat.toDigits_ne_nil
    | cons c tail =>
        rw [written] at front each
        obtain ⟨first, others⟩ := List.cons.inj front
        have digit : 0x30 ≤ c.toNat := (Char.isDigit_iff_toNat.mp (each c List.mem_cons_self)).1
        have isZero : c = '0' := by
          apply Char.toNat_inj.mp
          unfold charDigit at first
          show c.toNat = 0x30
          omega
        have nothing : n = 0 := zero_of_digits_head (by rw [written, isZero]; rfl)
        rw [nothing] at written
        obtain ⟨_, rfl⟩ := List.cons.inj written
        contradiction
  · rename_i whole behind _ _ same
    obtain ⟨rfl, rfl⟩ := Prod.mk.inj same
    rw [read_fraction_closed closes]
    dsimp only [bind, Except.bind]
    rw [read_exponent_closed closes]
    rfl

theorem of_numeral_natural {n : Nat} (fits : n ≤ largestSignificand) {rest : List Cell}
    (closes : Closes rest) :
    ofNumeral false ((Nat.toDigits 10 n).map some ++ rest) =
      (.number (.int n), some rest) := by
  have value := digits_value n
  have gathered := @gather_within 0 ((Nat.toDigits 10 n).map charDigit) (by rwa [value])
  rw [value] at gathered
  unfold ofNumeral
  rw [read_written_numeral false n closes]
  simp [Numeral.number?, gathered]

theorem of_numeral_negative {n : Nat} (positive : 0 < n) (fits : n ≤ Nat.pow 2 63)
    {rest : List Cell} (closes : Closes rest) :
    ofNumeral true ((Nat.toDigits 10 n).map some ++ rest) =
      (.number (.int (-n)), some rest) := by
  have value := digits_value n
  have small : n ≤ largestSignificand := Nat.le_trans fits (by decide)
  have gathered := @gather_within 0 ((Nat.toDigits 10 n).map charDigit) (by rwa [value])
  rw [value] at gathered
  unfold ofNumeral
  rw [read_written_numeral true n closes]
  simp only [Numeral.number?, gathered]
  simp [positive, fits]

mutual

/-- Whether a value has no doubles, and only integers within sixty-four bits. -/
def Value.Integral : Value → Prop
  | .number (.int value) => -(Int.pow 2 63) ≤ value ∧ value < Int.pow 2 64
  | .number (.real _ _) => False
  | .array items => IntegralItems items
  | .object members => IntegralMembers members
  | _ => True

def IntegralItems : List Value → Prop
  | [] => True
  | item :: rest => item.Integral ∧ IntegralItems rest

def IntegralMembers : List (String × Value) → Prop
  | [] => True
  | (_, item) :: rest => item.Integral ∧ IntegralMembers rest

end

mutual

/-- A value as the document that its own text is: the members as they stand. -/
def Value.outline : Value → Document
  | .null => .null
  | .bool value => .bool value
  | .number value => .number value
  | .text value => .text value
  | .array items => .array (itemOutlines items) .closed
  | .object members => .object (memberOutlines members) .closed

def itemOutlines : List Value → List Document
  | [] => []
  | item :: rest => item.outline :: itemOutlines rest

def memberOutlines : List (String × Value) → List (Option String × Document)
  | [] => []
  | (key, item) :: rest => (some key, item.outline) :: memberOutlines rest

end

def Starts (cells : List Cell) : Prop :=
  ∃ c rest, cells = some c :: rest ∧ isSpace (some c) = false ∧ c ≠ ']'

theorem skip_space_starts {cells : List Cell} (starts : Starts cells) :
    skipSpace cells = cells := by
  obtain ⟨c, rest, rfl, visible, -⟩ := starts
  rw [skipSpace, List.dropWhile_cons, visible]
  rfl

theorem digit_starts {c : Char} (digit : c.isDigit = true) (rest : List Cell) :
    Starts (some c :: rest) := by
  have other : ∀ mark : Char, mark.isDigit = false → c ≠ mark := by
    rintro mark notDigit rfl
    rw [digit] at notDigit
    contradiction
  refine ⟨c, rest, rfl, ?_, other ']' (by decide)⟩
  simp [isSpace, other ' ' (by decide), other '\n' (by decide), other '\t' (by decide),
    other '\r' (by decide)]

theorem number_text (value : Int) :
    (Number.int value).text.toList =
      if 0 ≤ value then Nat.toDigits 10 value.toNat else '-' :: Nat.toDigits 10 (-value).toNat := by
  show (toString value).toList = _
  rw [Int.toString_eq_repr, Int.repr_eq_if]
  split
  · rw [Nat.repr_eq_ofList_toDigits, String.toList_ofList]
  · rw [String.toList_append, Nat.repr_eq_ofList_toDigits, @String.toList_ofList (Nat.toDigits ..)]
    rfl

theorem digits_start (n : Nat) (rest : List Cell) :
    ∃ c tail, (Nat.toDigits 10 n).map some ++ rest = some c :: tail ∧ c.isDigit = true := by
  cases written : Nat.toDigits 10 n with
  | nil => exact absurd written Nat.toDigits_ne_nil
  | cons c tail =>
      have digit : c.isDigit = true := by
        apply @isDigit_of_mem n
        rw [written]
        exact List.mem_cons_self
      exact ⟨c, tail.map some ++ rest, rfl, digit⟩

theorem write_starts {value : Value} (integral : value.Integral) (rest : List Cell) :
    Starts (value.write.map some ++ rest) := by
  cases value with
  | null => exact ⟨_, _, rfl, by decide, by decide⟩
  | bool value => cases value <;> exact ⟨_, _, rfl, by decide, by decide⟩
  | number value =>
      cases value with
      | real negative size => exact integral.elim
      | int value =>
          rw [Value.write, number_text]
          split
          · obtain ⟨c, tail, same, digit⟩ := digits_start value.toNat rest
            rw [same]
            exact digit_starts digit tail
          · exact ⟨_, _, rfl, by decide, by decide⟩
  | text value =>
      rw [Value.write, writeText]
      exact ⟨_, _, rfl, by decide, by decide⟩
  | array items =>
      rw [Value.write]
      exact ⟨_, _, rfl, by decide, by decide⟩
  | object members =>
      rw [Value.write]
      exact ⟨_, _, rfl, by decide, by decide⟩

theorem read_document_minus (fuel : Nat) (rest : List Cell) :
    readDocument (fuel + 1) (some '-' :: rest) = ofNumeral true rest := rfl

theorem read_document_text (fuel : Nat) (text : String) (rest : List Cell) :
    readDocument (fuel + 1) ((writeText text).map some ++ rest) = (.text text, some rest) := by
  rw [write_text_append, readDocument, skip_space_starts ⟨'"', _, rfl, by decide, by decide⟩]
  simp [read_written_text]

theorem read_document_array (fuel : Nat) (rest : List Cell) :
    readDocument (fuel + 1) (some '[' :: rest) =
      (.array (readItems fuel true rest).1 (readItems fuel true rest).2.1,
        (readItems fuel true rest).2.2) := rfl

theorem read_document_object (fuel : Nat) (rest : List Cell) :
    readDocument (fuel + 1) (some '\x7b' :: rest) =
      (.object (readMembers fuel true rest).1 (readMembers fuel true rest).2.1,
        (readMembers fuel true rest).2.2) := rfl

theorem read_items_start (fuel : Nat) {cells : List Cell} (starts : Starts cells) :
    readItems (fuel + 1) true cells = readItem fuel cells := by
  obtain ⟨c, rest, rfl, visible, notClosed⟩ := starts
  rw [readItems, skip_space_starts ⟨c, rest, rfl, visible, notClosed⟩]
  split
  · contradiction
  · rename_i same
    exact absurd (Option.some.inj (List.cons.inj same).1) notClosed
  · rename_i same
    rw [if_pos rfl, same]

theorem read_items_next (fuel : Nat) {cells : List Cell} (starts : Starts cells) :
    readItems (fuel + 1) false (some ',' :: cells) = readItem fuel cells := by
  obtain ⟨c, rest, rfl, visible, notClosed⟩ := starts
  rw [readItems, skip_space_starts ⟨',', _, rfl, by decide, by decide⟩]
  simp only [Char.isValue, Option.some.injEq, Char.reduceEq, imp_self, Bool.false_eq_true, if_false,
    if_true, skip_space_starts ⟨c, rest, rfl, visible, notClosed⟩]
  split
  · contradiction
  · rename_i same
    exact absurd (Option.some.inj (List.cons.inj same).1) notClosed
  · rfl

theorem read_members_start (fuel : Nat) (rest : List Cell) :
    readMembers (fuel + 1) true (some '"' :: rest) =
      readMember fuel .broken (some '"' :: rest) := rfl

theorem read_members_next (fuel : Nat) (rest : List Cell) :
    readMembers (fuel + 1) false (some ',' :: some '"' :: rest) =
      readMember fuel .dangling (some '"' :: rest) := rfl

theorem read_item_of_document {fuel : Nat} {cells rest : List Cell} {item : Document}
    (read : readDocument fuel cells = (item, some rest)) :
    readItem (fuel + 1) cells =
      (item :: (readItems fuel false rest).1, (readItems fuel false rest).2) := by
  rw [readItem, read]

theorem read_member_of_document {fuel : Nat} (unkeyed : Break → Ending) (key : String)
    {cells rest : List Cell} {item : Document}
    (read : readDocument fuel cells = (item, some rest)) :
    readMember (fuel + 1) unkeyed ((writeText key).map some ++ some ':' :: cells) =
      ((some key, item) :: (readMembers fuel false rest).1, (readMembers fuel false rest).2) := by
  have visible := skip_space_starts ⟨':', cells, rfl, by decide, by decide⟩
  rw [write_text_append, readMember]
  simp [read_written_text, visible, read]

theorem write_array (items : List Value) (rest : List Cell) :
    (Value.array items).write.map some ++ rest =
      some '[' :: ((writeItems items).map some ++ some ']' :: rest) := by
  rw [Value.write, List.map_cons, List.map_append, List.cons_append, List.append_assoc]
  rfl

theorem write_object (members : List (String × Value)) (rest : List Cell) :
    (Value.object members).write.map some ++ rest =
      some '\x7b' :: ((writeMembers members).map some ++ some '\x7d' :: rest) := by
  rw [Value.write, List.map_cons, List.map_append, List.cons_append, List.append_assoc]
  rfl

theorem write_items_next (item next : Value) (items : List Value) (rest : List Cell) :
    (writeItems (item :: next :: items)).map some ++ rest =
      item.write.map some ++ some ',' :: ((writeItems (next :: items)).map some ++ rest) := by
  show (item.write ++ ',' :: writeItems (next :: items)).map some ++ rest = _
  rw [List.map_append, List.append_assoc]
  rfl

theorem write_members_single (key : String) (item : Value) (rest : List Cell) :
    (writeMembers [(key, item)]).map some ++ rest =
      (writeText key).map some ++ some ':' :: (item.write.map some ++ rest) := by
  show (writeText key ++ ':' :: item.write).map some ++ rest = _
  rw [List.map_append, List.append_assoc]
  rfl

theorem write_members_next (key other : String) (item next : Value)
    (members : List (String × Value)) (rest : List Cell) :
    (writeMembers ((key, item) :: (other, next) :: members)).map some ++ rest =
      (writeText key).map some ++ some ':' :: (item.write.map some ++
        some ',' :: ((writeMembers ((other, next) :: members)).map some ++ rest)) := by
  show (writeText key ++ ':' :: (item.write ++ ',' :: writeMembers ((other, next) :: members))).map
    some ++ rest = _
  rw [List.map_append, List.append_assoc, List.map_cons, List.cons_append, List.map_append,
    List.append_assoc]
  rfl

theorem write_members_front (key : String) (item : Value) (members : List (String × Value))
    (rest : List Cell) :
    ∃ tail, (writeMembers ((key, item) :: members)).map some ++ rest = some '"' :: tail := by
  cases members with
  | nil => exact ⟨_, write_members_single key item rest⟩
  | cons next members => exact ⟨_, write_members_next key next.1 item next.2 members rest⟩

theorem write_items_starts {item : Value} (integral : item.Integral) (items : List Value)
    (rest : List Cell) : Starts ((writeItems (item :: items)).map some ++ rest) := by
  cases items with
  | nil => exact write_starts integral rest
  | cons next items =>
      rw [write_items_next]
      exact write_starts integral _

theorem write_length_pos {value : Value} (integral : value.Integral) : 0 < value.write.length := by
  obtain ⟨c, tail, same, -⟩ := write_starts integral []
  have filled := congrArg List.length same
  rw [List.length_append, List.length_map, List.length_cons] at filled
  exact Nat.lt_of_lt_of_eq (Nat.succ_pos _) filled.symm

theorem read_document_digit (fuel : Nat) {c : Char} (digit : c.isDigit = true) (rest : List Cell) :
    readDocument (fuel + 1) (some c :: rest) = ofNumeral false (some c :: rest) := by
  have value : (digitValue? (some c)).isSome = true := by
    simp [digitValue?, digit]
  rw [readDocument, skip_space_starts (digit_starts digit rest)]
  split
  case h_9 cell tail _ _ _ _ _ _ _ same =>
    obtain ⟨rfl, rfl⟩ := List.cons.inj same
    exact if_pos value
  case h_1 none => contradiction
  all_goals
    rename_i same
    obtain ⟨first, -⟩ := List.cons.inj same
    obtain rfl := Option.some.inj first
    contradiction

theorem read_document_number (fuel : Nat) {value : Int} (low : -(Int.pow 2 63) ≤ value)
    (high : value < Int.pow 2 64) {rest : List Cell} (closes : Closes rest) :
    readDocument (fuel + 1) ((Number.int value).text.toList.map some ++ rest) =
      (.number (.int value), some rest) := by
  rw [number_text]
  split
  · rename_i natural
    have fits : value.toNat ≤ largestSignificand := by
      have bound : Int.pow 2 64 = (largestSignificand : Int) + 1 := by decide
      omega
    have same : ((value.toNat : Nat) : Int) = value := Int.toNat_of_nonneg natural
    obtain ⟨c, tail, front, digit⟩ := digits_start value.toNat rest
    rw [front, read_document_digit fuel digit, ← front, of_numeral_natural fits closes, same]
  · rename_i negative
    have positive : 0 < (-value).toNat := by omega
    have fits : (-value).toNat ≤ Nat.pow 2 63 := by
      have bound : Int.pow 2 63 = (Nat.pow 2 63 : Nat) := by decide
      omega
    have same : -(((-value).toNat : Nat) : Int) = value := by omega
    rw [List.map_cons, List.cons_append, read_document_minus,
      of_numeral_negative positive fits closes, same]

/-- A value and what follows it, read with fuel for every character. -/
def DocumentRead (fuel : Nat) : Prop :=
  ∀ (value : Value) (rest : List Cell), value.Integral → 3 * value.write.length ≤ fuel →
    Closes rest → readDocument fuel (value.write.map some ++ rest) = (value.outline, some rest)

def ItemsRead (fuel : Nat) : Prop :=
  ∀ (item : Value) (items : List Value) (rest : List Cell), IntegralItems (item :: items) →
    3 * (writeItems (item :: items)).length + 1 ≤ fuel →
      readItem fuel ((writeItems (item :: items)).map some ++ some ']' :: rest) =
        (itemOutlines (item :: items), .closed, some rest)

def MembersRead (fuel : Nat) : Prop :=
  ∀ (key : String) (item : Value) (members : List (String × Value)) (unkeyed : Break → Ending)
    (rest : List Cell), IntegralMembers ((key, item) :: members) →
    3 * (writeMembers ((key, item) :: members)).length + 1 ≤ fuel →
      readMember fuel unkeyed
          ((writeMembers ((key, item) :: members)).map some ++ some '\x7d' :: rest) =
        (memberOutlines ((key, item) :: members), .closed, some rest)

theorem document_read_step {fuel : Nat} (items : ItemsRead fuel) (members : MembersRead fuel) :
    DocumentRead (fuel + 2) := by
  intro value rest integral enough closes
  cases value with
  | null => rfl
  | bool value => cases value <;> rfl
  | number value =>
      cases value with
      | real negative size => exact integral.elim
      | int value => exact read_document_number (fuel + 1) integral.1 integral.2 closes
  | text value => exact read_document_text (fuel + 1) value rest
  | array values =>
      cases values with
      | nil => rfl
      | cons item values =>
          rw [Value.write, List.length_cons, List.length_append, List.length_singleton] at enough
          have read := items item values rest integral (by omega)
          rw [← read_items_start fuel (write_items_starts integral.1 values _)] at read
          rw [write_array, read_document_array, read]
          rfl
  | object entries =>
      cases entries with
      | nil => rfl
      | cons entry entries =>
          obtain ⟨key, item⟩ := entry
          rw [Value.write, List.length_cons, List.length_append, List.length_singleton] at enough
          have read := members key item entries .broken rest integral (by omega)
          obtain ⟨tail, front⟩ := write_members_front key item entries (some '\x7d' :: rest)
          rw [front, ← read_members_start, ← front] at read
          rw [write_object, read_document_object, read]
          rfl

theorem items_read_step {fuel : Nat} (document : DocumentRead (fuel + 1)) (later : ItemsRead fuel) :
    ItemsRead (fuel + 2) := by
  intro item items rest integral enough
  have filled := write_length_pos integral.1
  cases items with
  | nil =>
      have closes := closes_cons (c := ']') (by simp) rest
      rw [writeItems] at enough ⊢
      rw [read_item_of_document (document item _ integral.1 (by omega) closes)]
      rfl
  | cons next items =>
      have enough : 3 * (item.write ++ ',' :: writeItems (next :: items)).length + 1 ≤ fuel + 2 :=
        enough
      rw [List.length_append, List.length_cons] at enough
      have closes := closes_cons (c := ',') (by simp)
        ((writeItems (next :: items)).map some ++ some ']' :: rest)
      have first := document item _ integral.1 (by omega) closes
      rw [write_items_next, read_item_of_document first,
        read_items_next fuel (write_items_starts integral.2.1 _ _),
        later next items rest integral.2 (by omega)]
      rfl

theorem members_read_step {fuel : Nat} (document : DocumentRead (fuel + 1))
    (later : MembersRead fuel) : MembersRead (fuel + 2) := by
  intro key item members unkeyed rest integral enough
  have filled := write_length_pos integral.1
  cases members with
  | nil =>
      rw [writeMembers, List.length_append, List.length_cons] at enough
      have closes := closes_cons (c := '\x7d') (by simp) rest
      have first := document item _ integral.1 (by omega) closes
      rw [write_members_single, read_member_of_document unkeyed key first]
      rfl
  | cons next members =>
      obtain ⟨other, next⟩ := next
      have enough : 3 * (writeText key ++ ':' :: (item.write ++
          ',' :: writeMembers ((other, next) :: members))).length + 1 ≤ fuel + 2 := enough
      rw [List.length_append, List.length_cons, List.length_append, List.length_cons] at enough
      have closes := closes_cons (c := ',') (by simp)
        ((writeMembers ((other, next) :: members)).map some ++ some '\x7d' :: rest)
      have first := document item _ integral.1 (by omega) closes
      have others := later other next members .dangling rest integral.2 (by omega)
      obtain ⟨tail, front⟩ := write_members_front other next members (some '\x7d' :: rest)
      rw [front, ← read_members_next, ← front] at others
      rw [write_members_next, read_member_of_document unkeyed key first, others]
      rfl

theorem read_without_fuel {fuel : Nat} (short : fuel ≤ 1) :
    DocumentRead fuel ∧ ItemsRead fuel ∧ MembersRead fuel := by
  constructor
  · intro value rest integral enough _
    have filled := write_length_pos integral
    omega
  constructor
  · intro item items rest integral enough
    obtain ⟨c, tail, front, -⟩ := write_items_starts integral.1 items []
    have filled := congrArg List.length front
    rw [List.append_nil, List.length_map, List.length_cons] at filled
    omega
  · intro key item members unkeyed rest integral enough
    obtain ⟨tail, front⟩ := write_members_front key item members []
    have filled := congrArg List.length front
    rw [List.append_nil, List.length_map, List.length_cons] at filled
    omega

/-- The three readers call one another with one or two units of fuel less. -/
theorem written_is_read (fuel : Nat) :
    DocumentRead fuel ∧ ItemsRead fuel ∧ MembersRead fuel := by
  induction fuel using Nat.twoStepInduction with
  | zero => exact read_without_fuel (by decide)
  | one => exact read_without_fuel (by decide)
  | more fuel before last =>
      obtain ⟨_, items, members⟩ := before
      exact ⟨document_read_step items members, items_read_step last.1 items,
        members_read_step last.1 members⟩

/-- A value is read from its own text. -/
theorem read_to_text {value : Value} (integral : value.Integral) :
    read (Text.cells value.toText) = (value.outline, false) := by
  have read_all := (written_is_read (3 * value.write.length + 3)).1 value [] integral
    (Nat.le_add_right _ _) (fun _ none => by contradiction)
  rw [List.append_nil] at read_all
  unfold read Text.cells Value.toText
  rw [String.toList_ofList, List.length_map, read_all]
  rfl

theorem read_bytes (value : Value) (integral : value.Integral) :
    read (Text.Utf8.read (Text.Utf8.encode value.toText)) = (value.outline, false) := by
  rw [Text.Utf8.encode, Text.Utf8.read_encode_chars]
  exact read_to_text integral

end CertSteward.Json
