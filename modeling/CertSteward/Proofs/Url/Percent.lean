import CertSteward.Proofs.Text.Utf8
import CertSteward.Url.Percent

/-!
# Percent encoding loses nothing

Where the percent sign itself is encoded, a written text decodes to the text it
was made from, and the characters in it are those that need no encoding, percent
signs and digits. Where it is not encoded, an encoded text encodes to itself.
-/

namespace CertSteward.Percent

set_option autoImplicit false

variable {escaped : Char → Bool}

theorem value_of_digit {n : Nat} (nibble : n < 16) : value? (digit n) = some n :=
  (by decide : ∀ n < 16, value? (digit n) = some n) n nibble

theorem decode_encode_byte (byte : UInt8) (rest : List Char) :
    decodeBytes (encodeByte byte ++ rest) = byte :: decodeBytes rest := by
  have size := byte.toNat_lt
  have nibbles : byte.toNat / 16 * 16 + byte.toNat % 16 = byte.toNat := Nat.div_add_mod' _ _
  rw [encodeByte, List.cons_append, List.cons_append, List.cons_append, List.nil_append,
    decodeBytes, value_of_digit (by omega), value_of_digit (by omega)]
  dsimp only
  rw [nibbles, UInt8.ofNat_toNat]

theorem decode_encode_bytes (bytes : List UInt8) (rest : List Char) :
    decodeBytes (bytes.flatMap encodeByte ++ rest) = bytes ++ decodeBytes rest := by
  induction bytes with
  | nil => rfl
  | cons byte bytes ih =>
      rw [List.flatMap_cons, List.append_assoc, decode_encode_byte, ih, List.cons_append]

theorem decode_plain {c : Char} (plain : c ≠ '%') (rest : List Char) :
    decodeBytes (c :: rest) = String.utf8EncodeChar c ++ decodeBytes rest := by
  rw [decodeBytes]
  intro a b tail same
  exact absurd same plain

theorem decode_encode_char (percent : escaped '%' = true) (c : Char) (rest : List Char) :
    decodeBytes (encodeChar escaped c ++ rest) = String.utf8EncodeChar c ++ decodeBytes rest := by
  unfold encodeChar
  split
  next stands =>
    have plain : c ≠ '%' := by
      intro same
      rw [same, percent] at stands
      exact absurd stands.2 (by decide)
    rw [List.singleton_append, decode_plain plain]
  next => rw [decode_encode_bytes]

theorem decode_bytes_encode (percent : escaped '%' = true) (text : List Char) :
    decodeBytes (encode escaped text) = text.flatMap String.utf8EncodeChar := by
  induction text with
  | nil => rfl
  | cons c text ih =>
      rw [encode, List.flatMap_cons, decode_encode_char percent, ← encode, ih, List.flatMap_cons]

/-- Decoding undoes encoding, whatever else is encoded besides the percent sign. -/
theorem decode_encode (percent : escaped '%' = true) (text : List Char) :
    decode? (encode escaped text) = some (String.ofList text) := by
  rw [decode?, decode_bytes_encode percent, Text.Utf8.decode_encode_chars]

theorem encode_injective (percent : escaped '%' = true) {a b : List Char}
    (same : encode escaped a = encode escaped b) : a = b := by
  have decoded := decode_encode percent a
  rw [same, decode_encode percent b] at decoded
  exact (String.ofList_injective (Option.some.inj decoded)).symm

def IsApart (mark : Char) : Prop :=
  mark ≠ '%' ∧ ∀ n < 16, digit n ≠ mark

instance (mark : Char) : Decidable (IsApart mark) :=
  inferInstanceAs (Decidable (mark ≠ '%' ∧ ∀ n < 16, digit n ≠ mark))

theorem mark_not_mem_encode_byte {mark : Char} (apart : IsApart mark) (byte : UInt8) :
    mark ∉ encodeByte byte := by
  have size := byte.toNat_lt
  have high := apart.2 (byte.toNat / 16) (by omega)
  have low := apart.2 (byte.toNat % 16) (by omega)
  simp [encodeByte, apart.1, high.symm, low.symm]

/-- A character that is to be encoded does not stand in what is written. -/
theorem mark_not_mem_encode_char {mark : Char} (apart : IsApart mark)
    (marked : escaped mark = true) (c : Char) : mark ∉ encodeChar escaped c := by
  intro written
  unfold encodeChar at written
  split at written
  next stands =>
    rw [← List.mem_singleton.mp written, marked] at stands
    exact absurd stands.2 (by decide)
  next =>
    obtain ⟨byte, -, written⟩ := List.mem_flatMap.mp written
    exact mark_not_mem_encode_byte apart byte written

theorem slash_not_mem_encode (slash : escaped '/' = true) (text : List Char) :
    '/' ∉ encode escaped text := by
  intro member
  obtain ⟨c, -, written⟩ := List.mem_flatMap.mp member
  exact mark_not_mem_encode_char (by decide) slash c written

def Stands (escaped : Char → Bool) (text : List Char) : Prop :=
  ∀ c ∈ text, c.toNat < 0x80 ∧ escaped c = false

theorem encode_of_stands {text : List Char} (stands : Stands escaped text) :
    encode escaped text = text := by
  induction text with
  | nil => rfl
  | cons c text ih =>
      rw [encode, List.flatMap_cons, encodeChar, if_pos (stands c List.mem_cons_self), ← encode,
        ih fun other member => stands other (List.mem_cons_of_mem c member), List.singleton_append]

/-- What is written is a character that stands for itself, or a part of an escape. -/
theorem mem_encode {text : List Char} {c : Char} (written : c ∈ encode escaped text) :
    c ∈ text ∧ c.toNat < 0x80 ∧ escaped c = false ∨ c = '%' ∨ ∃ n < 16, c = digit n := by
  obtain ⟨source, member, written⟩ := List.mem_flatMap.mp written
  unfold encodeChar at written
  split at written
  next stands =>
    rw [List.mem_singleton.mp written]
    exact .inl ⟨member, stands⟩
  next =>
    obtain ⟨byte, -, written⟩ := List.mem_flatMap.mp written
    have size := byte.toNat_lt
    simp only [encodeByte, List.mem_cons, List.not_mem_nil, or_false] at written
    obtain rfl | rfl | rfl := written
    · exact .inr (.inl rfl)
    · exact .inr (.inr ⟨_, by omega, rfl⟩)
    · exact .inr (.inr ⟨_, by omega, rfl⟩)

/-- Where no part of an escape is encoded itself, nothing of an encoded text is. -/
theorem stands_encode (percent : escaped '%' = false)
    (digits : ∀ n < 16, escaped (digit n) = false) (text : List Char) :
    Stands escaped (encode escaped text) := by
  have ascii : ∀ n < 16, (digit n).toNat < 0x80 := by decide
  intro c written
  obtain ⟨-, stands⟩ | rfl | ⟨n, small, rfl⟩ := mem_encode written
  · exact stands
  · exact ⟨by decide, percent⟩
  · exact ⟨ascii n small, digits n small⟩

theorem encode_ne_nil {text : List Char} (filled : text ≠ []) : encode escaped text ≠ [] := by
  obtain ⟨c, rest, rfl⟩ := List.exists_cons_of_ne_nil filled
  have char : encodeChar escaped c ≠ [] := by
    unfold encodeChar
    split
    · exact List.cons_ne_nil c []
    · obtain ⟨byte, bytes, same⟩ := List.exists_cons_of_ne_nil (@String.utf8EncodeChar_ne_nil c)
      rw [same]
      exact List.cons_ne_nil _ _
  rw [encode, List.flatMap_cons]
  exact List.append_ne_nil_of_left_ne_nil char _

/-- A character that is neither a control nor a blank is shown. -/
theorem shown_of_plain {c : Char} (plain : isControl c = false) (blank : c ≠ ' ') :
    0x20 < c.toNat := by
  have number : c.toNat ≠ 0x20 := fun same => blank (Char.toNat_inj.mp same)
  rw [isControl, Bool.or_eq_false_iff, decide_eq_false_iff_not] at plain
  omega

/-- A text without percent signs stands for itself. -/
theorem decode_of_no_percent {text : List Char} (plain : '%' ∉ text) :
    decode? text = some (String.ofList text) := by
  have bytes : decodeBytes text = text.flatMap String.utf8EncodeChar := by
    induction text with
    | nil => rfl
    | cons c text ih =>
        obtain ⟨other, later⟩ := not_or.mp (mt List.mem_cons.mpr plain)
        rw [decode_plain (Ne.symm other), ih later, List.flatMap_cons]
  rw [decode?, bytes, Text.Utf8.decode_encode_chars]

end CertSteward.Percent
