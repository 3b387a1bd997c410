import CertSteward.Text.Utf8
import Mathlib.Data.List.Basic

/-!
# What is encoded is read back

The machine that reads UTF-8, set on the bytes of a character, yields that
character and stands where it stood before, so the bytes of a text are read as
that text and without a gap.
-/

namespace CertSteward.Text.Utf8

set_option autoImplicit false

theorem to_nat_of_nat {n : Nat} (byte : n < 256) : (UInt8.ofNat n).toNat = n := by
  rw [UInt8.toNat_ofNat']
  exact Nat.mod_eq_of_lt byte

theorem opening_ascii {n : Nat} (ascii : n < 0x80) :
    opening (UInt8.ofNat n) = ([some (Char.ofNat n)], none) := by
  rw [opening, to_nat_of_nat (by omega)]
  simp only [if_pos ascii]

theorem opening_two {n : Nat} (low : 0xC2 ≤ n) (high : n < 0xE0) :
    opening (UInt8.ofNat n) = ([], some ⟨n - 0xC0, 0, 0x80, 0xBF⟩) := by
  rw [opening, to_nat_of_nat (by omega)]
  rw [if_neg (by omega), if_neg (by omega), if_pos high]

theorem opening_three {n : Nat} (low : 0xE0 ≤ n) (high : n < 0xF0) :
    opening (UInt8.ofNat n) =
      ([], some ⟨n - 0xE0, 1, if n = 0xE0 then 0xA0 else 0x80,
        if n = 0xED then 0x9F else 0xBF⟩) := by
  rw [opening, to_nat_of_nat (by omega)]
  rw [if_neg (by omega), if_neg (by omega), if_neg (by omega)]
  by_cases first : n = 0xE0
  · simp [first]
  · by_cases surrogates : n = 0xED
    · simp [surrogates]
    · simp only [first, surrogates, if_false, if_pos high]

theorem opening_four {n : Nat} (low : 0xF0 ≤ n) (high : n ≤ 0xF4) :
    opening (UInt8.ofNat n) =
      ([], some ⟨n - 0xF0, 2, if n = 0xF0 then 0x90 else 0x80,
        if n = 0xF4 then 0x8F else 0xBF⟩) := by
  rw [opening, to_nat_of_nat (by omega)]
  rw [if_neg (by omega), if_neg (by omega), if_neg (by omega), if_neg (by omega),
    if_neg (by omega), if_neg (by omega)]
  by_cases first : n = 0xF0
  · simp [first]
  · by_cases last : n = 0xF4
    · simp [last]
    · have between : n < 0xF4 := by omega
      simp only [first, last, if_false, if_pos between]

theorem step_inside {pending : Pending} {n : Nat} (byte : n < 256)
    (low : pending.low.toNat ≤ n) (high : n ≤ pending.high.toNat) :
    step (some pending) (UInt8.ofNat n) =
      match pending.missing with
      | 0 => ([some (Char.ofNat (pending.gathered * 64 + (n - 0x80)))], none)
      | missing + 1 =>
          ([], some ⟨pending.gathered * 64 + (n - 0x80), missing, 0x80, 0xBF⟩) := by
  have allowed : pending.low ≤ UInt8.ofNat n ∧ UInt8.ofNat n ≤ pending.high := by
    rw [UInt8.le_iff_toNat_le, UInt8.le_iff_toNat_le, to_nat_of_nat byte]
    exact ⟨low, high⟩
  cases missing : pending.missing <;>
    simp only [step, if_pos allowed, to_nat_of_nat byte, missing]

theorem continuation_ge (n : Nat) : (0x80 : UInt8).toNat ≤ n % 64 + 0x80 :=
  Nat.le_add_left 0x80 _

theorem continuation_le (n : Nat) : n % 64 + 0x80 ≤ (0xBF : UInt8).toNat := by
  have bits := Nat.mod_lt n (show 64 > 0 by decide)
  change _ ≤ 0xBF
  omega

theorem read_from_cons (pending : Option Pending) (byte : UInt8) (rest : List UInt8) :
    readFrom pending (byte :: rest) =
      (step pending byte).1 ++ readFrom (step pending byte).2 rest := rfl

/-- One continuation byte of several. -/
theorem read_inside {gathered missing n : Nat} {low high : UInt8} (rest : List UInt8)
    (byte : n < 256) (above : low.toNat ≤ n) (below : n ≤ high.toNat) :
    readFrom (some ⟨gathered, missing + 1, low, high⟩) (UInt8.ofNat n :: rest) =
      readFrom (some ⟨gathered * 64 + (n - 0x80), missing, 0x80, 0xBF⟩) rest := by
  rw [read_from_cons, step_inside byte above below]
  rfl

/-- The last continuation byte. -/
theorem read_last {gathered n : Nat} {low high : UInt8} (rest : List UInt8)
    (byte : n < 256) (above : low.toNat ≤ n) (below : n ≤ high.toNat) :
    readFrom (some ⟨gathered, 0, low, high⟩) (UInt8.ofNat n :: rest) =
      some (Char.ofNat (gathered * 64 + (n - 0x80))) :: readFrom none rest := by
  rw [read_from_cons, step_inside byte above below]
  rfl

theorem read_opening {n : Nat} {pending : Pending} (rest : List UInt8)
    (opens : opening (UInt8.ofNat n) = ([], some pending)) :
    readFrom none (UInt8.ofNat n :: rest) = readFrom (some pending) rest := by
  rw [read_from_cons, step, opens]
  rfl

theorem read_one {v : Nat} (rest : List UInt8) (small : v ≤ 0x7F) :
    readFrom none (UInt8.ofNat v :: rest) = some (Char.ofNat v) :: readFrom none rest := by
  rw [read_from_cons, step, opening_ascii (Nat.lt_succ_of_le small)]
  rfl

theorem read_two {v : Nat} (rest : List UInt8) (low : 0x7F < v) (high : v ≤ 0x7FF) :
    readFrom none (UInt8.ofNat (v / 64 % 32 + 0xC0) :: UInt8.ofNat (v % 64 + 0x80) :: rest) =
      some (Char.ofNat v) :: readFrom none rest := by
  have gathered : (v / 64 % 32 + 0xC0 - 0xC0) * 64 + (v % 64 + 0x80 - 0x80) = v := by omega
  rw [read_opening _ (opening_two (by omega) (by omega)),
    read_last _ (by omega) (continuation_ge _) (continuation_le _), gathered]

/-- The bounds of the second byte leave out overlong forms and surrogates. -/
theorem read_three {v : Nat} (rest : List UInt8) (low : 0x7FF < v) (high : v ≤ 0xFFFF)
    (scalar : v < 0xD800 ∨ 0xDFFF < v) :
    readFrom none (UInt8.ofNat (v / 4096 % 16 + 0xE0) :: UInt8.ofNat (v / 64 % 64 + 0x80) ::
        UInt8.ofNat (v % 64 + 0x80) :: rest) =
      some (Char.ofNat v) :: readFrom none rest := by
  have gathered : ((v / 4096 % 16 + 0xE0 - 0xE0) * 64 + (v / 64 % 64 + 0x80 - 0x80)) * 64 +
      (v % 64 + 0x80 - 0x80) = v := by omega
  have above : (if v / 4096 % 16 + 0xE0 = 0xE0 then 0xA0 else 0x80 : UInt8).toNat ≤
      v / 64 % 64 + 0x80 := by
    split
    · change 0xA0 ≤ _
      omega
    · exact Nat.le_add_left _ _
  have below : v / 64 % 64 + 0x80 ≤
      (if v / 4096 % 16 + 0xE0 = 0xED then 0x9F else 0xBF : UInt8).toNat := by
    split
    · change _ ≤ 0x9F
      omega
    · change _ ≤ 0xBF
      omega
  rw [read_opening _ (opening_three (by omega) (by omega)),
    read_inside _ (by omega) above below,
    read_last _ (by omega) (continuation_ge _) (continuation_le _), gathered]

theorem read_four {v : Nat} (rest : List UInt8) (low : 0xFFFF < v) (high : v < 0x110000) :
    readFrom none (UInt8.ofNat (v / 262144 % 8 + 0xF0) :: UInt8.ofNat (v / 4096 % 64 + 0x80) ::
        UInt8.ofNat (v / 64 % 64 + 0x80) :: UInt8.ofNat (v % 64 + 0x80) :: rest) =
      some (Char.ofNat v) :: readFrom none rest := by
  have gathered : (((v / 262144 % 8 + 0xF0 - 0xF0) * 64 + (v / 4096 % 64 + 0x80 - 0x80)) * 64 +
      (v / 64 % 64 + 0x80 - 0x80)) * 64 + (v % 64 + 0x80 - 0x80) = v := by omega
  have above : (if v / 262144 % 8 + 0xF0 = 0xF0 then 0x90 else 0x80 : UInt8).toNat ≤
      v / 4096 % 64 + 0x80 := by
    split
    · change 0x90 ≤ _
      omega
    · exact Nat.le_add_left _ _
  have below : v / 4096 % 64 + 0x80 ≤
      (if v / 262144 % 8 + 0xF0 = 0xF4 then 0x8F else 0xBF : UInt8).toNat := by
    split
    · change _ ≤ 0x8F
      omega
    · change _ ≤ 0xBF
      omega
  rw [read_opening _ (opening_four (by omega) (by omega)),
    read_inside _ (by omega) above below,
    read_inside _ (by omega) (continuation_ge _) (continuation_le _),
    read_last _ (by omega) (continuation_ge _) (continuation_le _), gathered]

/-- A character's bytes yield the character and leave the machine where it was. -/
theorem read_encode_char (c : Char) (rest : List UInt8) :
    readFrom none (String.utf8EncodeChar c ++ rest) = some c :: readFrom none rest := by
  have scalar : c.val.toNat < 0xD800 ∨ 0xDFFF < c.val.toNat ∧ c.val.toNat < 0x110000 := c.valid
  have back : Char.ofNat c.val.toNat = c := Char.ofNat_toNat c
  fun_cases String.utf8EncodeChar c with
  | case1 v one => rw [List.singleton_append, read_one rest one, back]
  | case2 v one two =>
      rw [List.cons_append, List.singleton_append, read_two rest (by omega) two, back]
  | case3 v one two three =>
      rw [List.cons_append, List.cons_append, List.singleton_append,
        read_three rest (by omega) three (by omega), back]
  | case4 v one two three =>
      rw [List.cons_append, List.cons_append, List.cons_append, List.singleton_append,
        read_four rest (by omega) (by omega), back]

theorem read_encode_chars (text : List Char) :
    read (text.flatMap String.utf8EncodeChar) = text.map some := by
  induction text with
  | nil => rfl
  | cons c text ih =>
      rw [List.flatMap_cons, read, read_encode_char, List.map_cons, ← ih]
      rfl

theorem mapM_id_some (text : List Char) : (text.map some).mapM id = some text := by
  induction text with
  | nil => rfl
  | cons c text ih => rw [List.map_cons, List.mapM_cons, ih]; rfl

theorem decode_encode_chars (text : List Char) :
    decode? (text.flatMap String.utf8EncodeChar) = some (String.ofList text) := by
  rw [decode?, read_encode_chars, mapM_id_some]
  rfl

/-- Decoding undoes encoding, whatever the text. -/
theorem decode_encode (text : String) : decode? (encode text) = some text := by
  rw [encode, decode_encode_chars, String.ofList_toList]

/-- A byte is never lost: it yields a cell or opens a sequence. -/
theorem step_leaves (pending : Option Pending) (byte : UInt8) :
    (step pending byte).1 ≠ [] ∨ (step pending byte).2.isSome := by
  have opens : (opening byte).1 ≠ [] ∨ (opening byte).2.isSome := by
    unfold opening
    grind
  cases pending with
  | none => exact opens
  | some pending =>
      unfold step
      dsimp only
      split
      · split <;> simp
      · simp

theorem read_from_ne_nil (pending : Option Pending) (bytes : List UInt8)
    (something : pending.isSome ∨ bytes ≠ []) : readFrom pending bytes ≠ [] := by
  induction bytes generalizing pending with
  | nil =>
      have opened : pending.isSome := something.resolve_right (absurd rfl)
      simp [readFrom, opened]
  | cons byte rest ih =>
      rw [readFrom]
      obtain cells | opened := step_leaves pending byte
      · exact List.append_ne_nil_of_left_ne_nil cells _
      · exact List.append_ne_nil_of_right_ne_nil _ (ih _ (.inl opened))

/-- Bytes that are there leave something to show, however ill-formed they are. -/
theorem decode_lossy_ne_empty {bytes : List UInt8} (filled : bytes ≠ []) :
    decodeLossy bytes ≠ "" := by
  intro blank
  have nothing := congrArg String.toList blank
  rw [decodeLossy, String.toList_ofList] at nothing
  exact read_from_ne_nil none bytes (.inr filled) (List.map_eq_nil_iff.mp nothing)

end CertSteward.Text.Utf8
