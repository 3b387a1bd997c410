import CertSteward.Proofs.Text.Utf8

/-!
# The order of texts is that of their bytes

A character with a smaller number is written in bytes that come first, and the
bytes of no character are the beginning of those of another, so texts are in the
order of their characters exactly when they are in the order of their bytes.
-/

namespace CertSteward.Text.Utf8

set_option autoImplicit false

/-- Bytes that are told apart by the first one, or behind it. -/
theorem bytes_lt {p q : Nat} {left right : List UInt8} (first : p ≤ q) (byte : q < 256)
    (behind : p = q → left < right) : UInt8.ofNat p :: left < UInt8.ofNat q :: right := by
  rw [List.cons_lt_cons_iff]
  obtain below | rfl := Nat.lt_or_eq_of_le first
  · left
    rw [UInt8.lt_iff_toNat_lt, to_nat_of_nat byte, to_nat_of_nat (by omega)]
    exact below
  · exact .inr ⟨rfl, behind rfl⟩

/-- Each byte of the written form says more about the number than the bytes behind it, and the
first one says how many there are. -/
theorem encode_char_lt {c d : Char} (below : c < d) (left right : List UInt8) :
    String.utf8EncodeChar c ++ left < String.utf8EncodeChar d ++ right := by
  have less : c.val.toNat < d.val.toNat := below
  have last : d.val.toNat < 0x110000 := by
    have scalar : d.val.toNat < 0xD800 ∨ 0xDFFF < d.val.toNat ∧ d.val.toNat < 0x110000 := d.valid
    omega
  have apart {p q : Nat} {front back : List UInt8} (smaller : p < q) : p = q → front < back :=
    fun same => absurd same (Nat.ne_of_lt smaller)
  fun_cases String.utf8EncodeChar c with
  | case1 v one =>
      fun_cases String.utf8EncodeChar d with
      | case1 w => exact bytes_lt (by omega) (by omega) (apart less)
      | case2 w => exact bytes_lt (by omega) (by omega) (apart (by omega))
      | case3 w => exact bytes_lt (by omega) (by omega) (apart (by omega))
      | case4 w => exact bytes_lt (by omega) (by omega) (apart (by omega))
  | case2 v above two =>
      fun_cases String.utf8EncodeChar d with
      | case1 w => omega
      | case2 w =>
          exact bytes_lt (by omega) (by omega) fun first =>
            bytes_lt (by omega) (by omega) (apart (by omega))
      | case3 w => exact bytes_lt (by omega) (by omega) (apart (by omega))
      | case4 w => exact bytes_lt (by omega) (by omega) (apart (by omega))
  | case3 v one two three =>
      fun_cases String.utf8EncodeChar d with
      | case1 w => omega
      | case2 w => omega
      | case3 w =>
          exact bytes_lt (by omega) (by omega) fun first =>
            bytes_lt (by omega) (by omega) fun second =>
              bytes_lt (by omega) (by omega) (apart (by omega))
      | case4 w => exact bytes_lt (by omega) (by omega) (apart (by omega))
  | case4 v one two three =>
      fun_cases String.utf8EncodeChar d with
      | case1 w => omega
      | case2 w => omega
      | case3 w => omega
      | case4 w =>
          exact bytes_lt (by omega) (by omega) fun first =>
            bytes_lt (by omega) (by omega) fun second =>
              bytes_lt (by omega) (by omega) fun third =>
                bytes_lt (by omega) (by omega) (apart (by omega))

theorem encode_chars_lt {left right : List Char} (below : left < right) :
    left.flatMap String.utf8EncodeChar < right.flatMap String.utf8EncodeChar := by
  induction below with
  | @nil c rest =>
      have filled := String.utf8EncodeChar_ne_nil (c := c)
      rw [List.flatMap_nil, List.flatMap_cons]
      cases bytes : String.utf8EncodeChar c with
      | nil => exact absurd bytes filled
      | cons byte bytes => exact List.nil_lt_cons byte _
  | rel first =>
      rw [List.flatMap_cons, List.flatMap_cons]
      exact encode_char_lt first _ _
  | cons _ ih =>
      rw [List.flatMap_cons, List.flatMap_cons]
      exact List.append_left_lt ih

/-- Texts are ordered as their bytes are. -/
theorem encode_lt {left right : String} (below : left < right) : encode left < encode right :=
  encode_chars_lt (String.lt_iff.mp below)

end CertSteward.Text.Utf8
