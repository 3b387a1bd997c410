import CertSteward.Proofs.Decimal.Digits
import CertSteward.Proofs.Outcome
import CertSteward.Proofs.Url.Hosts

/-!
# Authorities that have been read

An authority that has been read is read from its text as itself: nothing in the
name and the password of its user has to be encoded again, its host is read as
itself, and its port is not the usual one of the scheme.
-/

namespace CertSteward

set_option autoImplicit false

namespace Url

open Percent (Stands)
open Host (Within Behind)

variable {scheme : String} {text user rest : List Char}

theorem userinfo_apart {c : Char} (stands : Percent.inUserinfo c = false) :
    Within c ∧ c ≠ ':' := by
  simp only [Percent.inUserinfo, Percent.inPath, Percent.inFragment, Bool.or_eq_false_iff,
    beq_eq_false_iff_ne] at stands
  have shown := Percent.shown_of_plain (c := c) (by grind) (by grind)
  simp only [Within, endsAuthority, isSlash, Bool.or_eq_false_iff, Bool.true_and,
    beq_eq_false_iff_ne]
  grind

theorem stands_user (text : List Char) : Stands Percent.inUserinfo (encodeUser text).toList := by
  rw [encodeUser, String.toList_ofList]
  exact Percent.stands_encode rfl (by decide) text

theorem encode_user_of_stands {text : String} (stands : Stands Percent.inUserinfo text.toList) :
    encodeUser text.toList = text := by
  rw [encodeUser, Percent.encode_of_stands stands, String.ofList_toList]

theorem encode_user_ne_empty {text : List Char} (filled : text ≠ []) : encodeUser text ≠ "" := by
  rw [encodeUser, ne_eq, String.ofList_eq_empty_iff]
  exact Percent.encode_ne_nil filled

theorem split_user_at (unmarked : '@' ∉ rest) :
    splitUser (user ++ '@' :: rest) = (some user, rest) := by
  have after : ((user ++ '@' :: rest).reverse.takeWhile (· != '@')).reverse = rest := by
    have inside : ∀ c ∈ rest.reverse, (c != '@') = true := by
      intro c member
      rw [bne_iff_ne]
      rintro rfl
      exact unmarked (List.mem_reverse.mp member)
    rw [List.reverse_append, List.reverse_cons, List.append_assoc,
      List.takeWhile_append_of_pos inside]
    simp
  have length : (user ++ '@' :: rest).length - rest.length - 1 = user.length := by
    simp only [List.length_append, List.length_cons]
    omega
  have shorter : rest.length < (user ++ '@' :: rest).length := by
    simp only [List.length_append, List.length_cons]
    omega
  rw [splitUser, after, if_pos shorter, length, List.take_left]

theorem split_user_none (unmarked : '@' ∉ text) : splitUser text = (none, text) := by
  have after : (text.reverse.takeWhile (· != '@')).reverse = text := by
    rw [List.takeWhile_eq_self_iff.mpr, List.reverse_reverse]
    intro c member
    rw [bne_iff_ne]
    rintro rfl
    exact unmarked (List.mem_reverse.mp member)
  simp [splitUser, after]

/-- What is read of a user. -/
theorem read_user_cases (text : List Char) :
    Stands Percent.inUserinfo (readUser text).1.toList ∧
      ∀ word ∈ (readUser text).2, word ≠ "" ∧ Stands Percent.inUserinfo word.toList := by
  unfold readUser
  dsimp only
  split
  · exact ⟨stands_user _, nofun⟩
  · rename_i filled
    refine ⟨stands_user _, fun password read => ?_⟩
    rw [← Option.some.inj read]
    exact ⟨encode_user_ne_empty fun none_ => filled none_, stands_user _⟩

def userText (username : String) : Option String → List Char
  | some password => username.toList ++ ':' :: password.toList
  | none => username.toList

theorem read_user {username : String} {password : Option String}
    (stands : Stands Percent.inUserinfo username.toList)
    (also : ∀ word ∈ password, word ≠ "" ∧ Stands Percent.inUserinfo word.toList) :
    readUser (userText username password) = (username, password) := by
  have inside : ∀ c ∈ username.toList, (c != ':') = true := fun c member =>
    bne_iff_ne.mpr (userinfo_apart (stands c member).2).2
  cases password with
  | none =>
      have name : username.toList.takeWhile (· != ':') = username.toList :=
        List.takeWhile_eq_self_iff.mpr inside
      have none_left : username.toList.drop (username.toList.length + 1) = [] :=
        List.drop_eq_nil_of_le (Nat.le_succ _)
      rw [readUser, userText, name, none_left, encode_user_of_stands stands]
  | some password =>
      obtain ⟨filled, stands_too⟩ := also password rfl
      have name : (username.toList ++ ':' :: password.toList).takeWhile (· != ':') =
          username.toList := by
        rw [List.takeWhile_append_of_pos inside]
        simp
      have word : (username.toList ++ ':' :: password.toList).drop (username.toList.length + 1) =
          password.toList := by
        simp
      rw [readUser, userText, name, word, encode_user_of_stands stands]
      split
      · exact absurd (String.toList_eq_nil_iff.mp ‹_›) filled
      · rw [encode_user_of_stands stands_too]

theorem read_port_some {port : Nat} (read : readPort scheme text = .ok (some port)) :
    port ≤ 65535 ∧ defaultPort? scheme ≠ some port := by
  unfold readPort at read
  split at read
  · dsimp only at read
    split at read
    · contradiction
    split at read
    · cases read
    · rename_i few usual
      rw [← Option.some.inj (Except.ok.inj read)]
      exact ⟨Nat.le_of_not_lt few, fun same => usual (.inr same)⟩
  · contradiction

theorem read_port {port : Nat} (most : port ≤ 65535) (unusual : defaultPort? scheme ≠ some port) :
    readPort scheme (toString port).toList = .ok (some port) := by
  have digits : (toString port).toList = Nat.toDigits 10 port := by
    rw [Nat.toString_eq_ofList_toDigits, String.toList_ofList]
  have decimal : (Nat.toDigits 10 port).all Char.isDigit = true :=
    List.all_eq_true.mpr fun c member => Decimal.isDigit_of_mem member
  have value : (Nat.toDigits 10 port).foldl (fun total c => total * 10 + (c.toNat - 0x30)) 0 =
      port := by
    have value := Decimal.digits_value port
    rwa [List.foldl_map] at value
  rw [digits, readPort, if_pos decimal, value]
  simp [Nat.not_lt.mpr most, Nat.toDigits_ne_nil, unusual]

structure Settled (scheme : String) (authority : Authority) : Prop where
  username : Stands Percent.inUserinfo authority.username.toList
  password : ∀ word ∈ authority.password, word ≠ "" ∧ Stands Percent.inUserinfo word.toList
  host : Host.Settled authority.host.toList
  port : ∀ port ∈ authority.port, port ≤ 65535 ∧ defaultPort? scheme ≠ some port

def portText : Option Nat → List Char
  | some port => ':' :: (toString port).toList
  | none => []

variable {authority : Authority} {followed : Bool}

theorem authority_settled_of_read (special : isSpecialScheme scheme = true)
    (read : readAuthority scheme text followed = .ok authority) : Settled scheme authority := by
  obtain ⟨stands, words⟩ := read_user_cases ((splitUser text).1.getD [])
  simp only [readAuthority, special, if_true] at read
  obtain ⟨-, read⟩ := ok_of_guard read
  obtain ⟨-, read⟩ := ok_of_guard read
  obtain ⟨host, host_read, read⟩ := ok_of_bind read
  obtain ⟨-, read⟩ := ok_of_guard read
  obtain ⟨port, port_read, read⟩ := ok_of_bind read
  rw [← Except.ok.inj read]
  refine ⟨stands, words, Host.settled_of_read host_read, fun some_port same => ?_⟩
  obtain rfl : port = some some_port := same
  exact read_port_some port_read

theorem authority_text_eq (authority : Authority) :
    authority.text.toList =
      (if userText authority.username authority.password = [] then []
        else userText authority.username authority.password ++ ['@']) ++
      (authority.host.toList ++ portText authority.port) := by
  obtain ⟨username, password, host, port⟩ := authority
  cases password <;> cases port <;> by_cases absent : username = "" <;>
    simp [Authority.text, userText, portText, absent]

theorem behind_port (port : Option Nat) : Behind (portText port) := by
  cases port with
  | none => exact .inl rfl
  | some port => exact .inr ⟨_, rfl⟩

theorem port_within {port : Option Nat} {c : Char} (member : c ∈ portText port) : Within c := by
  cases port with
  | none => contradiction
  | some port =>
      obtain rfl | inside := List.mem_cons.mp member
      · decide
      · rw [Nat.toString_eq_ofList_toDigits, String.toList_ofList] at inside
        obtain ⟨digit, small, rfl⟩ := Host.digit_of_mem (by decide) inside
        exact (by decide : ∀ n < 10, Within n.digitChar) digit small

theorem split_user_text (settled : Settled scheme authority) :
    ∃ user, splitUser authority.text.toList =
        (user, authority.host.toList ++ portText authority.port) ∧
      readUser (user.getD []) = (authority.username, authority.password) := by
  have unmarked : '@' ∉ authority.host.toList ++ portText authority.port := by
    intro member
    obtain inside | inside := List.mem_append.mp member
    · exact (settled.host.within '@' inside).2.2 rfl
    · exact (port_within inside).2.2 rfl
  have user := read_user settled.username settled.password
  rw [authority_text_eq]
  by_cases absent : userText authority.username authority.password = []
  · rw [absent] at user
    rw [if_pos absent, List.nil_append]
    exact ⟨none, split_user_none unmarked, user⟩
  · rw [if_neg absent, List.append_assoc, List.singleton_append]
    exact ⟨_, split_user_at unmarked, user⟩

theorem read_authority (special : isSpecialScheme scheme = true)
    (settled : Settled scheme authority) (followed : Bool) :
    readAuthority scheme authority.text.toList followed =
      if Host.isReadable authority.host.toList then .ok authority
      else .error .invalidInternationalName := by
  obtain ⟨user, split, read⟩ := split_user_text settled
  have host := settled.host.apart (behind_port authority.port)
  have again := settled.host.again
  rw [String.ofList_toList] at again
  have filled : authority.host.toList.isEmpty = false :=
    List.isEmpty_eq_false_iff.mpr settled.host.filled
  have shown : authority.host.isEmpty = false := by
    rw [← Bool.not_eq_true, String.isEmpty_iff, ← String.toList_eq_nil_iff]
    exact settled.host.filled
  have some_rest : authority.host.toList ++ portText authority.port ≠ [] :=
    List.append_ne_nil_of_left_ne_nil settled.host.filled _
  have port : readPort scheme ((portText authority.port).drop 1) = .ok authority.port := by
    have usual := settled.port
    cases given : authority.port with
    | none => simp [portText, readPort]
    | some port =>
        obtain ⟨most, unusual⟩ := usual port given
        exact read_port most unusual
  simp only [readAuthority, split, read, host, special, again, filled, some_rest, false_and,
    and_false, if_false, if_true, Bool.false_eq_true]
  cases Host.isReadable authority.host.toList with
  | true =>
      simp only [shown, port, bind, Except.bind, false_and, if_false, if_true, Bool.false_eq_true]
      rfl
  | false => rfl

theorem authority_within (settled : Settled scheme authority) :
    ∀ c ∈ authority.text.toList, 0x20 < c.toNat ∧ endsAuthority true c = false := by
  have shown {c : Char} (within : Within c) : 0x20 < c.toNat ∧ endsAuthority true c = false :=
    ⟨within.1, within.2.1⟩
  have user {c : Char} (member : c ∈ userText authority.username authority.password) :
      Within c ∨ c = ':' := by
    cases given : authority.password with
    | none =>
        rw [given] at member
        exact .inl (userinfo_apart (settled.username c member).2).1
    | some password =>
        rw [given] at member
        obtain name | word := List.mem_append.mp member
        · exact .inl (userinfo_apart (settled.username c name).2).1
        · obtain same | word := List.mem_cons.mp word
          · exact .inr same
          · exact .inl (userinfo_apart ((settled.password password given).2 c word).2).1
  intro c member
  rw [authority_text_eq] at member
  obtain front | member := List.mem_append.mp member
  · split at front
    · exact absurd front List.not_mem_nil
    · obtain inside | mark := List.mem_append.mp front
      · obtain within | rfl := user inside
        · exact shown within
        · decide
      · rw [List.mem_singleton.mp mark]
        decide
  · obtain inside | port := List.mem_append.mp member
    · exact shown (settled.host.within c inside)
    · exact shown (port_within port)

theorem authority_text_ne_nil (settled : Settled scheme authority) :
    authority.text.toList ≠ [] := by
  rw [authority_text_eq]
  exact List.append_ne_nil_of_right_ne_nil _
    (List.append_ne_nil_of_left_ne_nil settled.host.filled _)

end Url

end CertSteward
