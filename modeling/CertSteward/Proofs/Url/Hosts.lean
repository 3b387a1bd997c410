import CertSteward.Proofs.Url.Numeric
import CertSteward.Url.Reader

/-!
# Hosts that have been read

A host that has been read is read as itself: a name is in its one form, and an
address is read back from its text. Only a name with a label in Punycode that is
longer than those that are read is refused. A host stands in an authority without
ending it, and no colon outside its brackets is taken for that of a port.
-/

namespace CertSteward.Host

set_option autoImplicit false

open CertSteward.Domain (Accepted isForbidden splitOn)

variable {host result : List Char} {labels : List (List Char)}

def Within (c : Char) : Prop :=
  0x20 < c.toNat ∧ Url.endsAuthority true c = false ∧ c ≠ '@'

instance : DecidablePred Within := fun c =>
  inferInstanceAs (Decidable (0x20 < c.toNat ∧ Url.endsAuthority true c = false ∧ c ≠ '@'))

/-- Whether no character of a part of a host changes what a colon is taken for. -/
def Level (inside : Bool) (part : List Char) : Prop :=
  ∀ c ∈ part, (c = ':' → inside = true) ∧ c ≠ '[' ∧ c ≠ ']'

theorem split_host_behind {inside : Bool} {part : List Char} (level : Level inside part)
    (rest : List Char) :
    Url.splitHost inside (part ++ rest) =
      (part ++ (Url.splitHost inside rest).1, (Url.splitHost inside rest).2) := by
  induction part with
  | nil => rfl
  | cons c part ih =>
      obtain ⟨colon, opening, closing⟩ := level c List.mem_cons_self
      have kept : ¬(c = ':' ∧ inside = false) := by
        rintro ⟨same, outside⟩
        rw [colon same] at outside
        contradiction
      rw [List.cons_append, Url.splitHost, if_neg kept, if_neg opening, if_neg closing,
        ih fun other member => level other (List.mem_cons_of_mem c member)]
      rfl

/-- What stands behind a host: nothing, or a colon and a port. -/
def Behind (port : List Char) : Prop :=
  port = [] ∨ ∃ digits, port = ':' :: digits

theorem split_host_port {port : List Char} (behind : Behind port) :
    Url.splitHost false port = ([], port) := by
  obtain rfl | ⟨digits, rfl⟩ := behind
  · rfl
  · rw [Url.splitHost, if_pos ⟨rfl, rfl⟩]

def isReadable (host : List Char) : Bool :=
  (splitOn '.' host).all Domain.isReadable

structure Settled (host : List Char) : Prop where
  again : read host =
    if isReadable host then .ok (String.ofList host) else .error .invalidInternationalName
  filled : host ≠ []
  within : ∀ c ∈ host, Within c
  apart {port : List Char} (behind : Behind port) :
    Url.splitHost false (host ++ port) = (host, port)

theorem unbracketed (opening : '[' ∉ host) : bracketed host = none := by
  cases host with
  | nil => rfl
  | cons c rest =>
      rw [bracketed]
      rintro tail same
      exact opening (same ▸ List.mem_cons_self)

theorem allowed_within {c : Char} (allowed : isForbidden c = false) :
    Within c ∧ c ≠ ':' ∧ c ≠ '[' ∧ c ≠ ']' ∧ c ≠ '%' := by
  simp only [isForbidden, Bool.or_eq_false_iff, decide_eq_false_iff_not, beq_eq_false_iff_ne]
    at allowed
  simp only [Within, Url.endsAuthority, Url.isSlash, Bool.or_eq_false_iff, Bool.true_and,
    beq_eq_false_iff_ne]
  grind

theorem readable_accepted (accepted : Accepted labels) :
    isReadable (['.'].intercalate labels) = labels.all Domain.isReadable := by
  rw [isReadable, Domain.split_on_intercalate accepted.labelled accepted.apart]

theorem read_accepted (accepted : Accepted labels) (filled : ['.'].intercalate labels ≠ []) :
    read (['.'].intercalate labels) =
      if labels.all Domain.isReadable then
        if endsInNumber (['.'].intercalate labels) then
          match ipv4? (['.'].intercalate labels) with
          | some address => .ok (ipv4Text address)
          | none => .error .invalidIpv4
        else .ok (String.ofList (['.'].intercalate labels))
      else .error .invalidInternationalName := by
  have absent {c : Char} (forbidden : isForbidden c = true) : c ∉ ['.'].intercalate labels := by
    intro member
    rw [accepted.allowed c member] at forbidden
    contradiction
  have shown : (['.'].intercalate labels).isEmpty = false := by simpa using filled
  rw [read, unbracketed (absent (by decide)), Percent.decode_of_no_percent (absent (by decide)),
    Option.bind_some, String.toList_ofList, accepted.ascii_eq]
  cases labels.all Domain.isReadable with
  | true => exact if_neg (by rw [shown]; exact Bool.false_ne_true)
  | false => rfl

theorem settled_of_accepted (accepted : Accepted labels) (filled : ['.'].intercalate labels ≠ [])
    (again : labels.all Domain.isReadable = true →
      read (['.'].intercalate labels) = .ok (String.ofList (['.'].intercalate labels))) :
    Settled (['.'].intercalate labels) where
  again := by
    rw [readable_accepted accepted]
    split
    · rename_i readable
      exact again readable
    · rename_i unreadable
      rw [read_accepted accepted filled, if_neg unreadable]
  filled := filled
  within c member := (allowed_within (accepted.allowed c member)).1
  apart behind := by
    have level : Level false (['.'].intercalate labels) := by
      intro c member
      obtain ⟨-, colon, opening, closing, -⟩ := allowed_within (accepted.allowed c member)
      exact ⟨fun same => absurd same colon, opening, closing⟩
    rw [split_host_behind level, split_host_port behind, List.append_nil]

theorem ipv4_settled (address : Nat) : Settled (ipv4Text address).toList := by
  have accepted := octet_labels_accepted address
  obtain ⟨numeric, number⟩ := ipv4_read address
  have filled : ['.'].intercalate (octetLabels address) ≠ [] := by
    simp [octetLabels, octets, List.intercalate_cons_cons, Nat.toDigits_ne_nil]
  have again : read (['.'].intercalate (octetLabels address)) =
      .ok (String.ofList (['.'].intercalate (octetLabels address))) := by
    rw [read_accepted accepted filled, if_pos (octet_labels_readable address),
      ← ipv4_text_labels, if_pos numeric, number, String.ofList_toList]
    dsimp only
    rw [ipv4_text_mod]
  rw [ipv4_text_labels]
  exact settled_of_accepted accepted filled fun _ => again

theorem ipv6_settled {pieces : List Nat} (eight : pieces.length = 8)
    (small : ∀ piece ∈ pieces, piece < 65536) :
    Settled ("[" ++ ipv6Text pieces ++ "]").toList := by
  have text : ("[" ++ ipv6Text pieces ++ "]").toList =
      '[' :: ((ipv6Text pieces).toList ++ [']']) := by
    rw [String.toList_append, String.toList_append]
    rfl
  have char {c : Char} (member : c ∈ (ipv6Text pieces).toList) :
      Within c ∧ c ≠ '[' ∧ c ≠ ']' ∧ c ≠ '.' := by
    obtain rfl | ⟨digit, small, rfl⟩ := ipv6_char member
    · decide
    · exact (by decide : ∀ n < 16, Within n.digitChar ∧ n.digitChar ≠ '[' ∧ n.digitChar ≠ ']' ∧
        n.digitChar ≠ '.') digit small
  rw [text]
  constructor
  · have undotted : '.' ∉ '[' :: ((ipv6Text pieces).toList ++ [']']) := by
      simp only [List.mem_cons, List.mem_append, List.not_mem_nil, or_false, not_or]
      exact ⟨by decide, fun member => (char member).2.2.2 rfl, by decide⟩
    have readable : isReadable ('[' :: ((ipv6Text pieces).toList ++ [']'])) = true := by
      rw [isReadable, Domain.split_on_eq, List.splitOn_eq_singleton undotted]
      rfl
    rw [readable, read, bracketed, List.getLast?_concat, List.dropLast_concat,
      ipv6_read eight small, ← text, String.ofList_toList]
    rfl
  · exact List.cons_ne_nil _ _
  · intro c member
    simp only [List.mem_cons, List.mem_append, List.not_mem_nil, or_false] at member
    obtain rfl | inside | rfl := member
    · decide
    · exact (char inside).1
    · decide
  · intro port behind
    have level : Level true (ipv6Text pieces).toList := fun c member =>
      ⟨fun _ => rfl, (char member).2.1, (char member).2.2.1⟩
    have back : Url.splitHost true (']' :: port) = ([']'], port) := by
      simp [Url.splitHost, split_host_port behind]
    have front (rest : List Char) : Url.splitHost false ('[' :: rest) =
        ('[' :: (Url.splitHost true rest).1, (Url.splitHost true rest).2) := by
      simp [Url.splitHost]
    rw [List.cons_append, front, List.append_assoc, split_host_behind level,
      List.singleton_append, back]

/-- A host that has been read is read as itself. -/
theorem settled_of_read {name : String} (found : read host = .ok name) : Settled name.toList := by
  unfold read at found
  split at found
  · rename_i answer brackets
    unfold bracketed at brackets
    split at brackets
    · rw [← Option.some.inj brackets] at found
      split at found
      · rename_i pieces address
        obtain ⟨eight, small⟩ := ipv6_some address
        rw [← Except.ok.inj found]
        exact ipv6_settled eight small
      · contradiction
    · contradiction
  · split at found
    · contradiction
    · rename_i form ascii
      obtain ⟨text, -, ascii⟩ := Option.bind_eq_some_iff.mp ascii
      obtain ⟨labels, accepted, rfl⟩ := Domain.accepted_of_ascii ascii
      split at found
      · contradiction
      · rename_i filled
        split at found
        · split at found
          · rename_i address _
            rw [← Except.ok.inj found]
            exact ipv4_settled address
          · contradiction
        · rename_i named
          have shown : ['.'].intercalate labels ≠ [] := by simpa using filled
          rw [← Except.ok.inj found, String.toList_ofList]
          refine settled_of_accepted accepted shown fun readable => ?_
          rw [read_accepted accepted shown, if_pos readable, if_neg named]

end CertSteward.Host
