import CertSteward.Proofs.Url.Texts

/-!
# Names of ideographs

No table says anything of the common ideographs, so a name that is one label of them is accepted
as it is, up to the greatest length of a label. Its form in Punycode can be longer than those that
are read.
-/

namespace CertSteward

set_option autoImplicit false

def IsIdeograph (c : Char) : Prop :=
  0x4E00 ≤ c.toNat ∧ c.toNat ≤ 0x9FFF

variable {c d : Char} {label : List Char}

namespace Text

def leavesOut (table : List Packed.Stretch) : Bool :=
  table.all fun stretch => stretch.last < 0x4E00 || 0x9FFF < stretch.first

theorem find_of_leaves_out {table : List Packed.Stretch} (out : leavesOut table = true)
    (ideograph : IsIdeograph c) : Packed.find? table c.toNat = none := by
  refine List.find?_eq_none.mpr fun stretch listed => ?_
  have apart := List.all_eq_true.mp out stretch listed
  obtain ⟨least, most⟩ := ideograph
  simp only [Bool.or_eq_true, Bool.and_eq_true, decide_eq_true_eq] at apart ⊢
  omega

theorem class_ideograph (ideograph : IsIdeograph c) : combiningClass c = 0 := by
  rw [combiningClass, find_of_leaves_out (by decide +kernel) ideograph]

theorem mark_ideograph (ideograph : IsIdeograph c) : isMark c = false := by
  rw [isMark, find_of_leaves_out (by decide +kernel) ideograph]
  rfl

theorem pairs_leave_out : ∀ pair ∈ pairs,
    (pair.joined < 0x4E00 ∨ 0x9FFF < pair.joined) ∧
      (pair.second < 0x4E00 ∨ 0x9FFF < pair.second) := by
  decide +kernel

theorem parts_ideograph (ideograph : IsIdeograph c) : parts? c = none := by
  obtain ⟨least, most⟩ := ideograph
  have syllable : syllableParts? c.toNat = none := if_neg (by omega)
  have pair : pairs.find? (fun pair => pair.joined == c.toNat) = none := by
    refine List.find?_eq_none.mpr fun pair listed => ?_
    have apart := (pairs_leave_out pair listed).1
    simp only [beq_iff_eq]
    omega
  rw [parts?, syllable, pair]
  rfl

theorem join_ideographs (first : IsIdeograph c) (second : IsIdeograph d) : join? c d = none := by
  obtain ⟨least, most⟩ := first
  obtain ⟨less, more⟩ := second
  have syllable : joinSyllable? c.toNat d.toNat = none := by
    rw [joinSyllable?, if_neg (by omega), if_neg (by omega)]
  have pair : pairs.find? (fun pair => pair.second == d.toNat && pair.first == c.toNat) = none := by
    refine List.find?_eq_none.mpr fun pair listed => ?_
    have apart := (pairs_leave_out pair listed).2
    simp only [Bool.and_eq_true, beq_iff_eq]
    omega
  rw [join?, syllable, pair]
  rfl

theorem join_from_ideographs (first : IsIdeograph c) (rest : ∀ d ∈ label, IsIdeograph d) :
    joinFrom c [] label = c :: label := by
  induction label generalizing c with
  | nil => rfl
  | cons d label ih =>
      obtain ⟨second, rest⟩ := List.forall_mem_cons.mp rest
      simp only [joinFrom, if_true, join_ideographs first second, class_ideograph second]
      rw [ih second rest]
      rfl

theorem composed_ideographs (ideographs : ∀ c ∈ label, IsIdeograph c) : composed label = label := by
  have apart : label.flatMap decompose = label := by
    refine (List.flatMap_congr fun c member => ?_).trans (List.flatMap_singleton' label)
    rw [decompose, decomposeWithin, parts_ideograph (ideographs c member)]
  have ordered : order label = label := by
    unfold order
    clear apart
    induction label with
    | nil => rfl
    | cons c label ih =>
        obtain ⟨first, rest⟩ := List.forall_mem_cons.mp ideographs
        rw [List.foldr_cons, ih rest]
        cases label with
        | nil => rfl
        | cons d label =>
            rw [insertMark, if_neg (by simp [class_ideograph first])]
  have joined : joinAll label = label := by
    cases label with
    | nil => rfl
    | cons c label =>
        obtain ⟨first, rest⟩ := List.forall_mem_cons.mp ideographs
        rw [joinAll, if_pos (class_ideograph first), join_from_ideographs first rest]
  rw [composed, apart, ordered, joined, ite_self]

theorem high_ideograph (ideograph : IsIdeograph c) : isAscii c = false := by
  obtain ⟨least, -⟩ := ideograph
  rw [isAscii, decide_eq_false_iff_not]
  omega

end Text

namespace Domain

open Text (leavesOut find_of_leaves_out high_ideograph)

theorem shifts_leave_out : ∀ row ∈ shifts, 0x9FFF < row.1 ∨
    row.1 + row.2.headD 0 * (row.2.drop 1).headD 0 < 0x4E00 := by
  decide +kernel

theorem shifted_ideograph {row : Nat × List Nat} (listed : row ∈ shifts)
    (ideograph : IsIdeograph c) : shifted? c.toNat row = none := by
  obtain ⟨least, most⟩ := ideograph
  have apart := shifts_leave_out row listed
  unfold shifted?
  split
  · rename_i step count up down parts
    simp only [parts, List.headD_cons, List.drop_succ_cons, List.drop_zero] at apart
    refine if_neg ?_
    rintro ⟨after, even, within⟩
    have parts := Nat.div_add_mod (c.toNat - row.1) step
    have bound := Nat.mul_le_mul_left step (Nat.le_of_lt within)
    omega
  · rfl

theorem known_ideographs : ∃ stretch ∈ known, stretch.first ≤ 0x4E00 ∧ 0x9FFF ≤ stretch.last := by
  decide +kernel

theorem targets_leave_out : ∀ row ∈ targets, row.1 < 0x4E00 ∨ 0x9FFF < row.1 := by
  decide +kernel

theorem folded_ideograph (ideograph : IsIdeograph c) : folded? c = some [c] := by
  have known : (Text.Packed.find? known c.toNat).isSome = true := by
    obtain ⟨least, most⟩ := ideograph
    obtain ⟨stretch, listed, around⟩ := known_ideographs
    refine List.find?_isSome.mpr ⟨stretch, listed, ?_⟩
    simp only [Bool.and_eq_true, decide_eq_true_eq]
    omega
  have target : targets.lookup c.toNat = none := by
    obtain ⟨least, most⟩ := ideograph
    refine List.lookup_eq_none_iff.mpr fun row listed => bne_iff_ne.mpr ?_
    have apart := targets_leave_out row listed
    omega
  have shift : shifts.findSome? (shifted? c.toNat) = none :=
    List.findSome?_eq_none_iff.mpr fun row listed => shifted_ideograph listed ideograph
  rw [folded?, high_ideograph ideograph, target, shift]
  simp [known]

theorem normal_ideographs (ideographs : ∀ c ∈ label, IsIdeograph c) :
    normal? label = some label := by
  have folded : foldAll? label = some label := by
    induction label with
    | nil => rfl
    | cons c label ih =>
        obtain ⟨first, rest⟩ := List.forall_mem_cons.mp ideographs
        rw [foldAll?, folded_ideograph first, ih rest]
        rfl
  rw [normal?, folded, Option.map_some, Text.composed_ideographs ideographs]

theorem joiners_ideographs (front : List Char) (ideographs : ∀ c ∈ label, IsIdeograph c) :
    Joining.fits front label = true := by
  induction label generalizing front with
  | nil => rfl
  | cons c label ih =>
      obtain ⟨⟨least, most⟩, rest⟩ := List.forall_mem_cons.mp ideographs
      have apart : Joining.keepsApart c = false ∧ Joining.bringsTogether c = false := by
        simp only [Joining.keepsApart, Joining.bringsTogether, beq_eq_false_iff_ne]
        omega
      rw [Joining.fits, apart.1, apart.2, ih (c :: front) rest]
      rfl

theorem direction_ideograph (ideograph : IsIdeograph c) : Direction.of c = .left := by
  rw [Direction.of, high_ideograph ideograph, find_of_leaves_out (by decide +kernel) ideograph]
  rfl

theorem undotted_ideographs (ideographs : ∀ c ∈ label, IsIdeograph c) : '.' ∉ label := fun member =>
  absurd (ideographs '.' member).1 (by decide)

/-- A label of ideographs that is not too long is accepted as it is. -/
theorem is_label_ideographs (filled : label ≠ []) (ideographs : ∀ c ∈ label, IsIdeograph c)
    (short : label.length ≤ longestLabel) : isLabel label = true := by
  obtain ⟨c, rest, rfl⟩ := List.exists_cons_of_ne_nil filled
  have first := ideographs c List.mem_cons_self
  have undotted : (c :: rest).contains '.' = false := by
    simpa using undotted_ideographs ideographs
  simp only [isLabel, List.all_cons, high_ideograph first, normal_ideographs ideographs,
    Text.mark_ideograph first, undotted, joiners_ideographs [] ideographs, short]
  simp

theorem fits_ideographs (ideographs : ∀ c ∈ label, IsIdeograph c) :
    Direction.fits [label] = true := by
  have none_rightward : label.any Direction.isRightward = false := by
    refine List.any_eq_false.mpr fun c member => ?_
    rw [Direction.isRightward, direction_ideograph (ideographs c member)]
    simp
  simp [Direction.fits, none_rightward]

theorem encode_ideographs_char (ideographs : ∀ c ∈ label, IsIdeograph c) :
    ∀ c ∈ mark ++ Punycode.encode label,
      isPlain c = true ∧ isForbidden c = false ∧ c ≠ '.' := by
  intro c member
  obtain front | code := List.mem_append.mp member
  · exact (mark_char front).2
  · obtain rfl | ⟨given, basic⟩ | code := Punycode.mem_encode code
    · decide
    · have high : Punycode.isBasic c = false := high_ideograph (ideographs c given)
      rw [high] at basic
      contradiction
    · exact code_char code

theorem opened_ideographs (filled : label ≠ []) (ideographs : ∀ c ∈ label, IsIdeograph c)
    (short : label.length ≤ longestLabel) :
    label.all Text.isAscii = false ∧ opened? label = some label := by
  have fits := is_label_ideographs filled ideographs short
  obtain ⟨c, rest, rfl⟩ := List.exists_cons_of_ne_nil filled
  have first := ideographs c List.mem_cons_self
  have high : (c :: rest).all Text.isAscii = false := by
    rw [List.all_cons, high_ideograph first, Bool.false_and]
  have unmarked : mark.isPrefixOf (c :: rest) = false := by
    have other : c ≠ 'x' := by
      rintro rfl
      exact absurd first.1 (by decide)
    simp [mark, List.isPrefixOf, Ne.symm other]
  rw [opened?, unmarked, high, fits]
  exact ⟨rfl, rfl⟩

/-- The one form of a label of ideographs, however long that is. -/
theorem ascii_ideographs (filled : label ≠ []) (ideographs : ∀ c ∈ label, IsIdeograph c)
    (short : label.length ≤ longestLabel) :
    ascii? label = some (mark ++ Punycode.encode label) := by
  obtain ⟨high, opened⟩ := opened_ideographs filled ideographs short
  have parts : splitOn '.' label = [label] := by
    rw [split_on_eq, List.splitOn_eq_singleton (undotted_ideographs ideographs)]
  have closed : closed label = mark ++ Punycode.encode label := by
    rw [closed, high]
    rfl
  have chars := encode_ideographs_char ideographs
  have formed : (Direction.fits [label] && (mark ++ Punycode.encode label).all isPlain &&
      !(mark ++ Punycode.encode label).any isForbidden) = true := by
    simp only [Bool.and_eq_true, List.all_eq_true, Bool.not_eq_true', List.any_eq_false]
    refine ⟨⟨fits_ideographs ideographs, fun c member => (chars c member).1⟩, fun c member => ?_⟩
    rw [(chars c member).2.1]
    exact Bool.false_ne_true
  simp only [ascii?, normal_ideographs ideographs, Option.bind_eq_bind, Option.bind_some, parts,
    List.mapM_cons, List.mapM_nil, opened, List.map_cons, List.map_nil, closed,
    List.intercalate_singleton]
  exact if_pos formed

end Domain

namespace Host

open Domain (mark splitOn)

theorem digits_value_mark (base : Nat) (code : List Char) :
    digitsValue base (mark ++ code) = none := by
  have stays (rest : List Char) : rest.foldl (fun total digit => do
      let total ← total
      let value ← hexValue? digit
      if value < base then return total * base + value else none) none = none := by
    induction rest with
    | nil => rfl
    | cons c rest ih => exact ih
  exact stays _

theorem ends_in_number_mark {code : List Char} (undotted : '.' ∉ mark ++ code) :
    endsInNumber (mark ++ code) = false := by
  have part : part? (mark ++ code) = none := digits_value_mark 10 code
  have parts : splitOn '.' (mark ++ code) = [mark ++ code] := by
    rw [Domain.split_on_eq, List.splitOn_eq_singleton undotted]
  have whole : withoutEmptyEnd [mark ++ code] = [mark ++ code] := if_neg (by simp [mark])
  rw [endsInNumber, parts, if_neg (by simp [mark]), whole]
  simp only [List.getLast?_singleton, part]
  rfl

theorem read_ideographs (filled : label ≠ []) (ideographs : ∀ c ∈ label, IsIdeograph c)
    (short : label.length ≤ Domain.longestLabel) :
    read label = .ok (String.ofList (mark ++ Punycode.encode label)) := by
  have absent {c : Char} (low : c.toNat < 0x4E00) : c ∉ label := fun member =>
    absurd (ideographs c member).1 (Nat.not_le_of_lt low)
  have chars := Domain.encode_ideographs_char ideographs
  have named := ends_in_number_mark fun member => (chars '.' member).2.2 rfl
  rw [read, unbracketed (absent (by decide)), Percent.decode_of_no_percent (absent (by decide)),
    Option.bind_some, String.toList_ofList, Domain.ascii_ideographs filled ideographs short]
  dsimp only
  rw [named]
  rfl

theorem readable_ideographs (ideographs : ∀ c ∈ label, IsIdeograph c) :
    isReadable (mark ++ Punycode.encode label) =
      decide ((Punycode.encode label).length ≤ Domain.longestCode) := by
  have undotted : '.' ∉ mark ++ Punycode.encode label := fun member =>
    (Domain.encode_ideographs_char ideographs '.' member).2.2 rfl
  have front : mark.isPrefixOf (mark ++ Punycode.encode label) = true :=
    List.isPrefixOf_iff_prefix.mpr (List.prefix_append mark _)
  rw [isReadable, Domain.split_on_eq, List.splitOn_eq_singleton undotted]
  simp only [List.all_cons, List.all_nil, Bool.and_true, Domain.isReadable, front, Bool.not_true,
    Bool.false_or, List.drop_left]

end Host

namespace Url

variable {host : List Char} {name : String}

theorem read_authority_named (within : ∀ c ∈ host, Host.Within c) (level : Host.Level false host)
    (found : Host.read host = .ok name) (filled : host ≠ []) (shown : name ≠ "") (followed : Bool) :
    readAuthority "http" host followed = .ok ⟨"", none, name, none⟩ := by
  have user : splitUser host = (none, host) := split_user_none fun member =>
    (within '@' member).2.2 rfl
  have split : splitHost false host = (host, []) := by
    have parts := Host.split_host_behind level []
    rwa [List.append_nil, Host.split_host_port (.inl rfl), List.append_nil] at parts
  simp only [readAuthority, user, split, found]
  simp [filled, shown, isSpecialScheme, readUser, readPort, bind, Except.bind]
  rfl

/-- The address of a host by itself. -/
theorem read_named (within : ∀ c ∈ host, Host.Within c) (level : Host.Level false host)
    (found : Host.read host = .ok name) (filled : host ≠ []) (shown : name ≠ "") :
    read (String.ofList ("http://".toList ++ host ++ ['/'])) =
      .ok ⟨"http", some ⟨"", none, name, none⟩, .segments [""], none, none⟩ := by
  have unended (c : Char) (member : c ∈ host) : endsAuthority true c = false :=
    (within c member).2.1
  have hosted : IsHosted "http" := by decide
  have unasked : ∀ part ∈ (none : Option (List Char)), '#' ∉ part := nofun
  have named := read_with_authority_front hosted unended
    ⟨List.not_mem_nil, List.not_mem_nil⟩ unasked none
  rw [read_authority_named within level found filled shown] at named
  obtain ⟨c, rest, rfl⟩ := List.exists_cons_of_ne_nil filled
  have apart : isSlash true c = false := by
    have first := unended c List.mem_cons_self
    simp only [endsAuthority, Bool.or_eq_false_iff] at first
    exact first.1.1
  have visible : ∀ d ∈ "http".toList ++ ':' :: '/' :: '/' :: c :: (rest ++ ['/']),
      0x20 < d.toNat := by
    have host : ∀ d ∈ c :: rest, 0x20 < d.toNat := fun d member => (within d member).1
    simpa [or_imp, forall_and] using host
  have whole := read_behind_slashes hosted apart visible
  simp only [markedText, List.append_nil, List.cons_append] at named
  rw [named] at whole
  refine Eq.trans (congrArg _ (congrArg _ ?_)) (whole.trans rfl)
  simp

/-- The address of a label of ideographs is read, however long its form is. -/
theorem read_ideographs (filled : label ≠ []) (ideographs : ∀ c ∈ label, IsIdeograph c)
    (short : label.length ≤ Domain.longestLabel) :
    read (String.ofList ("http://".toList ++ label ++ ['/'])) =
      .ok ⟨"http", some ⟨"", none, String.ofList (Domain.mark ++ Punycode.encode label), none⟩,
        .segments [""], none, none⟩ := by
  have apart (c : Char) (member : c ∈ label) : Host.Within c ∧ c ≠ ':' ∧ c ≠ '[' ∧ c ≠ ']' := by
    obtain ⟨least, -⟩ := ideographs c member
    have other {d : Char} (low : d.toNat < 0x4E00) : c ≠ d := by
      rintro rfl
      omega
    have unended : endsAuthority true c = false := by
      simp only [endsAuthority, isSlash, Bool.or_eq_false_iff, Bool.true_and, beq_eq_false_iff_ne]
      exact ⟨⟨⟨other (by decide), other (by decide)⟩, other (by decide)⟩, other (by decide)⟩
    exact ⟨⟨by omega, unended, other (by decide)⟩, other (by decide), other (by decide),
      other (by decide)⟩
  refine read_named (fun c member => (apart c member).1) (fun c member => ?_)
    (Host.read_ideographs filled ideographs short) filled ?_
  · exact ⟨fun same => absurd same (apart c member).2.1, (apart c member).2.2⟩
  · rw [ne_eq, String.ofList_eq_empty_iff]
    exact List.append_ne_nil_of_left_ne_nil (by decide) _

end Url

end CertSteward
