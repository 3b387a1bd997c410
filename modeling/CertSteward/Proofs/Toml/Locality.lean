import CertSteward.Proofs.Toml.Strings

/-!
# Readers look no further than two characters

What a reader makes of a text, and where it stops, is decided by the characters
it takes and the two behind them. So the text behind can be replaced by any
other that begins in the same way.
-/

namespace CertSteward.Toml

set_option autoImplicit false

variable {α : Type}

def Alike (rest other : List Char) : Prop :=
  rest.take 2 = other.take 2

theorem Alike.symm {rest other : List Char} (alike : Alike rest other) : Alike other rest :=
  Eq.symm alike

theorem Alike.behind {rest other : List Char} (alike : Alike rest other) (used : List Char) :
    Alike (used ++ rest) (used ++ other) := by
  unfold Alike at alike ⊢
  match used with
  | [] => exact alike
  | [c] =>
      have first : rest.take 1 = other.take 1 := by
        have shorter := congrArg (List.take 1) alike
        rwa [List.take_take, List.take_take] at shorter
      exact congrArg (c :: ·) first
  | c :: d :: used => rfl

theorem Alike.head {rest other : List Char} (alike : Alike rest other) :
    rest.head? = other.head? := by
  have first := congrArg List.head? alike
  rwa [List.head?_take, List.head?_take] at first

theorem Alike.of_nil {other : List Char} (alike : Alike [] other) : other = [] :=
  List.head?_eq_none_iff.mp alike.head.symm

theorem Alike.no_head {rest other : List Char} (alike : Alike rest other) {mark : Char}
    (apart : ∀ tail, rest ≠ mark :: tail) (tail : List Char) : other ≠ mark :: tail := by
  rintro rfl
  cases rest with
  | nil => cases tail <;> contradiction
  | cons c rest =>
      have same : c = mark := (List.cons.inj alike).1
      exact apart rest (by rw [same])

theorem Alike.no_pair {rest other : List Char} (alike : Alike rest other) {first second : Char}
    (apart : ∀ tail, rest ≠ first :: second :: tail) (tail : List Char) :
    other ≠ first :: second :: tail := by
  rintro rfl
  match rest with
  | [] => contradiction
  | [c] => exact absurd (congrArg List.length alike) (by simp)
  | c :: d :: rest =>
      unfold Alike at alike
      simp only [List.take_succ_cons, List.take_zero, List.cons.injEq, and_true] at alike
      exact apart rest (by rw [alike.1, alike.2])

def Kept (outcome : List Char → List Char → Prop) (input rest : List Char) : Prop :=
  ∃ used, input = used ++ rest ∧ ∀ other, Alike rest other → outcome (used ++ other) other

/-- Whether what a reader makes of a text never depends on more than the two characters behind what
it takes. -/
def Local (outcome : List Char → List Char → Prop) : Prop :=
  ∀ input rest, outcome input rest → Kept outcome input rest

theorem Kept.of_front {outcome : List Char → List Char → Prop} (front rest : List Char)
    (goes : ∀ other, Alike rest other → outcome (front ++ other) other) :
    Kept outcome (front ++ rest) rest :=
  ⟨front, rfl, goes⟩

theorem Kept.after {inner outer : List Char → List Char → Prop} {inside rest : List Char}
    (kept : Kept inner inside rest) (front : List Char)
    (goes : ∀ other left, Alike inside other → inner other left → outer (front ++ other) left) :
    Kept outer (front ++ inside) rest := by
  obtain ⟨used, rfl, same⟩ := kept
  refine ⟨front ++ used, by rw [List.append_assoc], ?_⟩
  intro other alike
  rw [List.append_assoc]
  exact goes _ _ (alike.behind used) (same other alike)

theorem Kept.mono {inner outer : List Char → List Char → Prop} {input rest : List Char}
    (kept : Kept inner input rest) (weaker : ∀ other left, inner other left → outer other left) :
    Kept outer input rest := by
  obtain ⟨used, same, keeps⟩ := kept
  exact ⟨used, same, fun other alike => weaker _ _ (keeps other alike)⟩

theorem Kept.chain {first second : List Char → List Char → Prop} {input middle rest : List Char}
    (reads : Kept first input middle) (kept : Kept second middle rest) :
    Kept (fun input rest => ∃ middle, first input middle ∧ second middle rest) input rest := by
  obtain ⟨front, rfl, same⟩ := reads
  apply kept.after front
  intro other left alike behind
  exact ⟨other, same other alike, behind⟩

theorem Local.before {first second : List Char → List Char → Prop} (known : Local first)
    {input middle rest : List Char} (reads : first input middle) (kept : Kept second middle rest) :
    Kept (fun input rest => ∃ middle, first input middle ∧ second middle rest) input rest :=
  (known input middle reads).chain kept

theorem Kept.length_le {outcome : List Char → List Char → Prop} {input rest : List Char}
    (kept : Kept outcome input rest) : rest.length ≤ input.length := by
  obtain ⟨used, rfl, -⟩ := kept
  rw [List.length_append]
  exact Nat.le_add_left _ _

theorem push_eq_some {head : α} {read : Option (List α × List Char)} {items : List α}
    {rest : List Char} :
    push head read = some (items, rest) ↔
      ∃ tail, read = some (tail, rest) ∧ items = head :: tail := by
  cases read with
  | none => simp [push]
  | some pair =>
      obtain ⟨tail, left⟩ := pair
      constructor
      · intro same
        cases same
        exact ⟨tail, rfl, rfl⟩
      · rintro ⟨_, same, rfl⟩
        cases same
        rfl

/-- The items of a step stand in front of those that are read behind it. -/
theorem push_all_eq_some {heads items : List α} {read : Option (List α × List Char)}
    {rest : List Char} :
    heads.foldr push read = some (items, rest) ↔
      ∃ tail, read = some (tail, rest) ∧ items = heads ++ tail := by
  induction heads generalizing items with
  | nil => simp
  | cons head heads ih =>
      rw [List.foldr_cons, push_eq_some]
      constructor
      · rintro ⟨_, inner, rfl⟩
        obtain ⟨tail, read, rfl⟩ := ih.mp inner
        exact ⟨tail, read, rfl⟩
      · rintro ⟨tail, read, rfl⟩
        exact ⟨heads ++ tail, ih.mpr ⟨tail, read, rfl⟩, rfl⟩

section

variable {reader : Reading (List α)} {inside rest : List Char} {items : List α}

/-- A step of a reader is kept with what is read behind it, if the characters that it takes yield
the same items in front of everything that begins alike. -/
theorem Kept.step (heads : List α) (front : List Char)
    (read : heads.foldr push (reader inside) = some (items, rest))
    (behind : ∀ tail, reader inside = some (tail, rest) →
      Kept (fun input rest => reader input = some (tail, rest)) inside rest)
    (yields : ∀ other, Alike inside other →
      reader (front ++ other) = heads.foldr push (reader other)) :
    Kept (fun input rest => reader input = some (items, rest)) (front ++ inside) rest := by
  obtain ⟨tail, later, rfl⟩ := push_all_eq_some.mp read
  apply (behind tail later).after front
  intro other left alike known
  rw [yields other alike]
  exact push_all_eq_some.mpr ⟨tail, known, rfl⟩

/-- A step that yields what its characters stand for, if they stand for anything. -/
theorem Kept.escape {β : Type} {meaning : Option β} {make : β → α} (front : List Char)
    (read : (meaning.bind fun c => push (make c) (reader inside)) = some (items, rest))
    (behind : ∀ tail, reader inside = some (tail, rest) →
      Kept (fun input rest => reader input = some (tail, rest)) inside rest)
    (yields : ∀ other,
      reader (front ++ other) = meaning.bind fun c => push (make c) (reader other)) :
    Kept (fun input rest => reader input = some (items, rest)) (front ++ inside) rest := by
  obtain ⟨c, known, read⟩ := Option.bind_eq_some_iff.mp read
  apply Kept.step [make c] front read behind
  intro other _
  rw [yields, known]
  rfl

end

theorem local_read_basic (text : List Char) :
    Local fun input rest => readBasic input = some (text, rest) := by
  intro input rest read
  fun_induction readBasic input generalizing text with
  | case1 => contradiction
  | case2 tail =>
      cases read
      exact .of_front ['"'] _ fun other _ => rfl
  | case3 a b inside ih => exact .escape ['\\', 'x', a, b] read ih fun _ => rfl
  | case4 a b c d inside ih => exact .escape ['\\', 'u', a, b, c, d] read ih fun _ => rfl
  | case5 a b c d e f g h inside ih =>
      exact .escape ['\\', 'U', a, b, c, d, e, f, g, h] read ih fun _ => rfl
  | case6 mark inside _ _ _ ih =>
      obtain ⟨c, known, read⟩ := Option.bind_eq_some_iff.mp read
      have ordinary : mark ≠ 'x' ∧ mark ≠ 'u' ∧ mark ≠ 'U' := by
        refine ⟨?_, ?_, ?_⟩ <;> rintro rfl <;> simp [shortEscape?] at known
      exact .step [c] ['\\', mark] read ih fun other _ => read_basic_short known ordinary other
  | case7 c inside noQuote _ _ _ _ plain ih =>
      exact .step [c] [c] read ih fun other _ =>
        read_basic_plain plain.1 plain.2 noQuote other
  | case8 => contradiction

theorem local_read_literal (text : List Char) :
    Local fun input rest => readLiteral input = some (text, rest) := by
  intro input rest read
  fun_induction readLiteral input generalizing text with
  | case1 => contradiction
  | case2 tail =>
      cases read
      exact .of_front ['\''] _ fun other _ => rfl
  | case3 c inside noQuote plain ih =>
      apply Kept.step [c] [c] read ih
      intro other _
      change readLiteral (c :: other) = _
      rw [readLiteral, if_pos plain]
      · rfl
      · exact noQuote
  | case4 => contradiction

theorem local_read_pieces (pieces : List Piece) :
    Local fun input rest => readPieces input = some (pieces, rest) := by
  intro input rest read
  fun_induction readPieces input generalizing pieces with
  | case1 => contradiction
  | case2 tail =>
      cases read
      exact .of_front ['"', '"', '"', '"', '"'] _ fun other _ => rfl
  | case3 tail alone =>
      cases read
      exact .of_front ['"', '"', '"', '"'] _ fun other alike =>
        read_pieces_quote_closing (alike.no_head alone)
  | case4 tail pair alone =>
      cases read
      exact .of_front ['"', '"', '"'] _ fun other alike =>
        read_pieces_closing (alike.no_head alone)
  | case5 inside ih =>
      exact .step [Piece.raw '\r', Piece.raw '\n'] ['\r', '\n'] read ih fun _ _ => rfl
  | case6 inside ih => exact .step [Piece.raw '\n'] ['\n'] read ih fun _ _ => rfl
  | case7 a b inside ih => exact .escape ['\\', 'x', a, b] read ih fun _ => rfl
  | case8 a b c d inside ih => exact .escape ['\\', 'u', a, b, c, d] read ih fun _ => rfl
  | case9 a b c d e f g h inside ih =>
      exact .escape ['\\', 'U', a, b, c, d, e, f, g, h] read ih fun _ => rfl
  | case10 inside ih =>
      exact .step [Piece.join, Piece.raw '\n'] ['\\', '\r', '\n'] read ih fun _ _ => rfl
  | case11 mark inside _ _ _ _ blank ih =>
      exact .step [Piece.join, Piece.raw mark] ['\\', mark] read ih fun other _ =>
        read_pieces_blank blank other
  | case12 mark inside _ _ _ _ visible ih =>
      obtain ⟨c, known, read⟩ := Option.bind_eq_some_iff.mp read
      simp only [Bool.or_eq_true, beq_iff_eq, not_or, Bool.not_eq_true] at visible
      have ordinary : mark ≠ 'x' ∧ mark ≠ 'u' ∧ mark ≠ 'U' ∧ mark ≠ '\r' := by
        refine ⟨?_, ?_, ?_, ?_⟩ <;> rintro rfl <;> simp [shortEscape?] at known
      obtain ⟨byte, short, long, noReturn⟩ := ordinary
      exact .step [Piece.escaped c] ['\\', mark] read ih fun other _ =>
        read_pieces_short known ⟨byte, short, long, visible.1, visible.2, noReturn⟩ other
  | case13 c inside _ _ pair _ newline _ _ _ _ _ plain ih =>
      have noReturn : c ≠ '\r' := by
        rintro rfl
        exact absurd plain.1 (by decide)
      apply Kept.step [Piece.raw c] [c] read ih
      intro other alike
      have apart (quote : c = '"') := alike.no_pair fun tail same => pair tail quote same
      change readPieces (c :: other) = _
      rw [readPieces, if_pos plain]
      · rfl
      · exact fun tail quote => apart quote _
      · exact fun tail quote => apart quote _
      · exact fun tail quote => apart quote _
      · exact fun tail same => absurd same noReturn
      · exact newline
      all_goals simp [plain.2]
  | case14 => contradiction

theorem local_read_literal_lines (text : List Char) :
    Local fun input rest => readLiteralLines input = some (text, rest) := by
  intro input rest read
  fun_induction readLiteralLines input generalizing text with
  | case1 => contradiction
  | case2 tail =>
      cases read
      exact .of_front ['\'', '\'', '\'', '\'', '\''] _ fun other _ => rfl
  | case3 tail alone =>
      cases read
      exact .of_front ['\'', '\'', '\'', '\''] _ fun other alike =>
        read_closing_single_quotes (by decide : 1 ≤ 2) (alike.no_head alone)
  | case4 tail pair alone =>
      cases read
      exact .of_front ['\'', '\'', '\''] _ fun other alike =>
        read_closing_single_quotes (by decide : 0 ≤ 2) (alike.no_head alone)
  | case5 inside ih => exact .step ['\r', '\n'] ['\r', '\n'] read ih fun _ _ => rfl
  | case6 inside ih => exact .step ['\n'] ['\n'] read ih fun _ _ => rfl
  | case7 c inside _ _ pair _ newline plain ih =>
      have noReturn : c ≠ '\r' := by
        rintro rfl
        exact absurd plain (by decide)
      apply Kept.step [c] [c] read ih
      intro other alike
      have apart (quote : c = '\'') := alike.no_pair fun tail same => pair tail quote same
      change readLiteralLines (c :: other) = _
      rw [readLiteralLines, if_pos plain]
      · rfl
      · exact fun tail quote => apart quote _
      · exact fun tail quote => apart quote _
      · exact fun tail quote => apart quote _
      · exact fun tail same => absurd same noReturn
      · exact newline
  | case8 => contradiction

theorem local_drop_break : Local fun input rest => dropBreak input = rest := by
  intro input rest dropped
  subst dropped
  fun_cases dropBreak input with
  | case1 rest => exact .of_front ['\r', '\n'] rest fun other _ => rfl
  | case2 rest => exact .of_front ['\n'] rest fun other _ => rfl
  | case3 =>
      rename_i noReturn noBreak
      apply Kept.of_front []
      intro other alike
      change dropBreak other = other
      rw [dropBreak]
      · exact alike.no_pair noReturn
      · exact alike.no_head noBreak

theorem local_read_basic_lines (text : List Char) :
    Local fun input rest => readBasicLines input = some (text, rest) := by
  intro input rest read
  obtain ⟨⟨pieces, left⟩, inner, read⟩ := Option.bind_eq_some_iff.mp read
  obtain ⟨joined, known, same⟩ := Option.bind_eq_some_iff.mp read
  cases same
  apply (local_drop_break.before rfl (local_read_pieces pieces _ _ inner)).mono
  rintro other left ⟨middle, rfl, behind⟩
  exact Option.bind_eq_some_iff.mpr ⟨_, behind, Option.bind_eq_some_iff.mpr ⟨_, known, rfl⟩⟩

/-- A text is read as a string if its characters are. -/
theorem string_eq_some {read : Option (List Char × List Char)} {text : String}
    {rest : List Char} :
    (read.bind fun found => some (String.ofList found.1, found.2)) = some (text, rest) ↔
      read = some (text.toList, rest) := by
  constructor
  · intro found
    obtain ⟨⟨inner, left⟩, known, same⟩ := Option.bind_eq_some_iff.mp found
    cases same
    rw [known, String.toList_ofList]
  · intro known
    rw [known, Option.bind_some, String.ofList_toList]

theorem local_read_string (text : String) :
    Local fun input rest => readString input = some (text, rest) := by
  intro input rest read
  unfold readString at read
  dsimp only at read
  split at read
  next inside =>
    apply (local_read_basic_lines _ _ _ (string_eq_some.mp read)).after ['"', '"', '"']
    intro other left _ behind
    exact string_eq_some.mpr behind
  next inside single =>
    apply (local_read_basic _ _ _ (string_eq_some.mp read)).after ['"']
    intro other left alike behind
    have apart := alike.no_pair fun tail same => single tail (by rw [same])
    change readString ('"' :: other) = _
    rw [readString]
    · exact string_eq_some.mpr behind
    · exact apart
  next inside =>
    have kept := local_read_literal_lines _ _ _ (string_eq_some.mp read)
    apply (local_drop_break.before rfl kept).after ['\'', '\'', '\'']
    rintro other left _ ⟨middle, rfl, behind⟩
    exact string_eq_some.mpr behind
  next inside single =>
    apply (local_read_literal _ _ _ (string_eq_some.mp read)).after ['\'']
    intro other left alike behind
    have apart := alike.no_pair fun tail same => single tail (by rw [same])
    change readString ('\'' :: other) = _
    rw [readString]
    · exact string_eq_some.mpr behind
    · exact apart
  next => contradiction

end CertSteward.Toml
