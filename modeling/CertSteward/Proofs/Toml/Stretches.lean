import CertSteward.Proofs.Toml.Locality

/-!
# Stretches that every string keeps

No escape takes a dollar sign in and no closing begins with one, so a dollar
sign in a string is a character of its text, whatever kind of string it is. The
characters behind it that stand for themselves in every kind of string then
follow it in the text.
-/

namespace CertSteward.Toml

set_option autoImplicit false

def Steady (c : Char) : Prop :=
  isPlain c = true ∧ c ≠ '"' ∧ c ≠ '\'' ∧ c ≠ '\\'

theorem hex_number_none (digits : List Char) :
    digits.foldl (fun total digit => do return (← total) * 16 + (← hexValue? digit)) none =
      (none : Option Nat) := by
  induction digits with
  | nil => rfl
  | cons digit digits ih => exact ih

theorem no_dollar_in_hex_number {digits : List Char} (total : Option Nat) {n : Nat}
    (known : digits.foldl (fun total digit => do return (← total) * 16 + (← hexValue? digit))
      total = some n) : '$' ∉ digits := by
  induction digits generalizing total with
  | nil => exact List.not_mem_nil
  | cons digit digits ih =>
      rw [List.foldl_cons] at known
      intro member
      obtain rfl | later := List.mem_cons.mp member
      · have nothing : (do return (← total) * 16 + (← hexValue? '$') : Option Nat) = none := by
          cases total <;> rfl
        rw [nothing, hex_number_none] at known
        contradiction
      · exact ih _ known later

theorem no_dollar_in_scalar {digits : List Char} {c : Char} (known : scalar? digits = some c) :
    '$' ∉ digits := by
  obtain ⟨n, found, -⟩ := Option.bind_eq_some_iff.mp known
  exact no_dollar_in_hex_number _ found

/-- An escape by number holds no dollar sign. -/
theorem no_dollar_in_numbered {c : Char} {digits : List Char} (mark : Char) (letter : mark ≠ '$')
    (known : scalar? digits = some c) : '$' ∉ '\\' :: mark :: digits := by
  simp only [List.mem_cons, Char.reduceEq, false_or, not_or]
  exact ⟨letter.symm, no_dollar_in_scalar known⟩

theorem no_dollar_in_short {mark c : Char} (known : shortEscape? mark = some c) :
    '$' ∉ ['\\', mark] := by
  simp only [List.mem_cons, Char.reduceEq, List.not_mem_nil, or_false, false_or]
  rintro rfl
  contradiction

section

variable {front rest : List Char}

/-- What holds no dollar sign is passed before it. -/
theorem passed_before_dollar (used : List Char) {inside : List Char}
    (same : front ++ '$' :: rest = used ++ inside) (clear : '$' ∉ used) :
    ∃ further, front = used ++ further ∧ further ++ '$' :: rest = inside := by
  obtain ⟨further, used_eq, rest_eq⟩ | ⟨further, front_eq, inside_eq⟩ :=
    List.append_eq_append_iff.mp same
  · cases further with
    | nil => exact ⟨[], by simp [used_eq], rest_eq⟩
    | cons c further =>
        obtain ⟨rfl, -⟩ := List.cons.inj rest_eq
        exact absurd (used_eq ▸ List.mem_append_right front List.mem_cons_self) clear
  · exact ⟨further, front_eq, inside_eq.symm⟩

/-- A reader is not past the dollar sign as long as it leaves no more than what stands behind. -/
theorem not_closed_before_dollar (used : List Char) {after : List Char}
    (same : front ++ '$' :: rest = used ++ after) (clear : '$' ∉ used)
    (inside : after.length ≤ rest.length) : False := by
  obtain ⟨further, -, rfl⟩ := passed_before_dollar used same clear
  simp only [List.length_append, List.length_cons] at inside
  omega

/-- Whether items hold one at which the reader comes to the rest. -/
def ComesTo {α : Type} (reader : Reading (List α)) (item : α) (rest after : List Char)
    (items : List α) : Prop :=
  ∃ before behind, items = before ++ item :: behind ∧ reader rest = some (behind, after)

theorem ComesTo.behind {α : Type} {reader : Reading (List α)} {item : α} {rest after : List Char}
    {items : List α} (comes : ComesTo reader item rest after items) (head : α) :
    ComesTo reader item rest after (head :: items) := by
  obtain ⟨before, behind, rfl, read⟩ := comes
  exact ⟨head :: before, behind, rfl, read⟩

section

variable {α : Type} {reader : Reading (List α)} {item : α} {after inside : List Char}
  {items : List α}

/-- A step whose characters hold no dollar sign stands before it, and so do the items it yields. -/
theorem ComesTo.passed (heads : List α) (used : List Char)
    (read : heads.foldr push (reader inside) = some (items, after))
    (whole : front ++ '$' :: rest = used ++ inside) (clear : '$' ∉ used)
    (further : ∀ {front : List Char} {tail : List α}, front ++ '$' :: rest = inside →
      reader inside = some (tail, after) → ComesTo reader item rest after tail) :
    ComesTo reader item rest after items := by
  obtain ⟨tail, later, rfl⟩ := push_all_eq_some.mp read
  obtain ⟨front, -, same⟩ := passed_before_dollar used whole clear
  obtain ⟨before, behind, rfl, found⟩ := further same later
  exact ⟨heads ++ before, behind, by rw [List.append_assoc], found⟩

/-- An escape stands before the dollar sign if nothing that has a meaning holds one. -/
theorem ComesTo.escape {β : Type} {meaning : Option β} {make : β → α} (used : List Char)
    (read : (meaning.bind fun c => push (make c) (reader inside)) = some (items, after))
    (whole : front ++ '$' :: rest = used ++ inside) (clear : ∀ c, meaning = some c → '$' ∉ used)
    (further : ∀ {front : List Char} {tail : List α}, front ++ '$' :: rest = inside →
      reader inside = some (tail, after) → ComesTo reader item rest after tail) :
    ComesTo reader item rest after items := by
  obtain ⟨c, known, read⟩ := Option.bind_eq_some_iff.mp read
  exact .passed [make c] used read whole (clear c known) further

/-- A character that stands for itself is the dollar sign or stands before it. -/
theorem ComesTo.plain (make : Char → α) (c : Char)
    (read : push (make c) (reader inside) = some (items, after))
    (whole : front ++ '$' :: rest = c :: inside)
    (further : ∀ {front : List Char} {tail : List α}, front ++ '$' :: rest = inside →
      reader inside = some (tail, after) → ComesTo reader (make '$') rest after tail) :
    ComesTo reader (make '$') rest after items := by
  cases front with
  | nil =>
      obtain ⟨rfl, rfl⟩ := List.cons.inj whole
      obtain ⟨tail, later, rfl⟩ := push_eq_some.mp read
      exact ⟨[], tail, rfl, later⟩
  | cons first front =>
      obtain ⟨tail, later, rfl⟩ := push_eq_some.mp read
      exact (further (List.cons.inj whole).2 later).behind (make c)

end

variable {after : List Char}

theorem dollar_in_basic {text : List Char}
    (read : readBasic (front ++ '$' :: rest) = some (text, after))
    (inside : after.length ≤ rest.length) : ComesTo readBasic '$' rest after text := by
  generalize whole : front ++ '$' :: rest = input at read
  fun_induction readBasic input generalizing front text with
  | case1 => contradiction
  | case2 tail =>
      cases read
      exact (not_closed_before_dollar ['"'] whole (by decide) inside).elim
  | case3 a b tail ih =>
      exact .escape ['\\', 'x', a, b] read whole
        (fun _ => no_dollar_in_numbered 'x' (by decide)) ih
  | case4 a b c d tail ih =>
      exact .escape ['\\', 'u', a, b, c, d] read whole
        (fun _ => no_dollar_in_numbered 'u' (by decide)) ih
  | case5 a b c d e f g h tail ih =>
      exact .escape ['\\', 'U', a, b, c, d, e, f, g, h] read whole
        (fun _ => no_dollar_in_numbered 'U' (by decide)) ih
  | case6 mark tail _ _ _ ih =>
      exact .escape ['\\', mark] read whole (fun _ => no_dollar_in_short) ih
  | case7 c tail _ _ _ _ _ _ ih => exact .plain id c read whole ih
  | case8 => contradiction

theorem dollar_in_literal {text : List Char}
    (read : readLiteral (front ++ '$' :: rest) = some (text, after))
    (inside : after.length ≤ rest.length) : ComesTo readLiteral '$' rest after text := by
  generalize whole : front ++ '$' :: rest = input at read
  fun_induction readLiteral input generalizing front text with
  | case1 => contradiction
  | case2 tail =>
      cases read
      exact (not_closed_before_dollar ['\''] whole (by decide) inside).elim
  | case3 c tail _ _ ih => exact .plain id c read whole ih
  | case4 => contradiction

theorem dollar_in_literal_lines {text : List Char}
    (read : readLiteralLines (front ++ '$' :: rest) = some (text, after))
    (inside : after.length ≤ rest.length) : ComesTo readLiteralLines '$' rest after text := by
  generalize whole : front ++ '$' :: rest = input at read
  fun_induction readLiteralLines input generalizing front text with
  | case1 => contradiction
  | case2 tail =>
      cases read
      exact (not_closed_before_dollar ['\'', '\'', '\'', '\'', '\''] whole (by decide)
        inside).elim
  | case3 tail =>
      cases read
      exact (not_closed_before_dollar ['\'', '\'', '\'', '\''] whole (by decide)
        inside).elim
  | case4 tail =>
      cases read
      exact (not_closed_before_dollar ['\'', '\'', '\''] whole (by decide) inside).elim
  | case5 tail ih => exact .passed ['\r', '\n'] ['\r', '\n'] read whole (by decide) ih
  | case6 tail ih => exact .passed ['\n'] ['\n'] read whole (by decide) ih
  | case7 c tail _ _ _ _ _ _ ih => exact .plain id c read whole ih
  | case8 => contradiction

theorem dollar_in_pieces {pieces : List Piece}
    (read : readPieces (front ++ '$' :: rest) = some (pieces, after))
    (inside : after.length ≤ rest.length) : ComesTo readPieces (.raw '$') rest after pieces := by
  generalize whole : front ++ '$' :: rest = input at read
  fun_induction readPieces input generalizing front pieces with
  | case1 => contradiction
  | case2 tail =>
      cases read
      exact (not_closed_before_dollar ['"', '"', '"', '"', '"'] whole (by decide)
        inside).elim
  | case3 tail =>
      cases read
      exact (not_closed_before_dollar ['"', '"', '"', '"'] whole (by decide) inside).elim
  | case4 tail =>
      cases read
      exact (not_closed_before_dollar ['"', '"', '"'] whole (by decide) inside).elim
  | case5 tail ih =>
      exact .passed [Piece.raw '\r', Piece.raw '\n'] ['\r', '\n'] read whole (by decide) ih
  | case6 tail ih => exact .passed [Piece.raw '\n'] ['\n'] read whole (by decide) ih
  | case7 a b tail ih =>
      exact .escape ['\\', 'x', a, b] read whole
        (fun _ => no_dollar_in_numbered 'x' (by decide)) ih
  | case8 a b c d tail ih =>
      exact .escape ['\\', 'u', a, b, c, d] read whole
        (fun _ => no_dollar_in_numbered 'u' (by decide)) ih
  | case9 a b c d e f g h tail ih =>
      exact .escape ['\\', 'U', a, b, c, d, e, f, g, h] read whole
        (fun _ => no_dollar_in_numbered 'U' (by decide)) ih
  | case10 tail ih =>
      exact .passed [Piece.join, Piece.raw '\n'] ['\\', '\r', '\n'] read whole (by decide) ih
  | case11 mark tail _ _ _ _ blank ih =>
      have clear : '$' ∉ ['\\', mark] := by
        suffices mark ≠ '$' by simpa using this.symm
        rintro rfl
        exact absurd blank (by decide)
      exact .passed [Piece.join, Piece.raw mark] ['\\', mark] read whole clear ih
  | case12 mark tail _ _ _ _ _ ih =>
      exact .escape ['\\', mark] read whole (fun _ => no_dollar_in_short) ih
  | case13 c tail _ _ _ _ _ _ _ _ _ _ _ ih => exact .plain Piece.raw c read whole ih
  | case14 => contradiction

end

def TakesSteady {α : Type} (reader : Reading (List α)) (item : Char → α) : Prop :=
  ∀ c rest, Steady c → reader (c :: rest) = push (item c) (reader rest)

theorem stretch_taken {α : Type} {reader : Reading (List α)} {item : Char → α}
    (takes : TakesSteady reader item) {stretch rest after : List Char} {items : List α}
    (steady : ∀ c ∈ stretch, Steady c) (read : reader (stretch ++ rest) = some (items, after)) :
    ∃ last, items = stretch.map item ++ last := by
  induction stretch generalizing items with
  | nil => exact ⟨items, rfl⟩
  | cons c stretch ih =>
      rw [List.cons_append, takes c _ (steady c List.mem_cons_self)] at read
      obtain ⟨inner, later, rfl⟩ := push_eq_some.mp read
      obtain ⟨last, rfl⟩ :=
        ih (fun other member => steady other (List.mem_cons_of_mem c member)) later
      exact ⟨last, rfl⟩

theorem takes_basic : TakesSteady readBasic id := fun _ rest ⟨plain, basic, _, slashless⟩ =>
  read_basic_plain plain slashless basic rest

theorem takes_literal : TakesSteady readLiteral id := by
  intro c rest steady
  obtain ⟨plain, -, literal, -⟩ := steady
  rw [readLiteral, if_pos plain]
  · rfl
  · exact literal

theorem takes_literal_lines : TakesSteady readLiteralLines id :=
  fun _ rest ⟨plain, _, literal, _⟩ => read_literal_lines_plain plain literal rest

theorem takes_pieces : TakesSteady readPieces .raw := fun _ rest ⟨plain, basic, _, slashless⟩ =>
  read_pieces_plain plain slashless basic rest

theorem join_stretch {stretch text : List Char} {last : List Piece}
    (joined : joinPieces .off (stretch.map .raw ++ last) = some text) :
    ∃ behind, text = stretch ++ behind := by
  induction stretch generalizing text with
  | nil => exact ⟨text, rfl⟩
  | cons c stretch ih =>
      rw [List.map_cons, List.cons_append, joinPieces] at joined
      obtain ⟨inner, later, rfl⟩ := Option.map_eq_some_iff.mp joined
      obtain ⟨behind, rfl⟩ := ih later
      exact ⟨behind, rfl⟩

/-- What is joined behind a piece is the end of what is joined. -/
theorem join_behind {joining : Joining} {head : Piece} {rest : List Piece} {text : List Char}
    (joined : joinPieces joining (head :: rest) = some text) :
    ∃ next first inner, joinPieces next rest = some inner ∧ text = first ++ inner := by
  have dropped (next : Joining) (found : joinPieces next rest = some text) :
      ∃ next first inner, joinPieces next rest = some inner ∧ text = first ++ inner :=
    ⟨next, [], text, found, rfl⟩
  have kept {c : Char} (found : (joinPieces .off rest).map (c :: ·) = some text) :
      ∃ next first inner, joinPieces next rest = some inner ∧ text = first ++ inner := by
    obtain ⟨inner, known, rfl⟩ := Option.map_eq_some_iff.mp found
    exact ⟨.off, [c], inner, known, rfl⟩
  cases joining with
  | off =>
      cases head with
      | raw c => exact kept joined
      | escaped c => exact kept joined
      | join => exact dropped .opened joined
  | opened =>
      cases head with
      | raw c =>
          rw [joinPieces] at joined
          split at joined
          · exact dropped _ joined
          · split at joined
            · exact dropped _ joined
            · contradiction
      | escaped c => contradiction
      | join => contradiction
  | dropping =>
      cases head with
      | raw c =>
          rw [joinPieces] at joined
          split at joined
          · exact dropped _ joined
          · exact kept joined
      | escaped c => exact kept joined
      | join => exact dropped .opened joined

/-- A dollar sign is neither a blank nor a line break, so no joining of lines drops it. -/
theorem join_dollar {joining : Joining} {before behind : List Piece} {text : List Char}
    (joined : joinPieces joining (before ++ .raw '$' :: behind) = some text) :
    ∃ first last, text = first ++ '$' :: last ∧ joinPieces .off behind = some last := by
  induction before generalizing joining text with
  | nil =>
      have kept (found : (joinPieces .off behind).map ('$' :: ·) = some text) :
          ∃ first last, text = first ++ '$' :: last ∧ joinPieces .off behind = some last := by
        obtain ⟨last, known, rfl⟩ := Option.map_eq_some_iff.mp found
        exact ⟨[], last, rfl, known⟩
      cases joining with
      | off => exact kept joined
      | opened => contradiction
      | dropping => exact kept joined
  | cons head before ih =>
      obtain ⟨next, front, inner, found, rfl⟩ := join_behind joined
      obtain ⟨first, last, rfl, further⟩ := ih found
      exact ⟨front ++ first, last, by simp, further⟩

theorem drop_break_before_dollar (front rest : List Char) :
    ∃ further, dropBreak (front ++ '$' :: rest) = further ++ '$' :: rest := by
  generalize whole : front ++ '$' :: rest = input
  fun_cases dropBreak input with
  | case1 tail =>
      obtain ⟨further, -, same⟩ := passed_before_dollar ['\r', '\n'] whole (by decide)
      exact ⟨further, same.symm⟩
  | case2 tail =>
      obtain ⟨further, -, same⟩ := passed_before_dollar ['\n'] whole (by decide)
      exact ⟨further, same.symm⟩
  | case3 => exact ⟨front, whole.symm⟩

/-- A dollar sign in a string, with the characters behind it that stand for themselves, is in the
text of the string. -/
theorem stretch_in_string {front stretch rest after : List Char} {text : String}
    (steady : ∀ c ∈ stretch, Steady c)
    (read : readString (front ++ '$' :: (stretch ++ rest)) = some (text, after))
    (inside : after.length ≤ rest.length) : '$' :: stretch <:+: text.toList := by
  have longer : after.length ≤ (stretch ++ rest).length := by
    rw [List.length_append]
    omega
  have held {before last : List Char} (same : text.toList = before ++ '$' :: (stretch ++ last)) :
      '$' :: stretch <:+: text.toList := ⟨before, last, by simp [same]⟩
  unfold readString at read
  dsimp only at read
  generalize whole : front ++ '$' :: (stretch ++ rest) = input at read
  split at read
  next =>
    obtain ⟨further, -, rfl⟩ := passed_before_dollar ['"', '"', '"'] whole (by decide)
    obtain ⟨broken, dropped⟩ := drop_break_before_dollar further (stretch ++ rest)
    obtain ⟨⟨pieces, left⟩, found, joined⟩ :=
      Option.bind_eq_some_iff.mp (string_eq_some.mp read)
    obtain ⟨chars, known, same⟩ := Option.bind_eq_some_iff.mp joined
    cases same
    rw [dropped] at found
    obtain ⟨before, behind, rfl, later⟩ := dollar_in_pieces found longer
    obtain ⟨last, rfl⟩ := stretch_taken takes_pieces steady later
    obtain ⟨first, inner, chars, joined⟩ := join_dollar known
    obtain ⟨final, rfl⟩ := join_stretch joined
    exact held chars
  next =>
    obtain ⟨further, -, rfl⟩ := passed_before_dollar ['"'] whole (by decide)
    obtain ⟨before, behind, chars, later⟩ := dollar_in_basic (string_eq_some.mp read) longer
    obtain ⟨last, rfl⟩ := stretch_taken takes_basic steady later
    rw [List.map_id] at chars
    exact held chars
  next =>
    obtain ⟨further, -, rfl⟩ := passed_before_dollar ['\'', '\'', '\''] whole (by decide)
    obtain ⟨broken, dropped⟩ := drop_break_before_dollar further (stretch ++ rest)
    rw [dropped] at read
    obtain ⟨before, behind, chars, later⟩ :=
      dollar_in_literal_lines (string_eq_some.mp read) longer
    obtain ⟨last, rfl⟩ := stretch_taken takes_literal_lines steady later
    rw [List.map_id] at chars
    exact held chars
  next =>
    obtain ⟨further, -, rfl⟩ := passed_before_dollar ['\''] whole (by decide)
    obtain ⟨before, behind, chars, later⟩ := dollar_in_literal (string_eq_some.mp read) longer
    obtain ⟨last, rfl⟩ := stretch_taken takes_literal steady later
    rw [List.map_id] at chars
    exact held chars
  next => contradiction

end CertSteward.Toml
