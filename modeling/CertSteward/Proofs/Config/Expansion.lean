import CertSteward.Proofs.Config.References
import CertSteward.Proofs.Config.RoundTrip

/-!
# References are replaced one by one

A text is gone through from the front. What has no dollar sign in it stays, a
reference gives way to the value of its variable, to its default or to itself,
and what follows it is replaced as a text of its own, whatever was put in. Two
dollar signs side by side are one.
-/

namespace CertSteward.Config

set_option autoImplicit false

namespace Expansion

variable {text rest inner after name : List Char} {piece : Piece}

theorem split_brace_iff :
    splitBrace text = some (inner, after) ↔ text = inner ++ '\x7d' :: after ∧ '\x7d' ∉ inner := by
  induction text generalizing inner with
  | nil => simp [splitBrace]
  | cons c rest ih =>
      by_cases closing : c = '\x7d'
      · subst closing
        cases inner with
        | nil => simp [splitBrace, eq_comm]
        | cons first front =>
            rw [splitBrace, List.cons_append, List.cons.injEq, List.mem_cons, not_or]
            constructor
            · rintro ⟨⟩
            · rintro ⟨⟨same, -⟩, apart, -⟩
              exact absurd same apart
      · rw [splitBrace]
        · simp only [Option.map_eq_some_iff, Prod.exists, Prod.mk.injEq]
          constructor
          · rintro ⟨front, back, split, rfl, rfl⟩
            obtain ⟨rfl, apart⟩ := ih.mp split
            simp [apart, Ne.symm closing]
          · rintro ⟨same, apart⟩
            cases inner with
            | nil => exact absurd (List.cons.inj same).1 closing
            | cons first front =>
                rw [List.cons_append] at same
                obtain ⟨rfl, later⟩ := List.cons.inj same
                have inside := fun member => apart (List.mem_cons_of_mem c member)
                exact ⟨front, after, ih.mpr ⟨later, inside⟩, rfl, rfl⟩
        · exact closing

theorem split_brace_none_iff : splitBrace text = none ↔ '\x7d' ∉ text := by
  constructor
  · intro unsplit member
    obtain ⟨front, back, same, first⟩ := List.eq_append_cons_of_mem member
    rw [split_brace_iff.mpr ⟨same, first⟩] at unsplit
    contradiction
  · intro absent
    rw [Option.eq_none_iff_forall_ne_some]
    rintro ⟨front, back⟩ split
    obtain ⟨rfl, -⟩ := split_brace_iff.mp split
    exact absent (by simp)

inductive First : List Char → Piece → List Char → Prop
  | braced {inner after : List Char} (closed : '\x7d' ∉ inner) :
    First ('$' :: '\x7b' :: (inner ++ '\x7d' :: after)) (bracedPiece inner) after
  | opened {rest : List Char} (unclosed : '\x7d' ∉ rest) :
    First ('$' :: '\x7b' :: rest) (.plain ['$', '\x7b']) rest
  | doubled {rest : List Char} : First ('$' :: '$' :: rest) (.plain ['$']) rest
  | lone {rest : List Char} (brace : ∀ tail, rest ≠ '\x7b' :: tail)
      (single : ∀ tail, rest ≠ '$' :: tail) (unnamed : rest.takeWhile isNameChar = []) :
    First ('$' :: rest) (.plain ['$']) rest
  | bare {rest : List Char} (named : rest.takeWhile isNameChar ≠ []) :
    First ('$' :: rest) (.bare (rest.takeWhile isNameChar)) (rest.dropWhile isNameChar)
  | plain {c : Char} {rest : List Char} (other : c ≠ '$') : First (c :: rest) (.plain [c]) rest

theorem first_of_ne_nil (some_ : text ≠ []) : ∃ piece rest, First text piece rest := by
  obtain ⟨c, rest, rfl⟩ := List.exists_cons_of_ne_nil some_
  by_cases dollar : c = '$'
  · subst dollar
    by_cases brace : ∃ tail, rest = '\x7b' :: tail
    · obtain ⟨tail, rfl⟩ := brace
      cases split : splitBrace tail with
      | none => exact ⟨_, _, .opened (split_brace_none_iff.mp split)⟩
      | some parts =>
          obtain ⟨rfl, closed⟩ := split_brace_iff.mp split
          exact ⟨_, _, .braced closed⟩
    by_cases double : ∃ tail, rest = '$' :: tail
    · obtain ⟨tail, rfl⟩ := double
      exact ⟨_, _, .doubled⟩
    by_cases named : rest.takeWhile isNameChar = []
    · exact ⟨_, _, .lone (not_exists.mp brace) (not_exists.mp double) named⟩
    · exact ⟨_, _, .bare named⟩
  · exact ⟨_, _, .plain dollar⟩

theorem First.shorter (first : First text piece rest) : rest.length < text.length := by
  cases first with
  | bare named =>
      exact Nat.lt_succ_of_le (List.dropWhile_suffix isNameChar).length_le
  | _ => simp <;> omega

theorem First.within (first : First text piece rest) (fuel : Nat) :
    piecesWithin (fuel + 1) text = piece :: piecesWithin fuel rest := by
  cases first with
  | braced closed => rw [piecesWithin, split_brace_iff.mpr ⟨rfl, closed⟩]
  | opened unclosed => rw [piecesWithin, split_brace_none_iff.mpr unclosed]
  | doubled => rw [piecesWithin]
  | lone brace single unnamed => rw [piecesWithin, unnamed] <;> assumption
  | bare named =>
      rename_i rest
      have start {c : Char} (other : isNameChar c = false) (tail : List Char) :
          rest ≠ c :: tail := by
        rintro rfl
        exact named (by simp [other])
      rw [piecesWithin]
      · split
        · contradiction
        · rfl
      · exact start (by decide)
      · exact start (by decide)
  | plain other =>
      rw [piecesWithin]
      all_goals simp [other]

theorem by_first {motive : List Char → Prop} (text : List Char) (nil : motive [])
    (step : ∀ {text piece rest}, First text piece rest → motive rest → motive text) :
    motive text := by
  induction length : text.length using Nat.strongRecOn generalizing text with
  | ind n ih =>
      by_cases empty : text = []
      · rwa [empty]
      · obtain ⟨piece, rest, first⟩ := first_of_ne_nil empty
        exact step first (ih rest.length (length ▸ first.shorter) rest rfl)

/-- The bound on the number of pieces is none where it is above the length of the text. -/
theorem pieces_within_eq {fuel other : Nat} (enough : text.length < fuel)
    (also : text.length < other) : piecesWithin fuel text = piecesWithin other text := by
  induction text using by_first generalizing fuel other with
  | nil => cases fuel <;> cases other <;> rfl
  | step first ih =>
      have shorter := first.shorter
      cases fuel with
      | zero => contradiction
      | succ fuel =>
          cases other with
          | zero => contradiction
          | succ other =>
              rw [first.within, first.within,
                ih (Nat.lt_of_lt_of_le shorter (Nat.le_of_lt_succ enough))
                  (Nat.lt_of_lt_of_le shorter (Nat.le_of_lt_succ also))]

theorem First.pieces_eq (first : First text piece rest) : pieces text = piece :: pieces rest := by
  rw [pieces, first.within, pieces_within_eq first.shorter (Nat.lt_succ_self _)]
  rfl

theorem split_default_behind (undivided : ':' ∉ name) (rest : List Char) :
    splitDefault (name ++ rest) = (name ++ (splitDefault rest).1, (splitDefault rest).2) := by
  induction name with
  | nil => rfl
  | cons c name ih =>
      obtain ⟨other, later⟩ := not_or.mp (mt List.mem_cons.mpr undivided)
      rw [List.cons_append, splitDefault, ih later, List.cons_append]
      rintro tail rfl
      exact absurd rfl other

structure Nameable (name : List Char) : Prop where
  filled : name ≠ []
  unclosed : '\x7d' ∉ name
  undivided : ':' ∉ name

theorem nameable_of_word (filled : name ≠ [])
    (word : ∀ c ∈ name, c.isAlphanum = true ∨ c = '_') : Nameable name where
  filled := filled
  unclosed member := by simpa using word _ member
  undivided member := by simpa using word _ member

def Fits (fallback : Option (List Char)) : Prop :=
  ∀ text ∈ fallback, '\x7d' ∉ text

theorem Nameable.first (nameable : Nameable name) {fallback : Option (List Char)}
    (fits : Fits fallback) (rest : List Char) :
    First (source (.braced name fallback) ++ rest) (.braced name fallback) rest := by
  cases fallback with
  | none =>
      have divided : splitDefault name = (name, none) := by
        simpa [splitDefault] using split_default_behind nameable.undivided []
      have piece : bracedPiece name = .braced name none := by
        rw [bracedPiece, divided]
        split <;> simp_all
      have first : First ('$' :: '\x7b' :: (name ++ '\x7d' :: rest)) (bracedPiece name) rest :=
        .braced nameable.unclosed
      simpa [source, piece] using first
  | some fallback =>
      let inner := name ++ ':' :: '-' :: fallback
      have divided : splitDefault inner = (name, some fallback) := by
        simpa [splitDefault] using split_default_behind nameable.undivided (':' :: '-' :: fallback)
      have piece : bracedPiece inner = .braced name (some fallback) := by
        rw [bracedPiece, divided]
        split <;> simp_all [nameable.filled]
      have closed : '\x7d' ∉ inner := by
        simp [inner, nameable.unclosed, fits fallback rfl]
      have first : First ('$' :: '\x7b' :: (inner ++ '\x7d' :: rest)) (bracedPiece inner) rest :=
        .braced closed
      simpa [source, inner, piece] using first

theorem Nameable.expand_eq (nameable : Nameable name) {fallback : Option (List Char)}
    (fits : Fits fallback) (environment : Environment) (rest : List Char) :
    expand environment (source (.braced name fallback) ++ rest) =
      render environment (.braced name fallback) ++ expand environment rest := by
  rw [expand, (nameable.first fits rest).pieces_eq, List.flatMap_cons]
  rfl

theorem expand_behind {front : List Char} (plain : '$' ∉ front) (environment : Environment)
    (rest : List Char) :
    expand environment (front ++ rest) = front ++ expand environment rest := by
  induction front with
  | nil => rfl
  | cons c front ih =>
      obtain ⟨other, later⟩ := not_or.mp (mt List.mem_cons.mpr plain)
      have first : First (c :: (front ++ rest)) (.plain [c]) (front ++ rest) :=
        .plain (Ne.symm other)
      rw [List.cons_append, expand, first.pieces_eq, List.flatMap_cons, List.cons_append]
      exact congrArg (c :: ·) (ih later)

/-- Whether no piece of a text begins with two dollar signs: none stand side by side but between
braces. -/
inductive Single : List Char → Prop
  | nil : Single []
  | first {text rest : List Char} {piece : Piece} (first : First text piece rest)
    (apart : ∀ tail, text ≠ '$' :: '$' :: tail) (single : Single rest) : Single text

theorem source_braced_piece (inner : List Char) :
    source (bracedPiece inner) = '$' :: '\x7b' :: (inner ++ ['\x7d']) := by
  have divided (inner : List Char) : match splitDefault inner with
      | (name, some fallback) => inner = name ++ ':' :: '-' :: fallback
      | (name, none) => inner = name := by
    fun_induction splitDefault inner with
    | case1 => rfl
    | case2 => rfl
    | case3 c rest apart name fallback split ih =>
        rw [split] at ih
        cases fallback <;> simp_all
  have parts := divided inner
  rw [bracedPiece]
  split
  · rfl
  · rename_i name fallback _ split
    rw [split] at parts
    cases fallback <;> simp [source, parts]

/-- A piece stands in the text as it looks, but for the second of two dollar signs. -/
theorem First.source_eq (first : First text piece rest)
    (apart : ∀ tail, text ≠ '$' :: '$' :: tail) :
    source piece ++ rest = text := by
  cases first with
  | braced closed => simp [source_braced_piece]
  | opened unclosed => rfl
  | doubled => exact absurd rfl (apart rest)
  | lone brace single unnamed => rfl
  | bare named => exact congrArg ('$' :: ·) List.takeWhile_append_dropWhile
  | plain other => rfl

theorem First.of_doubled (first : First ('$' :: '$' :: text) piece rest) :
    piece = .plain ['$'] ∧ rest = text := by
  cases first with
  | doubled => exact ⟨rfl, rfl⟩
  | lone brace single unnamed => exact absurd rfl (single text)
  | bare named => exact absurd rfl named
  | plain other => contradiction

/-- What a text looks like with two dollar signs as one. -/
theorem sources_length (text : List Char) :
    ((pieces text).flatMap source).length ≤ text.length := by
  induction text using by_first with
  | nil => exact Nat.le_refl _
  | @step text piece rest first ih =>
      rw [first.pieces_eq, List.flatMap_cons, List.length_append]
      by_cases doubled : ∃ tail, text = '$' :: '$' :: tail
      · obtain ⟨tail, rfl⟩ := doubled
        obtain ⟨rfl, rfl⟩ := first.of_doubled
        exact (Nat.add_le_add_left ih 1).trans (by simp [Nat.add_comm])
      · rw [← first.source_eq (not_exists.mp doubled), List.length_append]
        exact Nat.add_le_add_left ih _

theorem sources_eq_iff : (pieces text).flatMap source = text ↔ Single text := by
  constructor
  · intro same
    induction text using by_first with
    | nil => exact .nil
    | @step text piece rest first ih =>
        rw [first.pieces_eq, List.flatMap_cons] at same
        have apart (tail : List Char) : text ≠ '$' :: '$' :: tail := by
          rintro rfl
          obtain ⟨rfl, rfl⟩ := first.of_doubled
          have doubled : (pieces rest).flatMap source = '$' :: rest := (List.cons.inj same).2
          have length := sources_length rest
          rw [doubled] at length
          exact absurd length (Nat.not_succ_le_self _)
        have later := List.append_cancel_left (same.trans (first.source_eq apart).symm)
        exact .first first apart (ih later)
  · intro single
    induction single with
    | nil => rfl
    | first first apart _ ih => rw [first.pieces_eq, List.flatMap_cons, ih, first.source_eq apart]

def referred? : Piece → Option String
  | .plain _ => none
  | .braced name _ => some (String.ofList name)
  | .bare name => some (String.ofList name)

/-- Whether a piece is no reference but to an unset variable, between braces and without a
default. -/
def LeftAlone (environment : Environment) : Piece → Prop
  | .plain _ => True
  | .braced name none => environment.get? (String.ofList name) = none
  | _ => False

instance (environment : Environment) : DecidablePred (LeftAlone environment)
  | .plain _ => .isTrue trivial
  | .braced name none => inferInstanceAs (Decidable (environment.get? (String.ofList name) = none))
  | .braced _ (some _) | .bare _ => .isFalse id

theorem render_left_alone {environment : Environment} (alone : LeftAlone environment piece) :
    render environment piece = source piece := by
  cases piece with
  | plain text => rfl
  | braced name fallback =>
      cases fallback with
      | none =>
          have unset : Unset environment (.braced name none) := alone
          exact render_unset unset
      | some fallback => contradiction
  | bare name => contradiction

theorem render_agrees {environment other : Environment}
    (agree : ∀ name ∈ referred? piece, environment.get? name = other.get? name) :
    render environment piece = render other piece := by
  cases piece with
  | plain text => rfl
  | braced name fallback =>
      have same : value? environment name = value? other name := congrArg _ (agree _ rfl)
      cases fallback <;> rw [render, render, same]
  | bare name =>
      have same : value? environment name = value? other name := congrArg _ (agree _ rfl)
      rw [render, render, same]

end Expansion

open Expansion

structure Replaces (environment : Environment) : Prop where
  /-- What a reference gives way to is left as it is, and so is what stands in front of it. -/
  reference (front name : List Char) (fallback : Option (List Char)) (rest : List Char) :
    '$' ∉ front → Nameable name → Fits fallback →
      expand environment (front ++ (source (.braced name fallback) ++ rest)) =
        front ++ (((environment.get? (String.ofList name)).map String.toList).getD
          (fallback.getD (source (.braced name none))) ++ expand environment rest)
  plain {text : List Char} : '$' ∉ text → expand environment text = text
  doubled {front : List Char} (rest : List Char) : '$' ∉ front →
    expand environment (front ++ '$' :: '$' :: rest) = front ++ '$' :: expand environment rest
  /-- A text is left as it is if all its references are, but for two dollar signs. -/
  alone {text : List Char} : (∀ piece ∈ pieces text, LeftAlone environment piece) →
    (expand environment text = text ↔ Single text)
  referred {text : List Char} (other : Environment) :
    (∀ piece ∈ pieces text, ∀ name ∈ referred? piece,
      environment.get? name = other.get? name) → expand environment text = expand other text

theorem references_are_replaced_one_by_one (environment : Environment) : Replaces environment where
  reference front name fallback rest plain nameable fits := by
    rw [expand_behind plain, nameable.expand_eq fits]
    cases fallback <;> rfl
  plain := still_of_plain environment
  doubled rest plain := by
    rw [expand_behind plain, expand, First.doubled.pieces_eq]
    rfl
  alone {text} alone := by
    have sources : expand environment text = (pieces text).flatMap source :=
      List.flatMap_congr fun piece listed => render_left_alone (alone piece listed)
    rw [sources, sources_eq_iff]
  referred other agree := List.flatMap_congr fun piece listed => render_agrees (agree piece listed)

/-- A value with a reference in it is put in as it is, before a default. -/
theorem inserted_value_stays :
    expand (Mapping.empty.insert "V" "$\x7bV\x7d") "k = $\x7bV\x7d$\x7bW:-v\x7d".toList =
      "k = $\x7bV\x7dv".toList := by
  have replaces := references_are_replaced_one_by_one (Mapping.empty.insert "V" "$\x7bV\x7d")
  have word (c : Char) (letter : c.isAlphanum = true) : Nameable [c] :=
    nameable_of_word (List.cons_ne_nil c []) (by simp [letter])
  have first := replaces.reference ['k', ' ', '=', ' '] ['V'] none
    (source (.braced ['W'] (some ['v'])) ++ []) (by decide) (word 'V' (by decide)) nofun
  have second := replaces.reference [] ['W'] (some ['v']) [] (by decide) (word 'W' (by decide))
    (by simp [Fits])
  exact first.trans (congrArg ("k = $\x7bV\x7d".toList ++ ·) second)

/-- One of two dollar signs is lost, though the only reference is to an unset variable. -/
theorem doubled_sign_is_lost :
    ¬ ∀ (environment : Environment) (text : List Char),
      (∀ piece ∈ pieces text, LeftAlone environment piece) → expand environment text = text := by
  intro unchanged
  have same := unchanged .empty "$$ $\x7bV\x7d".toList (by decide)
  exact absurd same (by decide)

end CertSteward.Config
