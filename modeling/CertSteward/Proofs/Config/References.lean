import CertSteward.Proofs.Config.Tokens
import CertSteward.Proofs.Mapping
import CertSteward.Proofs.Profile.Clients
import CertSteward.Proofs.Toml.Stretches

/-!
# References that stay in a token

A reference to a variable that is unset is left in the text of the file, and if
it stands in the token of a profile it is left in the token. The other profiles
are loaded as if nothing were amiss, and the token is turned away as soon as it
is needed, wherever the name stands between braces. A name without braces is
left in the token unseen.
-/

namespace CertSteward

set_option autoImplicit false

open Profile (openBrace)
open Toml (Steady)

namespace Config

variable {environment : Environment}

def Unset (environment : Environment) : Piece → Prop
  | .plain _ => False
  | .braced name none => environment.get? (String.ofList name) = none
  | .braced _ (some _) => False
  | .bare name => environment.get? (String.ofList name) = none

theorem render_unset {reference : Piece} (unset : Unset environment reference) :
    Expansion.render environment reference = Expansion.source reference := by
  have left (name : List Char) (none_ : environment.get? (String.ofList name) = none) :
      Expansion.value? environment name = none := by
    rw [Expansion.value?, none_]
    rfl
  cases reference with
  | plain text => contradiction
  | braced name fallback =>
      cases fallback with
      | none => rw [Expansion.render, left name unset, Option.getD_none]
      | some fallback => contradiction
  | bare name => rw [Expansion.render, left name unset, Option.getD_none]

def mark : Piece → List Char
  | .bare name => '$' :: name
  | _ => openBrace

theorem steady_of_name_char {c : Char} (named : Expansion.isNameChar c = true) : Steady c := by
  have apart {other : Char} (unnamed : Expansion.isNameChar other = false) : c ≠ other := by
    rintro rfl
    exact Bool.noConfusion (named.symm.trans unnamed)
  refine ⟨?_, apart (by decide), apart (by decide), apart (by decide)⟩
  have letters : ∀ n < 0x80, (Char.ofNat n).isAlphanum = true → 0x20 ≤ n ∧ n ≠ 0x7F := by
    decide +kernel
  have printable : 0x20 ≤ c.toNat ∧ c.toNat ≠ 0x7F := by
    by_cases ascii : c.toNat < 0x80
    · obtain letter | rfl : c.isAlphanum = true ∨ c = '_' := by
        simpa [Expansion.isNameChar, Text.isAlphanumeric, ascii] using named
      · exact letters c.toNat ascii (by rwa [Char.ofNat_toNat])
      · decide
    · omega
  simp [Toml.isPlain, printable]

theorem bare_behind {name : List Char} {head : Piece} {rest : List Piece}
    (other : ∀ key, head ≠ .bare key) (listed : .bare name ∈ head :: rest) : .bare name ∈ rest :=
  (List.mem_cons.mp listed).resolve_left fun same => other name same.symm

theorem braced_not_bare (inner key : List Char) : Expansion.bracedPiece inner ≠ .bare key := by
  unfold Expansion.bracedPiece
  split <;> exact Piece.noConfusion

/-- A name without braces is made of the characters of names. -/
theorem name_chars_of_bare {fuel : Nat} {text name : List Char}
    (listed : .bare name ∈ Expansion.piecesWithin fuel text) :
    ∀ c ∈ name, Expansion.isNameChar c = true := by
  fun_induction Expansion.piecesWithin fuel text with
  | case1 => contradiction
  | case2 => contradiction
  | case3 fuel rest inner after _ ih => exact ih (bare_behind (braced_not_bare inner) listed)
  | case4 fuel rest _ ih => exact ih (bare_behind (by simp) listed)
  | case5 fuel rest ih => exact ih (bare_behind (by simp) listed)
  | case6 fuel rest _ _ _ ih => exact ih (bare_behind (by simp) listed)
  | case7 fuel rest _ _ _ ih =>
      obtain first | later := List.mem_cons.mp listed
      · cases first
        exact fun c member => List.mem_takeWhile_imp member
      · exact ih later
  | case8 fuel c rest _ _ _ ih => exact ih (bare_behind (by simp) listed)

/-- A text with a gap in one of its strings: what is in front of the string, the string up to the
gap, the rest of the string with its closing, and what follows the string. -/
structure Gap where
  front : List Char
  opened : List Char
  closed : List Char
  after : List Char

namespace Gap

def string (gap : Gap) (inner : List Char) : List Char :=
  gap.opened ++ (inner ++ (gap.closed ++ gap.after))

def fill (gap : Gap) (inner : List Char) : List Char :=
  gap.front ++ gap.string inner

/-- Whether the gap is in the token of a profile, with a text in it. -/
structure InToken (gap : Gap) (name : String) (inner : List Char) (token : String) : Prop where
  begun : gap.opened ≠ []
  comes : Toml.Comes (gap.string inner) [] ["profiles", name, "access_token"]
    (Toml.dropMark (gap.fill inner))
  read : Toml.readString (gap.string inner) = some (token, gap.after)

/-- Whether a text has a reference in it that comes to stand in the gap, with everything else
replaced. -/
def Refers (gap : Gap) (environment : Environment) (text : List Char) (reference : Piece) : Prop :=
  ∃ before behind, Expansion.pieces text = before ++ reference :: behind ∧
    before.flatMap (Expansion.render environment) = gap.front ++ gap.opened ∧
      behind.flatMap (Expansion.render environment) = gap.closed ++ gap.after

variable {gap : Gap} {text : List Char} {reference : Piece} {name token written : String}
  {other : List Char} {stated : Config}

theorem expand_eq (refers : gap.Refers environment text reference)
    (unset : Unset environment reference) :
    expand environment text = gap.fill (Expansion.source reference) := by
  obtain ⟨before, behind, pieces, opening, closing⟩ := refers
  rw [expand, pieces, List.flatMap_append, List.flatMap_cons, opening, closing,
    render_unset unset, fill, string, List.append_assoc]

/-- A text in a gap of a token can be replaced by another one, and only that token differs. -/
theorem decode_filled (held : gap.InToken name other written)
    (stands : decode (gap.fill other) = .ok stated) {inner : List Char}
    (again : Toml.readString (gap.string inner) = some (token, gap.after)) :
    ∃ profile, stated.profiles.get? name = some profile ∧
      decode (gap.fill inner) =
        .ok (stated.setProfile name { profile with accessToken := some token }) := by
  have whole (filling : List Char) :
      gap.fill filling = (gap.front ++ gap.opened) ++ (filling ++ (gap.closed ++ gap.after)) := by
    rw [fill, string, List.append_assoc]
  have begun : gap.front ++ gap.opened ≠ [] := fun none_ =>
    held.begun (List.append_eq_nil_iff.mp none_).2
  obtain ⟨entries, found, decodes⟩ := decode_eq_ok.mp stands
  have comes := held.comes
  rw [whole] at found comes
  obtain ⟨changed, reads, told⟩ :=
    Toml.read_string_retold gap.opened begun held.begun comes held.read again found
  obtain ⟨profile, listed, decoded⟩ := decode_retold told (Toml.distinct_of_read found) decodes
  refine ⟨profile, listed, decode_eq_ok.mpr ⟨changed, ?_, decoded⟩⟩
  rw [whole]
  exact reads

/-- The mark of a reference is in the token that holds the reference. -/
theorem mark_in_token (refers : gap.Refers environment text reference)
    (unset : Unset environment reference)
    (read : Toml.readString (gap.string (Expansion.source reference)) = some (token, gap.after)) :
    mark reference <:+: token.toList := by
  have inside (rest : List Char) :
      gap.after.length ≤ (rest ++ (gap.closed ++ gap.after)).length := by
    simp only [List.length_append]
    omega
  cases reference with
  | plain text => contradiction
  | braced key fallback =>
      cases fallback with
      | some fallback => contradiction
      | none =>
          have brace : ∀ c ∈ ['\x7b'], Steady c := by simp [Steady, Toml.isPlain]
          have same : gap.string (Expansion.source (.braced key none)) =
              gap.opened ++
                '$' :: (['\x7b'] ++ (key ++ ['\x7d'] ++ (gap.closed ++ gap.after))) := rfl
          rw [same] at read
          exact Toml.stretch_in_string brace read (inside _)
  | bare key =>
      obtain ⟨before, behind, pieces, -, -⟩ := refers
      have listed : .bare key ∈ Expansion.pieces text := by simp [pieces]
      have steady : ∀ c ∈ key, Steady c := fun c member =>
        steady_of_name_char (name_chars_of_bare listed c member)
      exact Toml.stretch_in_string steady read (inside [])

end Gap

namespace Store

variable {store : Store} {path text name token written : String} {place : Path} {gap : Gap}
  {reference : Piece} {other : List Char} {stated : Config}

/-- A reference to an unset variable stays in the token that it stands in, and all the rest of the
file is loaded as it is with any other token there. -/
theorem load_with_reference (located : store.locate? path = some place)
    (stored : store.tree.readText place = .ok (some text))
    (refers : gap.Refers environment text.toList reference)
    (unset : Unset environment reference) (held : gap.InToken name other written)
    (stands : decode (gap.fill other) = .ok stated)
    (reads : Toml.readString (gap.string (Expansion.source reference)) = some (token, gap.after)) :
    ∃ profile, stated.profiles.get? name = some profile ∧
      store.load environment path =
        .ok (stated.setProfile name { profile with accessToken := some token }) := by
  obtain ⟨profile, listed, decoded⟩ := gap.decode_filled held stands reads
  have loaded : store.load environment path = read environment text.toList := by
    unfold load
    rw [located]
    dsimp only
    rw [stored]
  refine ⟨profile, listed, ?_⟩
  rw [loaded, read_eq_ok, Gap.expand_eq refers unset]
  exact decoded

/-- A file with a reference to an unset variable in a token is loaded as it stands, and only the
profile of that token is turned away: always for a name between braces, and for a name without them
as long as the token holds other braces of the kind. -/
theorem unset_reference_is_turned_away_iff (located : store.locate? path = some place)
    (stored : store.tree.readText place = .ok (some text))
    (refers : gap.Refers environment text.toList reference)
    (unset : Unset environment reference) (held : gap.InToken name other written)
    (stands : decode (gap.fill other) = .ok stated)
    (reads : Toml.readString (gap.string (Expansion.source reference)) = some (token, gap.after)) :
    ∃ profile, stated.profiles.get? name = some profile ∧
      let bearing := { profile with accessToken := some token }
      let loaded := stated.setProfile name bearing
      store.load environment path = .ok loaded ∧
        (∀ apart, apart ≠ name → loaded.profiles.get? apart = stated.profiles.get? apart) ∧
        loaded.profiles.get? name = some bearing ∧
        (∀ key, reference = .braced key none → bearing.TurnedAway token) ∧
        ∀ key, reference = .bare key → '$' :: key <:+: token.toList ∧
          (bearing.TurnedAway token ↔ openBrace <:+: token.toList) ∧
          (¬ openBrace <:+: token.toList → ∀ later,
            bearing.resolveToken later = .ok (some token) ∧
              ∀ client, bearing.client later = .ok client →
                client.authorization = some ("Bearer " ++ token)) := by
  obtain ⟨profile, listed, loads⟩ :=
    load_with_reference located stored refers unset held stands reads
  have marked := Gap.mark_in_token refers unset reads
  refine ⟨profile, listed, loads, ?_, ?_, ?_, ?_⟩
  · intro apart distinct
    rw [setProfile, Mapping.get_insert, if_neg distinct.symm]
  · rw [setProfile, Mapping.get_insert, if_pos rfl]
  · rintro key rfl
    exact Profile.turned_away rfl marked
  · rintro key rfl
    refine ⟨marked, Profile.turned_away_iff rfl, ?_⟩
    intro unmarked later
    have filled : token ≠ "" := by
      rintro rfl
      exact absurd (List.infix_nil.mp marked) (by simp [mark])
    exact ⟨Profile.resolve_unmarked rfl filled unmarked,
      fun client built => Profile.client_shows rfl filled unmarked built⟩

theorem locate_of_root {one two : Store} (same : one.root = two.root) (path : String) :
    one.locate? path = two.locate? path := by
  unfold locate?
  rw [same]

def referringText (reference : String) : String :=
  "[profiles.prod]\naccess_token = '$USER-" ++ reference ++
    "'\nproject_id = \"certs\"\n[profiles.spare]\nproject_id = \"spare\"\n"

def referringFile (reference : String) : Store :=
  ⟨"/home/steward", [(["config.toml"], .file (Text.Utf8.encode (referringText reference)))]⟩

def userAlone : Environment :=
  Mapping.empty.insert "USER" "ci"

def referringGap : Gap where
  front := "[profiles.prod]\naccess_token = ".toList
  opened := "'ci-".toList
  closed := ['\'']
  after := "\nproject_id = \"certs\"\n[profiles.spare]\nproject_id = \"spare\"\n".toList

def referringConfig (token : String) : Config :=
  ⟨none, (Mapping.empty.insert "spare" (Profile.new "spare")).insert "prod"
    { Profile.new "certs" with accessToken := some token }⟩

theorem locate_referring_file (reference : String) :
    (referringFile reference).locate? "/home/steward/config.toml" = some ["config.toml"] :=
  (locate_of_root (show (referringFile reference).root = tokenFile.root from rfl) _).trans
    locate_token_file

theorem read_referring_file (reference : String) :
    (referringFile reference).tree.readText ["config.toml"] =
      .ok (some (referringText reference)) := by
  have found : (referringFile reference).tree.find? ["config.toml"] =
      some (.file (Text.Utf8.encode (referringText reference))) := rfl
  unfold FileTree.readText
  rw [found]
  dsimp only
  rw [Text.Utf8.decode_encode]

/-- A file in pieces, of which one is for the gap. -/
theorem refers_of_pieces {text : List Char} {reference : Piece}
    (pieces : Expansion.pieces text =
      (("[profiles.prod]\naccess_token = '".toList.map fun c => .plain [c]) ++
          [.bare "USER".toList, .plain ['-']]) ++
        reference :: ('\'' :: referringGap.after).map fun c => .plain [c]) :
    referringGap.Refers userAlone text reference :=
  ⟨_, _, pieces, by decide, by decide⟩

theorem braced_reference_stands :
    referringGap.Refers userAlone (referringText "$\x7bTOKEN\x7d").toList
      (.braced "TOKEN".toList none) :=
  refers_of_pieces (by decide +kernel)

theorem bare_reference_stands :
    referringGap.Refers userAlone (referringText "$TOKEN").toList (.bare "TOKEN".toList) :=
  refers_of_pieces (by decide +kernel)

theorem referring_gap_is_in_token : referringGap.InToken "prod" [] "ci-" := by
  have header : Toml.readHeader (referringGap.fill []) =
      some (.table ⟨["profiles"], "prod"⟩, "access_token = ".toList ++ referringGap.string []) := by
    decide
  have key : Toml.readKey ("access_token = ".toList ++ referringGap.string []) =
      some (⟨[], "access_token"⟩, "= ".toList ++ referringGap.string []) := by
    decide
  have whole : Toml.dropMark (referringGap.fill []) = referringGap.fill [] := by
    decide
  refine ⟨by decide, ?_, by decide⟩
  rw [whole]
  exact .pastHeader rfl header (.line rfl key rfl (.here 0))

theorem referring_gap_stands : decode (referringGap.fill []) = .ok (referringConfig "ci-") := by
  decide +kernel

theorem braced_reference_is_turned_away :
    ∃ loaded prod, (referringFile "$\x7bTOKEN\x7d").load userAlone "/home/steward/config.toml" =
        .ok loaded ∧
      loaded.profiles.get? "spare" = some (Profile.new "spare") ∧
      loaded.profiles.get? "prod" = some prod ∧ prod.TurnedAway "ci-$\x7bTOKEN\x7d" := by
  obtain ⟨profile, -, loaded, others, own, away, -⟩ :=
    unset_reference_is_turned_away_iff (locate_referring_file _) (read_referring_file _)
      braced_reference_stands (show userAlone.get? "TOKEN" = none by decide)
      referring_gap_is_in_token referring_gap_stands
      (show _ = some ("ci-$\x7bTOKEN\x7d", referringGap.after) by decide)
  refine ⟨_, _, loaded, ?_, own, away _ rfl⟩
  rw [others "spare" (by decide)]
  decide

/-- A name without braces is left in the token, and nothing turns the profile away. -/
theorem bare_reference_is_shown :
    ¬ ∀ (store : Store) (path text name written token : String) (place : Path) (gap : Gap)
      (reference : Piece) (other : List Char) (stated : Config) (environment : Environment),
      store.locate? path = some place → store.tree.readText place = .ok (some text) →
        gap.Refers environment text.toList reference → Unset environment reference →
          gap.InToken name other written → decode (gap.fill other) = .ok stated →
            Toml.readString (gap.string (Expansion.source reference)) = some (token, gap.after) →
              ∃ loaded profile, store.load environment path = .ok loaded ∧
                loaded.profiles.get? name = some profile ∧ profile.TurnedAway token := by
  intro claimed
  have unset : Unset userAlone (.bare "TOKEN".toList) :=
    show userAlone.get? "TOKEN" = none by decide
  have reads : Toml.readString
      (referringGap.string (Expansion.source (.bare "TOKEN".toList))) =
        some ("ci-$TOKEN", referringGap.after) := by
    decide
  have located := locate_referring_file "$TOKEN"
  have stored := read_referring_file "$TOKEN"
  obtain ⟨profile, -, loads⟩ := load_with_reference located stored bare_reference_stands unset
    referring_gap_is_in_token referring_gap_stands reads
  obtain ⟨loaded, shown, also, listed, away⟩ := claimed _ _ _ _ _ _ _ _ _ _ _ _ located stored
    bare_reference_stands unset referring_gap_is_in_token referring_gap_stands reads
  obtain rfl := Except.ok.inj (loads.symm.trans also)
  rw [setProfile, Mapping.get_insert, if_pos rfl] at listed
  obtain rfl := Option.some.inj listed
  have unmarked : ¬ Profile.hasReference "ci-$TOKEN".toList = true := by
    decide
  exact unmarked ((Profile.has_reference_iff _).mpr ((Profile.turned_away_iff rfl).mp away))

end Store

end Config

end CertSteward
