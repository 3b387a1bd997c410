import CertSteward.Proofs.Config.RoundTrip
import CertSteward.Proofs.Toml.Decoding
import CertSteward.Proofs.Toml.Places

/-!
# Tokens from the environment

A reference is replaced in the text of the file, before the text is read. A
value of characters that stand for themselves between double quotes so becomes
the token of its profile and changes nothing else. A value with a double quote
in it ends the string that the file began.
-/

namespace CertSteward

set_option autoImplicit false

open Toml (Value Entries)

theorem Profile.keeps_token :
    Profile.tomlShape.Keeps "access_token" Toml.Decoder.text fun value record =>
      { record with accessToken := some value } where
  known := ⟨_, rfl, fun _ _ => rfl⟩
  again _ _ _ := rfl
  apart := by
    intro field member other held value record
    simp only [Profile.tomlShape, List.mem_cons, List.not_mem_nil, or_false] at member
    obtain rfl | rfl | rfl | rfl | rfl := member
    case inr.inr.inl => exact absurd rfl other
    all_goals
      simp only [Toml.Field.needed, Toml.Field.defaulted]
      first
        | cases Toml.Decoder.text value <;> rfl
        | cases Profile.secondsToml value <;> rfl

theorem Config.keeps_profiles :
    Config.shape.Keeps "profiles" (Toml.Decoder.mapping Profile.tomlShape.decoder)
      fun value record => { record with profiles := value } where
  known := ⟨_, rfl, fun _ _ => rfl⟩
  again _ _ _ := rfl
  apart := by
    intro field member other held value record
    simp only [Config.shape, List.mem_cons, List.not_mem_nil, or_false] at member
    obtain rfl | rfl := member
    · simp only [Toml.Field.defaulted]
      cases Toml.Decoder.text value <;> rfl
    · exact absurd rfl other

/-- Tables of repeated headers are no profile. -/
theorem Profile.no_tables {front back : List Entries} {entries : Entries} {profile : Profile}
    (decodes : Profile.tomlShape.decoder (.tables (front ++ entries :: back)) = .ok profile) :
    False := by
  cases front <;> contradiction

theorem Profile.decode_retold {new : String} {value other : Value} {profile : Profile}
    (told : Value.Retold new ["access_token"] value other) (distinct : value.Distinct)
    (decodes : Profile.tomlShape.decoder value = .ok profile) :
    Profile.tomlShape.decoder other = .ok { profile with accessToken := some new } := by
  cases told with
  | table kind found inner =>
      cases inner with
      | text old =>
          have names := (Value.distinct_table.mp distinct).1
          obtain ⟨held, -, -, puts⟩ := Profile.keeps_token.decode_put names found decodes
          exact puts (.text new) new rfl
      | element front back inner => cases inner
  | element front back inner => exact (Profile.no_tables decodes).elim

theorem Config.decode_retold {new name : String} {entries other : Entries} {config : Config}
    {kind : Toml.TableKind} (told : entries.Retold new ["profiles", name, "access_token"] other)
    (distinct : entries.Distinct)
    (decodes : Config.shape.decoder (.table kind entries) = .ok config) :
    ∃ profile, config.profiles.get? name = some profile ∧
      Config.shape.decoder (.table kind other) =
        .ok (config.setProfile name { profile with accessToken := some new }) := by
  obtain ⟨_, _, value, retold, same, found, inner, rfl⟩ := Entries.retold_iff.mp told
  cases same
  obtain ⟨profiles, decoded, held, puts⟩ :=
    Config.keeps_profiles.decode_put distinct.1 found decodes
  have inside := Entries.distinct_of_find distinct found
  cases inner with
  | table deep known further =>
      have names := Value.distinct_table.mp inside
      obtain ⟨profile, decodedProfile, listed, replaces⟩ := Toml.mapping_put names.1 known decoded
      have again :=
        Profile.decode_retold further (Entries.distinct_of_find names known) decodedProfile
      refine ⟨profile, ?_, ?_⟩
      · rw [← held]
        exact listed
      · have final := puts _ _ (replaces _ _ again)
        rw [final, setProfile, ← held]
  | element front back inner => contradiction

namespace Config

/-- Whether a text gives a profile the token `"${key}"` and has no other reference in it. -/
def GivesToken (text : List Char) (key profile : String) : Prop :=
  ∃ (before behind : List (List Char)) (front after : List Char),
    Expansion.pieces text =
        before.map .plain ++ .braced key.toList none :: behind.map .plain ∧
      before.flatten = front ++ ['"'] ∧ behind.flatten = '"' :: after ∧
        Toml.Reaches (Expansion.source (.braced key.toList none)) after []
          ["profiles", profile, "access_token"] (Toml.dropMark (expand .empty text))

theorem render_plain (environment : Environment) (texts : List (List Char)) :
    (texts.map Piece.plain).flatMap (Expansion.render environment) = texts.flatten := by
  induction texts with
  | nil => rfl
  | cons text texts ih =>
      rw [List.map_cons, List.flatMap_cons, ih]
      rfl

/-- Whether a text can stand between double quotes as it is. -/
def StandsForItself (text : List Char) : Prop :=
  ∀ c ∈ text, Toml.isPlain c = true ∧ c ≠ '"' ∧ c ≠ '\\'

theorem read_itself {text : List Char} (plain : StandsForItself text) (after : List Char) :
    Toml.readBasic (text ++ '"' :: after) = some (text, after) := by
  induction text with
  | nil => rfl
  | cons c text ih =>
      obtain ⟨printable, inside, slashless⟩ := plain c List.mem_cons_self
      rw [List.cons_append, Toml.read_basic_plain printable slashless inside,
        ih fun other member => plain other (List.mem_cons_of_mem c member)]
      rfl

theorem read_quoted_itself {text : String} (filled : text ≠ "")
    (plain : StandsForItself text.toList) (after : List Char) :
    Toml.readString ('"' :: (text.toList ++ '"' :: after)) = some (text, after) := by
  have read := read_itself plain after
  have some_char : text.toList ≠ [] := fun none_ => filled (String.toList_eq_nil_iff.mp none_)
  have single (tail : List Char) : text.toList ++ '"' :: after ≠ '"' :: '"' :: tail := by
    cases chars : text.toList with
    | nil => contradiction
    | cons c rest =>
        intro same
        exact (plain c (by rw [chars]; exact List.mem_cons_self)).2.1 (List.cons.inj same).1
  rw [Toml.readString]
  · exact Toml.string_eq_some.mpr read
  · exact single

/-- Around its only reference a text is the same in every environment. -/
theorem expand_around {text : List Char} {before behind : List (List Char)} {reference : Piece}
    (pieces : Expansion.pieces text = before.map .plain ++ reference :: behind.map .plain)
    (environment : Environment) :
    expand environment text =
      before.flatten ++ (Expansion.render environment reference ++ behind.flatten) := by
  rw [expand, pieces, List.flatMap_append, List.flatMap_cons, render_plain, render_plain]

theorem render_known {environment : Environment} {key value : String}
    (known : environment.get? key = some value) :
    Expansion.render environment (.braced key.toList none) = value.toList := by
  rw [Expansion.render, Expansion.value?, String.ofList_toList, known]
  rfl

theorem decode_eq_ok {text : List Char} {config : Config} :
    decode text = .ok config ↔
      ∃ entries, Toml.read text = some entries ∧
        shape.decoder (.table .header entries) = .ok config := by
  unfold decode Toml.Decoder.ofText
  cases Toml.read text with
  | none => simp
  | some entries => simp

theorem read_eq_ok {environment : Environment} {text : List Char} {config : Config} :
    read environment text = .ok config ↔ decode (expand environment text) = .ok config := by
  unfold read
  cases decode (expand environment text) with
  | error fault => simp [Except.mapError]
  | ok known => simp [Except.mapError]

/-- A value of characters that stand for themselves takes the place of its reference, in the profile
that holds it and nowhere else. -/
theorem read_with_value {text : List Char} {key name value : String} {stated : Config}
    (gives : GivesToken text key name) (stands : read .empty text = .ok stated)
    {environment : Environment} (known : environment.get? key = some value)
    (filled : value ≠ "") (plain : StandsForItself value.toList) :
    ∃ profile, stated.profiles.get? name = some profile ∧
      read environment text =
        .ok (stated.setProfile name { profile with accessToken := some value }) := by
  obtain ⟨before, behind, front, after, pieces, opening, closing, reaches⟩ := gives
  have around := expand_around pieces
  rw [opening, closing] at around
  have unset : Expansion.render .empty (.braced key.toList none) =
      Expansion.source (.braced key.toList none) := rfl
  have begun := around .empty
  rw [unset] at begun
  rw [begun] at reaches
  obtain ⟨entries, found, decodes⟩ := decode_eq_ok.mp (read_eq_ok.mp stands)
  rw [begun] at found
  obtain ⟨other, again, told⟩ := Toml.read_retold (by simp) reaches
    (read_quoted_itself filled plain after) found
  obtain ⟨profile, listed, decoded⟩ := decode_retold told (Toml.distinct_of_read found) decodes
  refine ⟨profile, listed, read_eq_ok.mpr (decode_eq_ok.mpr ⟨other, ?_, decoded⟩)⟩
  rw [around environment, render_known known]
  exact again

namespace Store

variable {store : Store} {path text key name value : String} {place : Path} {stated : Config}

/-- A file that gives a profile the token `"${key}"`, and has no other reference in it, is loaded
with the value of the variable as the token, whatever else the environment holds, where each
character of the value may stand for itself. -/
theorem token_is_value_of_variable (located : store.locate? path = some place)
    (stored : store.tree.readText place = .ok (some text)) (gives : GivesToken text.toList key name)
    (stands : store.load .empty path = .ok stated) {environment : Environment}
    (known : environment.get? key = some value) (filled : value ≠ "")
    (plain : StandsForItself value.toList) :
    ∃ profile, stated.profiles.get? name = some profile ∧
      store.load environment path =
        .ok (stated.setProfile name { profile with accessToken := some value }) := by
  have reads (other : Environment) : store.load other path = read other text.toList := by
    unfold load
    rw [located]
    dsimp only
    rw [stored]
  rw [reads] at stands ⊢
  exact read_with_value gives stands known filled plain

def tokenText : String :=
  "[profiles.prod]\naccess_token = \"$\x7bV\x7d\"\nproject_id = \"certs\"\n"

def tokenFile : Store :=
  ⟨"/home/steward", [(["config.toml"], .file (Text.Utf8.encode tokenText))]⟩

theorem locate_token_file :
    tokenFile.locate? "/home/steward/config.toml" = some ["config.toml"] := by
  decide +kernel

theorem read_token_file : tokenFile.tree.readText ["config.toml"] = .ok (some tokenText) := by
  decide

theorem token_text_gives : GivesToken tokenText.toList "V" "prod" := by
  have header : Toml.readHeader tokenText.toList =
      some (.table ⟨["profiles"], "prod"⟩,
        "access_token = \"$\x7bV\x7d\"\nproject_id = \"certs\"\n".toList) := by
    decide
  have key : Toml.readKey "access_token = \"$\x7bV\x7d\"\nproject_id = \"certs\"\n".toList =
      some (⟨[], "access_token"⟩, "= \"$\x7bV\x7d\"\nproject_id = \"certs\"\n".toList) := by
    decide
  have given : Toml.readString
      ('"' :: (Expansion.source (.braced "V".toList none) ++
        '"' :: "\nproject_id = \"certs\"\n".toList)) =
      some ("$\x7bV\x7d", "\nproject_id = \"certs\"\n".toList) := by
    decide
  have whole : Toml.dropMark (expand .empty tokenText.toList) = tokenText.toList := by
    decide
  refine ⟨"[profiles.prod]\naccess_token = \"".toList.map ([·]),
    "\"\nproject_id = \"certs\"\n".toList.map ([·]), "[profiles.prod]\naccess_token = ".toList,
    "\nproject_id = \"certs\"\n".toList, by decide, by decide, by decide, ?_⟩
  rw [whole]
  exact .pastHeader rfl header (.line rfl key rfl (.here 0 given))

def tokenConfig (token url : String) : Config :=
  ⟨none, Mapping.empty.insert "prod"
    { Profile.new "certs" with accessToken := some token, apiUrl := url }⟩

theorem token_file_stands :
    tokenFile.load .empty "/home/steward/config.toml" =
      .ok (tokenConfig "$\x7bV\x7d" defaultApiUrl) := by
  decide +kernel

theorem token_file_profile :
    (tokenConfig "$\x7bV\x7d" defaultApiUrl).profiles.get? "prod" =
      some { Profile.new "certs" with accessToken := some "$\x7bV\x7d" } := by
  decide

/-- A dollar sign and the marks of the format may be in a value. -/
theorem marked_token_is_loaded :
    tokenFile.load (Mapping.empty.insert "V" "a$b = [#]") "/home/steward/config.toml" =
      .ok (tokenConfig "a$b = [#]" defaultApiUrl) := by
  have plain : StandsForItself "a$b = [#]".toList := by
    simp [StandsForItself, Toml.isPlain]
  obtain ⟨profile, listed, loaded⟩ := token_is_value_of_variable locate_token_file read_token_file
    token_text_gives token_file_stands
    (show (Mapping.empty.insert "V" "a$b = [#]").get? "V" = some "a$b = [#]" by decide)
    (by decide) plain
  rw [token_file_profile] at listed
  obtain rfl := Option.some.inj listed
  rw [loaded]
  decide

/-- A value with a double quote in it ends its string, and what follows is read as more lines. -/
theorem quoted_value_leaves_its_string :
    ¬ ∀ (store : Store) (path text key name value : String) (place : Path) (stated : Config)
      (environment : Environment), store.locate? path = some place →
        store.tree.readText place = .ok (some text) → GivesToken text.toList key name →
          store.load .empty path = .ok stated → environment.get? key = some value → value ≠ "" →
            ∃ profile, stated.profiles.get? name = some profile ∧
              store.load environment path =
                .ok (stated.setProfile name { profile with accessToken := some value }) := by
  intro claimed
  obtain ⟨profile, listed, loaded⟩ := claimed tokenFile _ _ "V" "prod"
    "x\"\napi_url = \"http://localhost:9000/compute/v1/" _ _
    (Mapping.empty.insert "V" "x\"\napi_url = \"http://localhost:9000/compute/v1/")
    locate_token_file read_token_file token_text_gives token_file_stands (by decide)
    (by decide)
  have other : tokenFile.load
      (Mapping.empty.insert "V" "x\"\napi_url = \"http://localhost:9000/compute/v1/")
      "/home/steward/config.toml" =
        .ok (tokenConfig "x" "http://localhost:9000/compute/v1/") := by
    decide +kernel
  rw [token_file_profile] at listed
  obtain rfl := Option.some.inj listed
  have same := Except.ok.inj (other.symm.trans loaded)
  exact absurd same (by decide)

end Store

end Config

end CertSteward
