import CertSteward.Config.Store
import CertSteward.Proofs.Config.Written
import CertSteward.Proofs.Text.Utf8

/-!
# Saved configurations are loaded again

A file that was saved holds the bytes of the written configuration, so loading
it reads that text with its references replaced. Where nothing is replaced, and
so wherever the configuration has no dollar sign in it, the configuration comes
back as it was.
-/

namespace CertSteward.Config

set_option autoImplicit false

/-- Whether replacing the references in a text leaves it as it is. -/
def Still (environment : Environment) (text : List Char) : Prop :=
  expand environment text = text

instance (environment : Environment) (text : List Char) : Decidable (Still environment text) :=
  inferInstanceAs (Decidable (expand environment text = text))

namespace Expansion

theorem pieces_of_plain {text : List Char} (plain : '$' ∉ text) (fuel : Nat)
    (enough : text.length < fuel) :
    piecesWithin fuel text = text.map fun c => .plain [c] := by
  induction text generalizing fuel with
  | nil =>
      cases fuel with
      | zero => rfl
      | succ fuel => rfl
  | cons c text ih =>
      obtain ⟨other, later⟩ := not_or.mp (mt List.mem_cons.mpr plain)
      cases fuel with
      | zero => exact absurd enough (Nat.not_lt_zero _)
      | succ fuel =>
          rw [piecesWithin, ih later fuel (Nat.lt_of_succ_lt_succ enough), List.map_cons]
          -- What begins a reference begins with a dollar sign.
          all_goals
            intros
            simp_all

end Expansion

theorem still_of_plain (environment : Environment) {text : List Char} (plain : '$' ∉ text) :
    Still environment text := by
  rw [Still, expand, Expansion.pieces, Expansion.pieces_of_plain plain _ (Nat.lt_succ_self _),
    List.flatMap_map]
  exact List.flatMap_singleton' text

theorem upper_hex_no_dollar {n : Nat} (nibble : n < 16) : Toml.upperHexDigit n ≠ '$' :=
  (by decide : ∀ n < 16, Toml.upperHexDigit n ≠ '$') n nibble

theorem dollar_in_basic_char {lines : Bool} {c : Char} (member : '$' ∈ Toml.basicChar lines c) :
    c = '$' := by
  have written := Toml.written_char lines c
  generalize Toml.basicChar lines c = form at written member
  cases written with
  | itself => exact (List.mem_singleton.mp member).symm
  | newline => exact absurd (List.mem_singleton.mp member) (by decide)
  | short mark known =>
      obtain slash | found := List.mem_cons.mp member
      · exact absurd slash (by decide)
      · rw [← List.mem_singleton.mp found] at known
        exact absurd known (by simp [Toml.shortEscape?])
  | numbered control =>
      have small := Toml.escaped_small control
      have high := upper_hex_no_dollar (n := c.toNat / 16) (by omega)
      have low := upper_hex_no_dollar (n := c.toNat % 16) (by omega)
      simp [Toml.numberedEscape, high.symm, low.symm] at member

theorem dollar_in_basic_chars {lines : Bool} {allowed run : Nat} {text : List Char}
    (member : '$' ∈ Toml.basicChars lines allowed run text) : '$' ∈ text := by
  induction text generalizing run with
  | nil => exact member
  | cons c text ih =>
      have behind (marks : List Char) {rest : List Char} (plain : '$' ∉ marks)
          (found : '$' ∈ marks ++ rest) : '$' ∈ rest :=
        (List.mem_append.mp found).resolve_left plain
      rw [Toml.basicChars] at member
      split at member
      · split at member
        · exact List.mem_cons_of_mem c (ih (behind ['"'] (by decide) member))
        · exact List.mem_cons_of_mem c (ih (behind ['\\', '"'] (by decide) member))
      · obtain front | later := List.mem_append.mp member
        · rw [dollar_in_basic_char front]
          exact List.mem_cons_self
        · exact List.mem_cons_of_mem c (ih later)

/-- A dollar sign in a written string was in its text. -/
theorem dollar_in_styled {style : Toml.Style} {text : List Char}
    (member : '$' ∈ Toml.writeStyled style text) : '$' ∈ text := by
  have opening : '$' ∉ Toml.openingBreak text := by
    unfold Toml.openingBreak
    split <;> decide
  cases style <;>
    simp only [Toml.writeStyled, List.mem_cons, List.mem_append, List.not_mem_nil, or_false,
      opening, Char.reduceEq, false_or] at member
  case basic => exact dollar_in_basic_chars member
  case literal => exact member
  case basicLines => exact dollar_in_basic_chars member
  case literalLines => exact member

theorem dollar_in_key {name : String} (member : '$' ∈ Toml.writeKey name) : '$' ∈ name.toList := by
  unfold Toml.writeKey at member
  dsimp only at member
  split at member
  · exact member
  · exact dollar_in_styled member

theorem dollar_in_text {name value : String} (plain : '$' ∉ name.toList)
    (member : '$' ∈ writeText name value) : '$' ∈ value.toList := by
  simp only [writeText, writeAssignment, List.mem_append, List.mem_cons, List.not_mem_nil,
    or_false, plain, Char.reduceEq, false_or] at member
  exact dollar_in_styled member

theorem no_dollar_in_seconds (name : String) (plain : '$' ∉ name.toList) (seconds : UInt64) :
    '$' ∉ writeSeconds name seconds := by
  intro member
  simp only [writeSeconds, writeAssignment, List.mem_append, List.mem_cons, List.not_mem_nil,
    or_false, plain, Char.reduceEq, false_or] at member
  exact absurd (Toml.number_characters _ '$' member).1 (by decide)

def profileTexts (profile : Profile) : List String :=
  profile.projectId :: profile.apiUrl :: profile.accessToken.toList

def texts (config : Config) : List String :=
  config.defaultProfile.toList ++
    config.profiles.toList.flatMap fun entry => entry.1 :: profileTexts entry.2

/-- Whether no name and no text in a configuration has a dollar sign in it. -/
def Plain (config : Config) : Prop :=
  ∀ text ∈ config.texts, '$' ∉ text.toList

instance (config : Config) : Decidable config.Plain :=
  inferInstanceAs (Decidable (∀ text ∈ config.texts, '$' ∉ text.toList))

theorem no_dollar_in_profile {profile : Profile}
    (plain : ∀ text ∈ profileTexts profile, '$' ∉ text.toList) : '$' ∉ writeProfile profile := by
  intro member
  have poll := no_dollar_in_seconds "poll_interval_secs" (by decide)
    profile.pollIntervalSecs
  have timeout := no_dollar_in_seconds "request_timeout_secs" (by decide)
    profile.requestTimeoutSecs
  simp only [writeProfile, List.mem_append, poll, timeout, or_false] at member
  obtain (project | url) | token := member
  · exact plain _ List.mem_cons_self (dollar_in_text (by decide) project)
  · exact plain _ (List.mem_cons_of_mem _ List.mem_cons_self) (dollar_in_text (by decide) url)
  · split at token
    · rename_i shown found
      refine plain shown ?_ (dollar_in_text (by decide) token)
      simp [profileTexts, found]
    · exact List.not_mem_nil token

theorem no_dollar_in_table {name : String} {profile : Profile} (named : '$' ∉ name.toList)
    (plain : ∀ text ∈ profileTexts profile, '$' ∉ text.toList) :
    '$' ∉ writeTable name profile := by
  have opening : '$' ∉ "[profiles.".toList := by decide
  have inside := no_dollar_in_profile plain
  have key := mt dollar_in_key named
  unfold writeTable
  simp only [List.mem_append, List.mem_cons, opening, key, inside, Char.reduceEq, or_false,
    not_false_eq_true]

theorem no_dollar_in_tables {listed : List (String × Profile)}
    (plain : ∀ entry ∈ listed, ∀ text ∈ entry.1 :: profileTexts entry.2, '$' ∉ text.toList) :
    '$' ∉ writeTables listed := by
  induction listed with
  | nil => decide
  | cons entry rest ih =>
      have texts := plain entry List.mem_cons_self
      have first := no_dollar_in_table (texts _ List.mem_cons_self)
        fun text member => texts text (List.mem_cons_of_mem _ member)
      have later := ih fun other member => plain other (List.mem_cons_of_mem entry member)
      cases rest with
      | nil => exact first
      | cons next rest =>
          change '$' ∉ writeTable entry.1 entry.2 ++ '\n' :: writeTables (next :: rest)
          simp only [List.mem_append, List.mem_cons, first, later, Char.reduceEq, or_false,
            not_false_eq_true]

/-- The references in a written configuration come from its own texts. -/
theorem no_dollar_in_config {config : Config} {listed : List (String × Profile)}
    (plain : config.Plain) (perm : listed.Perm config.profiles.toList) :
    '$' ∉ config.writeIn listed := by
  have tables : '$' ∉ writeTables listed := by
    apply no_dollar_in_tables
    intro entry member text found
    apply plain text
    exact List.mem_append_right _ (List.mem_flatMap.mpr ⟨entry, perm.mem_iff.mp member, found⟩)
  unfold writeIn
  cases named : config.defaultProfile with
  | none => exact tables
  | some name =>
      have front : '$' ∉ writeText "default_profile" name := by
        intro member
        refine plain name ?_ (dollar_in_text (by decide) member)
        simp [texts, named]
      simp only [List.mem_append, List.mem_cons, List.not_mem_nil, front, tables, Char.reduceEq,
        or_false, not_false_eq_true]

namespace FileTree

theorem find_put (tree : FileTree) {path : Path} (below : path ≠ []) (node : Node) :
    (tree.put path node).find? path = some node := by
  rw [find?, if_neg below, put, List.lookup_cons_self]

/-- A file can only be written where there is no directory, so never at the root. -/
theorem read_of_write {tree written : FileTree} {path : Path} {text : String}
    (done : tree.write path (Text.Utf8.encode text) = .ok written) :
    written.readText path = .ok (some text) := by
  have below : path ≠ [] := by
    rintro rfl
    rw [write, find?, if_pos rfl] at done
    contradiction
  have same : written = tree.put path (.file (Text.Utf8.encode text)) := by
    unfold write at done
    split at done
    · contradiction
    · exact (Except.ok.inj done).symm
  rw [same, readText, find_put tree below]
  simp only [Text.Utf8.decode_encode]

end FileTree

theorem join_path_eq (front back : String) : joinPath front back = joinPath front "" ++ back := by
  unfold joinPath
  split
  · rw [String.append_empty]
  · rw [String.append_empty]

theorem join_path_length (front : String) : front.length ≤ (joinPath front "").length := by
  unfold joinPath
  split <;> simp

namespace Store

variable {store saved : Store} {config : Config} {path : String}

theorem locate_joined (store : Store) (below : path ≠ "") :
    store.locate? (joinPath store.root path) = some (Path.ofText path) := by
  have longer : joinPath store.root path ≠ store.root := by
    intro same
    have lengths := congrArg String.length same
    have front := join_path_length store.root
    have filled : path.length ≠ 0 := by
      intro blank
      exact below (String.length_eq_zero_iff.mp blank)
    rw [join_path_eq, String.length_append] at lengths
    omega
  have starts : (joinPath store.root path).startsWith (joinPath store.root "") = true := by
    rw [String.startsWith_string_iff, join_path_eq store.root path, String.toList_append]
    exact List.prefix_append _ _
  have rest : (joinPath store.root path).toList.drop (joinPath store.root "").length =
      path.toList := by
    rw [join_path_eq store.root path, String.toList_append, ← String.length_toList]
    exact List.drop_left
  unfold locate?
  dsimp only
  rw [if_neg longer, if_pos starts, rest, String.ofList_toList]

/-- What a success of saving comes from: a file that was written. -/
theorem written_of_save (done : store.save config path = .ok saved) :
    saved.root = store.root ∧ ∃ tree : FileTree,
      tree.write (Path.ofText path) (Text.Utf8.encode (String.ofList config.write)) =
        .ok saved.tree := by
  unfold save at done
  dsimp only at done
  cases made : store.tree.makeDirectory (Path.ofText path).dropLast with
  | error fault =>
      rw [made] at done
      contradiction
  | ok tree =>
      rw [made] at done
      cases wrote : writeFile { store with tree := tree } path
          (Text.Utf8.encode (String.ofList config.write)) with
      | error fault =>
          simp only [Except.mapError, bind, Except.bind, wrote] at done
          contradiction
      | ok final =>
          simp only [Except.mapError, bind, Except.bind, wrote] at done
          obtain rfl := Except.ok.inj done
          refine ⟨rfl, tree, ?_⟩
          unfold writeFile at wrote
          split at wrote
          · contradiction
          · exact wrote

/-- Loading a saved file reads the written configuration. -/
theorem load_saved (done : store.save config path = .ok saved) (environment : Environment) :
    saved.load environment (joinPath store.root path) = read environment config.write := by
  obtain ⟨root, tree, wrote⟩ := written_of_save done
  -- The blank path leads to the root, where nothing can be written.
  have below : path ≠ "" := by
    rintro rfl
    have nowhere : Path.ofText "" = [] := by decide
    rw [nowhere, FileTree.write, FileTree.find?, if_pos rfl] at wrote
    contradiction
  have text := FileTree.read_of_write wrote
  have place := saved.locate_joined below
  rw [root] at place
  unfold load
  rw [place]
  dsimp only
  rw [text]
  dsimp only
  rw [String.toList_ofList]

/-- Loading a saved file gives the configuration back where replacing the references leaves the
written text as it is, and in any environment if the configuration has no dollar sign in it. The
order of the tables in the text does not matter. -/
theorem load_undoes_save (done : store.save config path = .ok saved)
    (environment : Environment) :
    (Still environment config.write ∨ config.Plain →
        saved.load environment (joinPath store.root path) = .ok config) ∧
      ∀ listed : List (String × Profile), listed.Perm config.profiles.toList →
        Still environment (config.writeIn listed) ∨ config.Plain →
          read environment (config.writeIn listed) = .ok config := by
  have reads (listed : List (String × Profile)) (perm : listed.Perm config.profiles.toList)
      (unreferenced : Still environment (config.writeIn listed) ∨ config.Plain) :
      read environment (config.writeIn listed) = .ok config := by
    have still : Still environment (config.writeIn listed) := by
      obtain still | plain := unreferenced
      · exact still
      · exact still_of_plain environment (no_dollar_in_config plain perm)
    rw [read, still, decode_written perm]
    rfl
  refine ⟨?_, reads⟩
  intro unreferenced
  rw [load_saved done]
  exact reads config.profiles.toList (List.Perm.refl _) unreferenced

/-- Into an empty tree a file can be saved. -/
theorem save_first_file (root : String) (config : Config) :
    save ⟨root, []⟩ config "config.toml" =
      .ok ⟨root, [(["config.toml"], .file (Text.Utf8.encode (String.ofList config.write)))]⟩ := by
  have place : Path.ofText "config.toml" = ["config.toml"] := by decide
  have noSlash : "config.toml".endsWith "/" = false := by decide +kernel
  unfold save
  simp only [place, writeFile, noSlash]
  rfl

def singleProfile : Config :=
  ⟨some "prod", Mapping.empty.insert "prod" (.new "certs")⟩

def savedProfile : Store :=
  ⟨"/home/steward",
    [(["config.toml"], .file (Text.Utf8.encode (String.ofList singleProfile.write)))]⟩

theorem plain_profile_comes_back :
    save ⟨"/home/steward", []⟩ singleProfile "config.toml" = .ok savedProfile ∧
      singleProfile.Plain ∧
      savedProfile.load .empty (joinPath "/home/steward" "config.toml") = .ok singleProfile :=
  have saved : save ⟨"/home/steward", []⟩ singleProfile "config.toml" = .ok savedProfile :=
    save_first_file "/home/steward" singleProfile
  have plain : singleProfile.Plain := by decide
  ⟨saved, plain, (load_undoes_save saved .empty).1 (.inr plain)⟩

/-- A name that looks like a reference to a variable comes back as the value of the variable. -/
theorem saved_reference_is_replaced :
    ¬ ∀ (store saved : Store) (config : Config) (path : String) (environment : Environment),
      store.save config path = .ok saved →
        saved.load environment (joinPath store.root path) = .ok config := by
  intro claimed
  have saved := save_first_file "/home/steward" ⟨some "$\x7bV\x7d", .empty⟩
  have loaded := claimed _ _ _ _ (Mapping.empty.insert "V" "prod") saved
  -- With the reference replaced the text is that of another configuration, which is loaded.
  have before : write ⟨some "$\x7bV\x7d", .empty⟩ =
      "default_profile = \"$\x7bV\x7d\"\n\n[profiles]\n".toList := by decide
  have after : writeIn ⟨some "prod", .empty⟩ [] =
      "default_profile = \"prod\"\n\n[profiles]\n".toList := by decide
  have replaced : expand (Mapping.empty.insert "V" "prod")
      "default_profile = \"$\x7bV\x7d\"\n\n[profiles]\n".toList =
        "default_profile = \"prod\"\n\n[profiles]\n".toList := by decide
  have none_listed : ([] : List (String × Profile)).Perm
      (Config.mk (some "prod") .empty).profiles.entries := List.Perm.refl _
  have other := decode_written none_listed
  have reads := load_saved saved (Mapping.empty.insert "V" "prod")
  rw [after] at other
  rw [read, before, replaced, other] at reads
  have same := Except.ok.inj (reads.symm.trans loaded)
  exact absurd (congrArg defaultProfile same) (by decide)

end Store

end CertSteward.Config
