import CertSteward.Proofs.Mapping
import CertSteward.Proofs.Toml.Lines
import CertSteward.Proofs.Toml.Tables

/-!
# A written configuration is decoded

The text of a configuration, its tables in whatever order, stands for the table
that the configuration is decoded from, and so for the configuration itself.
-/

namespace CertSteward

set_option autoImplicit false

open CertSteward.Toml (Entries Outlined ReadsAs IsBare)

def Profile.members (profile : Profile) : Entries :=
  [("project_id", .text profile.projectId), ("api_url", .text profile.apiUrl)] ++
    (match profile.accessToken with
      | some token => [("access_token", .text token)]
      | none => []) ++
    [("poll_interval_secs", .integer profile.pollIntervalSecs.toNat),
      ("request_timeout_secs", .integer profile.requestTimeoutSecs.toNat)]

theorem Profile.members_distinct (profile : Profile) :
    (profile.members.map Prod.fst).Nodup := by
  unfold Profile.members
  cases profile.accessToken <;>
    simp only [List.map_append, List.map_cons, List.map_nil] <;> decide

theorem decode_seconds (seconds : UInt64) :
    Profile.secondsToml (.integer seconds.toNat) = .ok seconds := by
  have size : (seconds.toNat : Int) ≤ Profile.largestSeconds := by
    have bound := seconds.toNat_lt
    have largest : Profile.largestSeconds = 2 ^ 64 - 1 := rfl
    omega
  have range : 0 ≤ (seconds.toNat : Int) ∧ (seconds.toNat : Int) ≤ Profile.largestSeconds :=
    ⟨Int.natCast_nonneg _, size⟩
  rw [Profile.secondsToml, Toml.Decoder.natural, if_pos range]
  change Except.ok (UInt64.ofNat (Int.toNat seconds.toNat)) = _
  rw [Int.toNat_natCast, UInt64.ofNat_toNat]

theorem enter_entry {Record : Type} {shape : Toml.Shape Record} {field : Toml.Field Record}
    {name : String} {value : Toml.Value} {rest : Entries} {record entered : Record}
    (found : shape.fields.find? (fun field => field.name == name) = some field)
    (enters : field.enter value record = .ok entered) :
    shape.enterEntries ((name, value) :: rest) record = shape.enterEntries rest entered := by
  rw [Toml.Shape.enterEntries, found]
  dsimp only
  rw [enters]
  rfl

theorem enter_seconds {put : UInt64 → Profile → Profile} (name : String) (seconds : UInt64)
    (record : Profile) :
    (Toml.Field.defaulted name Profile.secondsToml put).enter (.integer seconds.toNat) record =
      .ok (put seconds record) :=
  congrArg (Except.map fun value => put value record) (decode_seconds seconds)

theorem decode_table {Record : Type} {shape : Toml.Shape Record} {kind : Toml.TableKind}
    {entries ordered : Entries} {record : Record} (order : Toml.sorted entries = ordered)
    (entered : shape.enterEntries ordered shape.blank = .ok record)
    (given : Toml.Shape.checkGiven (ordered.map Prod.fst) shape.fields = .ok ()) :
    shape.decoder (.table kind entries) = .ok record := by
  simp only [Toml.Shape.decoder, Toml.Value.entries?, order, entered]
  change (do Toml.Shape.checkGiven (ordered.map Prod.fst) shape.fields; return record) = _
  rw [given]
  rfl

def Profile.ordered (profile : Profile) : Entries :=
  (match profile.accessToken with
    | some token => [("access_token", .text token)]
    | none => []) ++
    [("api_url", .text profile.apiUrl),
      ("poll_interval_secs", .integer profile.pollIntervalSecs.toNat),
      ("project_id", .text profile.projectId),
      ("request_timeout_secs", .integer profile.requestTimeoutSecs.toNat)]

theorem Profile.ordered_names (profile : Profile) :
    (profile.ordered.map Prod.fst).Pairwise (· < ·) := by
  unfold Profile.ordered
  cases profile.accessToken <;>
    simp only [List.map_append, List.map_cons, List.map_nil] <;> decide

theorem Profile.members_perm (profile : Profile) : profile.members.Perm profile.ordered := by
  have behind (project url poll timeout : String × Toml.Value) :
      [project, url, poll, timeout].Perm [url, poll, project, timeout] :=
    (List.perm_middle : ([url, poll] ++ project :: [timeout]).Perm
      (project :: ([url, poll] ++ [timeout]))).symm
  unfold Profile.members Profile.ordered
  cases profile.accessToken with
  | none => exact behind _ _ _ _
  | some token =>
      exact (@List.perm_middle _ ("access_token", .text token) [_, _] [_, _]).trans
        ((behind _ _ _ _).cons _)

theorem Profile.sorted_members (profile : Profile) :
    Toml.sorted profile.members = profile.ordered :=
  Mapping.to_list_of_perm profile.members_perm (List.pairwise_map.mp profile.ordered_names)

/-- A profile is decoded from its own entries. -/
theorem decode_members (profile : Profile) (kind : Toml.TableKind) :
    Profile.tomlShape.decoder (.table kind profile.members) = .ok profile := by
  refine decode_table profile.sorted_members ?_ ?_
  · obtain ⟨projectId, apiUrl, accessToken, poll, timeout⟩ := profile
    cases accessToken with
    | none =>
        refine (enter_entry rfl rfl).trans ?_
        refine (enter_entry rfl (enter_seconds _ poll _)).trans ?_
        refine (enter_entry rfl rfl).trans ?_
        exact enter_entry rfl (enter_seconds _ timeout _)
    | some token =>
        refine (enter_entry rfl rfl).trans ?_
        refine (enter_entry rfl rfl).trans ?_
        refine (enter_entry rfl (enter_seconds _ poll _)).trans ?_
        refine (enter_entry rfl rfl).trans ?_
        exact enter_entry rfl (enter_seconds _ timeout _)
  · obtain ⟨projectId, apiUrl, accessToken, poll, timeout⟩ := profile
    cases accessToken <;> rfl

namespace Config

variable {config : Config} {listed : List (String × Profile)}

def defaultEntries (config : Config) : Entries :=
  match config.defaultProfile with
  | some name => [("default_profile", .text name)]
  | none => []

def profileTables (listed : List (String × Profile)) : List (String × Entries) :=
  listed.map fun entry => (entry.1, entry.2.members)

/-- What stands under the name of the profiles: with no profile a table that was opened itself,
else one that the headers of the profiles imply. -/
def profilesValue (listed : List (String × Profile)) : Toml.Value :=
  match listed with
  | [] => .table .header []
  | _ => .table .implied (Entries.headed (profileTables listed))

def writeIn (config : Config) (listed : List (String × Profile)) : List Char :=
  (match config.defaultProfile with
    | some name => writeText "default_profile" name ++ ['\n']
    | none => []) ++
    writeTables listed

theorem outlined_seconds (name : String) {rest : List Char} {outline : Toml.Outline}
    (bare : IsBare name) (seconds : UInt64) (outlined : Outlined rest outline) :
    Outlined (writeSeconds name seconds ++ rest)
      ⟨(⟨[], name⟩, .integer seconds.toNat) :: outline.assignments, outline.sections⟩ :=
  Toml.outlined_assignment bare (Toml.number_reads_as seconds.toNat_lt_size) outlined

theorem outlined_text (name : String) {rest : List Char} {outline : Toml.Outline}
    (bare : IsBare name) (text : String) (outlined : Outlined rest outline) :
    Outlined (writeText name text ++ rest)
      ⟨(⟨[], name⟩, .text text) :: outline.assignments, outline.sections⟩ :=
  Toml.outlined_assignment bare (Toml.text_reads_as text) outlined

theorem outlined_profile (profile : Profile) {rest : List Char} {outline : Toml.Outline}
    (outlined : Outlined rest outline) :
    Outlined (writeProfile profile ++ rest)
      ⟨Entries.assignments profile.members ++ outline.assignments, outline.sections⟩ := by
  have timeout := outlined_seconds "request_timeout_secs" (by decide)
    profile.requestTimeoutSecs outlined
  have poll := outlined_seconds "poll_interval_secs" (by decide)
    profile.pollIntervalSecs timeout
  obtain ⟨projectId, apiUrl, accessToken, pollSeconds, timeoutSeconds⟩ := profile
  simp only [writeProfile, List.append_assoc]
  cases accessToken with
  | none =>
      have url := outlined_text "api_url" (by decide) apiUrl poll
      exact outlined_text "project_id" (by decide) projectId url
  | some token =>
      have shown := outlined_text "access_token" (by decide) token poll
      have url := outlined_text "api_url" (by decide) apiUrl shown
      exact outlined_text "project_id" (by decide) projectId url

theorem outlined_table (name : String) (profile : Profile) {rest : List Char}
    {sections : List Toml.Section} (outlined : Outlined rest ⟨[], sections⟩) :
    Outlined (writeTable name profile ++ rest)
      ⟨[], ⟨.table ⟨["profiles"], name⟩, Entries.assignments profile.members⟩ :: sections⟩ := by
  have inside := outlined_profile profile outlined
  rw [List.append_nil] at inside
  have front : writeTable name profile ++ rest =
      '[' :: ("profiles".toList ++ '.' :: (Toml.writeKey name ++ [']', '\n']) ++
        (writeProfile profile ++ rest)) := by
    have opening : "[profiles.".toList = '[' :: ("profiles".toList ++ ['.']) := rfl
    unfold writeTable
    rw [opening]
    simp only [List.append_assoc, List.cons_append, List.nil_append]
  have header := Toml.read_owned_header (show IsBare "profiles" by decide) name
    (writeProfile profile ++ rest)
  rw [front]
  refine Toml.outlined_header ?_ inside
  simpa only [List.append_assoc, List.cons_append, List.nil_append] using header

theorem outlined_tables (filled : listed ≠ []) :
    Outlined (writeTables listed) ⟨[], Entries.sections "profiles" (profileTables listed)⟩ := by
  induction listed with
  | nil => contradiction
  | cons entry rest ih =>
      cases rest with
      | nil =>
          have last := outlined_table entry.1 entry.2 Toml.outlined_nil
          rwa [List.append_nil] at last
      | cons next rest =>
          have later := Toml.outlined_blank (ih (List.cons_ne_nil next rest))
          exact outlined_table entry.1 entry.2 later

theorem outlined_no_tables :
    Outlined (writeTables []) ⟨[], [⟨.table ⟨[], "profiles"⟩, []⟩]⟩ := by
  have header := Toml.read_single_header (show IsBare "profiles" by decide) []
  have line : '[' :: ("profiles".toList ++ ']' :: '\n' :: []) =
      '[' :: ("profiles]\n".toList ++ []) := rfl
  rw [line] at header
  exact Toml.outlined_header header Toml.outlined_nil

def profileSections (listed : List (String × Profile)) : List Toml.Section :=
  match listed with
  | [] => [⟨.table ⟨[], "profiles"⟩, []⟩]
  | _ => Entries.sections "profiles" (profileTables listed)

theorem outlined_config (config : Config) (listed : List (String × Profile)) :
    Outlined (config.writeIn listed)
      ⟨Entries.assignments config.defaultEntries, profileSections listed⟩ := by
  have tables : Outlined (writeTables listed) ⟨[], profileSections listed⟩ := by
    cases listed with
    | nil => exact outlined_no_tables
    | cons entry rest => exact outlined_tables (List.cons_ne_nil entry rest)
  unfold writeIn defaultEntries
  cases config.defaultProfile with
  | none => exact tables
  | some name =>
      have front := outlined_text "default_profile" (by decide) name
        (Toml.outlined_blank tables)
      rw [List.append_assoc]
      exact front

theorem no_mark_in_front (config : Config) (listed : List (String × Profile)) :
    Toml.dropMark (config.writeIn listed) = config.writeIn listed := by
  have unmarked {c : Char} {text : List Char} (front : text.head? = some c) (plain : c ≠ '\uFEFF') :
      Toml.dropMark text = text := by
    obtain ⟨tail, rfl⟩ := List.head?_eq_some_iff.mp front
    rw [Toml.dropMark]
    rintro rest same
    exact plain (List.cons.inj same).1
  unfold writeIn
  cases config.defaultProfile with
  | some name =>
      apply unmarked (c := 'd') _ (by decide)
      rfl
  | none =>
      apply unmarked (c := '[') _ (by decide)
      match listed with
      | [] => rfl
      | [entry] => rfl
      | entry :: next :: rest => rfl

theorem lacks_profiles (config : Config) : config.defaultEntries.Lacks "profiles" := by
  unfold defaultEntries Entries.Lacks
  cases config.defaultProfile with
  | none => exact List.not_mem_nil
  | some name =>
      simp only [List.map_cons, List.map_nil]
      decide

theorem default_distinct (config : Config) : (config.defaultEntries.map Prod.fst).Nodup := by
  unfold defaultEntries
  cases config.defaultProfile with
  | none => exact List.nodup_nil
  | some name => exact List.nodup_cons.mpr ⟨List.not_mem_nil, List.nodup_nil⟩

/-- A written configuration stands for the entry of the default and that of the profiles. -/
theorem read_written (config : Config) (distinct : (listed.map Prod.fst).Nodup) :
    Toml.read (config.writeIn listed) =
      some (config.defaultEntries ++ [("profiles", profilesValue listed)]) := by
  have outline : Toml.readOutline (config.writeIn listed) =
      some ⟨Entries.assignments config.defaultEntries, profileSections listed⟩ := by
    rw [Toml.readOutline, no_mark_in_front]
    exact outlined_config config listed _ (Nat.lt_succ_self _)
  have front := Entries.assign_all_new [] config.defaultEntries config.default_distinct
  have tables : Toml.Outline.addSections config.defaultEntries (profileSections listed) =
      some (config.defaultEntries ++ [("profiles", profilesValue listed)]) := by
    cases listed with
    | nil =>
        have opened := Entries.open_new_table config.lacks_profiles
          (show (([] : Entries).map Prod.fst).Nodup from List.nodup_nil)
        rw [profileSections, Toml.Outline.addSections, Toml.Outline.addSection]
        exact congrArg (fun entries => entries.bind some) opened
    | cons entry rest =>
        have names : (profileTables (entry :: rest)).map Prod.fst =
            (entry :: rest).map Prod.fst := by
          rw [profileTables, List.map_map]
          rfl
        refine Entries.add_owner config.lacks_profiles (by simp [profileTables])
          (by rw [names]; exact distinct) ?_
        intro table member
        obtain ⟨entry, -, rfl⟩ := List.mem_map.mp member
        exact entry.2.members_distinct
  rw [Toml.read, outline]
  change Toml.Outline.entries? _ = _
  rw [Toml.Outline.entries?, front]
  exact tables

theorem decode_profiles (entries : List (String × Profile)) :
    Toml.decodeEntries Profile.tomlShape.decoder (Entries.headed (profileTables entries)) =
      .ok entries := by
  induction entries with
  | nil => rfl
  | cons entry rest ih =>
      have first := decode_members entry.2 .header
      change (do
        let value ← Profile.tomlShape.decoder (.table .header entry.2.members)
        let values ← Toml.decodeEntries Profile.tomlShape.decoder
          (Entries.headed (profileTables rest))
        return (entry.1, value) :: values) = _
      rw [first, ih]
      rfl

/-- The order of the tables is not left in the profiles. -/
theorem decode_profiles_value (perm : listed.Perm config.profiles.entries) :
    Toml.Decoder.mapping Profile.tomlShape.decoder (profilesValue listed) =
      .ok config.profiles := by
  have order : Toml.sorted (Entries.headed (profileTables listed)) =
      Entries.headed (profileTables config.profiles.entries) := by
    apply Mapping.to_list_of_perm ((perm.map _).map _)
    rw [Ascending, List.pairwise_map, List.pairwise_map]
    exact config.profiles.ascending
  have table : (profilesValue listed).entries? =
      some (Entries.headed (profileTables config.profiles.entries)) := by
    rw [← order]
    cases listed <;> rfl
  rw [Toml.Decoder.mapping, table]
  dsimp only
  rw [decode_profiles]
  exact congrArg Except.ok (Mapping.of_list_of_perm (List.Perm.refl _))

/-- The text of a configuration is decoded as the configuration, in whatever order its tables
stand. -/
theorem decode_written (perm : listed.Perm config.profiles.entries) :
    decode (config.writeIn listed) = .ok config := by
  have distinct := (perm.map Prod.fst).nodup_iff.mpr config.profiles.distinct_names
  have profiles := decode_profiles_value perm
  obtain ⟨defaultProfile, mapping⟩ := config
  have last (record : Config) : shape.enterEntries [("profiles", profilesValue listed)] record =
      .ok ⟨record.defaultProfile, mapping⟩ := by
    refine enter_entry rfl ?_
    exact congrArg (Except.map fun value => Config.mk record.defaultProfile value) profiles
  rw [decode, Toml.Decoder.ofText, read_written _ distinct]
  cases defaultProfile with
  | none =>
      have order : Toml.sorted [("profiles", profilesValue listed)] =
          [("profiles", profilesValue listed)] := rfl
      exact decode_table order (last _) rfl
  | some name =>
      have names : ["default_profile", "profiles"].Pairwise (· < ·) := by decide
      have order :
          Toml.sorted [("default_profile", .text name), ("profiles", profilesValue listed)] =
            [("default_profile", .text name), ("profiles", profilesValue listed)] :=
        Mapping.to_list_of_perm (List.Perm.refl _) (List.pairwise_map.mp names)
      exact decode_table order ((enter_entry rfl rfl).trans (last _)) rfl

/-- Each text of a configuration, whatever the order of the tables in it, is decoded as the
configuration, whatever names and texts it holds. So it is a text of no other configuration. -/
theorem text_states_its_configuration (config : Config) :
    decode config.write = .ok config ∧
      ∀ listed : List (String × Profile), listed.Perm config.profiles.toList →
        decode (config.writeIn listed) = .ok config ∧
          ∀ (other : Config) (relisted : List (String × Profile)),
            relisted.Perm other.profiles.toList →
              other.writeIn relisted = config.writeIn listed → other = config := by
  have whole : config.write = config.writeIn config.profiles.toList := rfl
  refine ⟨?_, ?_⟩
  · rw [whole]
    exact decode_written (List.Perm.refl _)
  · intro listed perm
    have decoded := decode_written perm
    refine ⟨decoded, ?_⟩
    intro other relisted reordered same
    have read := decode_written reordered
    rw [same, decoded] at read
    exact (Except.ok.inj read).symm

/-- A configuration whose names and texts need every kind of string: quotes of both kinds,
backslashes, line breaks at both ends, controls, and nothing at all. -/
def awkwardConfig : Config :=
  ⟨some "", (Mapping.empty.insert "" ⟨"'\"'", "\nC:\\'''\n", some "", 0, 0xFFFFFFFFFFFFFFFF⟩).insert
    "a.\"b\"\n" ⟨"\r\n\t", "'''\"\"\"", none, 1, 2⟩⟩

theorem awkward_text_states_its_configuration :
    decode (awkwardConfig.writeIn awkwardConfig.profiles.toList.reverse) = .ok awkwardConfig ∧
      awkwardConfig.writeIn awkwardConfig.profiles.toList.reverse ≠ awkwardConfig.write := by
  have turned := List.reverse_perm awkwardConfig.profiles.toList
  exact ⟨((text_states_its_configuration awkwardConfig).2 _ turned).1, by decide +kernel⟩

end Config

end CertSteward
