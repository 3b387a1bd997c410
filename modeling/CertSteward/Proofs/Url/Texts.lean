import CertSteward.Proofs.Url.Authorities
import CertSteward.Proofs.Url.Paths

/-!
# Texts of URLs

A URL that has been read is read from its text as itself, with any of the
schemes that need a host but the one of files and any host without labels that
are too long. A slash that is put behind the path in the text is put behind the
path of the URL.
-/

namespace CertSteward

set_option autoImplicit false

namespace Url

open Percent (Stands)

variable {url : Url} {scheme : String} {text : List Char}

def markedText (mark : Char) : Option (List Char) → List Char
  | some part => mark :: part
  | none => []

theorem take_marked {mark : Char} {front : List Char} (absent : mark ∉ front)
    (part : Option (List Char)) :
    (front ++ markedText mark part).takeWhile (· != mark) = front ∧
      ((front ++ markedText mark part).drop front.length).tail? = part := by
  have inside : ∀ c ∈ front, (c != mark) = true := by
    intro c member
    rw [bne_iff_ne]
    rintro rfl
    exact absent member
  rw [List.takeWhile_append_of_pos inside, List.drop_left]
  cases part with
  | none => simp [markedText]
  | some part => simp [markedText]

theorem split_tail_text {path : List Char} {query fragment : Option (List Char)}
    (path_end : '?' ∉ path ∧ '#' ∉ path) (query_end : ∀ part ∈ query, '#' ∉ part) :
    splitTail (path ++ markedText '?' query ++ markedText '#' fragment) =
      (path, query, fragment) := by
  have front : '#' ∉ path ++ markedText '?' query := by
    intro member
    obtain inside | inside := List.mem_append.mp member
    · exact path_end.2 inside
    · cases query with
      | none => contradiction
      | some part => exact query_end part rfl (List.mem_of_ne_of_mem (by decide) inside)
  obtain ⟨before, behind⟩ := take_marked front fragment
  obtain ⟨whole, asked⟩ := take_marked path_end.1 query
  rw [splitTail, before, whole, behind, asked]

/-- Whether a scheme is one whose URLs need a host and have no drives. -/
def IsHosted (scheme : String) : Prop :=
  isSpecialScheme scheme = true ∧ scheme ≠ "file"

instance : DecidablePred IsHosted := fun scheme =>
  inferInstanceAs (Decidable (isSpecialScheme scheme = true ∧ scheme ≠ "file"))

structure IsSettled (url : Url) : Prop where
  hosted : IsHosted url.scheme
  authority : ∃ authority, url.authority = some authority ∧ Settled url.scheme authority
  path : ∃ segments, url.path = .segments segments ∧ PathSettled segments
  query : ∀ query ∈ url.query, Stands Percent.inSpecialQuery query.toList
  fragment : ∀ fragment ∈ url.fragment, Stands Percent.inFragment fragment.toList

theorem read_with_authority_settled (hosted : IsHosted scheme)
    (read : readWithAuthority scheme text = .ok url) : url.IsSettled := by
  obtain ⟨authority, authority_read, read⟩ := ok_of_bind read
  obtain ⟨segments, path, settled⟩ := read_path_settled
    ((splitTail text).1.dropWhile fun c => !endsAuthority true c)
  rw [hosted.1] at read
  rw [← Except.ok.inj read]
  have special : ∀ path, (Url.mk scheme (some authority) path none none).isSpecial = true :=
    fun _ => hosted.1
  refine ⟨hosted, ⟨authority, rfl, authority_settled_of_read hosted.1 authority_read⟩,
    ⟨segments, path, settled⟩, ?_, ?_⟩
  · intro query given
    obtain ⟨part, -, rfl⟩ := Option.map_eq_some_iff.mp given
    rw [String.toList_ofList, special]
    exact Percent.stands_encode rfl (by decide) part
  · intro fragment given
    obtain ⟨part, -, rfl⟩ := Option.map_eq_some_iff.mp given
    rw [String.toList_ofList]
    exact Percent.stands_encode rfl (by decide) part

theorem read_other_scheme (read : readOther scheme text = .ok url) : url.scheme = scheme := by
  unfold readOther at read
  split at read
  · obtain ⟨authority, -, read⟩ := ok_of_bind read
    rw [← Except.ok.inj read]
    rfl
  · rw [← Except.ok.inj read]
    rfl

theorem read_file_scheme (read : readFile text = .ok url) : url.scheme = "file" := by
  obtain ⟨host, -, read⟩ := ok_of_bind read
  rw [← Except.ok.inj read]
  rfl

/-- A URL that has been read is settled. -/
theorem settled_of_read {text : String} (found : read text = .ok url)
    (hosted : IsHosted url.scheme) : url.IsSettled := by
  unfold read at found
  split at found
  · contradiction
  · rename_i scheme rest _
    split at found
    · exact absurd (read_file_scheme found) hosted.2
    · rename_i file
      split at found
      · rename_i special
        exact read_with_authority_settled ⟨special, file⟩ found
      · rename_i special
        rw [read_other_scheme found] at hosted
        exact absurd hosted.1 special

theorem query_text_eq (url : Url) :
    url.queryText.toList = markedText '?' (url.query.map String.toList) := by
  unfold queryText
  cases url.query <;> simp [markedText]

theorem fragment_text_eq (url : Url) :
    url.fragmentText.toList = markedText '#' (url.fragment.map String.toList) := by
  unfold fragmentText
  cases url.fragment <;> simp [markedText]

def upToPath (url : Url) : String :=
  url.scheme ++ ":" ++ url.authorityText ++ url.path.text

def behindPath (url : Url) : String :=
  url.queryText ++ url.fragmentText

theorem text_parts (url : Url) : url.text = url.upToPath ++ url.behindPath :=
  String.append_assoc

theorem behind_path_eq (url : Url) :
    url.behindPath.toList = markedText '?' (url.query.map String.toList) ++
      markedText '#' (url.fragment.map String.toList) := by
  rw [behindPath, String.toList_append, query_text_eq, fragment_text_eq]

theorem up_to_path_eq {authority : Authority} {segments : List String}
    (with_authority : url.authority = some authority) (path : url.path = .segments segments) :
    url.upToPath.toList = url.scheme.toList ++ ':' :: '/' :: '/' ::
      (authority.text.toList ++ (UrlPath.segmentsText segments).toList) := by
  rw [upToPath, authorityText, with_authority, path]
  simp [UrlPath.text]

theorem clean_of_shown (shown : ∀ c ∈ text, 0x20 < c.toNat) : clean text = text := by
  have kept {part : List Char} (inside : ∀ c ∈ part, 0x20 < c.toNat) :
      part.dropWhile (fun c => decide (c.toNat ≤ 0x20)) = part := by
    cases part with
    | nil => rfl
    | cons c part =>
        have first := inside c List.mem_cons_self
        exact List.dropWhile_cons_of_neg (by simpa using first)
  have ignored {c : Char} : isIgnored c = true → c.toNat ≤ 0x20 := by
    simp only [isIgnored, Bool.or_eq_true, beq_iff_eq]
    rintro ((rfl | rfl) | rfl) <;> decide
  have inside : ∀ c ∈ text, (!isIgnored c) = true := by
    intro c member
    rw [Bool.not_eq_true']
    exact eq_false_of_ne_true fun drops => absurd (shown c member) (Nat.not_lt.mpr (ignored drops))
  rw [clean, kept shown, kept fun c member => shown c (List.mem_reverse.mp member),
    List.reverse_reverse, List.filter_eq_self.mpr inside]

theorem hosted_scheme (hosted : IsHosted scheme) :
    (∀ c ∈ scheme.toList, isSchemeChar c = true ∧ 0x20 < c.toNat ∧ c ≠ '?' ∧ c ≠ '#') ∧
      (∃ first ∈ scheme.toList.head?, first.isAlpha = true) ∧ lower scheme = scheme := by
  have listed : scheme ∈ ["http", "https", "ws", "wss", "ftp"] := by
    obtain ⟨special, file⟩ := hosted
    simpa [isSpecialScheme, file, or_assoc] using special
  have facts : ∀ name ∈ ["http", "https", "ws", "wss", "ftp"],
      name.toList.all (fun c => isSchemeChar c && 0x20 < c.toNat && c != '?' && c != '#') = true ∧
        name.toList.head?.any Char.isAlpha = true ∧ lower name = name := by
    decide +kernel
  obtain ⟨chars, first, small⟩ := facts scheme listed
  simp only [List.all_eq_true, Bool.and_eq_true, decide_eq_true_eq, bne_iff_ne, and_assoc] at chars
  exact ⟨chars, (Option.any_eq_true _ _).mp first, small⟩

theorem split_scheme_text (hosted : IsHosted scheme) (rest : List Char) :
    splitScheme (scheme.toList ++ ':' :: rest) = some (scheme, rest) := by
  obtain ⟨chars, ⟨first, front, letter⟩, small⟩ := hosted_scheme hosted
  obtain ⟨tail, same⟩ := List.head?_eq_some_iff.mp front
  have inside : ∀ c ∈ scheme.toList, isSchemeChar c = true := fun c member => (chars c member).1
  have colon : isSchemeChar ':' = false := by decide
  have name : (scheme.toList ++ ':' :: rest).takeWhile isSchemeChar = scheme.toList := by
    rw [List.takeWhile_append_of_pos inside, List.takeWhile_cons_of_neg (by simp [colon]),
      List.append_nil]
  have behind : (scheme.toList ++ ':' :: rest).dropWhile isSchemeChar = ':' :: rest := by
    rw [List.dropWhile_append_of_pos inside, List.dropWhile_cons_of_neg (by simp [colon])]
  rw [same, List.cons_append, splitScheme, if_pos letter, ← List.cons_append, ← same, behind, name,
    String.ofList_toList, small]
  rfl

theorem query_char {c : Char} (stands : Percent.inSpecialQuery c = false) :
    0x20 < c.toNat ∧ c ≠ '#' := by
  simp only [Percent.inSpecialQuery, Percent.inQuery, Bool.or_eq_false_iff,
    beq_eq_false_iff_ne] at stands
  have shown := Percent.shown_of_plain (c := c) (by grind) (by grind)
  grind

theorem fragment_char {c : Char} (stands : Percent.inFragment c = false) : 0x20 < c.toNat := by
  simp only [Percent.inFragment, Bool.or_eq_false_iff, beq_eq_false_iff_ne] at stands
  exact Percent.shown_of_plain (by grind) (by grind)

theorem up_to_path_char (settled : url.IsSettled) :
    ∀ c ∈ url.upToPath.toList, 0x20 < c.toNat ∧ c ≠ '?' ∧ c ≠ '#' := by
  obtain ⟨authority, with_authority, authority_settled⟩ := settled.authority
  obtain ⟨segments, path, path_settled⟩ := settled.path
  rw [up_to_path_eq with_authority path]
  simp only [List.forall_mem_append, List.forall_mem_cons]
  refine ⟨fun c member => ((hosted_scheme settled.hosted).1 c member).2, by decide, by decide,
    by decide, fun c member => ?_, path_text_char path_settled⟩
  obtain ⟨shown, unended⟩ := authority_within authority_settled c member
  simp only [endsAuthority, Bool.or_eq_false_iff, beq_eq_false_iff_ne] at unended
  exact ⟨shown, unended.1.2, unended.2⟩

theorem text_shown (settled : url.IsSettled) : ∀ c ∈ url.text.toList, 0x20 < c.toNat := by
  have marked {mark : Char} {part : Option String} (shown : 0x20 < mark.toNat)
      (inside : ∀ text ∈ part, ∀ c ∈ text.toList, 0x20 < c.toNat) :
      ∀ c ∈ markedText mark (part.map String.toList), 0x20 < c.toNat := by
    cases part with
    | none => nofun
    | some text => exact List.forall_mem_cons.mpr ⟨shown, inside text rfl⟩
  rw [text_parts, String.toList_append, behind_path_eq]
  simp only [List.forall_mem_append]
  refine ⟨fun c member => (up_to_path_char settled c member).1, ?_, ?_⟩
  · exact marked (by decide) fun text given c member =>
      (query_char (settled.query text given c member).2).1
  · exact marked (by decide) fun text given c member =>
      fragment_char (settled.fragment text given c member).2

/-- What stands before the first slash is read as an authority. -/
theorem read_with_authority_front {front path : List Char} {query : Option (List Char)}
    (hosted : IsHosted scheme) (unended : ∀ c ∈ front, endsAuthority true c = false)
    (path_end : '?' ∉ path ∧ '#' ∉ path) (query_end : ∀ part ∈ query, '#' ∉ part)
    (fragment : Option (List Char)) :
    readWithAuthority scheme (front ++ '/' :: path ++ markedText '?' query ++
      markedText '#' fragment) =
      (readAuthority scheme front true).map fun authority =>
        withTail ⟨scheme, some authority, readPath true ('/' :: path), none, none⟩ query
          fragment := by
  have inside (c : Char) (member : c ∈ front) : (!endsAuthority true c) = true := by
    rw [unended c member, Bool.not_false]
  have front_end : '?' ∉ front ++ '/' :: path ∧ '#' ∉ front ++ '/' :: path := by
    have ends {c : Char} (ended : endsAuthority true c = true) : c ∉ front := by
      intro member
      rw [unended c member] at ended
      contradiction
    simp only [List.mem_append, List.mem_cons, not_or]
    exact ⟨⟨ends rfl, by decide, path_end.1⟩, ends rfl, by decide, path_end.2⟩
  have parts := @split_tail_text _ query fragment front_end query_end
  have whole : (front ++ '/' :: path).takeWhile (fun c => !endsAuthority true c) = front := by
    rw [List.takeWhile_append_of_pos inside, List.takeWhile_cons_of_neg (by decide),
      List.append_nil]
  have behind : (front ++ '/' :: path).dropWhile (fun c => !endsAuthority true c) =
      '/' :: path := by
    rw [List.dropWhile_append_of_pos inside, List.dropWhile_cons_of_neg (by decide)]
  have followed : decide (front.length < (front ++ '/' :: path ++ markedText '?' query ++
      markedText '#' fragment).length) = true := by
    simp only [List.length_append, List.length_cons, decide_eq_true_eq]
    omega
  simp only [readWithAuthority, parts, hosted.1, whole, behind, followed]
  cases readAuthority scheme front true <;> rfl

/-- An authority and a path are read back from their texts. -/
theorem read_with_authority_text {authority : Authority} {segments : List String}
    {query : Option (List Char)} (hosted : IsHosted scheme)
    (authority_settled : Settled scheme authority) (path_settled : PathSettled segments)
    (query_end : ∀ part ∈ query, '#' ∉ part) (fragment : Option (List Char)) :
    readWithAuthority scheme (authority.text.toList ++ (UrlPath.segmentsText segments).toList ++
      markedText '?' query ++ markedText '#' fragment) =
      if Host.isReadable authority.host.toList then
        .ok (withTail ⟨scheme, some authority, .segments segments, none, none⟩ query fragment)
      else .error .invalidInternationalName := by
  have unended (c : Char) (member : c ∈ authority.text.toList) : endsAuthority true c = false :=
    (authority_within authority_settled c member).2
  have path := read_path_text path_settled
  have chars := path_text_char path_settled
  obtain ⟨rest, slash⟩ : ∃ rest, (UrlPath.segmentsText segments).toList = '/' :: rest := by
    obtain ⟨segment, others, rfl⟩ := List.exists_cons_of_ne_nil path_settled.1
    rw [UrlPath.segments_text_to_list]
    exact ⟨_, rfl⟩
  rw [slash] at path chars ⊢
  have rest_end : '?' ∉ rest ∧ '#' ∉ rest :=
    ⟨fun member => (chars '?' (List.mem_cons_of_mem _ member)).2.1 rfl,
      fun member => (chars '#' (List.mem_cons_of_mem _ member)).2.2 rfl⟩
  rw [read_with_authority_front hosted unended rest_end query_end, path,
    read_authority hosted.1 authority_settled]
  cases Host.isReadable authority.host.toList <;> rfl

/-- Nothing in the query and the fragment of a settled URL is encoded again. -/
theorem with_tail_of_settled {authority : Authority} {segments : List String}
    (settled : url.IsSettled) (with_authority : url.authority = some authority)
    (path : url.path = .segments segments) :
    withTail ⟨url.scheme, some authority, .segments segments, none, none⟩
      (url.query.map String.toList) (url.fragment.map String.toList) = url := by
  obtain ⟨scheme, _, _, query, fragment⟩ := url
  obtain rfl : _ = some authority := with_authority
  obtain rfl : _ = UrlPath.segments segments := path
  have same {escaped : Char → Bool} {part : Option String}
      (stands : ∀ text ∈ part, Stands escaped text.toList) :
      (part.map String.toList).map (fun text => String.ofList (Percent.encode escaped text)) =
        part := by
    cases part with
    | none => rfl
    | some text =>
        simp [Percent.encode_of_stands (stands text rfl)]
  have special : ∀ path, (Url.mk scheme (some authority) path none none).isSpecial = true :=
    fun _ => settled.hosted.1
  simp only [withTail, special, if_true, same settled.query, same settled.fragment]

/-- Whether no label of the host of a URL is too long to be read. -/
def hasReadableHost (url : Url) : Bool :=
  url.authority.all fun authority => Host.isReadable authority.host.toList

/-- What stands behind the scheme and two slashes is read as an authority and a path. -/
theorem read_behind_slashes {c : Char} (hosted : IsHosted scheme) (apart : isSlash true c = false)
    (shown : ∀ d ∈ scheme.toList ++ ':' :: '/' :: '/' :: c :: text, 0x20 < d.toNat) :
    read (String.ofList (scheme.toList ++ ':' :: '/' :: '/' :: c :: text)) =
      readWithAuthority scheme (c :: text) := by
  rw [read, String.toList_ofList, clean_of_shown shown, split_scheme_text hosted]
  dsimp only
  rw [if_neg hosted.2, if_pos hosted.1, List.dropWhile_cons_of_pos rfl,
    List.dropWhile_cons_of_pos rfl, List.dropWhile_cons_of_neg (by simp [apart])]

/-- A settled URL is read back from its text, but for labels of its host that are too long. -/
theorem read_text (settled : url.IsSettled) :
    read url.text =
      if url.hasReadableHost then .ok url else .error .invalidInternationalName := by
  obtain ⟨authority, with_authority, authority_settled⟩ := settled.authority
  obtain ⟨segments, path, path_settled⟩ := settled.path
  have whole : url.text.toList = url.scheme.toList ++ ':' :: '/' :: '/' ::
      (authority.text.toList ++ (UrlPath.segmentsText segments).toList ++
        markedText '?' (url.query.map String.toList) ++
        markedText '#' (url.fragment.map String.toList)) := by
    rw [text_parts, String.toList_append, up_to_path_eq with_authority path, behind_path_eq]
    simp only [List.append_assoc, List.cons_append]
  have query_end : ∀ part ∈ url.query.map String.toList, '#' ∉ part := by
    rintro part given member
    obtain ⟨query, listed, rfl⟩ := Option.map_eq_some_iff.mp given
    exact (query_char (settled.query query listed '#' member).2).2 rfl
  have again := read_with_authority_text settled.hosted authority_settled path_settled query_end
    (url.fragment.map String.toList)
  rw [with_tail_of_settled settled with_authority path] at again
  obtain ⟨c, tail, same⟩ := List.exists_cons_of_ne_nil (authority_text_ne_nil authority_settled)
  have apart : isSlash true c = false := by
    have first := (authority_within authority_settled c (same ▸ List.mem_cons_self)).2
    simp only [endsAuthority, Bool.or_eq_false_iff] at first
    exact first.1.1
  have shown := text_shown settled
  rw [whole, same] at shown
  rw [same] at again
  rw [← String.ofList_toList (s := url.text), whole, same, hasReadableHost, with_authority,
    Option.all_some]
  exact (read_behind_slashes settled.hosted apart shown).trans again

def beforeEnd (c : Char) : Bool :=
  c != '?' && c != '#'

def slashed (text : String) : String :=
  String.ofList
    (text.toList.takeWhile beforeEnd ++ '/' :: text.toList.dropWhile beforeEnd)

def EndsInSlash (url : Url) : Prop :=
  url.path.text.toList.getLast? = some '/'

instance (url : Url) : Decidable url.EndsInSlash :=
  inferInstanceAs (Decidable (url.path.text.toList.getLast? = some '/'))

theorem ends_in_slash_iff {segments : List String} (path : url.path = .segments segments)
    (settled : PathSettled segments) : url.EndsInSlash ↔ segments.getLast? = some "" := by
  obtain ⟨filled, inside⟩ := settled
  rw [EndsInSlash, path, UrlPath.text, UrlPath.segments_text_to_list]
  cases segments using List.reverseRecOn with
  | nil => contradiction
  | append_singleton front last =>
      rw [List.flatMap_append, List.flatMap_singleton, List.getLast?_append, List.getLast?_concat,
        Option.some.injEq]
      cases chars : last.toList using List.reverseRecOn with
      | nil => simp [String.toList_eq_nil_iff.mp chars]
      | append_singleton before c =>
          have slashless := (inside last (by simp)).slashless c (by simp [chars])
          have other : c ≠ '/' := by
            rintro rfl
            contradiction
          have some_char : last ≠ "" := by
            rintro rfl
            exact absurd (congrArg List.length chars) (by simp)
          rw [← List.cons_append, List.getLast?_concat]
          simp [other, some_char]

theorem open_end_beside_path (url : Url) : ∃ path, url.withOpenEnd = { url with path := path } := by
  unfold withOpenEnd
  split
  · exact ⟨url.path, rfl⟩
  · split <;> exact ⟨_, rfl⟩

theorem open_end_eq {segments : List String} (path : url.path = .segments segments) :
    url.withOpenEnd =
      { url with
        path := .segments
          (if segments.getLast? = some "" then segments else segments ++ [""]) } := by
  rw [withOpenEnd, path]
  dsimp only
  split
  · rw [← path]
  · rfl

/-- An open end keeps a URL settled, and its path ends in it. -/
theorem open_end_settled (settled : url.IsSettled) :
    url.withOpenEnd.IsSettled ∧ url.withOpenEnd.EndsInSlash := by
  obtain ⟨segments, path, filled, inside⟩ := settled.path
  have open_settled :
      PathSettled (if segments.getLast? = some "" then segments else segments ++ [""]) := by
    split
    · exact ⟨filled, inside⟩
    · exact ⟨List.append_ne_nil_of_left_ne_nil filled _,
        List.forall_mem_append.mpr ⟨inside, List.forall_mem_singleton.mpr blank_settled⟩⟩
  have ended : (if segments.getLast? = some "" then segments else segments ++ [""]).getLast? =
      some "" := by
    split
    · assumption
    · exact List.getLast?_concat
  rw [open_end_eq path]
  exact ⟨⟨settled.hosted, settled.authority, ⟨_, rfl, open_settled⟩, settled.query,
    settled.fragment⟩, (ends_in_slash_iff rfl open_settled).mpr ended⟩

theorem open_end_of_ended (settled : url.IsSettled) (ended : url.EndsInSlash) :
    url.withOpenEnd = url := by
  obtain ⟨segments, path, path_settled⟩ := settled.path
  rw [withOpenEnd, path]
  exact if_pos ((ends_in_slash_iff path path_settled).mp ended)

theorem slashed_text (settled : url.IsSettled) (closed : ¬url.EndsInSlash) :
    slashed url.text = url.withOpenEnd.text := by
  obtain ⟨authority, with_authority, -⟩ := settled.authority
  obtain ⟨segments, path, path_settled⟩ := settled.path
  have open_end : ¬segments.getLast? = some "" :=
    mt (ends_in_slash_iff path path_settled).mpr closed
  have opened : url.withOpenEnd = { url with path := .segments (segments ++ [""]) } := by
    rw [open_end_eq path, if_neg open_end]
  have up_to : url.withOpenEnd.upToPath = url.upToPath ++ "/" := by
    have end_text : UrlPath.segmentsText [""] = "/" := rfl
    rw [opened, upToPath, upToPath, authorityText, authorityText, with_authority, path]
    simp only [UrlPath.text, UrlPath.segments_text_append, end_text, String.append_assoc]
  have behind : url.withOpenEnd.behindPath = url.behindPath := by
    rw [opened]
    rfl
  have inside : ∀ c ∈ url.upToPath.toList, beforeEnd c = true := by
    intro c member
    obtain ⟨-, query, fragment⟩ := up_to_path_char settled c member
    simp [beforeEnd, query, fragment]
  have ending : url.behindPath.toList.takeWhile beforeEnd = [] ∧
      url.behindPath.toList.dropWhile beforeEnd = url.behindPath.toList := by
    rw [behind_path_eq]
    cases url.query <;> cases url.fragment <;> simp [markedText, beforeEnd]
  apply String.toList_injective
  rw [text_parts url.withOpenEnd, up_to, behind, slashed, String.toList_ofList, text_parts,
    String.toList_append, List.takeWhile_append_of_pos inside,
    List.dropWhile_append_of_pos inside, ending.1, ending.2, List.append_nil]
  simp

end Url

end CertSteward
