import CertSteward.Proofs.Url.Percent
import CertSteward.Proofs.Url.Segments
import CertSteward.Url.Reader

/-!
# Paths that have been read

A path that has been read is read from its text as itself: no segment of it is
a dot segment, none has a slash in it, and nothing in it has to be encoded
again.
-/

namespace CertSteward.Url

set_option autoImplicit false

open Percent (Stands)

variable {special : Bool} {text segment : List Char} {segments : List String}

theorem split_segments_eq (special : Bool) (text : List Char) :
    splitSegments special text = text.splitOnP (isSlash special) := by
  induction text with
  | nil => rfl
  | cons c rest ih =>
      rw [splitSegments, ih, List.splitOnP_cons_eq_if_modifyHead]
      split
      · rfl
      · cases parts : rest.splitOnP (isSlash special) with
        | nil => exact absurd parts (List.splitOnP_ne_nil _ rest)
        | cons part parts => rfl

theorem split_segments_slashless (special : Bool) (text : List Char) :
    ∀ segment ∈ splitSegments special text, ∀ c ∈ segment, isSlash special c = false := by
  induction text with
  | nil => simp [splitSegments]
  | cons c rest ih =>
      rw [splitSegments]
      split
      · exact List.forall_mem_cons.mpr ⟨nofun, ih⟩
      · rename_i other
        cases parts : splitSegments special rest with
        | nil => simp [other]
        | cons part parts =>
            rw [parts] at ih
            obtain ⟨first, later⟩ := List.forall_mem_cons.mp ih
            have front : ∀ other ∈ c :: part, isSlash special other = false :=
              List.forall_mem_cons.mpr ⟨eq_false_of_ne_true other, first⟩
            exact List.forall_mem_cons.mpr ⟨front, later⟩

structure SegmentSettled (segment : List Char) : Prop where
  stands : Stands Percent.inPath segment
  slashless : ∀ c ∈ segment, isSlash true c = false
  single : isSingleDot segment = false
  double : isDoubleDot segment = false

def PathSettled (segments : List String) : Prop :=
  segments ≠ [] ∧ ∀ segment ∈ segments, SegmentSettled segment.toList

theorem blank_settled : SegmentSettled [] :=
  ⟨nofun, nofun, rfl, rfl⟩

theorem follow_settled {path : List String} (last : Bool)
    (before : ∀ segment ∈ path, SegmentSettled segment.toList)
    (stands : Stands Percent.inPath segment)
    (slashless : ∀ c ∈ segment, isSlash true c = false) :
    ∀ other ∈ follow path last segment, SegmentSettled other.toList := by
  have ending : ∀ segment ∈ (if last then [""] else [] : List String),
      SegmentSettled segment.toList := by
    cases last <;> simp [blank_settled]
  unfold follow
  split
  · exact List.forall_mem_append.mpr
      ⟨fun other member => before other (List.dropLast_subset path member), ending⟩
  split
  · exact List.forall_mem_append.mpr ⟨before, ending⟩
  · rename_i double single
    refine List.forall_mem_append.mpr ⟨before, List.forall_mem_singleton.mpr ?_⟩
    rw [String.toList_ofList]
    exact ⟨stands, slashless, eq_false_of_ne_true single, eq_false_of_ne_true double⟩

theorem follow_last_ne_nil (path : List String) (segment : List Char) :
    follow path true segment ≠ [] := by
  unfold follow
  split
  · simp
  split <;> simp

theorem follow_all_settled {path : List String} {parts : List (List Char)} (some_part : parts ≠ [])
    (before : ∀ segment ∈ path, SegmentSettled segment.toList)
    (stands : ∀ part ∈ parts, Stands Percent.inPath part)
    (slashless : ∀ part ∈ parts, ∀ c ∈ part, isSlash true c = false) :
    PathSettled (followAll path parts) := by
  induction parts generalizing path with
  | nil => contradiction
  | cons part rest ih =>
      obtain ⟨first, later⟩ := List.forall_mem_cons.mp stands
      obtain ⟨single, others⟩ := List.forall_mem_cons.mp slashless
      cases rest with
      | nil => exact ⟨follow_last_ne_nil path part, follow_settled true before first single⟩
      | cons next rest =>
          rw [followAll]
          · have followed := follow_settled false before first single
            exact ih (List.cons_ne_nil next rest) followed later others
          · exact List.cons_ne_nil next rest

theorem read_path_settled (text : List Char) :
    ∃ segments, readPath true text = .segments segments ∧ PathSettled segments := by
  refine ⟨_, rfl, ?_⟩
  have encoded {segment : List Char} (slashless : ∀ c ∈ segment, isSlash true c = false) :
      ∀ c ∈ Percent.encode Percent.inPath segment, isSlash true c = false := by
    intro c written
    obtain ⟨member, -⟩ | rfl | ⟨n, small, rfl⟩ := Percent.mem_encode written
    · exact slashless c member
    · rfl
    · exact (by decide : ∀ n < 16, isSlash true (Percent.digit n) = false) n small
  apply follow_all_settled
  · rw [ne_eq, List.map_eq_nil_iff, split_segments_eq]
    exact List.splitOnP_ne_nil _ _
  · nofun
  · intro part member
    obtain ⟨segment, -, rfl⟩ := List.mem_map.mp member
    exact Percent.stands_encode rfl (by decide) segment
  · intro part member
    obtain ⟨segment, listed, rfl⟩ := List.mem_map.mp member
    exact encoded (split_segments_slashless true _ segment listed)

theorem follow_all_of_settled {path : List String} (filled : segments ≠ [])
    (settled : ∀ segment ∈ segments, SegmentSettled segment.toList) :
    followAll path (segments.map String.toList) = path ++ segments := by
  induction segments generalizing path with
  | nil => contradiction
  | cons segment rest ih =>
      obtain ⟨first, later⟩ := List.forall_mem_cons.mp settled
      have kept (last : Bool) : follow path last segment.toList = path ++ [segment] := by
        simp [follow, first.single, first.double]
      cases rest with
      | nil => exact kept true
      | cons next rest =>
          rw [List.map_cons, followAll, kept, ih (List.cons_ne_nil next rest) later,
            List.append_assoc]
          · rfl
          · exact List.cons_ne_nil _ _

theorem split_segments_text (segment : String) (rest : List String)
    (slashless : ∀ part ∈ segment :: rest, ∀ c ∈ part.toList, isSlash true c = false) :
    splitSegments true (segment.toList ++ rest.flatMap fun next => '/' :: next.toList) =
      (segment :: rest).map String.toList := by
  induction rest generalizing segment with
  | nil =>
      obtain ⟨first, -⟩ := List.forall_mem_cons.mp slashless
      simpa [split_segments_eq] using List.splitOnP_eq_singleton first
  | cons next rest ih =>
      obtain ⟨first, later⟩ := List.forall_mem_cons.mp slashless
      rw [List.map_cons, ← ih next later, split_segments_eq, split_segments_eq, List.flatMap_cons,
        List.cons_append, List.splitOnP_append_cons_of_forall_mem first '/' rfl]

/-- A path is read back from its text. -/
theorem read_path_text (settled : PathSettled segments) :
    readPath true (UrlPath.segmentsText segments).toList = .segments segments := by
  obtain ⟨filled, settled⟩ := settled
  obtain ⟨segment, rest, rfl⟩ := List.exists_cons_of_ne_nil filled
  have parts := split_segments_text segment rest fun part member => (settled part member).slashless
  have encoded : ((segment :: rest).map String.toList).map (Percent.encode Percent.inPath) =
      (segment :: rest).map String.toList := by
    apply (List.map_congr_left ?_).trans (List.map_id _)
    intro part member
    obtain ⟨listed, inside, rfl⟩ := List.mem_map.mp member
    exact Percent.encode_of_stands (settled listed inside).stands
  have text : dropSlash true (UrlPath.segmentsText (segment :: rest)).toList =
      segment.toList ++ rest.flatMap fun next => '/' :: next.toList := by
    rw [UrlPath.segments_text_to_list]
    rfl
  have path (text : List Char) :
      readPath true text = .segments (readSegments true (dropSlash true text)) := rfl
  rw [path, readSegments, text, parts, encoded, follow_all_of_settled filled settled,
    List.nil_append]

theorem path_char {c : Char} (stands : Percent.inPath c = false) :
    0x20 < c.toNat ∧ c ≠ '?' ∧ c ≠ '#' := by
  simp only [Percent.inPath, Percent.inFragment, Bool.or_eq_false_iff,
    beq_eq_false_iff_ne] at stands
  have shown := Percent.shown_of_plain (c := c) (by grind) (by grind)
  grind

/-- Nothing in the text of a path is dropped, or begins a query or a fragment. -/
theorem path_text_char (settled : PathSettled segments) :
    ∀ c ∈ (UrlPath.segmentsText segments).toList, 0x20 < c.toNat ∧ c ≠ '?' ∧ c ≠ '#' := by
  intro c member
  rw [UrlPath.segments_text_to_list] at member
  obtain ⟨segment, listed, inside⟩ := List.mem_flatMap.mp member
  obtain rfl | inside := List.mem_cons.mp inside
  · decide
  · exact path_char ((settled.2 segment listed).stands c inside).2

end CertSteward.Url
