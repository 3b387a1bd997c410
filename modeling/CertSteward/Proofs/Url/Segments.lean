import CertSteward.Proofs.Url.Percent
import CertSteward.Url
import Mathlib.Data.List.Forall2
import Mathlib.Logic.Function.Basic

/-!
# Texts as segments

A text that is put behind a path becomes one segment that decodes to it, unless
the text is one of the two dot segments or has a tab or a line break in it. Such
a text leaves fewer segments than it should, or a segment of another text.
-/

namespace CertSteward

set_option autoImplicit false

namespace Url

theorem lowers_to {c d : Char} (lowered : c.toLower = d) :
    c = d ∨ 65 ≤ c.toNat ∧ c.toNat + 32 = d.toNat := by
  by_cases upper : c.val ≥ 'A'.val ∧ c.val ≤ 'Z'.val
  · right
    have lower : c.toLower.val = c.val + ('a'.val - 'A'.val) := congrArg Char.val (dif_pos upper)
    have low : 65 ≤ c.val.toNat := upper.1
    have high : c.val.toNat ≤ 90 := upper.2
    have sum : (c.val + ('a'.val - 'A'.val)).toNat = c.val.toNat + 32 := by
      rw [UInt32.toNat_add]
      exact Nat.mod_eq_of_lt (show c.val.toNat + 32 < 2 ^ 32 by omega)
    rw [← lower, lowered] at sum
    exact ⟨low, sum.symm⟩
  · have kept : c.toLower = c := dif_neg upper
    exact .inl (kept.symm.trans lowered)

/-- A character below the small letters has no other case. -/
theorem eq_of_lowers_to {c d : Char} (lowered : c.toLower = d) (plain : d.toNat < 97) :
    c = d := by
  obtain same | ⟨low, shifted⟩ := lowers_to lowered
  · exact same
  · omega

theorem value_of_lowers_to_e {c : Char} (lowered : c.toLower = 'e') :
    Percent.value? c = some 14 := by
  obtain rfl | ⟨-, shifted⟩ := lowers_to lowered
  · rfl
  · have large : c.toNat = 69 := Nat.add_right_cancel shifted
    rw [Percent.value?, large]
    rfl

/-- A dot in front, written as itself or by its number. -/
theorem decode_dot_front {segment rest : List Char}
    (front : segment.map Char.toLower = '.' :: rest ∨
      segment.map Char.toLower = '%' :: '2' :: 'e' :: rest) :
    ∃ tail, tail.map Char.toLower = rest ∧
      Percent.decodeBytes segment = 0x2E :: Percent.decodeBytes tail := by
  obtain itself | number := front
  · obtain ⟨c, tail, rfl, lowered, rfl⟩ := List.map_eq_cons_iff.mp itself
    obtain rfl := eq_of_lowers_to lowered (by decide)
    exact ⟨tail, rfl, Percent.decode_plain (by decide) tail⟩
  · obtain ⟨a, tail, rfl, first, number⟩ := List.map_eq_cons_iff.mp number
    obtain ⟨b, tail, rfl, second, number⟩ := List.map_eq_cons_iff.mp number
    obtain ⟨c, tail, rfl, third, rfl⟩ := List.map_eq_cons_iff.mp number
    obtain rfl := eq_of_lowers_to first (by decide)
    obtain rfl := eq_of_lowers_to second (by decide)
    refine ⟨tail, rfl, ?_⟩
    have two : Percent.value? '2' = some 2 := rfl
    rw [Percent.decodeBytes, two, value_of_lowers_to_e third]
    rfl

theorem decode_single_dot {segment : List Char} (dot : isSingleDot segment = true) :
    Percent.decode? segment = some "." := by
  have front : segment.map Char.toLower = ['.'] ∨ segment.map Char.toLower = ['%', '2', 'e'] := by
    simpa [isSingleDot] using dot
  obtain ⟨tail, none_left, bytes⟩ := decode_dot_front front
  rw [Percent.decode?, bytes, List.map_eq_nil_iff.mp none_left]
  rfl

theorem decode_double_dot {segment : List Char} (dots : isDoubleDot segment = true) :
    Percent.decode? segment = some ".." := by
  have front : ∃ rest, (segment.map Char.toLower = '.' :: rest ∨
      segment.map Char.toLower = '%' :: '2' :: 'e' :: rest) ∧
      (rest = ['.'] ∨ rest = ['%', '2', 'e']) := by
    unfold isDoubleDot at dots
    split at dots
    next same => exact ⟨_, .inl same, .inl rfl⟩
    next same => exact ⟨_, .inl same, .inr rfl⟩
    next same => exact ⟨_, .inr same, .inl rfl⟩
    next same => exact ⟨_, .inr same, .inr rfl⟩
    next => contradiction
  obtain ⟨rest, front, back⟩ := front
  obtain ⟨middle, left, first⟩ := decode_dot_front front
  rw [← left] at back
  obtain ⟨tail, none_left, second⟩ := decode_dot_front back
  rw [Percent.decode?, first, second, List.map_eq_nil_iff.mp none_left]
  rfl

def segmentEscapes (special : Bool) : Char → Bool :=
  if special then Percent.inSpecialPathSegment else Percent.inPathSegment

theorem percent_escaped (special : Bool) : segmentEscapes special '%' = true := by
  cases special <;> rfl

theorem slash_escaped (special : Bool) : segmentEscapes special '/' = true := by
  cases special <;> rfl

def written (special : Bool) (text : List Char) : List Char :=
  Percent.encode (segmentEscapes special) text

variable {special : Bool}

theorem decode_written (special : Bool) (text : List Char) :
    Percent.decode? (written special text) = some (String.ofList text) :=
  Percent.decode_encode (percent_escaped special) text

theorem written_injective :
    Function.Injective fun text : String => String.ofList (written special text.toList) := by
  intro a b same
  have chars := String.ofList_injective same
  exact String.toList_injective (Percent.encode_injective (percent_escaped special) chars)

/-- Only the two dot segments are written as dot segments. -/
theorem single_dot_iff (text : List Char) :
    isSingleDot (written special text) = true ↔ text = ['.'] := by
  constructor
  · intro dot
    have decoded := decode_written special text
    rw [decode_single_dot dot] at decoded
    exact (String.ofList_injective (Option.some.inj decoded)).symm
  · rintro rfl
    cases special <;> rfl

theorem double_dot_iff (text : List Char) :
    isDoubleDot (written special text) = true ↔ text = ['.', '.'] := by
  constructor
  · intro dots
    have decoded := decode_written special text
    rw [decode_double_dot dots] at decoded
    exact (String.ofList_injective (Option.some.inj decoded)).symm
  · rintro rfl
    cases special <;> rfl

/-- Whether a text can be a segment of its own. -/
def Nameable (text : String) : Prop :=
  text ≠ "." ∧ text ≠ ".." ∧ ∀ c ∈ text.toList, isIgnored c = false

instance (text : String) : Decidable (Nameable text) :=
  decidable_of_iff (text ≠ "." ∧ text ≠ ".." ∧ text.toList.all (isIgnored · == false) = true)
    (by simp only [Nameable, List.all_eq_true, beq_iff_eq])

def room (segments : List String) : List String :=
  if segments = [""] then [] else segments

theorem room_length_le (segments : List String) : (room segments).length ≤ segments.length := by
  unfold room
  split
  · exact Nat.zero_le _
  · exact Nat.le_refl _

/-- The characters of a text that a URL keeps. -/
def kept (text : String) : List Char :=
  text.toList.filter fun c => !isIgnored c

theorem kept_eq_iff (text : String) :
    kept text = text.toList ↔ ∀ c ∈ text.toList, isIgnored c = false := by
  rw [kept, List.filter_eq_self]
  simp only [Bool.not_eq_true']

theorem push_segment_eq (segments : List String) {text : String}
    (dot : text ≠ ".") (dots : text ≠ "..") :
    pushSegment special segments text =
      if kept text = ['.', '.'] then (room segments).dropLast ++ [""]
      else if kept text = ['.'] then room segments ++ [""]
      else room segments ++ [String.ofList (written special (kept text))] := by
  have outside : ¬(text = "." ∨ text = "..") := by simp [dot, dots]
  unfold pushSegment
  rw [if_neg outside]
  change follow (room segments) true (written special (kept text)) = _
  simp only [follow, double_dot_iff, single_dot_iff, if_true]

/-- A text that can be a segment becomes one, and nothing else changes. -/
theorem push_nameable (segments : List String) {text : String} (nameable : Nameable text) :
    pushSegment special segments text =
      room segments ++ [String.ofList (written special text.toList)] := by
  obtain ⟨dot, dots, clean⟩ := nameable
  have whole := (kept_eq_iff text).2 clean
  have notDots : text.toList ≠ ['.', '.'] := fun same => dots (String.toList_injective same)
  have notDot : text.toList ≠ ['.'] := fun same => dot (String.toList_injective same)
  rw [push_segment_eq segments dot dots, whole, if_neg notDots, if_neg notDot]

theorem push_length_le (special : Bool) (segments : List String) (text : String) :
    (pushSegment special segments text).length ≤ segments.length + 1 := by
  have fewer := room_length_le segments
  by_cases dot : text = "." ∨ text = ".."
  · rw [pushSegment, if_pos dot]
    exact Nat.le_succ _
  · obtain ⟨dot, dots⟩ := not_or.mp dot
    rw [push_segment_eq segments dot dots]
    split
    · simp only [List.length_append, List.length_dropLast, List.length_singleton]
      omega
    · split <;> simp only [List.length_append, List.length_singleton] <;> omega

/-- A text that adds a segment decoding to it is one that can be a segment. -/
theorem push_cases (special : Bool) {segments : List String} (text : String)
    (filled : segments ≠ []) (long : segments ≠ [""]) :
    (pushSegment special segments text).length ≤ segments.length ∨
      ∃ segment, pushSegment special segments text = segments ++ [segment] ∧
        (Percent.decode? segment.toList = some text → Nameable text) := by
  by_cases dot : text = "." ∨ text = ".."
  · have same : pushSegment special segments text = segments := by rw [pushSegment, if_pos dot]
    exact .inl (Nat.le_of_eq (congrArg List.length same))
  obtain ⟨dot, dots⟩ := not_or.mp dot
  have some_segment := List.length_pos_of_ne_nil filled
  rw [push_segment_eq segments dot dots, room, if_neg long]
  -- What is kept of a text may be a dot segment though the text itself is none.
  by_cases up : kept text = ['.', '.']
  · left
    rw [if_pos up, List.length_append, List.length_dropLast, List.length_singleton]
    omega
  right
  rw [if_neg up]
  by_cases here : kept text = ['.']
  · rw [if_pos here]
    refine ⟨"", rfl, fun decoded => ?_⟩
    have blank : "" = text := Option.some.inj decoded
    rw [← blank] at here
    contradiction
  · rw [if_neg here]
    refine ⟨_, rfl, fun decoded => ⟨dot, dots, (kept_eq_iff text).1 ?_⟩⟩
    rw [String.toList_ofList, decode_written] at decoded
    have same := congrArg String.toList (Option.some.inj decoded)
    rwa [String.toList_ofList] at same

theorem append_ne_blank {segments : List String} (filled : segments ≠ []) (segment : String) :
    segments ++ [segment] ≠ [""] := by
  intro same
  have one := congrArg List.length same
  have some_segment := List.length_pos_of_ne_nil filled
  rw [List.length_append] at one
  simp only [List.length_singleton] at one
  omega

theorem push_all_nameable {segments texts : List String} (filled : segments ≠ [])
    (long : segments ≠ [""]) (nameable : ∀ text ∈ texts, Nameable text) :
    texts.foldl (pushSegment special) segments =
      segments ++ texts.map fun text => String.ofList (written special text.toList) := by
  induction texts generalizing segments with
  | nil => rw [List.foldl_nil, List.map_nil, List.append_nil]
  | cons text texts ih =>
      have first := nameable text List.mem_cons_self
      have others := fun other member => nameable other (List.mem_cons_of_mem text member)
      rw [List.foldl_cons, push_nameable segments first, room, if_neg long,
        ih (by simp) (append_ne_blank filled _) others, List.append_assoc, List.map_cons,
        List.singleton_append]

theorem push_all_length_le (special : Bool) (segments texts : List String) :
    (texts.foldl (pushSegment special) segments).length ≤ segments.length + texts.length := by
  induction texts generalizing segments with
  | nil => exact Nat.le_refl _
  | cons text texts ih =>
      have first := push_length_le special segments text
      have others := ih (pushSegment special segments text)
      rw [List.foldl_cons, List.length_cons]
      omega

/-- Either segments are missing in the end, or every text has its segment, in order; one that
decodes to its text belongs to a text that can be a segment. -/
theorem push_all_cases (special : Bool) {segments : List String} (texts : List String)
    (filled : segments ≠ []) (long : segments ≠ [""]) :
    (texts.foldl (pushSegment special) segments).length < segments.length + texts.length ∨
      ∃ added, texts.foldl (pushSegment special) segments = segments ++ added ∧
        List.Forall₂ (fun segment text =>
          Percent.decode? segment.toList = some text → Nameable text) added texts := by
  induction texts generalizing segments with
  | nil => exact .inr ⟨[], (List.append_nil segments).symm, .nil⟩
  | cons text texts ih =>
      rw [List.foldl_cons, List.length_cons]
      obtain short | ⟨segment, pushed, first⟩ := push_cases special text filled long
      -- One text adds one segment at most, so what is missing once is missing in the end.
      · have others := push_all_length_le special
          (pushSegment special segments text) texts
        left
        omega
      · rw [pushed]
        obtain missing | ⟨added, whole, others⟩ := ih (by simp) (append_ne_blank filled segment)
        · left
          rw [List.length_append, List.length_singleton] at missing
          omega
        · right
          rw [whole, List.append_assoc]
          exact ⟨segment :: added, rfl, .cons first others⟩

end Url

namespace UrlPath

theorem segments_text_to_list (segments : List String) :
    (segmentsText segments).toList = segments.flatMap fun segment => '/' :: segment.toList := by
  rw [segmentsText, String.toList_join, List.flatMap_map]
  simp only [String.toList_append]
  rfl

theorem segments_text_append (front back : List String) :
    segmentsText (front ++ back) = segmentsText front ++ segmentsText back := by
  rw [segmentsText, List.map_append, String.join_append]
  rfl

/-- The segment in front of a path ends at the next slash. -/
theorem front_segment {segment : String} (slashless : '/' ∉ segment.toList)
    (rest : List String) :
    (segment.toList ++ rest.flatMap fun next => '/' :: next.toList).takeWhile (· != '/') =
      segment.toList := by
  have inside : ∀ c ∈ segment.toList, (c != '/') = true := by
    intro c member
    rw [bne_iff_ne]
    rintro rfl
    exact slashless member
  rw [List.takeWhile_append_of_pos inside]
  cases rest with
  | nil => exact List.append_nil _
  | cons next rest => exact List.append_nil _

theorem segments_text_injective {a b : List String} (left : ∀ segment ∈ a, '/' ∉ segment.toList)
    (right : ∀ segment ∈ b, '/' ∉ segment.toList) (same : segmentsText a = segmentsText b) :
    a = b := by
  have chars := congrArg String.toList same
  rw [segments_text_to_list, segments_text_to_list] at chars
  clear same
  induction a generalizing b with
  | nil =>
      cases b with
      | nil => rfl
      | cons segment rest => contradiction
  | cons segment rest ih =>
      cases b with
      | nil => contradiction
      | cons other others =>
          rw [List.flatMap_cons, List.flatMap_cons, List.cons_append, List.cons_append] at chars
          -- The first segments are what stands before the second slash on both sides.
          have behind := (List.cons.inj chars).2
          have first := congrArg (List.takeWhile (· != '/')) behind
          rw [front_segment (left segment List.mem_cons_self),
            front_segment (right other List.mem_cons_self)] at first
          rw [first] at behind
          rw [String.toList_injective first, ih
            (fun next member => left next (List.mem_cons_of_mem _ member))
            (fun next member => right next (List.mem_cons_of_mem _ member))
            (List.append_cancel_left behind)]

/-- Behind the same segments, different segments make different texts. -/
theorem segments_behind_injective {front a b : List String}
    (left : ∀ segment ∈ a, '/' ∉ segment.toList) (right : ∀ segment ∈ b, '/' ∉ segment.toList)
    (same : segmentsText (front ++ a) = segmentsText (front ++ b)) : a = b := by
  have chars := congrArg String.toList same
  simp only [segments_text_append, String.toList_append, List.append_right_inj] at chars
  exact segments_text_injective left right (String.toList_injective chars)

end UrlPath

end CertSteward
