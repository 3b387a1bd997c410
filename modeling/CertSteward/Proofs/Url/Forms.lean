import CertSteward.Proofs.Url.Percent
import CertSteward.Url

/-!
# Pairs of a query

A query read as a form is a list of pairs. A pair that is put behind a query is
read as it was given, whatever characters its name and its value have, and the
pairs before it stay as they are.
-/

namespace CertSteward

set_option autoImplicit false

namespace Percent

theorem decode_form_char (c : Char) (rest : List Char) :
    decodeBytes ((if c = ' ' then ['+'] else encodeChar (fun c => !standsInForm c) c).map
        (fun c => if c = '+' then ' ' else c) ++ rest) =
      String.utf8EncodeChar c ++ decodeBytes rest := by
  by_cases blank : c = ' '
  · rw [if_pos blank, blank]
    exact decode_plain (by decide) rest
  · rw [if_neg blank]
    -- A plus sign is itself escaped, so none is written but for a blank.
    have same : (encodeChar (fun c => !standsInForm c) c).map
        (fun c => if c = '+' then ' ' else c) = encodeChar (fun c => !standsInForm c) c := by
      apply (List.map_congr_left ?_).trans (List.map_id _)
      intro written member
      apply if_neg
      intro plus
      rw [plus] at member
      exact mark_not_mem_encode_char (by decide) (by decide) c member
    rw [same, decode_encode_char (by decide)]

/-- A value in a form is read as the text it was made from. -/
theorem decode_encode_form (text : List Char) :
    decodeForm? (encodeForm text) = some (String.ofList text) := by
  have bytes : decodeBytes ((encodeForm text).map fun c => if c = '+' then ' ' else c) =
      text.flatMap String.utf8EncodeChar := by
    induction text with
    | nil => rfl
    | cons c text ih =>
        rw [encodeForm, List.flatMap_cons, List.map_append, decode_form_char, ← encodeForm, ih,
          List.flatMap_cons]
  rw [decodeForm?, decode?, bytes, Text.Utf8.decode_encode_chars]

theorem mark_not_mem_encode_form {mark : Char} (apart : IsApart mark) (plus : mark ≠ '+')
    (marked : standsInForm mark = false) (text : List Char) : mark ∉ encodeForm text := by
  intro member
  obtain ⟨c, -, written⟩ := List.mem_flatMap.mp member
  split at written
  · exact plus (List.mem_singleton.mp written)
  · exact mark_not_mem_encode_char apart (by rw [marked]; rfl) c written

end Percent

def formPair (piece : List Char) : Option String × Option String :=
  (Percent.decodeForm? (piece.takeWhile (· != '=')),
    Percent.decodeForm? ((piece.dropWhile (· != '=')).drop 1))

/-- The pairs of a form, from the pieces between the ampersands that are not empty. -/
def formPairs (form : List Char) : List (Option String × Option String) :=
  ((form.splitOn '&').filter fun piece => !piece.isEmpty).map formPair

theorem form_pairs_append (front back : List Char) :
    formPairs (front ++ '&' :: back) = formPairs front ++ formPairs back := by
  rw [formPairs, List.splitOn_append_cons_self, List.filter_append, List.map_append]
  rfl

def writtenPair (name value : String) : List Char :=
  Percent.encodeForm name.toList ++ '=' :: Percent.encodeForm value.toList

theorem form_pairs_written (name value : String) :
    formPairs (writtenPair name value) = [(some name, some value)] := by
  have ampersand : '&' ∉ writtenPair name value := by
    have absent := @Percent.mark_not_mem_encode_form '&' (by decide) (by decide) (by decide)
    simp [writtenPair, absent]
  have equals := @Percent.mark_not_mem_encode_form '=' (by decide) (by decide) (by decide)
    name.toList
  have before : ∀ c ∈ Percent.encodeForm name.toList, (c != '=') = true := by
    intro c member
    rw [bne_iff_ne]
    rintro rfl
    exact equals member
  have piece : formPair (writtenPair name value) = (some name, some value) := by
    rw [formPair, writtenPair, List.takeWhile_append_of_pos before,
      List.dropWhile_append_of_pos before]
    simp [Percent.decode_encode_form]
  have filled : (writtenPair name value).isEmpty = false := by simp [writtenPair]
  rw [formPairs, List.splitOn_eq_singleton ampersand]
  simp [filled, piece]

namespace Url

def pairs (url : Url) : List (Option String × Option String) :=
  match url.query with
  | some query => formPairs query.toList
  | none => []

/-- A pair put behind a query comes behind its pairs. -/
theorem pairs_append_query (url : Url) (name value : String) :
    (url.appendQuery name value).pairs = url.pairs ++ [(some name, some value)] := by
  have written := form_pairs_written name value
  unfold appendQuery pairs
  cases url.query with
  | none =>
      change formPairs (String.ofList (writtenPair name value)).toList = _
      rw [String.toList_ofList, written]
      rfl
  | some query =>
      by_cases blank : query.isEmpty
      · have none_before : formPairs query.toList = [] := by
          rw [String.isEmpty_iff.mp blank]
          rfl
        simp only [if_pos blank, none_before]
        change formPairs (String.ofList (writtenPair name value)).toList = _
        rw [String.toList_ofList, written]
        rfl
      · simp only [if_neg blank, String.toList_append]
        change
          formPairs (query.toList ++ ['&'] ++ (String.ofList (writtenPair name value)).toList) = _
        rw [String.toList_ofList, List.append_assoc, List.singleton_append, form_pairs_append,
          written]

/-- A pair put behind a query leaves the text before it as it is. -/
theorem append_query_text (url : Url) (name value : String) :
    ∃ added, (url.appendQuery name value).queryText = url.queryText ++ added := by
  unfold appendQuery queryText
  cases url.query with
  | none => exact ⟨_, String.empty_append.symm⟩
  | some query =>
      by_cases blank : query.isEmpty
      · simp only [String.isEmpty_iff.mp blank]
        exact ⟨_, congrArg (· ++ _) String.append_empty.symm⟩
      · simp only [if_neg blank]
        refine ⟨"&" ++ String.ofList (writtenPair name value), ?_⟩
        simp only [String.append_assoc]
        rfl

end Url

end CertSteward
