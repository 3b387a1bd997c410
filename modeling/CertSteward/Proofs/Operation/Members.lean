import CertSteward.Operation.Json
import CertSteward.Proofs.Json.Members

/-!
# Status and error of an operation read from an object

An object that reads as an operation that is done without an error says so in
exactly one way: it has one status member, the text `DONE`, and its error
member, if there is one, is a null.
-/

namespace CertSteward.Operation

set_option autoImplicit false

open CertSteward.Json

theorem status_fills : shape.Fills "status" Decoder.text Operation.status := by
  refine Shape.fills_of_each ⟨_, List.mem_of_getElem? (i := 1) rfl, rfl⟩ ?_
  intro field member
  simp only [shape, List.mem_cons, List.not_mem_nil, or_false] at member
  rcases member with rfl | rfl | rfl | rfl | rfl | rfl | rfl | rfl | rfl
  case inl => exact Or.inr ⟨by decide, Field.keeps_needed _ _ fun _ _ => rfl⟩
  case inr.inl => exact Or.inl ⟨rfl, Field.sets_defaulted _ _ fun _ _ => rfl⟩
  all_goals exact Or.inr ⟨by decide, Field.keeps_defaulted _ _ fun _ _ => rfl⟩

theorem error_fills :
    shape.Fills "error" (Decoder.optional OperationErrorDetail.shape.decoder)
      Operation.error := by
  refine Shape.fills_of_each ⟨_, List.mem_of_getElem? (i := 6) rfl, rfl⟩ ?_
  intro field member
  simp only [shape, List.mem_cons, List.not_mem_nil, or_false] at member
  rcases member with rfl | rfl | rfl | rfl | rfl | rfl | rfl | rfl | rfl
  case inl => exact Or.inr ⟨by decide, Field.keeps_needed _ _ fun _ _ => rfl⟩
  case inr.inr.inr.inr.inr.inr.inl =>
    exact Or.inl ⟨rfl, Field.sets_defaulted _ _ fun _ _ => rfl⟩
  all_goals exact Or.inr ⟨by decide, Field.keeps_defaulted _ _ fun _ _ => rfl⟩

structure SaysDone (members : List (Option String × Document)) : Prop where
  status : membersNamed "status" members = [(some "status", .text "DONE")]
  error : membersNamed "error" members = [] ∨
    membersNamed "error" members = [(some "error", .null)]

theorem says_done_of_decoded {source : Source} {members : List (Option String × Document)}
    {ending : Ending} {operation : Operation}
    (decoded : decoder source (.object members ending) = .ok operation)
    (done : operation.status = "DONE") (clean : operation.error = none) :
    SaysDone members := by
  constructor
  · rcases status_fills.decoded_object decoded with ⟨_, blank⟩ | ⟨item, only, taken⟩
    · rw [done] at blank
      exact absurd blank (by decide)
    · rw [done, Decoder.text_eq_ok_iff] at taken
      rw [only, taken]
  · rcases error_fills.decoded_object decoded with ⟨absent, _⟩ | ⟨item, only, taken⟩
    · exact Or.inl absent
    · rw [clean, Decoder.optional_eq_ok_none_iff] at taken
      exact Or.inr (by rw [only, taken])

end CertSteward.Operation
