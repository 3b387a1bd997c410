/-!
# What a success comes from

A success of two steps is one of the first and one of the second. A success past
a check is one where the check found nothing. Steps that all succeed give all
their results.
-/

namespace CertSteward

set_option autoImplicit false

variable {ε α β : Type}

theorem ok_of_bind {first : Except ε α} {next : α → Except ε β} {result : β}
    (done : (first >>= next) = .ok result) :
    ∃ value, first = .ok value ∧ next value = .ok result := by
  cases first with
  | error error => contradiction
  | ok value => exact ⟨value, rfl, done⟩

theorem ok_of_map {first : Except ε α} {change : α → β} {result : β}
    (done : first.map change = .ok result) :
    ∃ value, first = .ok value ∧ change value = result := by
  cases first with
  | error error => contradiction
  | ok value => exact ⟨value, rfl, Except.ok.inj done⟩

/-- A success behind a check has passed the check. -/
theorem ok_of_guard {fails : Prop} [Decidable fails] {error : ε} {next : Except ε β} {result : β}
    (done : (if fails then (throw error : Except ε PUnit) >>= fun _ => next else next) =
      .ok result) : ¬fails ∧ next = .ok result := by
  by_cases failed : fails
  · rw [if_pos failed] at done
    contradiction
  · rw [if_neg failed] at done
    exact ⟨failed, done⟩

theorem map_m_eq_some {step : α → Option β} {result : α → β} {items : List α}
    (all : ∀ item ∈ items, step item = some (result item)) :
    items.mapM step = some (items.map result) := by
  induction items with
  | nil => rfl
  | cons item items ih =>
      rw [List.mapM_cons, all item List.mem_cons_self,
        ih fun other listed => all other (List.mem_cons_of_mem item listed)]
      rfl

end CertSteward
