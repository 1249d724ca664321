/-!
# Results that may be errors

A chain of computations succeeds exactly if each of its links does.
-/

namespace NetconfGate

variable {ε α β : Type}

theorem bind_eq_ok_iff {first : Except ε α} {next : α → Except ε β} {b : β} :
    first >>= next = .ok b ↔ ∃ a, first = .ok a ∧ next a = .ok b := by
  cases first with
  | error cause => exact iff_of_false nofun (by simp)
  | ok a => exact ⟨fun made => ⟨a, rfl, made⟩, fun ⟨_, same, made⟩ => by cases same; exact made⟩

theorem map_eq_ok_iff {first : Except ε α} {f : α → β} {b : β} :
    first.map f = .ok b ↔ ∃ a, first = .ok a ∧ f a = b := by
  cases first <;> simp [Except.map]

theorem mapError_eq_ok_iff {ε' : Type} {read : Except ε α} {f : ε → ε'} {a : α} :
    read.mapError f = .ok a ↔ read = .ok a := by
  cases read with
  | error cause => exact iff_of_false nofun nofun
  | ok value => exact ⟨fun same => by cases same; rfl, fun same => by cases same; rfl⟩

theorem toOption_eq_some_iff {read : Except ε α} {a : α} : read.toOption = some a ↔ read = .ok a := by
  cases read <;> simp [Except.toOption]

/-- What each step keeps holds of the end. -/
theorem foldlM_keeps {step : β → α → Except ε β} {Good : β → Prop}
    (keeps : ∀ b a next, Good b → step b a = .ok next → Good next) {items : List α} {b last : β}
    (good : Good b) (folded : items.foldlM step b = .ok last) : Good last := by
  induction items generalizing b with
  | nil =>
      cases folded
      exact good
  | cons a rest ih =>
      rw [List.foldlM_cons] at folded
      obtain ⟨next, made, rest⟩ := bind_eq_ok_iff.mp folded
      exact ih (keeps b a next good made) rest

end NetconfGate
