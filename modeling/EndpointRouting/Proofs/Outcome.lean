/-!
# Outcomes of steps that may fail

A computation that succeeds is peeled one step at a time.
-/

namespace EndpointRouting

variable {ε ε' α β : Type}

theorem bind_ok {x : Except ε α} {f : α → Except ε β} {b : β} (h : x >>= f = .ok b) :
    ∃ a, x = .ok a ∧ f a = .ok b := by
  cases x with
  | error _ => cases h
  | ok a => exact ⟨a, rfl, h⟩

theorem bind_error {x : Except ε α} {f : α → Except ε β} {e : ε} (h : x >>= f = .error e) :
    x = .error e ∨ ∃ a, x = .ok a ∧ f a = .error e := by
  cases x with
  | error _ =>
    cases h
    exact .inl rfl
  | ok a => exact .inr ⟨a, rfl, h⟩

theorem map_ok {x : Except ε α} {f : α → β} {b : β} (h : x.map f = .ok b) :
    ∃ a, x = .ok a ∧ f a = b := by
  cases x with
  | error _ => cases h
  | ok a => exact ⟨a, rfl, Except.ok.inj h⟩

theorem mapError_ok {x : Except ε α} {f : ε → ε'} {a : α} (h : x.mapError f = .ok a) :
    x = .ok a := by
  cases x with
  | error _ => cases h
  | ok _ => rw [Except.ok.inj h]

theorem mapError_error {x : Except ε α} {f : ε → ε'} {e : ε'} (h : x.mapError f = .error e) :
    ∃ e', f e' = e := by
  cases x with
  | error e' => exact ⟨e', Except.error.inj h⟩
  | ok _ => cases h

/-- What goes on only without errors, and has gone on. -/
theorem unless_errors_ok {errors : List ε} {x : Except (List ε) α} {a : α}
    (h : (if !errors.isEmpty then .error errors else x) = .ok a) : errors = [] ∧ x = .ok a := by
  cases errors with
  | nil => exact ⟨rfl, h⟩
  | cons _ _ => cases h

theorem unless_errors_error {errors es : List ε} {x : Except (List ε) α}
    (h : (if !errors.isEmpty then .error errors else x) = .error es) : es ≠ [] ∨ x = .error es := by
  cases errors with
  | nil => exact .inr h
  | cons e rest =>
    cases h
    exact .inl (List.cons_ne_nil e rest)

theorem ok_of_isSome {x : Except ε α} (h : x.toOption.isSome) : ∃ a, x = .ok a := by
  cases x with
  | error _ => cases h
  | ok a => exact ⟨a, rfl⟩

end EndpointRouting
