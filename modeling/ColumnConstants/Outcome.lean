namespace ColumnConstants

variable {ε α β : Type}

theorem bind_eq_ok {x : Except ε α} {f : α → Except ε β} {b : β} :
    (x >>= f) = .ok b ↔ ∃ a, x = .ok a ∧ f a = .ok b := by
  cases x <;> simp [bind, Except.bind]

theorem map_eq_ok {x : Except ε α} {f : α → β} {b : β} :
    x.map f = .ok b ↔ ∃ a, x = .ok a ∧ f a = b := by
  cases x <;> simp [Except.map]

theorem mapError_eq {x : Except ε β} {f : ε → α} :
    x.mapError f =
      match x with
      | .error e => .error (f e)
      | .ok b => .ok b := by
  cases x <;> rfl

theorem mapError_eq_ok {x : Except ε β} {f : ε → α} {b : β} :
    x.mapError f = .ok b ↔ x = .ok b := by
  cases x <;> simp [mapError_eq]

end ColumnConstants
