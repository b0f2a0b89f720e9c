namespace Grapher

variable {ε β γ : Type}

theorem bind_eq_ok {first : Except ε β} {next : β → Except ε γ} {result : γ} :
    first >>= next = .ok result ↔ ∃ value, first = .ok value ∧ next value = .ok result := by
  cases first with
  | error fault =>
      constructor
      · intro stopped
        cases stopped
      · rintro ⟨value, impossible, went⟩
        cases impossible
  | ok value =>
      constructor
      · intro went
        exact ⟨value, rfl, went⟩
      · rintro ⟨value, same, went⟩
        cases same
        exact went

theorem bind_eq_error {first : Except ε β} {next : β → Except ε γ} {fault : ε} :
    first >>= next = .error fault ↔
      first = .error fault ∨ ∃ value, first = .ok value ∧ next value = .error fault := by
  cases first with
  | error cause =>
      constructor
      · intro stopped
        cases stopped
        exact .inl rfl
      · rintro (same | ⟨value, impossible, stopped⟩)
        · cases same
          rfl
        · cases impossible
  | ok value =>
      constructor
      · intro stopped
        exact .inr ⟨value, rfl, stopped⟩
      · rintro (impossible | ⟨value, same, stopped⟩)
        · cases impossible
        · cases same
          exact stopped

end Grapher
