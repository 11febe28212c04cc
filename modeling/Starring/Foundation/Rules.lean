import Starring.Foundation.Checks

/-! Retryable commands. Such a command first recognises a retry of itself and
answers it without touching the state; otherwise it makes its checks, writes its
fields and commits. A refused commit leaves the written fields in place. -/

namespace Starring.Foundation

/-- The retries a command recognises, and its checks followed by what it writes. -/
structure Rule (ε σ : Type) where
  replays : σ → Bool
  write : σ → Except ε σ

section
variable {ε σ ρ : Type}

def Rule.run (replayed : σ → ρ) (commit : σ → Except ε ρ × σ) (rule : Rule ε σ) (state : σ) : Except ε ρ × σ :=
  if rule.replays state then (.ok (replayed state), state)
  else
    match rule.write state with
    | .error error => (.error error, state)
    | .ok written => commit written

/-- The three ways a retryable command ends: a replay, a refusal, a commit of what it wrote. -/
theorem Rule.run_cases (replayed : σ → ρ) (commit : σ → Except ε ρ × σ) (rule : Rule ε σ) (state : σ) :
    (rule.replays state = true ∧ rule.run replayed commit state = (.ok (replayed state), state)) ∨
    (∃ error, rule.replays state = false ∧ rule.write state = .error error ∧
      rule.run replayed commit state = (.error error, state)) ∨
    (∃ written, rule.replays state = false ∧ rule.write state = .ok written ∧
      rule.run replayed commit state = commit written) := by
  unfold Rule.run
  by_cases replay : rule.replays state = true
  · exact .inl ⟨replay, by rw [if_pos replay]⟩
  · have fresh : rule.replays state = false := by simpa using replay
    rcases ok_or_error (rule.write state) with ⟨written, wrote⟩ | ⟨error, refused⟩
    · exact .inr (.inr ⟨written, fresh, wrote, by simp only [fresh, wrote]; rfl⟩)
    · exact .inr (.inl ⟨error, fresh, refused, by simp only [fresh, refused]; rfl⟩)

end

end Starring.Foundation
