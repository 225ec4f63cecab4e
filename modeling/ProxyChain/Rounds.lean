/-!
# Bounded repetition

A loop whose number of rounds is known in advance, in any monad.
-/

namespace ProxyChain

/-- At most `n` rounds of `step`, until one gives a result; `exhausted` if none does. -/
def rounds {m : Type → Type} [Monad m] {σ β : Type} (exhausted : m β) (step : σ → m (σ ⊕ β)) :
    (n : Nat) → σ → m β
  | 0, _ => exhausted
  | n + 1, s => do
    match ← step s with
    | .inl s => rounds exhausted step n s
    | .inr b => pure b

end ProxyChain
