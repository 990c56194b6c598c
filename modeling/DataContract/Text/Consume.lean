/-!
# Reading step by step

Readers that keep a state take one step after another, and every step consumes
some of the input. So a reader needs no more steps than the input has items, and
one to end with.
-/

namespace DataContract
namespace Text

/-- What a step of a reader comes to: an answer, or a state in which to go on
with the rest of the input. -/
inductive Step (σ τ α : Type)
  | done (answer : α)
  | more
      (state : σ)
      (rest : List τ)

/-- Take at most so many steps until one gives the answer. Without an answer the
reader ends in the error `stuck`. -/
def consumeWithin {σ ε τ α : Type}
    (stuck : ε)
    (step : σ → List τ → Except ε (Step σ τ α)) : Nat → σ → List τ → Except ε α
  | 0, _, _ => .error stuck
  | steps + 1, state, input =>
      match step state input with
      | .error e => .error e
      | .ok (.done answer) => .ok answer
      | .ok (.more state rest) => consumeWithin stuck step steps state rest

/-- Take steps until one gives the answer. -/
def consume {σ ε τ α : Type}
    (stuck : ε)
    (step : σ → List τ → Except ε (Step σ τ α))
    (state : σ)
    (input : List τ) : Except ε α :=
  consumeWithin stuck step (input.length + 1) state input

end Text
end DataContract
