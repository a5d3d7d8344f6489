import Issuance.Event

/-! # Computations that leave a trace

    A traced computation ends in a value or an error, and what it did on the way stays in the trace
    either way: first what came first. -/

namespace Issuance

/-- An outcome and what was done on the way to it. -/
structure Traced (ε α : Type) where
  trace : List ε
  outcome : Except Error α

namespace Traced

variable {ε α β : Type}

/-- An outcome reached without doing anything. -/
def ofExcept (outcome : Except Error α) : Traced ε α := ⟨[], outcome⟩

/-- A value reached without doing anything. -/
def pure (a : α) : Traced ε α := ofExcept (.ok a)

/-- One after the other, unless the first ends in an error. -/
def bind (x : Traced ε α) (f : α → Traced ε β) : Traced ε β :=
  match x.outcome with
  | .error e => ⟨x.trace, .error e⟩
  | .ok a => ⟨x.trace ++ (f a).trace, (f a).outcome⟩

instance : Monad (Traced ε) where
  pure := pure
  bind := bind

/-- Does one thing. -/
def emit (e : ε) : Traced ε Unit := ⟨[e], .ok ()⟩

/-- Does things in order. -/
def emitAll (es : List ε) : Traced ε Unit := ⟨es, .ok ()⟩

/-- Ends in an error. -/
def fail (e : Error) : Traced ε α := ofExcept (.error e)

/-- The same with another kind of things done. -/
def mapTrace {ε' : Type} (f : ε → ε') (x : Traced ε α) : Traced ε' α := ⟨x.trace.map f, x.outcome⟩

end Traced
end Issuance
