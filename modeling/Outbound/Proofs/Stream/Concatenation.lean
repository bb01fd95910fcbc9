import Outbound.Proofs.Stream.Lines
import Outbound.Proofs.Stream.Transcript

namespace Outbound

/-- The same failure of a stream that has more lines before it. -/
def StreamError.later (count : Nat) : StreamError → StreamError
  | malformed line => malformed (line + count)
  | e => e

namespace Stream

theorem readLine_renumber {f : StreamError → StreamError} {number number' : Nat}
    (htext : f .notText = .notText) (h : f (.malformed number) = .malformed number')
    (line : List UInt8) : readLine number' line = (readLine number line).mapError f := by
  unfold readLine
  split
  next => rw [Except.mapError, htext]
  next s _ =>
    split
    next => rfl
    next =>
      split
      next => rfl
      next => rw [Except.mapError, h]

section

variable {ω : Type} {w : Writer ω} {written : ω → String}

end

/-- Settings that list one type without a route. -/
def singleListing : Settings := ⟨["a"], .ofList [("a::B", "")]⟩

end Stream

end Outbound
