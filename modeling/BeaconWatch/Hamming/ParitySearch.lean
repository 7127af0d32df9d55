import BeaconWatch.Hamming.Sizes

/-!
The search for the parity count as a loop: it tries one count after another, and each try shifts, adds and compares in
words.
-/

set_option autoImplicit false

namespace BeaconWatch.Hamming

/-- Where a search stands. It ends at a count that fits, or where an operation leaves its word. -/
inductive ParitySearch
  | trying (parity : Nat)
  | found (parity : Nat)
  | overshifted
  | overflowed
  deriving DecidableEq

namespace ParitySearch

-- The shift comes first. A count that was tried is below sixty-four, so the next one is a word.
def step (dataLength : Nat) : ParitySearch → ParitySearch
  | trying parity =>
      match Word.powerOfTwo? parity, (Word.add? dataLength parity).bind (Word.add? · 1) with
      | none, _ => overshifted
      | some _, none => overflowed
      | some power, some total => if power < total then trying (parity + 1) else found parity
  | ended => ended

def after (dataLength : Nat) : Nat → ParitySearch
  | 0 => trying 0
  | steps + 1 => step dataLength (after dataLength steps)

end ParitySearch

end BeaconWatch.Hamming
