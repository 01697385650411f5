import Abacus.Text.Basic

/-!
# Streams

How an input ends and how much an output takes. An input is its bytes and an `Ending`; an output
that fails takes its first bytes and refuses the rest, also in the middle of a write.
-/

namespace Abacus

/-- What comes behind the last byte of an input. -/
inductive Ending where
  | finished
  | broken (reason : Text)
  deriving DecidableEq

/-- How many bytes an output takes before it fails, and why it fails then. -/
inductive Room where
  | unlimited
  | limited (bytes : Nat) (reason : Text)
  deriving DecidableEq

namespace Room

/-- What a write of some bytes leaves: the room behind it, or the bytes that still went through
and the reason why no more did. -/
def write : Room → Bytes → Except (Bytes × Text) Room
  | unlimited, _ => .ok unlimited
  | limited n reason, bytes =>
    if bytes.length ≤ n then .ok (limited (n - bytes.length) reason)
    else .error (bytes.take n, reason)

end Room

end Abacus
