import Minilang.Text.Aligned
import Minilang.Text.Line

/-!
# Elapsed time as text

A span of time is shown in the largest of the units second, millisecond,
microsecond and nanosecond of which it holds at least one, as an exact decimal
number without closing zeros.
-/

namespace Minilang.Text

/-- The number `amount / unit`, where `unit` is the power of ten with `places`
zeros. -/
def decimal (amount unit places : Nat) : String :=
  let digits := alignRight places '0' (toString (amount % unit))
  let fraction := dropEndWhile (· == '0') digits.toList
  toString (amount / unit) ++ if fraction.isEmpty then ""
  else "." ++ String.ofList fraction

/-- The span of so many nanoseconds in its natural unit. -/
def elapsed (nanoseconds : Nat) : String :=
  if 1000000000 ≤ nanoseconds then decimal nanoseconds 1000000000 9 ++ "s"
  else if 1000000 ≤ nanoseconds then decimal nanoseconds 1000000 6 ++ "ms"
  else if 1000 ≤ nanoseconds then decimal nanoseconds 1000 3 ++ "µs"
  else toString nanoseconds ++ "ns"

end Minilang.Text
