-- Times in seconds. The library reckons with any numbers that can be added,
-- subtracted, divided and compared: doubles when it runs, exact fractions
-- where rounding must not matter.
namespace Chip8

/-- Numbers that times can be reckoned in. -/
class Time (τ : Type) extends Zero τ, One τ, Add τ, Sub τ, Div τ, LT τ, LE τ where
  ltDecidable : DecidableLT τ
  leDecidable : DecidableLE τ
  /-- How many steps of a length are enough to cover a span. -/
  stepsToCover : (span step : τ) → Nat

namespace Time

instance {τ : Type} [Time τ] : DecidableLT τ := ltDecidable

instance {τ : Type} [Time τ] : DecidableLE τ := leDecidable

/-- The later of two times; the first one if there is no difference. -/
def later {τ : Type} [Time τ] (a b : τ) : τ := if a < b then b else a

/-- Doubles, as a clock gives them. -/
instance : Time Float where
  zero := 0
  one := 1
  ltDecidable := inferInstance
  leDecidable := inferInstance
  stepsToCover span step := if 0 < step then (span / step).ceil.toUInt64.toNat else 0

/-- Exact fractions. -/
instance : Time Rat where
  zero := 0
  one := 1
  ltDecidable := inferInstance
  leDecidable := inferInstance
  stepsToCover span step := if 0 < step then (span / step).ceil.toNat else 0

end Time

end Chip8
