import TermLending.Arith.Decimal

/-!
# Simple interest

Interest does not compound: it is the principal times the annual rate times the elapsed part of a year of 365 days.
The elapsed part and each product round half up at eighteen decimals, and the interest rounds half up to whole units.
-/

namespace TermLending.Interest

open Decimal

def secondsPerYear : Nat := 31536000

/-- The share of the principal earned over `time` seconds at `rate` basis points a year. -/
def factor (rate time : Nat) : Except Fault Decimal :=
  if time = 0 then .ok wadZero
  else do
    let rate ← signed64 rate
    let time ← signed64 time
    let fraction ← divHalfUp ⟨time, 0⟩ ⟨secondsPerYear, 0⟩ wadDecimals
    return mulHalfUp (.ofBps rate) fraction wadDecimals

/-- What `principal` earns at a given factor, in whole units. -/
def earned (principal : Nat) (factor : Decimal) : Nat :=
  (rescaleHalfUp (mulHalfUp ⟨principal, 0⟩ factor wadDecimals) 0).raw

def accrued (principal rate time : Nat) : Except Fault Nat := do
  let factor ← factor rate time
  return earned principal factor

/-- The principal together with its interest. -/
def due (principal rate time : Nat) : Except Fault Nat := do
  let interest ← accrued principal rate time
  return principal + interest

theorem factor_zero_time (rate : Nat) : factor rate 0 = .ok wadZero := if_pos rfl

end TermLending.Interest
