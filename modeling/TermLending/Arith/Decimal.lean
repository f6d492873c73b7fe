import TermLending.Arith.Checked

/-!
# Fixed-point decimals

A decimal is a natural number of units of `10 ^ -scale`. Products, quotients and reductions of scale round half up:
`halfUp n d` is the whole number nearest to `n / d`, the larger of two equally near ones.
-/

namespace TermLending

/-- The whole number nearest to `n / d`, ties upward. -/
def halfUp (n d : Nat) : Nat := (n + d / 2) / d

structure Decimal where
  raw : Nat
  scale : Nat
  deriving DecidableEq, Repr

namespace Decimal

/-- The number of decimals of a price, an interest factor and every amount of money computed in between. -/
def wadDecimals : Nat := 18

def wad : Nat := 1000000000000000000

def wadZero : Decimal := ⟨0, wadDecimals⟩

def ofBps (n : Nat) : Decimal := ⟨n, bpsDecimals⟩

/-- A finer scale multiplies by the power of ten between the two; a coarser one drops the digits that do not fit. -/
def rescale (a : Decimal) (scale : Nat) : Decimal :=
  if a.scale ≤ scale then ⟨a.raw * Nat.pow 10 (scale - a.scale), scale⟩
  else ⟨a.raw / Nat.pow 10 (a.scale - scale), scale⟩

def mulHalfUp (a b : Decimal) (scale : Nat) : Decimal :=
  ⟨halfUp ((a.rescale scale).raw * (b.rescale scale).raw) (Nat.pow 10 scale), scale⟩

/-- The divisor is rescaled first, and may vanish by that. -/
def divHalfUp (a b : Decimal) (scale : Nat) : Except Fault Decimal :=
  let divisor := (b.rescale scale).raw
  if divisor = 0 then .error .divisionByZero
  else .ok ⟨halfUp ((a.rescale scale).raw * Nat.pow 10 scale) divisor, scale⟩

/-- Like `rescale`, but digits that do not fit round half up. -/
def rescaleHalfUp (a : Decimal) (scale : Nat) : Decimal :=
  if scale < a.scale then ⟨halfUp a.raw (Nat.pow 10 (a.scale - scale)), scale⟩ else a.rescale scale

theorem rescale_self (a : Decimal) : a.rescale a.scale = a := by
  simp [rescale]

theorem rescale_scale (a : Decimal) (scale : Nat) : (a.rescale scale).scale = scale := by
  unfold rescale; split <;> rfl

theorem mulHalfUp_comm (a b : Decimal) (scale : Nat) : mulHalfUp a b scale = mulHalfUp b a scale := by
  simp only [mulHalfUp, Nat.mul_comm]

end Decimal

/-- A quantity counted in units of `10 ^ -source`, counted in units of `10 ^ -target`, without its fraction. -/
def shiftDecimals (value source target : Nat) : Nat :=
  if source ≤ target then value * Nat.pow 10 (target - source) else value / Nat.pow 10 (source - target)

theorem shiftDecimals_self (value decimals : Nat) : shiftDecimals value decimals decimals = value := by
  simp [shiftDecimals]

theorem shiftDecimals_zero (source target : Nat) : shiftDecimals 0 source target = 0 := by
  unfold shiftDecimals; split <;> simp

end TermLending
