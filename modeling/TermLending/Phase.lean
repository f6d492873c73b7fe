/-!
# Phases

The life of a pool, from its first deposits to one of its two endings.
-/

namespace TermLending

/-- Where a pool stands: open for deposits, lent out, repaid at maturity, or closed early. -/
inductive Phase where
  | matching
  | running
  | finished
  | liquidated
  deriving DecidableEq, Repr

namespace Phase

/-- A pool in this phase stays in it. -/
def isTerminal : Phase → Bool
  | finished | liquidated => true
  | matching | running => false

/-- The amounts lent and borrowed are final. -/
def isSettled : Phase → Bool
  | matching => false
  | running | finished | liquidated => true

end Phase

end TermLending
