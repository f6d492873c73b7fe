import TermLending.Oracle
import TermLending.Pool.Basic
import TermLending.Registry
import TermLending.Wire.Format

/-!
# Formats of the records

The fields of each record in the order in which they are written.
-/

namespace TermLending.Wire.Format

def loan : Format Loan :=
  (pair u64 <| pair u64 <| pair u64 <| pair natural <| pair natural <| pair natural <| pair u64 <|
    pair token <| pair token <| pair address <| pair address <| pair u64 phase).via
  (fun l => (l.settleTime, l.endTime, l.interestRate, l.maxSupply, l.lendSupply, l.borrowSupply, l.mortgageRate,
    l.settleToken, l.pledgeToken, l.lendReceipt, l.borrowReceipt, l.liquidationThreshold, l.phase))
  (fun (settleTime, endTime, interestRate, maxSupply, lendSupply, borrowSupply, mortgageRate,
      settleToken, pledgeToken, lendReceipt, borrowReceipt, liquidationThreshold, phase) =>
    some {
      settleTime, endTime, interestRate, maxSupply, lendSupply, borrowSupply, mortgageRate,
      settleToken, pledgeToken, lendReceipt, borrowReceipt, liquidationThreshold, phase })

def amounts : Format Amounts :=
  (pair natural <| pair natural <| pair natural <| pair natural <| pair natural natural).via
  (fun a => (a.matchedLend, a.matchedBorrow, a.finishLend, a.finishBorrow, a.recoveryLend, a.recoveryBorrow))
  (fun (matchedLend, matchedBorrow, finishLend, finishBorrow, recoveryLend, recoveryBorrow) =>
    some { matchedLend, matchedBorrow, finishLend, finishBorrow, recoveryLend, recoveryBorrow })

def lendPosition : Format LendPosition :=
  (pair natural <| pair natural <| pair flag <| pair flag flag).via
  (fun p => (p.stake, p.receipts, p.claimed, p.refunded, p.recovered))
  (fun (stake, receipts, claimed, refunded, recovered) =>
    some { stake, receipts, claimed, refunded, recovered })

def borrowPosition : Format BorrowPosition :=
  (pair natural <| pair natural <| pair natural <| pair flag flag).via
  (fun p => (p.pledge, p.borrowed, p.receipts, p.claimed, p.recovered))
  (fun (pledge, borrowed, receipts, claimed, recovered) =>
    some { pledge, borrowed, receipts, claimed, recovered })

def healthReport : Format HealthReport :=
  (pair natural <| pair u64 <| pair flag <| pair natural natural).via
  (fun r => (r.health, r.threshold, r.liquidatable, r.pledged, r.borrowed))
  (fun (health, threshold, liquidatable, pledged, borrowed) =>
    some { health, threshold, liquidatable, pledged, borrowed })

def feedConfig : Format FeedConfig :=
  (pair address u8).via
  (fun c => (c.feed, c.tokenDecimals))
  (fun (feed, tokenDecimals) => some { feed, tokenDecimals })

def application : Format Application :=
  (pair address (many address)).via
  (fun a => (a.applicant, a.signatures.items))
  (fun (applicant, signatures) => some { applicant, signatures := ⟨signatures⟩ })

end TermLending.Wire.Format
