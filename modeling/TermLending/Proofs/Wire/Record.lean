import TermLending.Proofs.Wire.Format
import TermLending.Wire.Record

/-!
# Records on the wire

Records whose numbers, texts and lists fit the widths of their format are written without loss: each is read back from
the front of anything, and every cut and every addition is noticed.
-/

namespace TermLending

open Wire

/-! ### Records that fit -/

/-- The length of a number is itself written in four bytes. -/
def Wire.Fits (n : Nat) : Prop := byteWidth n ≤ maxU32

/-- The alias of the native coin is read as its full name, so a token must not be spelled like that. -/
structure Token.Fits (t : Token) : Prop where
  length : t.bytes.length ≤ maxU32
  own : t.bytes ≠ nativeAlias

structure Loan.Fits (l : Loan) : Prop where
  settleTime : l.settleTime ≤ maxU64
  endTime : l.endTime ≤ maxU64
  interestRate : l.interestRate ≤ maxU64
  maxSupply : Wire.Fits l.maxSupply
  lendSupply : Wire.Fits l.lendSupply
  borrowSupply : Wire.Fits l.borrowSupply
  mortgageRate : l.mortgageRate ≤ maxU64
  settleToken : l.settleToken.Fits
  pledgeToken : l.pledgeToken.Fits
  liquidationThreshold : l.liquidationThreshold ≤ maxU64

structure Amounts.Fits (a : Amounts) : Prop where
  matchedLend : Wire.Fits a.matchedLend
  matchedBorrow : Wire.Fits a.matchedBorrow
  finishLend : Wire.Fits a.finishLend
  finishBorrow : Wire.Fits a.finishBorrow
  recoveryLend : Wire.Fits a.recoveryLend
  recoveryBorrow : Wire.Fits a.recoveryBorrow

structure LendPosition.Fits (p : LendPosition) : Prop where
  stake : Wire.Fits p.stake
  receipts : Wire.Fits p.receipts

structure BorrowPosition.Fits (p : BorrowPosition) : Prop where
  pledge : Wire.Fits p.pledge
  borrowed : Wire.Fits p.borrowed
  receipts : Wire.Fits p.receipts

structure HealthReport.Fits (r : HealthReport) : Prop where
  health : Wire.Fits r.health
  threshold : r.threshold ≤ maxU64
  pledged : Wire.Fits r.pledged
  borrowed : Wire.Fits r.borrowed

def FeedConfig.Fits (c : FeedConfig) : Prop := c.tokenDecimals ≤ maxU8

def Application.Fits (a : Application) : Prop := a.signatures.items.length ≤ maxU32

namespace Wire.Format

variable {α : Type} {f : Format α} {range : α → Prop}

theorem loan_carries {l : Loan} (h : l.Fits) : loan.Carries l := by
  have roles := pair_carries (address_carries l.lendReceipt) (pair_carries (address_carries l.borrowReceipt)
    (pair_carries (u64_carries h.liquidationThreshold) (phase_carries l.phase)))
  have tokens := pair_carries (token_carries h.settleToken.length h.settleToken.own)
    (pair_carries (token_carries h.pledgeToken.length h.pledgeToken.own) roles)
  have supplies := pair_carries (natural_carries h.maxSupply) (pair_carries (natural_carries h.lendSupply)
    (pair_carries (natural_carries h.borrowSupply) (pair_carries (u64_carries h.mortgageRate) tokens)))
  have times := pair_carries (u64_carries h.settleTime) (pair_carries (u64_carries h.endTime)
    (pair_carries (u64_carries h.interestRate) supplies))
  exact via_carries times rfl

theorem amounts_carries {a : Amounts} (h : a.Fits) : amounts.Carries a := by
  have endings := pair_carries (natural_carries h.finishLend) (pair_carries (natural_carries h.finishBorrow)
    (pair_carries (natural_carries h.recoveryLend) (natural_carries h.recoveryBorrow)))
  have all := pair_carries (natural_carries h.matchedLend) (pair_carries (natural_carries h.matchedBorrow) endings)
  exact via_carries all rfl

theorem lendPosition_carries {p : LendPosition} (h : p.Fits) : lendPosition.Carries p := by
  have flags := pair_carries (flag_carries p.claimed) (pair_carries (flag_carries p.refunded) (flag_carries p.recovered))
  have all := pair_carries (natural_carries h.stake) (pair_carries (natural_carries h.receipts) flags)
  exact via_carries all rfl

theorem borrowPosition_carries {p : BorrowPosition} (h : p.Fits) : borrowPosition.Carries p := by
  have flags := pair_carries (flag_carries p.claimed) (flag_carries p.recovered)
  have all := pair_carries (natural_carries h.pledge) (pair_carries (natural_carries h.borrowed)
    (pair_carries (natural_carries h.receipts) flags))
  exact via_carries all rfl

theorem healthReport_carries {r : HealthReport} (h : r.Fits) : healthReport.Carries r := by
  have totals := pair_carries (natural_carries h.pledged) (natural_carries h.borrowed)
  have all := pair_carries (natural_carries h.health) (pair_carries (u64_carries h.threshold)
    (pair_carries (flag_carries r.liquidatable) totals))
  exact via_carries all rfl

theorem feedConfig_carries {c : FeedConfig} (h : c.Fits) : feedConfig.Carries c :=
  via_carries (pair_carries (address_carries c.feed) (u8_carries h)) rfl

theorem application_carries {a : Application} (h : a.Fits) : application.Carries a := by
  have signatures := many_carries (Nat.lt_succ_of_le h) fun signer _ => address_carries signer
  exact via_carries (pair_carries (address_carries a.applicant) signatures) rfl

/-! ### What is noticed -/

/-- Values of a range are read back from the front of anything, and none is written at the front of another one. -/
structure Faithful (f : Format α) (range : α → Prop) : Prop where
  read_write : ∀ a, range a → ∀ rest, f.read (f.write a ++ rest) = .ok (a, rest)
  injective : ∀ a b, range a → range b → f.write a = f.write b → a = b
  prefix_free : ∀ a b, range a → range b → f.write a <+: f.write b → f.write a = f.write b

/-- What was written is read if it is all there and nothing else is. -/
structure Strict (f : Format α) (range : α → Prop) : Prop where
  decode_write : ∀ a, range a → f.decode (f.write a) = .ok a
  decode_cut : ∀ a, range a → ∀ bytes, bytes <+: f.write a → bytes ≠ f.write a → f.decode bytes = .error .tooShort
  decode_extended : ∀ a, range a → ∀ more, more ≠ [] → f.decode (f.write a ++ more) = .error .tooLong

theorem faithful_of_carries (carries : ∀ a, range a → f.Carries a) : f.Faithful range where
  read_write a fits := (carries a fits).read_back
  injective a b fits fits' same := (carries a fits).eq_of_front (carries b fits') ⟨[], by rw [List.append_nil, same]⟩
  prefix_free a b fits fits' front := congrArg f.write ((carries a fits).eq_of_front (carries b fits') front)

theorem strict_of_carries (carries : ∀ a, range a → f.Carries a) : f.Strict range where
  decode_write a fits := (carries a fits).decode_write
  decode_cut a fits bytes front cut := by
    obtain ⟨more, whole⟩ := front
    refine (carries a fits).decode_cut ?_ whole
    rintro rfl
    rw [List.append_nil] at whole
    exact cut whole
  decode_extended a fits more extra := (carries a fits).decode_extended extra

/--
All records that fit their format, and all phases, survive the wire, alone and in front of other bytes. A record that is
cut is too short, and one with anything behind it is too long.
-/
theorem records_survive_the_wire :
    (loan.Faithful Loan.Fits ∧ loan.Strict Loan.Fits) ∧
    (amounts.Faithful Amounts.Fits ∧ amounts.Strict Amounts.Fits) ∧
    (lendPosition.Faithful LendPosition.Fits ∧ lendPosition.Strict LendPosition.Fits) ∧
    (borrowPosition.Faithful BorrowPosition.Fits ∧ borrowPosition.Strict BorrowPosition.Fits) ∧
    (healthReport.Faithful HealthReport.Fits ∧ healthReport.Strict HealthReport.Fits) ∧
    (feedConfig.Faithful FeedConfig.Fits ∧ feedConfig.Strict FeedConfig.Fits) ∧
    (application.Faithful Application.Fits ∧ application.Strict Application.Fits) ∧
    phase.Faithful (fun _ => True) ∧
    (∀ p, decodePhase (writePhase p) = .ok p) ∧
    ReadFault.tooShort.message = "input too short" ∧ ReadFault.tooLong.message = "input too long" := by
  have both {α : Type} {f : Format α} {range : α → Prop} (carries : ∀ a, range a → f.Carries a) :
      f.Faithful range ∧ f.Strict range := ⟨faithful_of_carries carries, strict_of_carries carries⟩
  refine ⟨both fun _ => loan_carries, both fun _ => amounts_carries, both fun _ => lendPosition_carries,
    both fun _ => borrowPosition_carries, both fun _ => healthReport_carries, both fun _ => feedConfig_carries,
    both fun _ => application_carries, ?_, decodePhase_writePhase, rfl, rfl⟩
  exact faithful_of_carries fun p _ => phase_carries p

/-- A loan against the native coin, with the largest numbers that machine words hold. -/
def sampleLoan : Loan where
  settleTime := maxU64
  endTime := 0
  interestRate := 255
  maxSupply := 256 ^ 20
  lendSupply := 0
  borrowSupply := 65536
  mortgageRate := maxU64
  settleToken := .native
  pledgeToken := .blank
  lendReceipt := .zero
  borrowReceipt := .zero
  liquidationThreshold := 256
  phase := .liquidated

theorem sampleLoan_survives :
    sampleLoan.Fits ∧ loan.decode (loan.write sampleLoan) = .ok sampleLoan ∧
      loan.decode ((loan.write sampleLoan).take 100) = .error .tooShort ∧
      loan.decode (loan.write sampleLoan ++ [0]) = .error .tooLong := by
  have number (n : Nat) (small : byteWidth n ≤ 100) : Wire.Fits n := Nat.le_trans small (by decide)
  have fits : sampleLoan.Fits :=
    ⟨by decide, by decide, by decide, number _ (by decide), number _ (by decide), number _ (by decide), by decide,
      ⟨by decide, by decide⟩, ⟨by decide, by decide⟩, by decide⟩
  have strict := records_survive_the_wire.1.2
  refine ⟨fits, strict.decode_write _ fits, ?_, strict.decode_extended _ fits _ (by decide)⟩
  exact strict.decode_cut _ fits _ (List.take_prefix _ _) (by decide +kernel)

end Wire.Format

end TermLending
