import TermLending.Proofs.World.Tokens

/-!
# Payouts

Receipts are created and destroyed by their minters alone, one unit of supply for each. A payout of a market moves
exactly what it says: every balance and every supply after it is known from those before.
-/

namespace TermLending

/-! ### Requests to a receipt contract -/

namespace Receipt

variable {r r' : Receipt} {minter owner : Address} {n : Nat} {token : Token} {payment : Except Fault Payment}

theorem addMinter_eq_ok_iff {events : List Event} : r.addMinter minter = .ok (r', events) ↔
    minter ≠ .zero ∧ r' = { r with minters := r.minters.insert minter } ∧
      events = if minter ∉ r.minters then [.minterAdded minter] else [] := by
  unfold addMinter
  rw [demand_bind_eq_ok_iff]
  refine and_congr_right fun _ => ?_
  split
  · next listed => rw [pure_eq_ok_iff, Roster.insert_of_mem listed, Prod.mk.injEq]
  · rw [pure_eq_ok_iff, Prod.mk.injEq]

theorem removeMinter_eq (r : Receipt) (minter : Address) :
    r.removeMinter minter = ({ r with minters := r.minters.erase minter },
      if minter ∈ r.minters then [.minterRemoved minter] else []) := by
  unfold removeMinter
  split
  · rfl
  · next absent => rw [Roster.erase_of_not_mem absent]

theorem issued_eq_ok_iff : r.issued = .ok token ↔ r.token = some token := by
  unfold issued
  split <;> simp_all

theorem mint_eq_ok_iff : r.mint minter owner n = .ok (r', token) ↔
    minter ∈ r.minters ∧ owner ≠ .zero ∧ 0 < n ∧ r.token = some token ∧ r' = { r with supply := r.supply + n } := by
  simp only [mint, bind_eq_ok_iff, demand_eq_ok_iff, exists_const, pure_eq_ok_iff, issued_eq_ok_iff, Prod.mk.injEq]
  constructor
  · rintro ⟨isMinter, somebody, positive, _, issued, rfl, rfl⟩
    exact ⟨isMinter, somebody, positive, issued, rfl⟩
  · rintro ⟨isMinter, somebody, positive, issued, rfl⟩
    exact ⟨isMinter, somebody, positive, token, issued, rfl, rfl⟩

theorem redeem_eq_ok_iff : r.redeem minter n payment = .ok token ↔
    minter ∈ r.minters ∧ 0 < n ∧ r.token = some token ∧ payment = .ok ⟨token, n⟩ := by
  simp only [redeem, bind_eq_ok_iff, demand_eq_ok_iff, exists_const, pure_eq_ok_iff, issued_eq_ok_iff]
  constructor
  · rintro ⟨isMinter, positive, _, issued, _, paid, rfl, rfl, rfl⟩
    exact ⟨isMinter, positive, issued, paid⟩
  · rintro ⟨isMinter, positive, issued, paid⟩
    exact ⟨isMinter, positive, token, issued, _, paid, rfl, rfl, rfl⟩

theorem uncount_eq_ok_iff : r.uncount n = .ok r' ↔ n ≤ r.supply ∧ r' = { r with supply := r.supply - n } := by
  simp only [uncount, bind_eq_ok_iff, pure_eq_ok_iff, difference_eq_ok_iff]
  constructor
  · rintro ⟨_, ⟨fits, rfl⟩, rfl⟩
    exact ⟨fits, rfl⟩
  · rintro ⟨fits, rfl⟩
    exact ⟨_, ⟨fits, rfl⟩, rfl⟩

end Receipt

namespace World

variable {w w' : World} {self r minter owner : Address} {n : Nat} {log : List LogEntry} {terms : Terms}
  {out : Payout} {attached : List Payment} {token : Token}

def setSupply (w : World) (r : Address) (supply : Nat) : World := w.setReceipt r { w.receipt r with supply }

theorem setSupply_only (w : World) (r : Address) (supply : Nat) : w.TokensOnly (w.setSupply r supply) := by
  unfold TokensOnly setSupply setReceipt put
  congr
  funext a
  dsimp only
  split
  · next here => rw [here]
  · rfl

theorem supply_setSupply (w : World) (r : Address) (supply : Nat) (a : Address) :
    ((w.setSupply r supply).receipt a).supply = if a = r then supply else (w.receipt a).supply := by
  unfold setSupply setReceipt put
  dsimp only
  split <;> rfl

/-! ### Creating and destroying units -/

theorem mint_eq_ok_iff : w.mint r minter owner n = .ok (w', log) ↔
    ∃ token, minter ∈ (w.receipt r).minters ∧ owner ≠ .zero ∧ 0 < n ∧ (w.receipt r).token = some token ∧
      w.mayIssue r token = true ∧
      w' = ((w.setSupply r ((w.receipt r).supply + n)).markHeld r token).credit owner token n ∧
      log = [⟨r, .receiptsMinted minter owner n⟩] := by
  simp only [mint, bind_eq_ok_iff, demand_eq_ok_iff, exists_const, pure_eq_ok_iff, Prod.exists, Prod.mk.injEq,
    Receipt.mint_eq_ok_iff]
  constructor
  · rintro ⟨_, token, ⟨isMinter, somebody, positive, issued, rfl⟩, role, rfl, rfl⟩
    exact ⟨token, isMinter, somebody, positive, issued, role, rfl, rfl⟩
  · rintro ⟨token, isMinter, somebody, positive, issued, role, rfl, rfl⟩
    exact ⟨_, token, ⟨isMinter, somebody, positive, issued, rfl⟩, role, rfl, rfl⟩

theorem burn_eq_ok_iff : w.burn r minter owner n attached = .ok (w', log) ↔
    ∃ token, minter ∈ (w.receipt r).minters ∧ 0 < n ∧ (w.receipt r).token = some token ∧ token ≠ .native ∧
      attached = [⟨token, n⟩] ∧ w.mayIssue r token = true ∧ n ≤ w.balance r token ∧ n ≤ (w.receipt r).supply ∧
      w' = (w.setBalance r token (w.balance r token - n)).setSupply r ((w.receipt r).supply - n) ∧
      log = [⟨r, .receiptsBurned minter owner n⟩] := by
  simp only [burn, bind_eq_ok_iff, demand_eq_ok_iff, exists_const, pure_eq_ok_iff, Prod.mk.injEq,
    Receipt.redeem_eq_ok_iff, Receipt.uncount_eq_ok_iff, debit_eq_ok_iff, Pool.soleToken_eq_ok_iff]
  constructor
  · rintro ⟨token, ⟨isMinter, positive, issued, attached, other⟩, role, _, ⟨⟨covered, _⟩, rfl⟩, _, ⟨counted, rfl⟩,
      rfl, rfl⟩
    exact ⟨token, isMinter, positive, issued, other, attached, role, covered, counted, rfl, rfl⟩
  · rintro ⟨token, isMinter, positive, issued, other, attached, role, covered, counted, rfl, rfl⟩
    exact ⟨token, ⟨isMinter, positive, issued, attached, other⟩, role, _, ⟨⟨covered, .inl positive⟩, rfl⟩, _,
      ⟨counted, rfl⟩, rfl, rfl⟩

theorem mint_only (h : w.mint r minter owner n = .ok (w', log)) : w.TokensOnly w' := by
  obtain ⟨token, _, _, _, _, _, rfl, _⟩ := mint_eq_ok_iff.1 h
  exact (setSupply_only w r _).trans rfl

theorem mint_supply (h : w.mint r minter owner n = .ok (w', log)) (a : Address) :
    (w'.receipt a).supply = (w.receipt a).supply + (if a = r then n else 0) := by
  obtain ⟨token, _, _, _, _, _, rfl, _⟩ := mint_eq_ok_iff.1 h
  change ((w.setSupply r _).receipt a).supply = _
  rw [supply_setSupply]
  split
  · next here => rw [here]
  · rfl

theorem mint_balance (h : w.mint r minter owner n = .ok (w', log)) (a : Address) (T : Token) :
    w'.balance a T = w.balance a T + (if a = owner ∧ (w.receipt r).token = some T then n else 0) := by
  obtain ⟨token, _, _, _, issued, _, rfl, _⟩ := mint_eq_ok_iff.1 h
  have same (a : Address) (T : Token) :
      ((w.setSupply r ((w.receipt r).supply + n)).markHeld r token).balance a T = w.balance a T := rfl
  rw [credit, balance_setBalance, same, same]
  by_cases here : a = owner ∧ T = token
  · obtain ⟨rfl, rfl⟩ := here
    simp [issued]
  · have elsewhere : ¬(a = owner ∧ (w.receipt r).token = some T) := by
      rintro ⟨this, other⟩
      exact here ⟨this, Option.some.inj (other.symm.trans issued)⟩
    rw [if_neg here, if_neg elsewhere, Nat.add_zero]

theorem burn_only (h : w.burn r minter owner n attached = .ok (w', log)) : w.TokensOnly w' := by
  obtain ⟨token, _, _, _, _, _, _, _, _, rfl, _⟩ := burn_eq_ok_iff.1 h
  exact (setBalance_only w r token _).trans (setSupply_only _ r _)

theorem burn_supply (h : w.burn r minter owner n attached = .ok (w', log)) (a : Address) :
    (w'.receipt a).supply + (if a = r then n else 0) = (w.receipt a).supply := by
  obtain ⟨token, _, _, _, _, _, _, _, counted, rfl, _⟩ := burn_eq_ok_iff.1 h
  rw [supply_setSupply]
  split
  · next here =>
    rw [here]
    omega
  · rfl

theorem burn_balance (h : w.burn r minter owner n attached = .ok (w', log)) (a : Address) (T : Token) :
    w'.balance a T + (if a = r ∧ (w.receipt r).token = some T then n else 0) = w.balance a T := by
  obtain ⟨token, _, _, issued, _, _, _, covered, _, rfl, _⟩ := burn_eq_ok_iff.1 h
  change (w.setBalance r token (w.balance r token - n)).balance a T + _ = _
  rw [balance_setBalance]
  by_cases here : a = r ∧ T = token
  · obtain ⟨rfl, rfl⟩ := here
    simp only [issued, and_self, if_true]
    omega
  · have elsewhere : ¬(a = r ∧ (w.receipt r).token = some T) := by
      rintro ⟨this, other⟩
      exact here ⟨this, Option.some.inj (other.symm.trans issued)⟩
    rw [if_neg here, if_neg elsewhere, Nat.add_zero]

/-! ### On behalf of users -/

theorem receiptToken_eq_ok_iff : w.receiptToken r = .ok token ↔
    w.kind r = some .receipt ∧ token = (w.receipt r).token.getD .blank := by
  unfold receiptToken contact
  cases kind : w.kind r with
  | none => simp [bind, Except.bind]
  | some kind => simp only [bind_eq_ok_iff, demand_eq_ok_iff, exists_const, pure_eq_ok_iff, Option.some.injEq]

/-- Receipts that are sent back are destroyed on arrival. -/
theorem returnReceipts_cases (h : w.returnReceipts self r owner n = .ok (w', log)) :
    n = 0 ∧ w' = w ∨
      ∃ w₁ token, w.transfer self r token n = .ok w₁ ∧ w₁.burn r self owner n [⟨token, n⟩] = .ok (w', log) ∧
        w.kind r = some .receipt ∧ (w.receipt r).token = some token := by
  unfold returnReceipts at h
  split at h
  · next none =>
    cases h
    exact .inl ⟨none, rfl⟩
  · obtain ⟨token, read, h⟩ := bind_eq_ok_iff.1 h
    obtain ⟨w₁, sent, burned⟩ := bind_eq_ok_iff.1 h
    refine .inr ⟨w₁, token, sent, burned, (receiptToken_eq_ok_iff.1 read).1, ?_⟩
    obtain ⟨issued, _, _, known, _, attached, _⟩ := burn_eq_ok_iff.1 burned
    rw [(transfer_only sent).2] at known
    simp only [List.cons.injEq, Payment.mk.injEq, and_true] at attached
    rw [known, attached]

theorem returnReceipts_only (h : w.returnReceipts self r owner n = .ok (w', log)) : w.TokensOnly w' := by
  obtain ⟨_, rfl⟩ | ⟨w₁, token, sent, burned, _⟩ := returnReceipts_cases h
  · exact .refl w'
  · exact (transfer_only sent).1.trans (burn_only burned)

theorem returnReceipts_supply (h : w.returnReceipts self r owner n = .ok (w', log)) (a : Address) :
    (w'.receipt a).supply + (if a = r then n else 0) = (w.receipt a).supply := by
  obtain ⟨none, rfl⟩ | ⟨w₁, token, sent, burned, _⟩ := returnReceipts_cases h
  · simp [none]
  · rw [burn_supply burned, (transfer_only sent).2]

theorem returnReceipts_balance (h : w.returnReceipts self r owner n = .ok (w', log)) (a : Address) (T : Token) :
    w'.balance a T + (if a = self ∧ (w.receipt r).token = some T then n else 0) = w.balance a T := by
  obtain ⟨none, rfl⟩ | ⟨w₁, token, sent, burned, _, issued⟩ := returnReceipts_cases h
  · simp [none]
  · have moved := transfer_balance sent a T
    have destroyed := burn_balance burned a T
    rw [(transfer_only sent).2] at destroyed
    simp only [issued, Option.some.injEq, eq_comm (a := token)] at destroyed ⊢
    omega

/-- What comes of a request for `n` receipts: an account without a contract is asked in vain. -/
def issuable (w : World) (r : Address) (n : Nat) : Nat := if w.kind r = none then 0 else n

theorem issuable_cases (w : World) (r : Address) (n : Nat) : w.issuable r n = 0 ∨ w.issuable r n = n := by
  unfold issuable
  split
  · exact .inl rfl
  · exact .inr rfl

theorem issueReceipts_cases (h : w.issueReceipts self r owner n = .ok (w', log)) :
    w.issuable r n = 0 ∧ w' = w ∨ w.issuable r n = n ∧ w.mint r self owner n = .ok (w', log) := by
  unfold issueReceipts at h
  unfold issuable
  split at h
  · next none =>
    cases h
    exact .inl ⟨by simp [none], rfl⟩
  · split at h
    · next nobody =>
      cases h
      exact .inl ⟨if_pos nobody, rfl⟩
    · next receipt => exact .inr ⟨if_neg (by simp [receipt]), h⟩
    · cases h

theorem issueReceipts_only (h : w.issueReceipts self r owner n = .ok (w', log)) : w.TokensOnly w' := by
  obtain ⟨_, rfl⟩ | ⟨_, minted⟩ := issueReceipts_cases h
  · exact .refl w'
  · exact mint_only minted

theorem issueReceipts_supply (h : w.issueReceipts self r owner n = .ok (w', log)) (a : Address) :
    (w'.receipt a).supply = (w.receipt a).supply + (if a = r then w.issuable r n else 0) := by
  obtain ⟨none, rfl⟩ | ⟨all, minted⟩ := issueReceipts_cases h
  · simp [none]
  · rw [all]
    exact mint_supply minted a

theorem issueReceipts_balance (h : w.issueReceipts self r owner n = .ok (w', log)) (a : Address) (T : Token) :
    w'.balance a T =
      w.balance a T + (if a = owner ∧ (w.receipt r).token = some T then w.issuable r n else 0) := by
  obtain ⟨none, rfl⟩ | ⟨all, minted⟩ := issueReceipts_cases h
  · simp [none]
  · rw [all]
    exact mint_balance minted a T

/-! ### A whole payout -/

def released (w : World) (terms : Terms) (out : Payout) : Payout :=
  { out with
    mintLend := w.issuable terms.lendReceipt out.mintLend
    mintBorrow := w.issuable terms.borrowReceipt out.mintBorrow }

/-- The parts of a payout, in the order in which they are carried out. -/
def Delivered (w : World) (self : Address) (terms : Terms) (out : Payout) (w' : World) : Prop :=
  ∃ w₁ w₂ w₃ w₄ w₅ log₁ log₂ log₄ log₅,
    w.returnReceipts self terms.lendReceipt out.recipient out.burnLend = .ok (w₁, log₁) ∧
    w₁.returnReceipts self terms.borrowReceipt out.recipient out.burnBorrow = .ok (w₂, log₂) ∧
    w₂.send self out.recipient terms.settleToken out.settle = .ok w₃ ∧
    w₃.issueReceipts self terms.lendReceipt out.recipient out.mintLend = .ok (w₄, log₄) ∧
    w₄.issueReceipts self terms.borrowReceipt out.recipient out.mintBorrow = .ok (w₅, log₅) ∧
    w₅.send self out.recipient terms.pledgeToken out.pledge = .ok w'

theorem delivered_of_deliver (h : w.deliver self terms out = .ok (w', log)) : w.Delivered self terms out w' := by
  unfold deliver at h
  obtain ⟨⟨w₁, log₁⟩, lendBurned, h⟩ := bind_eq_ok_iff.1 h
  obtain ⟨⟨w₂, log₂⟩, borrowBurned, h⟩ := bind_eq_ok_iff.1 h
  obtain ⟨w₃, settled, h⟩ := bind_eq_ok_iff.1 h
  obtain ⟨⟨w₄, log₄⟩, lendMinted, h⟩ := bind_eq_ok_iff.1 h
  obtain ⟨⟨w₅, log₅⟩, borrowMinted, h⟩ := bind_eq_ok_iff.1 h
  obtain ⟨w₆, pledged, h⟩ := bind_eq_ok_iff.1 h
  cases pure_eq_ok_iff.1 h
  exact ⟨w₁, w₂, w₃, w₄, w₅, log₁, log₂, log₄, log₅, lendBurned, borrowBurned, settled, lendMinted, borrowMinted,
    pledged⟩

theorem delivered_of_conclude {t : Transition} {id : Nat} {o : Outcome} (h : w.conclude self id t = .ok o) :
    (w.setMarket self ((w.market self).setPool id t.pool)).Delivered self t.pool.toTerms t.payout o.world := by
  obtain ⟨⟨w', log⟩, delivered, h⟩ := bind_eq_ok_iff.1 h
  cases pure_eq_ok_iff.1 h
  exact delivered_of_deliver delivered

theorem actOnPool_eq_ok {c : Context} {id : Nat} {action : Pool.Action} {o : Outcome}
    (h : w.actOnPool c id action = .ok o) :
    ∃ p t, w.gate action.isGated (w.market c.self).registry c.caller c.self = .ok () ∧
      (w.market c.self).pool? id = some p ∧ p.act (w.scene c.self c.caller c.attached id p) action = .ok t ∧
      (w.setMarket c.self ((w.market c.self).setPool id t.pool)).Delivered c.self t.pool.toTerms t.payout o.world := by
  unfold actOnPool at h
  obtain ⟨_, gated, h⟩ := bind_eq_ok_iff.1 h
  obtain ⟨p, read, h⟩ := bind_eq_ok_iff.1 h
  obtain ⟨t, accepted, concluded⟩ := bind_eq_ok_iff.1 h
  exact ⟨p, t, gated, Market.pool_eq_ok_iff.1 read, accepted, delivered_of_conclude concluded⟩

theorem Delivered.only (h : w.Delivered self terms out w') : w.TokensOnly w' := by
  obtain ⟨w₁, w₂, w₃, w₄, w₅, _, _, _, _, lendBurned, borrowBurned, settled, lendMinted, borrowMinted, pledged⟩ := h
  have burned := (returnReceipts_only lendBurned).trans (returnReceipts_only borrowBurned)
  have minted := (issueReceipts_only lendMinted).trans (issueReceipts_only borrowMinted)
  exact ((burned.trans (send_only settled).1).trans minted).trans (send_only pledged).1

theorem Delivered.supply (h : w.Delivered self terms out w') (a : Address) :
    (w'.receipt a).supply + ((if a = terms.lendReceipt then out.burnLend else 0) +
        (if a = terms.borrowReceipt then out.burnBorrow else 0)) =
      (w.receipt a).supply + ((if a = terms.lendReceipt then w.issuable terms.lendReceipt out.mintLend else 0) +
        (if a = terms.borrowReceipt then w.issuable terms.borrowReceipt out.mintBorrow else 0)) := by
  obtain ⟨w₁, w₂, w₃, w₄, w₅, _, _, _, _, lendBurned, borrowBurned, settled, lendMinted, borrowMinted, pledged⟩ := h
  have only₂ := (returnReceipts_only lendBurned).trans (returnReceipts_only borrowBurned)
  have only₃ := only₂.trans (send_only settled).1
  have only₄ := only₃.trans (issueReceipts_only lendMinted)
  have one := returnReceipts_supply lendBurned a
  have two := returnReceipts_supply borrowBurned a
  have three := congrFun (send_only settled).2 a
  have four := issueReceipts_supply lendMinted a
  have five := issueReceipts_supply borrowMinted a
  have six := congrFun (send_only pledged).2 a
  rw [three] at four
  rw [six]
  simp only [issuable, only₃.kind, only₄.kind] at four five ⊢
  omega

def receiptsIn (w : World) (r : Address) (n : Nat) (T : Token) : Nat := if (w.receipt r).token = some T then n else 0

/-- The amount of `T` that leaves a market with a payout. -/
def outgoing (w : World) (terms : Terms) (out : Payout) (T : Token) : Nat :=
  (if T = terms.settleToken then out.settle else 0) + (if T = terms.pledgeToken then out.pledge else 0) +
    w.receiptsIn terms.lendReceipt out.burnLend T + w.receiptsIn terms.borrowReceipt out.burnBorrow T

/-- The amount of `T` that reaches the recipient of a payout. -/
def incoming (w : World) (terms : Terms) (out : Payout) (T : Token) : Nat :=
  (if T = terms.settleToken then out.settle else 0) + (if T = terms.pledgeToken then out.pledge else 0) +
    w.receiptsIn terms.lendReceipt (w.issuable terms.lendReceipt out.mintLend) T +
    w.receiptsIn terms.borrowReceipt (w.issuable terms.borrowReceipt out.mintBorrow) T

theorem Delivered.balance (h : w.Delivered self terms out w') (a : Address) (T : Token) :
    w'.balance a T + (if a = self then w.outgoing terms out T else 0) =
      w.balance a T + (if a = out.recipient then w.incoming terms out T else 0) := by
  obtain ⟨w₁, w₂, w₃, w₄, w₅, _, _, _, _, lendBurned, borrowBurned, settled, lendMinted, borrowMinted, pledged⟩ := h
  have only₁ := returnReceipts_only lendBurned
  have only₂ := only₁.trans (returnReceipts_only borrowBurned)
  have only₃ := only₂.trans (send_only settled).1
  have only₄ := only₃.trans (issueReceipts_only lendMinted)
  have one := returnReceipts_balance lendBurned a T
  have two := returnReceipts_balance borrowBurned a T
  have three := send_balance settled a T
  have four := issueReceipts_balance lendMinted a T
  have five := issueReceipts_balance borrowMinted a T
  have six := send_balance pledged a T
  simp only [issuable, only₁.token_eq, only₃.token_eq, only₄.token_eq, only₃.kind, only₄.kind, ite_and] at one two three four five six
  simp only [outgoing, incoming, receiptsIn, issuable, ite_add_zero]
  omega

end World

end TermLending
