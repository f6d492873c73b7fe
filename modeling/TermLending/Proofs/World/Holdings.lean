import TermLending.Proofs.World.Payouts

/-!
# What accounts have held

An account that gave or took some of a token has held it from then on. A payout adds to what the market, its recipient,
and the receipt contracts have held, and to nobody else.
-/

namespace TermLending.World

variable {w w' : World} {self r owner minter source target account a : Address} {token T : Token} {n : Nat}
  {payments attached : List Payment} {log : List LogEntry} {terms : Terms} {out : Payout}

theorem hasHeld_setBalance : (w.setBalance account token n).hasHeld a T = true ↔
    w.hasHeld a T = true ∨ a = account ∧ T = token := by
  unfold setBalance markHeld put
  dsimp only
  by_cases here : a = account <;> by_cases this : T = token <;> simp [here, this]

theorem hasHeld_markHeld : (w.markHeld account token).hasHeld a T = true ↔
    w.hasHeld a T = true ∨ a = account ∧ T = token :=
  hasHeld_setBalance (n := 0)

theorem transfer_held (h : w.transfer source target token n = .ok w') : w'.hasHeld a T = true ↔
    w.hasHeld a T = true ∨ (a = source ∨ a = target) ∧ T = token := by
  obtain ⟨_, rfl⟩ := transfer_eq_ok_iff.1 h
  rw [credit, hasHeld_setBalance, hasHeld_setBalance]
  grind

theorem transferAll_held (h : w.transferAll source target payments = .ok w') : w'.hasHeld a T = true ↔
    w.hasHeld a T = true ∨ (a = source ∨ a = target) ∧ ∃ payment ∈ payments, T = payment.token := by
  induction payments generalizing w with
  | nil =>
    cases h
    simp
  | cons payment rest ih =>
    obtain ⟨w₁, first, h⟩ := bind_eq_ok_iff.1 h
    simp only [ih h, transfer_held first, List.mem_cons, exists_eq_or_imp]
    grind

theorem send_held (h : w.send source target token n = .ok w') : w'.hasHeld a T = true ↔
    w.hasHeld a T = true ∨ 0 < n ∧ (a = source ∨ a = target) ∧ T = token := by
  unfold send at h
  split at h
  · next none =>
    cases h
    simp [none]
  · next some =>
    rw [transfer_held h]
    have positive := Nat.pos_of_ne_zero some
    grind

theorem mint_held (h : w.mint r minter owner n = .ok (w', log)) : w'.hasHeld a T = true ↔
    w.hasHeld a T = true ∨ 0 < n ∧ (a = r ∨ a = owner) ∧ (w.receipt r).token = some T := by
  obtain ⟨token, _, _, positive, issued, _, rfl, _⟩ := mint_eq_ok_iff.1 h
  rw [credit, hasHeld_setBalance, hasHeld_markHeld, issued, Option.some.injEq, eq_comm (a := T)]
  show (w.hasHeld a T = true ∨ _) ∨ _ ↔ _
  grind

theorem returnReceipts_held (h : w.returnReceipts self r owner n = .ok (w', log)) : w'.hasHeld a T = true ↔
    w.hasHeld a T = true ∨ 0 < n ∧ (a = self ∨ a = r) ∧ (w.receipt r).token = some T := by
  obtain ⟨none, rfl⟩ | ⟨w₁, token, sent, burned, _, issued⟩ := returnReceipts_cases h
  · simp [none]
  · obtain ⟨other, _, positive, known, _, _, _, _, _, rfl, _⟩ := burn_eq_ok_iff.1 burned
    rw [(transfer_only sent).2, issued] at known
    cases known
    change (w₁.setBalance r token (w₁.balance r token - n)).hasHeld a T = true ↔ _
    rw [hasHeld_setBalance, transfer_held sent, issued, Option.some.injEq, eq_comm (a := T)]
    grind

theorem issueReceipts_held (h : w.issueReceipts self r owner n = .ok (w', log)) : w'.hasHeld a T = true ↔
    w.hasHeld a T = true ∨ 0 < w.issuable r n ∧ (a = r ∨ a = owner) ∧ (w.receipt r).token = some T := by
  obtain ⟨none, rfl⟩ | ⟨all, minted⟩ := issueReceipts_cases h
  · simp [none]
  · rw [all]
    exact mint_held minted

/-- Who has some of `T` in hand while a payout is carried out, part by part. -/
def Touches (w : World) (self : Address) (terms : Terms) (out : Payout) (a : Address) (T : Token) : Prop :=
  0 < out.burnLend ∧ (a = self ∨ a = terms.lendReceipt) ∧ (w.receipt terms.lendReceipt).token = some T ∨
  0 < out.burnBorrow ∧ (a = self ∨ a = terms.borrowReceipt) ∧ (w.receipt terms.borrowReceipt).token = some T ∨
  0 < out.settle ∧ (a = self ∨ a = out.recipient) ∧ T = terms.settleToken ∨
  0 < w.issuable terms.lendReceipt out.mintLend ∧ (a = terms.lendReceipt ∨ a = out.recipient) ∧
    (w.receipt terms.lendReceipt).token = some T ∨
  0 < w.issuable terms.borrowReceipt out.mintBorrow ∧ (a = terms.borrowReceipt ∨ a = out.recipient) ∧
    (w.receipt terms.borrowReceipt).token = some T ∨
  0 < out.pledge ∧ (a = self ∨ a = out.recipient) ∧ T = terms.pledgeToken

theorem Delivered.held (h : w.Delivered self terms out w') : w'.hasHeld a T = true ↔
    w.hasHeld a T = true ∨ w.Touches self terms out a T := by
  obtain ⟨w₁, w₂, w₃, w₄, w₅, _, _, _, _, lendBurned, borrowBurned, settled, lendMinted, borrowMinted, pledged⟩ := h
  have only₁ := returnReceipts_only lendBurned
  have only₃ := (only₁.trans (returnReceipts_only borrowBurned)).trans (send_only settled).1
  have only₄ := only₃.trans (issueReceipts_only lendMinted)
  rw [send_held pledged, issueReceipts_held borrowMinted, issueReceipts_held lendMinted, send_held settled,
    returnReceipts_held borrowBurned, returnReceipts_held lendBurned]
  simp only [Touches, issuable, only₁.token_eq, only₃.token_eq, only₄.token_eq, only₃.kind, only₄.kind, or_assoc]

/-- Nobody else has anything in hand. -/
theorem Touches.who (h : w.Touches self terms out a T) :
    a = self ∨ a = out.recipient ∨ a = terms.lendReceipt ∨ a = terms.borrowReceipt := by
  unfold Touches at h
  grind

end TermLending.World
