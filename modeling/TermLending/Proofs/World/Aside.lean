import TermLending.Proofs.Sums
import TermLending.Proofs.World.Outcomes

/-!
# What is none of a market's business

Most of what happens does not touch the pools of a given market: it takes nothing from its account, and leaves the
receipts alone that nobody else may create or destroy.
-/

namespace TermLending.World

open Finset

variable {self payer source target account r owner : Address} {w w' w₁ w₂ : World} {token T : Token} {n k : Nat}
  {payments : List Payment} {log : List LogEntry} {terms : Terms} {out : Payout}

/-- Nobody but `self` may create or destroy units of the receipt contract `r`. -/
def OnlyMinter (self r : Address) (w : World) : Prop := ∀ minter ∈ (w.receipt r).minters.items, minter = self

instance (self r : Address) : DecidablePred (OnlyMinter self r) :=
  fun w => List.decidableBAll (· = self) (w.receipt r).minters.items

noncomputable def units (w : World) (T : Token) : Nat := ∑ a, w.balance a T

structure Aside (home : Address) (w w' : World) : Prop where
  kind : ∀ a, w.kind a ≠ none → w'.kind a = w.kind a
  pools : (w'.market home).pools = (w.market home).pools
  receipts : (w'.market home).receipts = (w.market home).receipts
  balance : ∀ T, w.balance home T ≤ w'.balance home T
  supply : ∀ r, OnlyMinter home r w →
    (w'.receipt r).supply = (w.receipt r).supply ∨ w.kind r = none ∧ (w'.receipt r).supply = 0
  units : ∀ T, (∀ r, (w.receipt r).token = some T → OnlyMinter home r w) → w'.units T ≤ w.units T

theorem TokensOnly.onlyMinter_iff (h : w.TokensOnly w') : OnlyMinter self r w' ↔ OnlyMinter self r w := by
  unfold OnlyMinter
  rw [h.minters_eq]

theorem Aside.refl (self : Address) (w : World) : w.Aside self w :=
  ⟨fun _ _ => rfl, rfl, rfl, fun _ => Nat.le_refl _, fun _ _ => .inl rfl, fun _ _ => Nat.le_refl _⟩

/-- The first of two steps must leave the minters as they are, since they count for the second one. -/
theorem Aside.trans (only : w.TokensOnly w₁) (h : w.Aside self w₁) (h' : w₁.Aside self w₂) : w.Aside self w₂ where
  kind a contract := (h'.kind a (only.kind ▸ contract)).trans (h.kind a contract)
  pools := h'.pools.trans h.pools
  receipts := h'.receipts.trans h.receipts
  balance T := (h.balance T).trans (h'.balance T)
  supply r alone := by
    rcases h'.supply r (only.onlyMinter_iff.2 alone) with same | ⟨nobody, zero⟩
    · rw [same]
      exact h.supply r alone
    · exact .inr ⟨only.kind ▸ nobody, zero⟩
  units T alone := by
    refine (h'.units T fun r issued => ?_).trans (h.units T alone)
    exact only.onlyMinter_iff.2 (alone r (only.token_eq r ▸ issued))

/-- Moves of tokens touch no market. -/
theorem TokensOnly.aside (only : w.TokensOnly w') (balance : ∀ T, w.balance self T ≤ w'.balance self T)
    (supply : ∀ r, OnlyMinter self r w → (w'.receipt r).supply = (w.receipt r).supply)
    (units : ∀ T, (∀ r, (w.receipt r).token = some T → OnlyMinter self r w) → w'.units T ≤ w.units T) :
    w.Aside self w' :=
  ⟨fun _ _ => by rw [only.kind], by rw [only.market], by rw [only.market], balance,
    fun r alone => .inl (supply r alone), units⟩

/-- Writing to the storage of contracts moves no tokens. -/
theorem Aside.of_storage (kind : w'.kind = w.kind) (balance : w'.balance = w.balance)
    (supply : ∀ r, (w'.receipt r).supply = (w.receipt r).supply)
    (pools : (w'.market self).pools = (w.market self).pools)
    (receipts : (w'.market self).receipts = (w.market self).receipts) : w.Aside self w' :=
  ⟨fun _ _ => by rw [kind], pools, receipts, fun _ => by rw [balance], fun r _ => .inl (supply r),
    fun _ _ => by rw [World.units, World.units, balance]⟩

/-! ### Tokens moved by others -/

/-- What leaves one account and what reaches another add up over all accounts. -/
theorem units_of_balance
    (h : ∀ a, w'.balance a T + (if a = source then n else 0) = w.balance a T + (if a = target then k else 0)) :
    w'.units T + n = w.units T + k := by
  have sum := sum_congr rfl fun (a : Address) (_ : a ∈ univ) => h a
  rw [sum_add_distrib, sum_add_distrib, sum_ite_eq' univ source, sum_ite_eq' univ target] at sum
  simpa [World.units] using sum

theorem transfer_units (h : w.transfer source target token n = .ok w') (T : Token) : w'.units T = w.units T := by
  have moved := fun a => transfer_balance h a T
  simp only [ite_and] at moved
  have sum := units_of_balance moved
  omega

theorem transfer_aside (other : source ≠ self) (h : w.transfer source target token n = .ok w') : w.Aside self w' := by
  refine (transfer_only h).1.aside (fun T => ?_) (fun r _ => ?_) fun T _ => (transfer_units h T).le
  · have moved := transfer_balance h self T
    rw [if_neg fun gives => other gives.1.symm] at moved
    omega
  · rw [(transfer_only h).2]

theorem transferAll_aside (other : source ≠ self) (h : w.transferAll source target payments = .ok w') :
    w.Aside self w' := by
  induction payments generalizing w with
  | nil =>
    cases h
    exact .refl self _
  | cons payment rest ih =>
    obtain ⟨w₁, first, h⟩ := bind_eq_ok_iff.1 h
    exact .trans (transfer_only first).1 (transfer_aside other first) (ih h)

theorem send_aside (other : source ≠ self) (h : w.send source target token n = .ok w') : w.Aside self w' := by
  unfold send at h
  split at h
  · cases h
    exact .refl self w
  · exact transfer_aside other h

/-! ### Receipts created and destroyed by others -/

theorem mint_aside {minter : Address} (other : minter ≠ self) (h : w.mint r minter owner n = .ok (w', log)) :
    w.Aside self w' := by
  obtain ⟨issued, isMinter, _, _, known, _⟩ := mint_eq_ok_iff.1 h
  have foreign : ¬OnlyMinter self r w := fun alone => other (alone minter isMinter)
  refine (mint_only h).aside (fun T => ?_) (fun r' alone => ?_) fun T alone => ?_
  · rw [mint_balance h self T]
    exact Nat.le_add_right _ _
  · rw [mint_supply h, if_neg fun (here : r' = r) => foreign (here ▸ alone), Nat.add_zero]
  · have unchanged (a : Address) : w'.balance a T = w.balance a T := by
      rw [mint_balance h a T, if_neg fun here => foreign (alone r here.2), Nat.add_zero]
    simp [World.units, unchanged]

theorem burn_aside {minter : Address} (other : minter ≠ self) (notMarket : r ≠ self)
    (h : w.burn r minter owner n payments = .ok (w', log)) : w.Aside self w' := by
  obtain ⟨issued, isMinter, _, known, _⟩ := burn_eq_ok_iff.1 h
  have foreign : ¬OnlyMinter self r w := fun alone => other (alone minter isMinter)
  refine (burn_only h).aside (fun T => ?_) (fun r' alone => ?_) fun T _ => ?_
  · have destroyed := burn_balance h self T
    rw [if_neg fun here => notMarket here.1.symm] at destroyed
    omega
  · have destroyed := burn_supply h r'
    rw [if_neg fun (here : r' = r) => foreign (here ▸ alone)] at destroyed
    omega
  · refine sum_le_sum fun a _ => ?_
    have destroyed := burn_balance h a T
    omega

theorem returnReceipts_aside (other : payer ≠ self) (market : w.kind self = some .market)
    (h : w.returnReceipts payer r owner n = .ok (w', log)) : w.Aside self w' := by
  obtain ⟨_, rfl⟩ | ⟨w₁, token, sent, burned, receipt, _⟩ := returnReceipts_cases h
  · exact .refl self w'
  · have elsewhere : r ≠ self := by
      rintro rfl
      rw [market] at receipt
      cases receipt
    exact .trans (transfer_only sent).1 (transfer_aside other sent) (burn_aside other elsewhere burned)

theorem issueReceipts_aside (other : payer ≠ self) (h : w.issueReceipts payer r owner n = .ok (w', log)) :
    w.Aside self w' := by
  obtain ⟨_, rfl⟩ | ⟨_, minted⟩ := issueReceipts_cases h
  · exact .refl self w'
  · exact mint_aside other minted

theorem Delivered.aside (other : payer ≠ self) (market : w.kind self = some .market)
    (h : w.Delivered payer terms out w') : w.Aside self w' := by
  obtain ⟨w₁, w₂, w₃, w₄, w₅, _, _, _, _, lendBurned, borrowBurned, settled, lendMinted, borrowMinted, pledged⟩ := h
  have only₁ := returnReceipts_only lendBurned
  have only₂ := only₁.trans (returnReceipts_only borrowBurned)
  have only₃ := only₂.trans (send_only settled).1
  have only₄ := only₃.trans (issueReceipts_only lendMinted)
  have only₅ := only₄.trans (issueReceipts_only borrowMinted)
  have one := returnReceipts_aside other market lendBurned
  have two := returnReceipts_aside other (only₁.kind ▸ market) borrowBurned
  have three := send_aside other settled
  have four := issueReceipts_aside other lendMinted
  have five := issueReceipts_aside other borrowMinted
  have six := send_aside other pledged
  exact .trans only₅ (.trans only₄ (.trans only₃ (.trans only₂ (.trans only₁ one two) three) four) five) six

/-! ### Contracts called by others -/

variable {c : Context} {o : Outcome}

theorem setReceipt_aside {receipt : Receipt} (same : receipt.supply = (w.receipt r).supply) :
    w.Aside self (w.setReceipt r receipt) := by
  refine .of_storage rfl rfl (fun a => ?_) rfl rfl
  exact put_agree (g := Receipt.supply) same a

theorem balance_clear (w : World) (account : Address) (token : Token) (a : Address) (T : Token) :
    (w.clear account token).balance a T = if a = account ∧ T = token then 0 else w.balance a T := by
  unfold clear put
  by_cases here : a = account <;> by_cases this : T = token <;> simp [here, this]

theorem issue_balance {ticker : List UInt8} (h : w.issue r ticker n = .ok w') (a : Address) (T : Token) :
    w'.balance a T =
      if a = r ∧ T = Receipt.tokenName r ticker then 0
      else if a = r ∧ T = .native then w.balance r .native - n else w.balance a T := by
  simp only [issue, bind_eq_ok_iff, demand_eq_ok_iff, exists_const, debit_eq_ok_iff, pure_eq_ok_iff] at h
  obtain ⟨_, w₁, ⟨_, rfl⟩, rfl⟩ := h
  rw [← balance_setBalance]
  exact balance_clear _ r (Receipt.tokenName r ticker) a T

/-- An issue takes only from the contract itself. -/
theorem issue_aside {ticker : List UInt8} (elsewhere : r ≠ self) (h : w.issue r ticker n = .ok w') :
    w.Aside self w' := by
  have balance := issue_balance h
  simp only [issue, bind_eq_ok_iff, demand_eq_ok_iff, exists_const, debit_eq_ok_iff, pure_eq_ok_iff] at h
  obtain ⟨_, w₁, ⟨_, rfl⟩, rfl⟩ := h
  refine ⟨fun _ _ => rfl, rfl, rfl, fun T => ?_, fun a _ => ?_, fun T _ => ?_⟩
  · rw [balance, if_neg fun here => elsewhere here.1.symm, if_neg fun here => elsewhere here.1.symm]
  · let issued : Receipt := { w.receipt r with token := some (Receipt.tokenName r ticker) }
    exact .inl (put_agree (f := w.receipt) (b := issued) (g := Receipt.supply) rfl a)
  · refine sum_le_sum fun a _ => ?_
    rw [balance]
    split
    · exact Nat.zero_le _
    · split
      · next here =>
        rw [here.1, here.2]
        exact Nat.sub_le _ _
      · exact Nat.le_refl _

theorem ReceiptOutcome.aside {action : Receipt.Action} (other : c.caller ≠ self) (elsewhere : c.self ≠ self)
    (h : w.ReceiptOutcome c action o) : w.Aside self o.world := by
  cases h with
  | issued paid issued => exact issue_aside elsewhere issued
  | minted minted => exact mint_aside other minted
  | burned burned => exact burn_aside other elsewhere burned
  | added approved added =>
    obtain ⟨_, rfl, _⟩ := Receipt.addMinter_eq_ok_iff.1 added
    exact setReceipt_aside rfl
  | removed approved removed =>
    cases (Receipt.removeMinter_eq _ _).symm.trans removed
    exact setReceipt_aside rfl

theorem setMarket_aside {m : Market} (pools : m.pools = (w.market account).pools)
    (receipts : m.receipts = (w.market account).receipts) : w.Aside self (w.setMarket account m) :=
  .of_storage rfl rfl (fun _ => rfl) (put_agree (g := Market.pools) pools self)
    (put_agree (g := Market.receipts) receipts self)

theorem setMarket_aside_of_ne (elsewhere : account ≠ self) (m : Market) : w.Aside self (w.setMarket account m) := by
  have same : (w.setMarket account m).market self = w.market self := put_of_ne _ _ _ elsewhere.symm
  exact .of_storage rfl rfl (fun _ => rfl) (by rw [same]) (by rw [same])

theorem actOnPool_aside {id : Nat} {action : Pool.Action} (market : w.kind self = some .market)
    (elsewhere : c.self ≠ self) (h : w.actOnPool c id action = .ok o) : w.Aside self o.world := by
  obtain ⟨p, t, _, _, _, delivered⟩ := actOnPool_eq_ok h
  have written := setMarket_aside_of_ne elsewhere (w := w) ((w.market c.self).setPool id t.pool)
  have paidOut := delivered.aside (w := w.setMarket c.self _) elsewhere market
  exact {
    kind := paidOut.kind
    pools := paidOut.pools.trans written.pools
    receipts := paidOut.receipts.trans written.receipts
    balance := paidOut.balance
    supply := paidOut.supply
    units := paidOut.units }

theorem set_frame {m m' : Market} {setting : Market.Setting} {event : Event} (h : m.set setting = .ok (m', event)) :
    m'.pools = m.pools ∧ m'.receipts = m.receipts := by
  unfold Market.set at h
  cases setting <;>
    · simp only [bind_eq_ok_iff, pure_eq_ok_iff, Prod.mk.injEq] at h
      grind

theorem deploy_aside {deployer : Address} {blueprint : Blueprint} (free : w.kind account = none)
    (market : w.kind self = some .market) (h : w.deploy deployer account blueprint = .ok w') : w.Aside self w' := by
  have elsewhere : self ≠ account := by
    rintro rfl
    rw [market] at free
    cases free
  obtain ⟨w₁, founded, rfl⟩ := deploy_outcome h
  obtain ⟨kind, balance, markets, receipts⟩ := founded.frame
  have same := markets self elsewhere
  refine ⟨fun a contract => ?_, congrArg Market.pools same, congrArg Market.receipts same, fun T => ?_, fun r _ => ?_,
    fun T _ => ?_⟩
  · have other : a ≠ account := by
      rintro rfl
      exact contract free
    exact (put_of_ne _ _ _ other).trans (congrFun kind a)
  · exact (congrFun (congrFun balance self) T).ge
  · rcases receipts r with same | ⟨rfl, zero⟩
    · exact .inl (congrArg Receipt.supply same)
    · exact .inr ⟨free, zero⟩
  · exact (congrArg (fun balance : Address → Token → Nat => ∑ a, balance a T) balance).le

end TermLending.World
