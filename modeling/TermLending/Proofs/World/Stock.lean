import TermLending.Proofs.World.Books

/-!
# Receipts in hand

A receipt contract counts at least the units of its token that accounts hold, so nothing that is handed in is ever too
much to destroy.
-/

namespace TermLending.World

open Finset

variable {self source target r : Address} {w w' : World} {m : Move} {moves : List Move} {T : Token} {terms : Terms}
  {out : Payout} {payments : List Payment}

/-- Only the market creates units of the token of `r`, and no other contract has that token. -/
structure Exclusive (home r : Address) (T : Token) (w : World) : Prop where
  alone : OnlyMinter home r w
  token : ∀ T', (w.receipt r).token = some T' → T' = T
  sole : ∀ r', (w.receipt r').token = some T → r' = r

theorem balance_le_units (w : World) (a : Address) (T : Token) : w.balance a T ≤ w.units T :=
  single_le_sum (f := fun a => w.balance a T) (fun _ _ => Nat.zero_le _) (mem_univ a)

theorem transferAll_units (h : w.transferAll source target payments = .ok w') (T : Token) : w'.units T = w.units T := by
  have moved := fun a => transferAll_balance h a T
  have sum := units_of_balance moved
  omega

theorem Delivered.units (h : w.Delivered self terms out w') (T : Token) :
    w'.units T + (w.receiptsIn terms.lendReceipt out.burnLend T + w.receiptsIn terms.borrowReceipt out.burnBorrow T) =
      w.units T + (w.receiptsIn terms.lendReceipt (w.issuable terms.lendReceipt out.mintLend) T +
        w.receiptsIn terms.borrowReceipt (w.issuable terms.borrowReceipt out.mintBorrow) T) := by
  have sum := units_of_balance fun a => h.balance a T
  unfold outgoing incoming at sum
  omega

theorem Delivered.issued (h : w.Delivered self terms out w') :
    (out.burnLend = 0 ∨ ∃ T, (w.receipt terms.lendReceipt).token = some T) ∧
      (out.burnBorrow = 0 ∨ ∃ T, (w.receipt terms.borrowReceipt).token = some T) := by
  obtain ⟨w₁, w₂, _, _, _, _, _, _, _, lendBurned, borrowBurned, _⟩ := h
  constructor
  · rcases returnReceipts_cases lendBurned with ⟨none, _⟩ | ⟨_, token, _, _, _, issued⟩
    · exact .inl none
    · exact .inr ⟨token, issued⟩
  · rcases returnReceipts_cases borrowBurned with ⟨none, _⟩ | ⟨_, token, _, _, _, issued⟩
    · exact .inl none
    · rw [(returnReceipts_only lendBurned).token_eq] at issued
      exact .inr ⟨token, issued⟩

/-! ### Counted units -/

/-- Contracts that are not there yet have no units in hand. -/
structure Stock (home r : Address) (T : Token) (w : World) : Prop where
  market : w.kind home = some .market
  counted : w.units T ≤ (w.receipt r).supply
  absent : w.kind r = none → w.units T = 0

theorem Exclusive.receiptsIn_of_issued (exclusive : Exclusive self r T w) (issued : (w.receipt r).token = some T)
    (r' : Address) (n : Nat) : w.receiptsIn r' n T = if r = r' then n else 0 := by
  unfold receiptsIn
  by_cases here : r = r'
  · subst here
    rw [if_pos issued, if_pos rfl]
  · rw [if_neg fun other => here (exclusive.sole r' other).symm, if_neg here]

theorem Exclusive.receiptsIn_of_unissued (exclusive : Exclusive self r T w) (unissued : (w.receipt r).token = none)
    (r' : Address) (n : Nat) : w.receiptsIn r' n T = 0 := by
  unfold receiptsIn
  apply if_neg
  intro issued
  rw [exclusive.sole r' issued, unissued] at issued
  cases issued

theorem Exclusive.receiptsIn_of_absent (exclusive : Exclusive self r T w) (absent : w.kind r = none) (r' : Address)
    (n : Nat) : w.receiptsIn r' (w.issuable r' n) T = 0 := by
  unfold receiptsIn
  split
  · next issued =>
    rw [exclusive.sole r' issued]
    exact if_pos absent
  · rfl

theorem Delivered.counted (h : w.Delivered self terms out w') (exclusive : Exclusive self r T w)
    (counted : w.units T ≤ (w.receipt r).supply) : w'.units T ≤ (w'.receipt r).supply := by
  have held := h.units T
  have supplied := h.supply r
  cases token : (w.receipt r).token with
  | some T' =>
    have issued : (w.receipt r).token = some T := by rw [token, exclusive.token T' token]
    simp only [exclusive.receiptsIn_of_issued issued] at held
    omega
  | none =>
    obtain ⟨lend, borrow⟩ := h.issued
    have lendNone : (if r = terms.lendReceipt then out.burnLend else 0) = 0 := by
      split
      · next here =>
        subst here
        simpa [token] using lend
      · rfl
    have borrowNone : (if r = terms.borrowReceipt then out.burnBorrow else 0) = 0 := by
      split
      · next here =>
        subst here
        simpa [token] using borrow
      · rfl
    simp only [exclusive.receiptsIn_of_unissued token] at held
    omega

theorem Stock.turn (h : Stock self r T w) (exclusive : Exclusive self r T w) (turn : Turn self w m w') :
    Stock self r T w' := by
  have market := (turn.kind (by simp [h.market])).trans h.market
  cases turn with
  | acted e p t w₁ other paid read accepted delivered =>
    obtain ⟨only, receipts⟩ := transferAll_only paid
    have same := transferAll_units paid T
    have exclusive₁ : Exclusive self r T (w₁.setMarket self ((w.market self).setPool e.id t.pool)) := by
      refine ⟨only.onlyMinter_iff.2 exclusive.alone, ?_, ?_⟩
      · show ∀ T', (w₁.receipt r).token = some T' → T' = T
        rw [receipts]
        exact exclusive.token
      · show ∀ r', (w₁.receipt r').token = some T → r' = r
        rw [receipts]
        exact exclusive.sole
    refine ⟨market, delivered.counted exclusive₁ ?_, ?_⟩
    · show w₁.units T ≤ (w₁.receipt r).supply
      rw [same, receipts]
      exact h.counted
    · intro absent
      rw [delivered.only.kind] at absent
      have held := delivered.units T
      simp only [exclusive₁.receiptsIn_of_absent absent] at held
      change _ = w₁.units T + _ at held
      rw [same, h.absent (only.kind ▸ absent)] at held
      omega
  | created caller payments w₁ terms market' n event other paid created after silent =>
    obtain ⟨only, receipts⟩ := transferAll_only paid
    subst after
    refine ⟨market, ?_, ?_⟩
    · show w₁.units T ≤ (w₁.receipt r).supply
      rw [transferAll_units paid T, receipts]
      exact h.counted
    · intro absent
      show w₁.units T = 0
      rw [transferAll_units paid T]
      exact h.absent (only.kind ▸ absent)
  | aside aside silent =>
    have fewer : w'.units T ≤ w.units T := by
      apply aside.units T
      intro r' issued
      rw [exclusive.sole r' issued]
      exact exclusive.alone
    refine ⟨market, ?_, ?_⟩
    · rcases aside.supply r exclusive.alone with same | ⟨absent, _⟩
      · rw [same]
        exact fewer.trans h.counted
      · rw [h.absent absent] at fewer
        exact fewer.trans (Nat.zero_le _)
    · intro absent
      have before : w.kind r = none := by
        by_contra there
        exact there (absent ▸ (aside.kind r there).symm)
      rw [h.absent before] at fewer
      exact Nat.le_zero.1 fewer

theorem play_stock (start : Stock self r T w) (foreign : Foreign self moves)
    (exclusive : w.Throughout (Exclusive self r T) moves) : Stock self r T (w.play moves) := by
  refine play_invariant (I := Stock self r T) start foreign exclusive ?_
  intro w m stock others exclusive _
  exact stock.turn exclusive (turn_of_move stock.market others)

/-! ### Moves that leave receipt contracts alone -/

/-- Requests to markets and oracles, new oracles, transfers, and time. -/
def sparesReceipts : Move → Bool
  | .call ⟨_, _, .act (.market _), _⟩ | .call ⟨_, _, .act (.oracle _), _⟩ => true
  | .deploy _ _ (.oracle _) | .transfer .. | .wait _ => true
  | _ => false

/-- The receipt contracts keep their tokens and their minters. -/
def SameIssuers (w w' : World) : Prop :=
  ∀ r, (w'.receipt r).token = (w.receipt r).token ∧ (w'.receipt r).minters = (w.receipt r).minters

theorem TokensOnly.sameIssuers (only : w.TokensOnly w') : SameIssuers w w' := fun r =>
  ⟨only.token_eq r, only.minters_eq r⟩

theorem SameIssuers.trans {w₁ : World} (h : SameIssuers w w₁) (h' : SameIssuers w₁ w') : SameIssuers w w' := fun r =>
  ⟨(h' r).1.trans (h r).1, (h' r).2.trans (h r).2⟩

theorem act_sameIssuers {c : Context} {action : Action} {o : Outcome} (other : action.kind ≠ .receipt)
    (h : w.act c action = .ok o) : SameIssuers w o.world := by
  cases act_outcome h with
  | registry | feed | oracle => exact fun r => ⟨rfl, rfl⟩
  | receipt outcome => exact absurd rfl other
  | market outcome =>
    cases outcome with
    | created | set | switched => exact fun r => ⟨rfl, rfl⟩
    | acted done =>
      obtain ⟨_, _, _, _, _, delivered⟩ := actOnPool_eq_ok done
      exact delivered.only.sameIssuers (w := w.setMarket c.self _)

theorem deployOracle_sameIssuers {deployer account registry : Address}
    (h : w.deploy deployer account (.oracle registry) = .ok w') : SameIssuers w w' := by
  obtain ⟨_, ⟨⟩, rfl⟩ := deploy_outcome h
  exact fun r => ⟨rfl, rfl⟩

theorem after_sameIssuers (spares : sparesReceipts m = true) : SameIssuers w (w.after m) := by
  have outcome := w.after_outcome m
  generalize w.after m = w' at outcome ⊢
  cases outcome with
  | called done =>
    cases call_outcome done with
    | asked => cases spares
    | @acted _ _ action _ _ _ paid _ acted =>
      have other : action.kind ≠ .receipt := by
        cases action with
        | receipt request => cases spares
        | _ => exact nofun
      exact (transferAll_only paid).1.sameIssuers.trans (act_sameIssuers other acted)
  | sent done => exact (transfer_only done).1.sameIssuers
  | @deployed _ _ blueprint _ _ done =>
    cases blueprint with
    | oracle registry => exact deployOracle_sameIssuers done
    | _ => cases spares
  | refused | unsent | undeployed | waited => exact fun r => ⟨rfl, rfl⟩

theorem play_sameIssuers (spared : ∀ m ∈ moves, sparesReceipts m = true) : SameIssuers w (w.play moves) := by
  induction moves generalizing w with
  | nil => exact fun r => ⟨rfl, rfl⟩
  | cons m rest ih =>
    have first := after_sameIssuers (w := w) (spared m List.mem_cons_self)
    exact first.trans (ih fun m' member => spared m' (List.mem_cons_of_mem m member))

theorem Exclusive.of_sameIssuers (h : Exclusive self r T w) (same : SameIssuers w w') : Exclusive self r T w' := by
  refine ⟨?_, ?_, ?_⟩
  · unfold OnlyMinter
    rw [(same r).2]
    exact h.alone
  · rw [(same r).1]
    exact h.token
  · intro r' issued
    rw [(same r').1] at issued
    exact h.sole r' issued

/-- What is exclusive stays so while nobody turns to receipt contracts. -/
theorem Exclusive.throughout (h : Exclusive self r T w) (spared : ∀ m ∈ moves, sparesReceipts m = true) :
    w.Throughout (Exclusive self r T) moves := by
  induction moves generalizing w with
  | nil => exact h
  | cons m rest ih =>
    have same := after_sameIssuers (w := w) (spared m List.mem_cons_self)
    exact ⟨h, ih (h.of_sameIssuers same) fun m' member => spared m' (List.mem_cons_of_mem m member)⟩

end TermLending.World
