import TermLending.Proofs.World.Payments

/-!
# Receipts created and redeemed

The contract of a receipt counts the units there are, and the positions of a pool say how many were created. Units
are split up and change hands in between, but only a redemption destroys any, so what is missing from the count is what
the journal of the market lists as redeemed.
-/

namespace TermLending.World

open Finset Pool

variable {self r : Address} {w w' w₁ : World} {m : Move} {moves : List Move} {kept : Address → Prop} {J : List Entry}
  {e : Entry} {id lend borrow lend' borrow' : Nat} {p : Pool} {s : Scene} {t : Transition} {action : Pool.Action}
  {amount : Pool.Action → Payout → Nat}

/-! ### Redemptions in a journal -/

def lendRedemptions : Pool.Action → Payout → Nat
  | .withdrawLend, out => out.burnLend
  | _, _ => 0

def borrowRedemptions : Pool.Action → Payout → Nat
  | .withdrawBorrow, out => out.burnBorrow
  | _, _ => 0

/-- Nothing but a redemption destroys receipts. -/
theorem act_burns (accepted : p.act s action = .ok t) :
    t.payout.burnLend = lendRedemptions action t.payout ∧ t.payout.burnBorrow = borrowRedemptions action t.payout := by
  cases act_effect accepted <;> exact ⟨rfl, rfl⟩

/-- An entry counts for one user, its recipient. -/
theorem sum_total_snoc (J : List Entry) (here : e.id = id) (amount : Pool.Action → Payout → Nat) :
    ∑ u, total (J ++ [e]) id u amount = ∑ u, total J id u amount + amount e.action e.payout := by
  have one (u : Address) : (if e.Concerns id u then amount e.action e.payout else 0) =
      if e.payout.recipient = u then amount e.action e.payout else 0 := by
    unfold Entry.Concerns
    simp only [here, true_and]
  simp only [total_snoc, sum_add_distrib, one, sum_ite_eq, mem_univ, if_true]

theorem total_of_other (J : List Entry) (other : e.id ≠ id) (u : Address) (amount : Pool.Action → Payout → Nat) :
    total (J ++ [e]) id u amount = total J id u amount :=
  total_of_quiet fun concerns => absurd concerns.1 other

/-! ### One pool -/

/-- The receipts there are and those that were redeemed are those that positions say were created. -/
structure Balanced (J : List Entry) (id : Nat) (p : Pool) (lend borrow : Nat) : Prop where
  lend : lend + ∑ u, total J id u lendRedemptions = ∑ u, (p.lendPosition u).receipts
  borrow : borrow + ∑ u, total J id u borrowRedemptions = ∑ u, (p.borrowPosition u).receipts

theorem Balanced.act (h : Balanced J id p lend borrow) (shape : p.Shape) (accepted : p.act s action = .ok t)
    (made : e = ⟨id, action, w.released t.pool.toTerms t.payout⟩)
    (lends : lend' + t.payout.burnLend = lend + t.payout.mintLend)
    (borrows : borrow' + t.payout.burnBorrow = borrow + t.payout.mintBorrow) :
    Balanced (J ++ [e]) id t.pool lend' borrow' := by
  subst made
  obtain ⟨lendBurned, borrowBurned⟩ := act_burns accepted
  obtain ⟨lendCreated, borrowCreated⟩ := act_records shape accepted
  have lendListed : lendRedemptions action (w.released t.pool.toTerms t.payout) = t.payout.burnLend := by
    rw [lendBurned]
    cases action <;> rfl
  have borrowListed : borrowRedemptions action (w.released t.pool.toTerms t.payout) = t.payout.burnBorrow := by
    rw [borrowBurned]
    cases action <;> rfl
  obtain ⟨lend_eq, borrow_eq⟩ := h
  constructor
  · rw [sum_total_snoc J rfl]
    dsimp only
    omega
  · rw [sum_total_snoc J rfl]
    dsimp only
    omega

theorem Balanced.other (h : Balanced J id p lend borrow) (other : e.id ≠ id) : Balanced (J ++ [e]) id p lend borrow := by
  constructor
  · simp only [total_of_other J other]
    exact h.lend
  · simp only [total_of_other J other]
    exact h.borrow

theorem Balanced.new (silent : ∀ e ∈ J, e.id ≠ id) (terms : Terms) : Balanced J id { toTerms := terms } 0 0 := by
  constructor <;>
  · simp only [total_eq_zero silent, sum_const_zero]
    exact (sum_eq_zero fun _ _ => rfl).symm

/-! ### All pools of a market -/

/-- The pools of the market at `home` have their receipts from contracts made for that. -/
def Staffed (home : Address) (w : World) : Prop :=
  ∀ p ∈ (w.market home).pools, w.kind p.lendReceipt = some .receipt ∧ w.kind p.borrowReceipt = some .receipt

instance (home : Address) : DecidablePred (Staffed home) := fun w =>
  inferInstanceAs (Decidable (∀ p ∈ (w.market home).pools,
    w.kind p.lendReceipt = some .receipt ∧ w.kind p.borrowReceipt = some .receipt))

structure Reconciled (home : Address) (kept : Address → Prop) (J : List Entry) (w : World) : Prop where
  recorded : Recorded home J w
  circulation : Circulation home kept w
  balanced : ∀ id p, (w.market home).pool? id = some p → Balanced J id p (w.lendUnits p) (w.borrowUnits p)

theorem issuable_of_receipt (receipt : w.kind r = some .receipt) (n : Nat) : w.issuable r n = n := by
  apply if_neg
  rw [receipt]
  nofun

/-- A receipt contract in custody keeps its count whatever others do. -/
theorem Aside.supply_eq (aside : w.Aside self w') (custody : Custody self kept w) (safe : kept r)
    (receipt : w.kind r = some .receipt) : (w'.receipt r).supply = (w.receipt r).supply := by
  rcases aside.supply r (custody.alone r safe) with same | ⟨absent, _⟩
  · exact same
  · rw [absent] at receipt
    cases receipt

theorem Reconciled.acted {x : Errand} (h : Reconciled self kept J w) (staffed : Staffed self w)
    (paid : w.transferAll x.caller self x.payments = .ok w₁) (read : (w.market self).pool? x.id = some p)
    (accepted : p.act s x.action = .ok t)
    (delivered : (w₁.setMarket self ((w.market self).setPool x.id t.pool)).Delivered self t.pool.toTerms t.payout w') :
    ∀ i q, (w'.market self).pool? i = some q →
      Balanced (J ++ [⟨x.id, x.action, w.released t.pool.toTerms t.payout⟩]) i q (w'.lendUnits q) (w'.borrowUnits q) := by
  intro i q found
  have books := h.circulation.books
  have member := Market.mem_of_pool? read
  have terms := (act_later accepted).terms
  have own := h.balanced x.id p read
  rw [market_of_delivered delivered, Market.pool?_setPool read] at found
  split at found
  · next here =>
    cases found
    subst here
    obtain ⟨lendKind, borrowKind⟩ := staffed p member
    obtain ⟨lends, borrows⟩ := acted_units_eq (books.lend_ne_borrow member) paid (terms ▸ delivered) terms
    have created : (w.released p.toTerms t.payout).mintLend = t.payout.mintLend ∧
        (w.released p.toTerms t.payout).mintBorrow = t.payout.mintBorrow :=
      ⟨issuable_of_receipt lendKind _, issuable_of_receipt borrowKind _⟩
    rw [created.1] at lends
    rw [created.2] at borrows
    exact own.act (books.shape p member) accepted rfl lends borrows
  · next other =>
    obtain ⟨lend, borrow⟩ := acted_units_of_other books paid (terms ▸ delivered) read found other
    rw [lend, borrow]
    exact (h.balanced i q found).other (Ne.symm other)

theorem Reconciled.turn (h : Reconciled self kept J w) (turn : Turn self w m w') (custody : Custody self kept w)
    (custody' : Custody self kept w') (staffed : Staffed self w) :
    Reconciled self kept (J ++ (w.entry? self m).toList) w' := by
  refine ⟨h.recorded.turn turn, h.circulation.turn turn custody custody', ?_⟩
  cases turn with
  | acted x p t w₁ other paid read accepted delivered entry =>
    rw [entry]
    exact h.acted staffed paid read accepted delivered
  | created caller payments w₁ terms market n event other paid created after silent =>
    subst after
    have stored : (w₁.setMarket self market).market self = market := put_self _ _ _
    have receipts : w₁.receipt = w.receipt := (transferAll_only paid).2
    have bound := custody'.bound
    rw [stored] at bound
    rw [silent, Option.toList_none, List.append_nil, stored]
    intro i q found
    unfold lendUnits borrowUnits
    show Balanced J i q (w₁.receipt q.lendReceipt).supply (w₁.receipt q.borrowReceipt).supply
    rw [receipts]
    obtain ⟨_, lendFree, borrowFree, _, rfl⟩ := Market.create_eq_ok created
    rcases Market.pool?_append_cases rfl found with old | ⟨free, rfl⟩
    · exact h.balanced i q old
    · have lendKept : kept terms.lendReceipt :=
        bound _ (Roster.mem_insert.2 (.inr (Roster.mem_insert.2 (.inl rfl))))
      have borrowKept : kept terms.borrowReceipt := bound _ (Roster.mem_insert.2 (.inl rfl))
      rw [h.circulation.unbound _ lendKept lendFree, h.circulation.unbound _ borrowKept borrowFree]
      apply Balanced.new
      rintro e member rfl
      obtain ⟨p, read⟩ := h.recorded.known e member
      rw [read] at free
      cases free
  | aside aside silent =>
    rw [silent, Option.toList_none, List.append_nil]
    intro i q found
    have read : (w.market self).pool? i = some q := by rwa [← Market.pool?_of_pools aside.pools]
    have member := Market.mem_of_pool? read
    have safe (r : Address) (serves : r ∈ q.contracts) : kept r :=
      custody.bound r (h.circulation.books.mem_of_contract member serves)
    obtain ⟨lendKind, borrowKind⟩ := staffed q member
    have lendSame := aside.supply_eq custody (safe _ (Market.mem_contracts_iff.2 (.inl rfl))) lendKind
    have borrowSame := aside.supply_eq custody (safe _ (Market.mem_contracts_iff.2 (.inr rfl))) borrowKind
    unfold lendUnits borrowUnits
    rw [lendSame, borrowSame]
    exact h.balanced i q read

theorem play_reconciled (h : Reconciled self kept J w) (foreign : Foreign self moves)
    (custody : w.Throughout (Custody self kept) moves) (staffed : w.Throughout (Staffed self) moves) :
    Reconciled self kept (J ++ w.journal self moves) (w.play moves) := by
  induction moves generalizing w J with
  | nil =>
    show Reconciled self kept (J ++ []) w
    rw [List.append_nil]
    exact h
  | cons m rest ih =>
    have turn := turn_of_move h.recorded.market (foreign m List.mem_cons_self)
    have one := h.turn turn custody.start custody.2.start staffed.start
    have all := ih one (fun m' member => foreign m' (List.mem_cons_of_mem m member)) custody.2 staffed.2
    rw [List.append_assoc] at all
    exact all

/--
The units of a receipt contract, with those redeemed before, are what the positions of its pool say was created. With
what is still to be claimed that is never more than was lent out, or pledged, and it is the whole pledge until the pool
is liquidated.
-/
theorem receipts_agree_with_positions (launched : Launched self w) (foreign : Foreign self moves)
    (unused : ∀ p ∈ ((w.play moves).market self).pools, w.lendUnits p = 0 ∧ w.borrowUnits p = 0)
    (alone : ∀ p ∈ ((w.play moves).market self).pools,
      w.Throughout (OnlyMinter self p.lendReceipt) moves ∧ w.Throughout (OnlyMinter self p.borrowReceipt) moves)
    (staffed : w.Throughout (Staffed self) moves) (read : ((w.play moves).market self).pool? id = some p) :
    let w' := w.play moves
    let J := w.journal self moves
    let lent := p.lendPosition
    let pledged := p.borrowPosition
    w'.lendUnits p + ∑ u, total J id u lendRedemptions = ∑ u, (lent u).receipts ∧
    ∑ u, (lent u).receipts +
      ∑ u, (if (lent u).claimed then 0 else (lent u).stake * p.matchedLend / p.lendSupply) ≤ p.matchedLend ∧
    w'.borrowUnits p + ∑ u, total J id u borrowRedemptions = ∑ u, (pledged u).receipts ∧
    ∑ u, (pledged u).receipts + ∑ u, (if (pledged u).claimed then 0 else (pledged u).pledge) ≤ p.borrowSupply ∧
    (p.phase ≠ .liquidated →
      ∑ u, (pledged u).receipts + ∑ u, (if (pledged u).claimed then 0 else (pledged u).pledge) = p.borrowSupply) := by
  intro w' J lent pledged
  have custody := custody_of_alone launched foreign alone
  have start : Reconciled self (Serves self w moves) [] w := by
    refine ⟨.of_launched launched, .of_launched launched fun r serves => ?_, ?_⟩
    · exact serves_of_pools (P := fun r => (w.receipt r).supply = 0) unused serves
    · intro i q found
      have member := Market.mem_of_pool? found
      rw [(launched_market launched).2.1] at member
      cases member
  have reconciled := play_reconciled start foreign custody staffed
  have books := reconciled.circulation.books
  have member := Market.mem_of_pool? read
  have ledger := books.ledger p member
  have shape := books.shape p member
  obtain ⟨lend, borrow⟩ := reconciled.balanced id p read
  exact ⟨lend, lendReceipts_le ledger shape.lend le_rfl, borrow, borrowReceipts_le ledger shape.borrow le_rfl,
    borrowReceipts_eq ledger shape.borrow⟩

/-- Of the receipts that the lender of the town got, half are redeemed and half are still there. -/
theorem town_receipts_agree :
    ∃ p, ((marketTown.play townLoan).market (someone 5)).pool? 1 = some p ∧
      30 + ∑ u, total (marketTown.journal (someone 5) townLoan) 1 u lendRedemptions =
        ∑ u, (p.lendPosition u).receipts ∧
      120 = ∑ u, (p.borrowPosition u).receipts +
        ∑ u, (if (p.borrowPosition u).claimed then 0 else (p.borrowPosition u).pledge) := by
  have state : (((marketTown.play townLoan).market (someone 5)).pool? 1).map
      (fun p => (p.phase, p.borrowSupply, (marketTown.play townLoan).lendUnits p)) = some (.finished, 120, 30) := by
    decide +kernel
  obtain ⟨p, read, here⟩ := Option.map_eq_some_iff.1 state
  simp only [Prod.mk.injEq] at here
  obtain ⟨finished, supply, units⟩ := here
  obtain ⟨lend, _, _, _, pledge⟩ := receipts_agree_with_positions marketTown_launched townLoan_foreign (by decide +kernel)
    (by decide +kernel) (by decide +kernel) read
  refine ⟨p, read, ?_, ?_⟩
  · rw [← units]
    exact lend
  · rw [← supply]
    exact (pledge (by simp [finished])).symm

end TermLending.World
