import TermLending.Proofs.Pool.Backing
import TermLending.Proofs.World.Books

/-!
# Receipts in circulation

When nobody else creates or destroys the receipts of a market, there are never more of them than its positions say
were created, and none of a contract that no pool uses yet.
-/

namespace TermLending.World

open Finset

variable {self r : Address} {w w' w₁ : World} {m : Move} {moves : List Move} {kept : Address → Prop} {p : Pool}
  {id n : Nat} {terms : Terms}

/-- The receipt contracts in use are in safe keeping, and only the market creates and destroys units of those. -/
structure Custody (home : Address) (kept : Address → Prop) (w : World) : Prop where
  bound : ∀ r ∈ (w.market home).receipts, kept r
  alone : ∀ r, kept r → OnlyMinter home r w

def lendUnits (w : World) (p : Pool) : Nat := (w.receipt p.lendReceipt).supply

def borrowUnits (w : World) (p : Pool) : Nat := (w.receipt p.borrowReceipt).supply

structure Circulation (home : Address) (kept : Address → Prop) (w : World) : Prop where
  market : w.kind home = some .market
  books : (w.market home).Books
  unbound : ∀ r, kept r → r ∉ (w.market home).receipts → (w.receipt r).supply = 0
  backed : ∀ p ∈ (w.market home).pools, p.Backed (w.lendUnits p) (w.borrowUnits p)

/-! ### Supplies after a move -/

section Acted

variable {e : Errand} {t : Transition}

/-- An action changes the supplies of the receipt contracts of its pool alone. -/
theorem acted_supply (paid : w.transferAll e.caller self e.payments = .ok w₁)
    (delivered : (w₁.setMarket self ((w.market self).setPool e.id t.pool)).Delivered self terms t.payout w')
    (r : Address) :
    (w'.receipt r).supply + ((if r = terms.lendReceipt then t.payout.burnLend else 0) +
        (if r = terms.borrowReceipt then t.payout.burnBorrow else 0)) =
      (w.receipt r).supply + ((if r = terms.lendReceipt then (w.released terms t.payout).mintLend else 0) +
        (if r = terms.borrowReceipt then (w.released terms t.payout).mintBorrow else 0)) := by
  obtain ⟨only, receipts⟩ := transferAll_only paid
  have kinds : (w₁.setMarket self ((w.market self).setPool e.id t.pool)).kind = w.kind := only.kind
  have moved := delivered.supply r
  simp only [issuable, kinds] at moved
  rw [← receipts]
  exact moved

theorem released_le (w : World) (terms : Terms) (out : Payout) :
    (w.released terms out).mintLend ≤ out.mintLend ∧ (w.released terms out).mintBorrow ≤ out.mintBorrow := by
  unfold released
  rcases issuable_cases w terms.lendReceipt out.mintLend with lend | lend <;>
    rcases issuable_cases w terms.borrowReceipt out.mintBorrow with borrow | borrow <;>
    · simp [lend, borrow]

/-- The receipts of a pool become fewer by what is handed in, and more by what is created. -/
theorem acted_units_eq (different : terms.lendReceipt ≠ terms.borrowReceipt)
    (paid : w.transferAll e.caller self e.payments = .ok w₁)
    (delivered : (w₁.setMarket self ((w.market self).setPool e.id t.pool)).Delivered self terms t.payout w')
    (same : t.pool.toTerms = terms) :
    w'.lendUnits t.pool + t.payout.burnLend =
        (w.receipt terms.lendReceipt).supply + (w.released terms t.payout).mintLend ∧
      w'.borrowUnits t.pool + t.payout.burnBorrow =
        (w.receipt terms.borrowReceipt).supply + (w.released terms t.payout).mintBorrow := by
  have lend := acted_supply paid delivered terms.lendReceipt
  have borrow := acted_supply paid delivered terms.borrowReceipt
  rw [if_pos rfl, if_neg different, if_pos rfl, if_neg different] at lend
  rw [if_neg different.symm, if_pos rfl, if_neg different.symm, if_pos rfl] at borrow
  unfold lendUnits borrowUnits
  rw [same]
  omega

theorem acted_units (different : terms.lendReceipt ≠ terms.borrowReceipt)
    (paid : w.transferAll e.caller self e.payments = .ok w₁)
    (delivered : (w₁.setMarket self ((w.market self).setPool e.id t.pool)).Delivered self terms t.payout w')
    (same : t.pool.toTerms = terms) :
    w'.lendUnits t.pool + t.payout.burnLend ≤ (w.receipt terms.lendReceipt).supply + t.payout.mintLend ∧
      w'.borrowUnits t.pool + t.payout.burnBorrow ≤ (w.receipt terms.borrowReceipt).supply + t.payout.mintBorrow := by
  obtain ⟨lendMinted, borrowMinted⟩ := released_le w terms t.payout
  obtain ⟨lend, borrow⟩ := acted_units_eq different paid delivered same
  omega

theorem acted_supply_of_not_mem (paid : w.transferAll e.caller self e.payments = .ok w₁)
    (delivered : (w₁.setMarket self ((w.market self).setPool e.id t.pool)).Delivered self terms t.payout w')
    (lend : r ≠ terms.lendReceipt) (borrow : r ≠ terms.borrowReceipt) :
    (w'.receipt r).supply = (w.receipt r).supply := by
  have moved := acted_supply paid delivered r
  rwa [if_neg lend, if_neg borrow, if_neg lend, if_neg borrow] at moved

/-- No other pool is concerned, since receipt contracts are not shared. -/
theorem acted_units_of_other {q : Pool} {i : Nat} (books : (w.market self).Books)
    (paid : w.transferAll e.caller self e.payments = .ok w₁)
    (delivered : (w₁.setMarket self ((w.market self).setPool e.id t.pool)).Delivered self p.toTerms t.payout w')
    (read : (w.market self).pool? e.id = some p) (found : (w.market self).pool? i = some q) (other : i ≠ e.id) :
    w'.lendUnits q = w.lendUnits q ∧ w'.borrowUnits q = w.borrowUnits q := by
  have apart (r : Address) (serves : r ∈ q.contracts) : (w'.receipt r).supply = (w.receipt r).supply := by
    have away : r ∉ p.contracts := fun both => other (books.pool_of_contract read found both serves)
    rw [Market.mem_contracts_iff, not_or] at away
    exact acted_supply_of_not_mem paid delivered away.1 away.2
  exact ⟨apart _ (Market.mem_contracts_iff.2 (.inl rfl)), apart _ (Market.mem_contracts_iff.2 (.inr rfl))⟩

end Acted

/-! ### Circulation along a run -/

theorem Circulation.of_launched (launched : Launched self w) (unused : ∀ r, kept r → (w.receipt r).supply = 0) :
    Circulation self kept w := by
  obtain ⟨market, empty, _⟩ := launched_market launched
  refine ⟨market, launched_books launched, fun r safe _ => unused r safe, ?_⟩
  intro p member
  rw [empty] at member
  cases member

theorem Circulation.acted {e : Errand} {t : Transition} {s : Scene} (h : Circulation self kept w)
    (paid : w.transferAll e.caller self e.payments = .ok w₁) (read : (w.market self).pool? e.id = some p)
    (accepted : p.act s e.action = .ok t)
    (delivered : (w₁.setMarket self ((w.market self).setPool e.id t.pool)).Delivered self t.pool.toTerms t.payout w') :
    (∀ r, kept r → r ∉ (w'.market self).receipts → (w'.receipt r).supply = 0) ∧
      ∀ q ∈ (w'.market self).pools, q.Backed (w'.lendUnits q) (w'.borrowUnits q) := by
  have member := Market.mem_of_pool? read
  have terms := (Pool.act_later accepted).terms
  rw [terms] at delivered
  rw [market_of_delivered delivered]
  constructor
  · intro r safe free
    have away : r ∉ p.contracts := fun serves => free (h.books.mem_of_contract member serves)
    rw [Market.mem_contracts_iff, not_or] at away
    rw [acted_supply_of_not_mem paid delivered away.1 away.2]
    exact h.unbound r safe free
  · intro q changed
    obtain ⟨i, found⟩ := Market.exists_pool?_of_mem changed
    rw [Market.pool?_setPool read] at found
    split at found
    · cases found
      have units := acted_units (h.books.lend_ne_borrow member) paid delivered terms
      exact Pool.act_backed (h.books.shape p member) (h.backed p member) accepted units.1 units.2
    · next other =>
      obtain ⟨lend, borrow⟩ := acted_units_of_other h.books paid delivered read found other
      rw [lend, borrow]
      exact h.backed q (Market.mem_of_pool? found)

theorem Circulation.created {caller : Address} {payments : List Payment} {market : Market} {event : Event}
    (h : Circulation self kept w) (paid : w.transferAll caller self payments = .ok w₁)
    (created : (w.market self).create terms = .ok (market, n, event))
    (bound : ∀ r ∈ market.receipts, kept r) :
    (∀ r, kept r → r ∉ market.receipts → (w₁.receipt r).supply = 0) ∧
      ∀ q ∈ market.pools, q.Backed (w₁.lendUnits q) (w₁.borrowUnits q) := by
  obtain ⟨_, receipts⟩ := transferAll_only paid
  obtain ⟨_, lendFree, borrowFree, _, rfl⟩ := Market.create_eq_ok created
  unfold lendUnits borrowUnits
  rw [receipts]
  constructor
  · intro r safe free
    rw [Roster.mem_insert, Roster.mem_insert, not_or, not_or] at free
    exact h.unbound r safe free.2.2
  · intro q member
    rcases List.mem_append.1 member with old | new
    · exact h.backed q old
    · rw [List.mem_singleton] at new
      subst new
      have lendKept : kept terms.lendReceipt :=
        bound _ (Roster.mem_insert.2 (.inr (Roster.mem_insert.2 (.inl rfl))))
      have borrowKept : kept terms.borrowReceipt := bound _ (Roster.mem_insert.2 (.inl rfl))
      constructor
      · rw [h.unbound _ lendKept lendFree]
        exact Nat.zero_le _
      · rw [h.unbound _ borrowKept borrowFree]
        exact Nat.zero_le _

/-- Receipts in custody never become more by what others do. -/
theorem Aside.supply_le (aside : w.Aside self w') (custody : Custody self kept w) {r : Address} (safe : kept r) :
    (w'.receipt r).supply ≤ (w.receipt r).supply := by
  rcases aside.supply r (custody.alone r safe) with same | ⟨_, zero⟩ <;> omega

theorem Circulation.turn (h : Circulation self kept w) (turn : Turn self w m w') (custody : Custody self kept w)
    (custody' : Custody self kept w') : Circulation self kept w' := by
  have market := (turn.kind (by simp [h.market])).trans h.market
  have books := turn.books h.books
  cases turn with
  | acted e p t w₁ other paid read accepted delivered entry =>
    obtain ⟨unbound, backed⟩ := h.acted paid read accepted delivered
    exact ⟨market, books, unbound, backed⟩
  | created caller payments w₁ terms market' n event other paid created after silent =>
    subst after
    have stored : (w₁.setMarket self market').market self = market' := put_self _ _ _
    have bound := custody'.bound
    rw [stored] at bound
    obtain ⟨unbound, backed⟩ := h.created paid created bound
    refine ⟨market, books, ?_, ?_⟩
    · rw [stored]
      exact unbound
    · rw [stored]
      exact backed
  | aside aside silent =>
    refine ⟨market, books, ?_, ?_⟩
    · intro r safe free
      rw [aside.receipts] at free
      have less := aside.supply_le custody safe
      rw [h.unbound r safe free] at less
      exact Nat.le_zero.1 less
    · intro p member
      rw [aside.pools] at member
      have lendKept := custody.bound _ (h.books.mem_of_contract member (Market.mem_contracts_iff.2 (.inl rfl)))
      have borrowKept := custody.bound _ (h.books.mem_of_contract member (Market.mem_contracts_iff.2 (.inr rfl)))
      obtain ⟨lend, borrow⟩ := h.backed p member
      exact ⟨(aside.supply_le custody lendKept).trans lend, (aside.supply_le custody borrowKept).trans borrow⟩

end TermLending.World
