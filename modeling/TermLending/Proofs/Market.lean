import TermLending.Market
import TermLending.Proofs.Pool.Later

/-!
# The books of a market

Pools keep their numbers, and an action on one leaves the others alone. So what every new pool has and every action
keeps, all pools of a market have; and each receipt contract serves one side of one pool.
-/

namespace TermLending

/-- The receipt contracts that a pool binds, the lenders' first. -/
def Pool.contracts (p : Pool) : List Address := [p.lendReceipt, p.borrowReceipt]

namespace Market

variable {m m' : Market} {id i n : Nat} {p q : Pool} {s : Scene} {t : Transition} {terms : Terms} {event : Event}
  {r : Address}

/-! ### Pools by number -/

theorem mem_of_pool? (h : m.pool? id = some p) : p ∈ m.pools := by
  cases id with
  | zero => cases h
  | succ i => exact List.mem_of_getElem? h

theorem pos_of_pool? (h : m.pool? id = some p) : 0 < id := by
  cases id with
  | zero => cases h
  | succ i => exact Nat.succ_pos i

theorem exists_pool?_of_mem (h : p ∈ m.pools) : ∃ id, m.pool? id = some p := by
  obtain ⟨i, read⟩ := List.mem_iff_getElem?.1 h
  exact ⟨i + 1, read⟩

theorem pool?_of_pools (same : m'.pools = m.pools) (id : Nat) : m'.pool? id = m.pool? id := by
  cases id with
  | zero => rfl
  | succ i => exact congrArg (·[i]?) same

theorem pool?_setPool (h : m.pool? id = some p) (i : Nat) :
    (m.setPool id q).pool? i = if i = id then some q else m.pool? i := by
  cases id with
  | zero => cases h
  | succ k =>
    cases i with
    | zero => rfl
    | succ i =>
      have bound : k < m.pools.length := (List.getElem?_eq_some_iff.1 h).1
      change (m.pools.set k q)[i]? = _
      by_cases same : i = k
      · subst same
        simp [bound]
      · rw [List.getElem?_set_ne (Ne.symm same), if_neg (by omega)]
        rfl

theorem setPool_setPool (h : m.pool? id = some p) (q : Pool) : (m.setPool id q).setPool id p = m := by
  cases id with
  | zero => cases h
  | succ i =>
    obtain ⟨bound, same⟩ := List.getElem?_eq_some_iff.1 h
    have pools : (m.pools.set i q).set i p = m.pools := by rw [List.set_set, ← same, List.set_getElem_self]
    show { m with pools := (m.pools.set i q).set i p } = m
    rw [pools]

theorem terms_setPool (h : m.pool? id = some p) (same : q.toTerms = p.toTerms) :
    ((m.setPool id q).pools.map fun p => p.toTerms) = m.pools.map fun p => p.toTerms := by
  cases id with
  | zero => cases h
  | succ i => exact map_set_of_same h same

theorem mem_setPool (h : q ∈ (m.setPool id p).pools) : q = p ∨ q ∈ m.pools :=
  (List.mem_or_eq_of_mem_set h).symm

theorem pool?_append (pools : List Pool) (h : m.pool? id = some p) :
    ({ m with pools := m.pools ++ pools } : Market).pool? id = some p := by
  cases id with
  | zero => cases h
  | succ i =>
    have bound : i < m.pools.length := (List.getElem?_eq_some_iff.1 h).1
    exact (List.getElem?_append_left bound).trans h

theorem pool?_append_cases (pools : m'.pools = m.pools ++ [q]) (found : m'.pool? id = some p) :
    m.pool? id = some p ∨ m.pool? id = none ∧ p = q := by
  cases id with
  | zero => cases found
  | succ i =>
    change m'.pools[i]? = some p at found
    rw [pools] at found
    rcases Nat.lt_or_ge i m.pools.length with old | new
    · rw [List.getElem?_append_left old] at found
      exact .inl found
    · rw [List.getElem?_append_right new] at found
      exact .inr ⟨List.getElem?_eq_none new, List.mem_singleton.1 (List.mem_of_getElem? found)⟩

/-! ### Receipt contracts in use -/

structure Books (m : Market) : Prop where
  ledger : ∀ p ∈ m.pools, p.Ledger
  shape : ∀ p ∈ m.pools, p.Shape
  bound : m.receipts.items = m.pools.flatMap Pool.contracts
  nodup : m.receipts.items.Nodup

theorem bindReceipt_eq_ok_iff {receipts receipts' : Roster Address} :
    bindReceipt receipts r = .ok receipts' ↔ r ∉ receipts ∧ receipts' = receipts.insert r := by
  simp only [bindReceipt, bind_eq_ok_iff, demand_eq_ok_iff, exists_const, pure_eq_ok_iff]

/-- A new pool comes last, and its receipt contracts were free. -/
theorem create_eq_ok (h : m.create terms = .ok (m', n, event)) :
    n = m.pools.length + 1 ∧ terms.lendReceipt ∉ m.receipts ∧ terms.borrowReceipt ∉ m.receipts ∧
      terms.lendReceipt ≠ terms.borrowReceipt ∧
      m' = { m with
        receipts := (m.receipts.insert terms.lendReceipt).insert terms.borrowReceipt
        pools := m.pools ++ [{ toTerms := terms }] } := by
  simp only [create, bind_eq_ok_iff, bindReceipt_eq_ok_iff, pure_eq_ok_iff, Prod.mk.injEq] at h
  obtain ⟨_, _, _, ⟨lendFree, rfl⟩, _, ⟨borrowFree, rfl⟩, rfl, rfl, _⟩ := h
  rw [Roster.mem_insert, not_or] at borrowFree
  exact ⟨rfl, lendFree, borrowFree.2, Ne.symm borrowFree.1, rfl⟩

theorem books_empty (empty : m.pools = []) (unbound : m.receipts = {}) : m.Books := by
  refine ⟨?_, ?_, ?_, ?_⟩
  · simp [empty]
  · simp [empty]
  · simp [empty, unbound]
  · simp [unbound]

theorem Books.of_same (h : m.Books) (pools : m'.pools = m.pools) (receipts : m'.receipts = m.receipts) : m'.Books where
  ledger := pools ▸ h.ledger
  shape := pools ▸ h.shape
  bound := by rw [pools, receipts, h.bound]
  nodup := receipts ▸ h.nodup

theorem Books.create (h : m.Books) (created : m.create terms = .ok (m', n, event)) : m'.Books := by
  obtain ⟨_, lendFree, borrowFree, different, rfl⟩ := create_eq_ok created
  have borrowFree' : terms.borrowReceipt ∉ m.receipts.insert terms.lendReceipt := by
    rw [Roster.mem_insert, not_or]
    exact ⟨different.symm, borrowFree⟩
  refine ⟨?_, ?_, ?_, Roster.nodup_insert (Roster.nodup_insert h.nodup)⟩
  · simpa [or_imp, forall_and] using ⟨h.ledger, Pool.ledger_new terms⟩
  · simpa [or_imp, forall_and] using ⟨h.shape, Pool.shape_new terms⟩
  · rw [Roster.items_insert_of_not_mem borrowFree', Roster.items_insert_of_not_mem lendFree, h.bound]
    simp [Pool.contracts]

theorem flatMap_set_of_eq {α β : Type} {f : α → List β} {items : List α} {a b : α} {k : Nat}
    (h : items[k]? = some a) (same : f b = f a) : (items.set k b).flatMap f = items.flatMap f := by
  induction items generalizing k with
  | nil => rfl
  | cons head tail ih =>
    cases k with
    | zero =>
      cases h
      simp [same]
    | succ k => simp [ih h]

theorem Books.setPool {action : Pool.Action} (h : m.Books) (read : m.pool? id = some p)
    (accepted : p.act s action = .ok t) : (m.setPool id t.pool).Books := by
  have member := mem_of_pool? read
  have terms := (Pool.act_later accepted).terms
  have contracts : t.pool.contracts = p.contracts := by simp [Pool.contracts, terms]
  refine ⟨fun q changed => ?_, fun q changed => ?_, ?_, h.nodup⟩
  · rcases mem_setPool changed with rfl | other
    · exact Pool.act_ledger (h.ledger p member) accepted
    · exact h.ledger q other
  · rcases mem_setPool changed with rfl | other
    · exact Pool.act_shape (h.shape p member) accepted
    · exact h.shape q other
  · cases id with
    | zero => cases read
    | succ k => exact h.bound.trans (flatMap_set_of_eq read contracts).symm

theorem mem_contracts_iff : r ∈ p.contracts ↔ r = p.lendReceipt ∨ r = p.borrowReceipt := by
  simp [Pool.contracts]

theorem Books.lend_ne_borrow (h : m.Books) (member : p ∈ m.pools) : p.lendReceipt ≠ p.borrowReceipt := by
  have distinct := h.nodup
  rw [h.bound, List.nodup_flatMap] at distinct
  simpa [Pool.contracts] using distinct.1 p member

theorem Books.pool_of_contract (h : m.Books) (read : m.pool? id = some p) (read' : m.pool? i = some q)
    (one : r ∈ p.contracts) (other : r ∈ q.contracts) : i = id := by
  have distinct := h.nodup
  rw [h.bound, List.nodup_flatMap] at distinct
  have apart := List.pairwise_iff_getElem.1 distinct.2
  cases id with
  | zero => cases read
  | succ j =>
    cases i with
    | zero => cases read'
    | succ k =>
      obtain ⟨bound, rfl⟩ := List.getElem?_eq_some_iff.1 read
      obtain ⟨bound', rfl⟩ := List.getElem?_eq_some_iff.1 read'
      rcases Nat.lt_trichotomy j k with before | same | after
      · exact absurd other (apart j k bound bound' before one)
      · rw [same]
      · exact absurd one (apart k j bound' bound after other)

theorem Books.mem_of_contract (h : m.Books) (member : p ∈ m.pools) (serves : r ∈ p.contracts) : r ∈ m.receipts := by
  rw [Roster.mem_iff, h.bound]
  exact List.mem_flatMap.2 ⟨p, member, serves⟩

theorem Books.exists_of_mem (h : m.Books) (member : r ∈ m.receipts) : ∃ p ∈ m.pools, r ∈ p.contracts := by
  rw [Roster.mem_iff, h.bound] at member
  exact List.mem_flatMap.1 member

end Market

end TermLending
