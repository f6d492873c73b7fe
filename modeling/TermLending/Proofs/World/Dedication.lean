import TermLending.Proofs.World.Liquidation

/-!
# Receipts of one pool side

A receipt contract serves one side of one pool. Had two pools one in common, receipts of the one could empty the other. So
terms that name a contract in use are refused, whichever of the two they name, and nothing is left of the attempt.
-/

namespace TermLending

namespace Market

variable {m m' : Market} {id n : Nat} {terms : Terms} {event : Event}

theorem exists_pool?_iff : (∃ p, m.pool? id = some p) ↔ 0 < id ∧ id ≤ m.pools.length := by
  cases id with
  | zero => exact iff_of_false nofun fun both => Nat.lt_irrefl 0 both.1
  | succ i =>
    constructor
    · rintro ⟨p, read⟩
      exact ⟨Nat.succ_pos i, (List.getElem?_eq_some_iff.1 read).1⟩
    · rintro ⟨_, bound⟩
      exact ⟨_, List.getElem?_eq_getElem bound⟩

theorem create_succeeds_iff :
    (∃ r, m.create terms = .ok r) ↔
      terms.Accepted ∧ terms.lendReceipt ∉ m.receipts ∧ terms.borrowReceipt ∉ m.receipts := by
  constructor
  · rintro ⟨⟨m', id, event⟩, created⟩
    obtain ⟨_, lendFree, borrowFree, _⟩ := create_eq_ok created
    exact ⟨create_accepted created, lendFree, borrowFree⟩
  · rintro ⟨accepted, lendFree, borrowFree⟩
    have second : terms.borrowReceipt ∉ m.receipts.insert terms.lendReceipt := by
      rw [Roster.mem_insert, not_or]
      exact ⟨accepted.apart.symm, borrowFree⟩
    simp only [create, bind_eq_ok_iff, bindReceipt_eq_ok_iff, pure_eq_ok_iff]
    exact ⟨_, (), checkTerms_eq_ok_iff.2 accepted, _, ⟨lendFree, rfl⟩, _, ⟨second, rfl⟩, rfl⟩

theorem create_event (h : m.create terms = .ok (m', n, event)) :
    event = .poolCreated n terms.settleToken terms.pledgeToken terms.settleTime terms.endTime terms.interestRate
      terms.maxSupply terms.mortgageRate terms.liquidationThreshold := by
  simp only [create, bind_eq_ok_iff, pure_eq_ok_iff, Prod.mk.injEq] at h
  obtain ⟨_, _, _, _, _, _, _, rfl, rfl⟩ := h
  rfl

/-- Each pool has two contracts. -/
theorem length_contracts (pools : List Pool) : (pools.flatMap Pool.contracts).length = 2 * pools.length := by
  rw [List.length_flatMap]
  simp [Pool.contracts, Nat.mul_comm]

end Market

namespace World

variable {self caller : Address} {w : World} {moves : List Move} {id : Nat} {terms : Terms} {payments : List Payment}
  {out : Outcome}

/-! ### What a market tells of its pools -/

theorem ask_count (market : w.kind self = some .market) :
    w.ask self (.market .count) = .ok (.number (w.market self).pools.length) := ask_eq market rfl

theorem ask_receipts (market : w.kind self = some .market) :
    w.ask self (.market .receipts) = .ok (.addresses (w.market self).receipts.items) := ask_eq market rfl

/-- A pool is known by its record and by its amounts alike. -/
theorem askPool_records_iff (market : w.kind self = some .market) (fits : id ≤ maxU32) :
    ((∃ loan, w.askPool self id .loan = .ok (.loan loan)) ↔ 0 < id ∧ id ≤ (w.market self).pools.length) ∧
      ((∃ amounts, w.askPool self id .amounts = .ok (.amounts amounts)) ↔
        0 < id ∧ id ≤ (w.market self).pools.length) := by
  rw [← Market.exists_pool?_iff]
  cases read : (w.market self).pool? id with
  | some p =>
    rw [askPool_eq market fits read, askPool_eq market fits read]
    have known : ∃ q, some p = some q := ⟨p, rfl⟩
    exact ⟨iff_of_true ⟨p.toLoan, rfl⟩ known, iff_of_true ⟨p.toAmounts, rfl⟩ known⟩
  | none =>
    have unknown : ¬∃ q : Pool, none = some q := nofun
    rw [askPool_eq_askMarket market fits, askPool_eq_askMarket market fits]
    unfold askMarket
    dsimp only
    rw [read]
    exact ⟨iff_of_false nofun unknown, iff_of_false nofun unknown⟩

/-! ### Creating pools -/

def creating (caller self : Address) (terms : Terms) (payments : List Payment) : Call :=
  ⟨caller, self, .act (.market (.create terms)), payments⟩

/-- All that it takes to create a pool, and all that comes of it. -/
theorem call_create_eq_ok_iff : w.call (creating caller self terms payments) = .ok out ↔
    ∃ w₁, w.transferAll caller self payments = .ok w₁ ∧ w.kind self = some .market ∧ refusePayment payments = .ok () ∧
      (∀ word ∈ (Action.market (.create terms)).words, word.value ≤ word.limit) ∧
      w.requireApproved (w.market self).registry caller self = .ok () ∧
      ∃ m n event, (w.market self).create terms = .ok (m, n, event) ∧
        out = { world := w₁.setMarket self m, reply := .number n, log := [⟨self, event⟩] } := by
  have acted (w₁ : World) : w₁.act ⟨caller, self, payments⟩ (.market (.create terms)) = .ok out ↔
      w₁.requireApproved (w₁.market self).registry caller self = .ok () ∧
        ∃ m n event, (w₁.market self).create terms = .ok (m, n, event) ∧
          out = { world := w₁.setMarket self m, reply := .number n, log := [⟨self, event⟩] } := by
    simp only [act, actOnMarket, bind_eq_ok_iff, pure_eq_ok_iff, Prod.exists]
    exact Unique.exists_iff
  unfold creating
  rw [call_act_eq_ok_iff]
  refine exists_congr fun w₁ => and_congr_right fun paid => ?_
  have only := (transferAll_only paid).1
  rw [accept_eq_ok_iff rfl, acted, requireApproved_of_only only, only.kind, only.market, and_assoc, and_assoc]
  rfl

theorem created_of_call (done : w.call (creating caller self terms payments) = .ok out) :
    let n := (w.market self).pools.length + 1
    out.reply = .number n ∧ out.world.ask self (.market .count) = .ok (.number n) ∧
      (out.world.market self).pools = (w.market self).pools ++ [{ toTerms := terms }] ∧
      out.log = [⟨self, .poolCreated n terms.settleToken terms.pledgeToken terms.settleTime terms.endTime
        terms.interestRate terms.maxSupply terms.mortgageRate terms.liquidationThreshold⟩] := by
  intro n
  obtain ⟨w₁, paid, market, _, _, _, m, i, event, created, rfl⟩ := call_create_eq_ok_iff.1 done
  have announced := Market.create_event created
  obtain ⟨numbered, _, _, _, stored⟩ := Market.create_eq_ok created
  have pools : ((w₁.setMarket self m).market self).pools = (w.market self).pools ++ [{ toTerms := terms }] := by
    rw [setMarket_market, stored]
  have kind : (w₁.setMarket self m).kind self = some .market := (transferAll_only paid).1.kind ▸ market
  have counted := ask_count kind
  rw [pools, List.length_append] at counted
  refine ⟨congrArg Reply.number numbered, counted, pools, ?_⟩
  rw [announced, numbered]

/-! ### Along a run -/

/--
Each side of each pool has a receipt contract of its own, wherever a run has led, and these are the contracts that the
market lists. The market knows a loan and its amounts for each number up to its count, and the terms of all pools are in
order. A pool is created exactly if the caller is approved, the terms are in order and both contracts are free; its number
is the new count. A failed attempt leaves everything as it was.
-/
theorem receipts_serve_one_side (launched : Launched self w) (foreign : Foreign self moves) :
    let w' := w.play moves
    let pools := (w'.market self).pools
    w'.ask self (.market .count) = .ok (.number pools.length) ∧
    (∀ id ≤ maxU32,
      ((∃ loan, w'.askPool self id .loan = .ok (.loan loan)) ↔ 0 < id ∧ id ≤ pools.length) ∧
      ((∃ amounts, w'.askPool self id .amounts = .ok (.amounts amounts)) ↔ 0 < id ∧ id ≤ pools.length)) ∧
    w'.ask self (.market .receipts) = .ok (.addresses (pools.flatMap fun p => [p.lendReceipt, p.borrowReceipt])) ∧
    (pools.flatMap fun p => [p.lendReceipt, p.borrowReceipt]).Nodup ∧
    (pools.flatMap fun p => [p.lendReceipt, p.borrowReceipt]).length = 2 * pools.length ∧
    (∀ p ∈ pools, p.toTerms.Accepted) ∧
    (∀ caller terms, (∃ out, w'.call (creating caller self terms []) = .ok out) ↔
      (∀ word ∈ (Action.market (.create terms)).words, word.value ≤ word.limit) ∧
        w'.requireApproved (w'.market self).registry caller self = .ok () ∧ terms.Accepted ∧
        ∀ p ∈ pools, terms.lendReceipt ∉ [p.lendReceipt, p.borrowReceipt] ∧
          terms.borrowReceipt ∉ [p.lendReceipt, p.borrowReceipt]) ∧
    ∀ caller terms payments,
      (∀ out, w'.call (creating caller self terms payments) = .ok out →
        let n := pools.length + 1
        out.reply = .number n ∧ out.world.ask self (.market .count) = .ok (.number n) ∧
        (out.world.market self).pools = pools ++ [{ toTerms := terms }] ∧
        out.log = [⟨self, .poolCreated n terms.settleToken terms.pledgeToken terms.settleTime terms.endTime
          terms.interestRate terms.maxSupply terms.mortgageRate terms.liquidationThreshold⟩]) ∧
      (∀ fault, w'.call (creating caller self terms payments) = .error fault →
        w'.after (.call (creating caller self terms payments)) = w') := by
  intro w' pools
  have start := (launched_market launched).1
  obtain ⟨market, books⟩ := play_books start (launched_books launched) foreign
  have sound := (play_market_sound start (launched_sound launched) moves).2
  have listed : (w'.market self).receipts.items = pools.flatMap Pool.contracts := books.bound
  have free (r : Address) : r ∉ (w'.market self).receipts ↔ ∀ p ∈ pools, r ∉ p.contracts := by
    rw [Roster.mem_iff, listed, List.mem_flatMap]
    simp only [not_exists, not_and]
  refine ⟨ask_count market, fun id fits => askPool_records_iff market fits, ?_, listed ▸ books.nodup,
    Market.length_contracts pools, fun p member => (sound.pools p member).terms, ?_, ?_⟩
  · rw [ask_receipts market, listed]
    rfl
  · intro caller terms
    constructor
    · rintro ⟨out, done⟩
      obtain ⟨_, _, _, _, words, approved, m, n, event, created, _⟩ := call_create_eq_ok_iff.1 done
      obtain ⟨accepted, lendFree, borrowFree⟩ := Market.create_succeeds_iff.1 ⟨_, created⟩
      exact ⟨words, approved, accepted, fun p member => ⟨(free _).1 lendFree p member, (free _).1 borrowFree p member⟩⟩
    · rintro ⟨words, approved, accepted, unused⟩
      obtain ⟨⟨m, n, event⟩, created⟩ := Market.create_succeeds_iff.2 ⟨accepted,
        (free _).2 fun p member => (unused p member).1, (free _).2 fun p member => (unused p member).2⟩
      exact ⟨_, call_create_eq_ok_iff.2 ⟨w', rfl, market, rfl, words, approved, m, n, event, created, rfl⟩⟩
  · intro caller terms payments
    exact ⟨fun out done => created_of_call done, fun fault failed => after_call_error failed⟩

/-- Terms for a second pool, with the given contract for its borrowers. -/
def rivalTerms (borrowReceipt : Address) : Terms := { townTerms with lendReceipt := someone 9, borrowReceipt }

/-- The pool of the town keeps its contracts to itself. Another one comes only with other contracts. -/
theorem town_receipts_serve_one_side :
    let w := marketTown.play townDeposits
    w.ask (someone 5) (.market .receipts) = .ok (.addresses [someone 3, someone 4]) ∧
      w.after (.call (creating (someone 8) (someone 5) (rivalTerms (someone 3)) [])) = w ∧
      ∃ out, w.call (creating (someone 8) (someone 5) (rivalTerms (someone 10)) []) = .ok out ∧
        out.reply = .number 2 := by
  intro w
  have contracts : (w.market (someone 5)).pools.map (fun p => [p.lendReceipt, p.borrowReceipt]) =
      [[someone 3, someone 4]] := by decide +kernel
  have only (p : Pool) (member : p ∈ (w.market (someone 5)).pools) :
      [p.lendReceipt, p.borrowReceipt] = [someone 3, someone 4] := by
    have mapped := List.mem_map_of_mem (f := fun p : Pool => [p.lendReceipt, p.borrowReceipt]) member
    rw [contracts] at mapped
    exact List.mem_singleton.1 mapped
  have count : (w.market (someone 5)).pools.length = 1 := by
    have lengths := congrArg List.length contracts
    rwa [List.length_map] at lengths
  obtain ⟨_, _, listed, _, _, _, decides, creates⟩ := receipts_serve_one_side marketTown_launched townDeposits_foreign
  change w.ask (someone 5) (.market .receipts) = _ at listed
  rw [List.flatMap_def, show List.map _ _ = _ from contracts] at listed
  refine ⟨listed, ?_, ?_⟩
  · cases failed : w.call (creating (someone 8) (someone 5) (rivalTerms (someone 3)) []) with
    | error fault => exact (creates _ _ _).2 fault failed
    | ok out =>
      obtain ⟨_, _, _, unused⟩ := (decides _ _).1 ⟨out, failed⟩
      obtain ⟨p, member⟩ := List.exists_mem_of_length_pos (by rw [count]; decide : 0 < (w.market (someone 5)).pools.length)
      have taken := (unused p member).2
      rw [only p member] at taken
      exact absurd (by decide) taken
  · have accepted : (rivalTerms (someone 10)).Accepted := Market.checkTerms_eq_ok_iff.1 (by decide +kernel)
    have unused (p : Pool) (member : p ∈ (w.market (someone 5)).pools) :
        (rivalTerms (someone 10)).lendReceipt ∉ [p.lendReceipt, p.borrowReceipt] ∧
          (rivalTerms (someone 10)).borrowReceipt ∉ [p.lendReceipt, p.borrowReceipt] := by
      rw [only p member]
      decide
    obtain ⟨out, done⟩ := (decides (someone 8) (rivalTerms (someone 10))).2
      ⟨by decide, by decide +kernel, accepted, unused⟩
    obtain ⟨numbered, _⟩ := (creates _ _ _).1 out done
    rw [show (((marketTown.play townDeposits).market (someone 5)).pools).length = 1 from count] at numbered
    exact ⟨out, done, numbered⟩

end World

end TermLending
