import TermLending.Proofs.World.Histories
import TermLending.Proofs.World.Solvency

/-!
# What users have been paid

Whoever acts in whatever order, the journal of a market shows for each entitlement of a user the whole amount or
nothing. A pool pays out of one ending alone.
-/

namespace TermLending.World

open Pool

variable {self user : Address} {w w' : World} {m : Move} {moves : List Move} {J : List Entry} {e : Entry} {id : Nat}
  {p q : Pool} {s : Scene} {t : Transition} {terms : Terms} {action : Pool.Action} {phase : Phase}

/-! ### The journal is complete -/

theorem issuable_issuable (w : World) (r : Address) (n : Nat) : w.issuable r (w.issuable r n) = w.issuable r n := by
  rcases issuable_cases w r n with none | all
  · rw [none, issuable_zero]
  · rw [all, all]

/--
A move changes balances by the payments that come with it and by what its entry lists. Without an entry nothing leaves
the market.
-/
structure Accounted (home : Address) (w : World) (m : Move) : Prop where
  listed : ∀ e, w.entry? home m = some e →
    ∃ asked p, errand? home m = some asked ∧ (w.market home).pool? e.id = some p ∧
      ∀ a ≠ home, ∀ T, (w.after m).balance a T + (if a = asked.caller then paid asked.payments T else 0) =
        w.balance a T + (if a = e.payout.recipient then w.incoming p.toTerms e.payout T else 0)
  silent : w.entry? home m = none → ∀ T, w.balance home T ≤ (w.after m).balance home T

theorem entry_pays (market : w.kind self = some .market) (other : m.sender ≠ some self)
    (entry : w.entry? self m = some e) :
    ∃ asked p, errand? self m = some asked ∧ (w.market self).pool? e.id = some p ∧
      ∀ a ≠ self, ∀ T, (w.after m).balance a T + (if a = asked.caller then paid asked.payments T else 0) =
        w.balance a T + (if a = e.payout.recipient then w.incoming p.toTerms e.payout T else 0) := by
  cases turn_of_move market other with
  | acted x p t w₁ other paid read accepted delivered made asked =>
    rw [made] at entry
    cases entry
    refine ⟨x, p, asked, read, ?_⟩
    intro a away T
    have terms := (act_later accepted).terms
    have only := (transferAll_only paid).1
    have brought := transferAll_balance paid a T
    have received := delivered.balance a T
    rw [if_neg away, Nat.add_zero] at brought received
    have same : w.incoming p.toTerms (w.released p.toTerms t.payout) T =
        (w₁.setMarket self ((w.market self).setPool x.id t.pool)).incoming p.toTerms t.payout T := by
      have tokens (r : Address) (n : Nat) : w₁.receiptsIn r n T = w.receiptsIn r n T := by
        unfold receiptsIn
        rw [only.token_eq]
      have issued (r : Address) (n : Nat) : w₁.issuable r n = w.issuable r n := by
        unfold issuable
        rw [only.kind]
      show _ = w₁.incoming p.toTerms t.payout T
      simp only [incoming, released, issuable_issuable, tokens, issued]
    rw [terms] at received
    rw [terms, same, received]
    show w₁.balance a T + _ + _ = _ + (if a = t.payout.recipient then _ else _)
    omega
  | created caller payments w₁ terms market' n event other paid created after silent =>
    rw [silent] at entry
    cases entry
  | aside aside silent =>
    rw [silent] at entry
    cases entry

theorem silent_keeps (market : w.kind self = some .market) (other : m.sender ≠ some self)
    (none : w.entry? self m = none) (T : Token) : w.balance self T ≤ (w.after m).balance self T := by
  cases turn_of_move market other with
  | acted x p t w₁ other paid read accepted delivered made asked =>
    rw [made] at none
    cases none
  | created caller payments w₁ terms market' n event other paid created after silent =>
    rw [after]
    exact (transferAll_aside other paid).balance T
  | aside aside silent => exact aside.balance T

theorem play_accounted {earlier later : List Move} (launched : Launched self w)
    (foreign : Foreign self (earlier ++ m :: later)) : Accounted self (w.play earlier) m := by
  have market := (play_books (launched_market launched).1 (launched_books launched) foreign.earlier).1
  have other := foreign.later m List.mem_cons_self
  constructor
  · intro e entry
    exact entry_pays market other entry
  · intro none T
    exact silent_keeps market other none T

/-! ### Chronicles -/

theorem phase_of_ending (accepted : p.act s action = .ok t) (ends : ending action = some phase) :
    t.pool.phase = phase := by
  cases act_effect accepted with
  | withdrawLend finished | withdrawBorrow finished =>
    cases ends
    exact finished
  | recoverLend liquidated | recoverBorrow liquidated =>
    cases ends
    exact liquidated
  | _ => cases ends

theorem terminal_of_ending (ends : ending action = some phase) : phase.isTerminal = true := by
  cases action with
  | withdrawLend | withdrawBorrow | recoverLend | recoverBorrow =>
    cases ends
    rfl
  | _ => cases ends

theorem Chronicle.act (h : Chronicle J id p) (shape : p.Shape) (accepted : p.act s action = .ok t) (w : World) :
    Chronicle (J ++ [w.entryOf id action t]) id t.pool := by
  obtain ⟨lend, borrow⟩ := act_history h shape accepted w
  refine ⟨lend, borrow, ?_⟩
  intro e member here phase ends
  rcases List.mem_append.1 member with before | now
  · have ended := h.ended e before here phase ends
    rw [← ended] at ends ⊢
    exact ((act_later accepted).ended (terminal_of_ending ends)).1
  · rw [List.mem_singleton] at now
    subst now
    exact phase_of_ending accepted ends

theorem Chronicle.other (h : Chronicle J id p) (shape : p.Shape) (other : e.id ≠ id) : Chronicle (J ++ [e]) id p where
  lend u := (h.lend u).aside shape (.refl p) ⟨rfl, rfl, rfl⟩ fun concerns => absurd concerns.1 other
  borrow u := (h.borrow u).aside shape (.refl p) ⟨rfl, rfl⟩ fun concerns => absurd concerns.1 other
  ended := by
    intro e' member here
    rcases List.mem_append.1 member with before | now
    · exact h.ended e' before here
    · rw [List.mem_singleton] at now
      subst now
      exact absurd here other

theorem total_eq_zero {amount : Pool.Action → Payout → Nat} (silent : ∀ e ∈ J, e.id ≠ id) :
    total J id user amount = 0 := by
  unfold total
  apply List.sum_eq_zero
  intro n member
  obtain ⟨e, recorded, rfl⟩ := List.mem_map.1 member
  exact if_neg fun concerns => silent e recorded concerns.1

theorem Chronicle.new (silent : ∀ e ∈ J, e.id ≠ id) (terms : Terms) : Chronicle J id { toTerms := terms } := by
  refine ⟨fun u => ⟨?_, ?_⟩, fun u => ?_, ?_⟩
  · rw [total_eq_zero silent, total_eq_zero silent, total_eq_zero silent]
    exact ⟨rfl, .inl rfl, rfl⟩
  · rintro ⟨e, member, concerns, _⟩
    exact absurd concerns.1 (silent e member)
  · unfold BorrowHistory
    rw [total_eq_zero silent, total_eq_zero silent, total_eq_zero silent]
    exact ⟨rfl, .inl rfl, rfl⟩
  · intro e member here
    exact absurd here (silent e member)

/-! ### The journal of a market -/

structure Recorded (home : Address) (J : List Entry) (w : World) : Prop where
  market : w.kind home = some .market
  books : (w.market home).Books
  known : ∀ e ∈ J, ∃ p, (w.market home).pool? e.id = some p
  pools : ∀ id p, (w.market home).pool? id = some p → Chronicle J id p

theorem Recorded.of_launched (launched : Launched self w) : Recorded self [] w := by
  obtain ⟨market, empty, _⟩ := launched_market launched
  refine ⟨market, launched_books launched, nofun, ?_⟩
  intro id p read
  have member := Market.mem_of_pool? read
  rw [empty] at member
  cases member

theorem Recorded.still_known (h : Recorded self J w) (turn : Turn self w m w') :
    ∀ e ∈ J, ∃ p, (w'.market self).pool? e.id = some p := by
  intro e member
  obtain ⟨p, read⟩ := h.known e member
  obtain ⟨p', read', _⟩ := turn.later read
  exact ⟨p', read'⟩

theorem Recorded.acted (h : Recorded self J w) (read : (w.market self).pool? id = some p)
    (accepted : p.act s action = .ok t) :
    ∀ i q, ((w.market self).setPool id t.pool).pool? i = some q → Chronicle (J ++ [w.entryOf id action t]) i q := by
  intro i q found
  rw [Market.pool?_setPool read] at found
  split at found
  · next here =>
    cases found
    subst here
    exact (h.pools i p read).act (h.books.shape p (Market.mem_of_pool? read)) accepted w
  · next other =>
    exact (h.pools i q found).other (h.books.shape q (Market.mem_of_pool? found)) (Ne.symm other)

theorem Recorded.turn (h : Recorded self J w) (turn : Turn self w m w') :
    Recorded self (J ++ (w.entry? self m).toList) w' := by
  have market := (turn.kind (by simp [h.market])).trans h.market
  have books := turn.books h.books
  have known := h.still_known turn
  cases turn with
  | acted x p t w₁ other paid read accepted delivered entry =>
    have stored := market_of_delivered delivered
    rw [entry]
    refine ⟨market, books, ?_, ?_⟩
    · intro e member
      rcases List.mem_append.1 member with before | now
      · exact known e before
      · cases List.mem_singleton.1 now
        rw [stored, Market.pool?_setPool read]
        exact ⟨t.pool, if_pos rfl⟩
    · rw [stored]
      exact h.acted read accepted
  | created caller payments w₁ terms market' n event other paid created after silent =>
    subst after
    have stored : (w₁.setMarket self market').market self = market' := put_self _ _ _
    rw [silent, Option.toList_none, List.append_nil]
    refine ⟨market, books, known, ?_⟩
    rw [stored]
    intro i q found
    obtain ⟨_, _, _, _, rfl⟩ := Market.create_eq_ok created
    rcases Market.pool?_append_cases rfl found with old | ⟨free, rfl⟩
    · exact h.pools i q old
    · apply Chronicle.new
      rintro e member rfl
      obtain ⟨p, read⟩ := h.known e member
      rw [read] at free
      cases free
  | aside aside silent =>
    rw [silent, Option.toList_none, List.append_nil]
    refine ⟨market, books, known, ?_⟩
    intro i q found
    apply h.pools i q
    cases i with
    | zero => exact found
    | succ k => exact (congrArg (·[k]?) aside.pools.symm).trans found

theorem play_recorded (h : Recorded self J w) (foreign : Foreign self moves) :
    Recorded self (J ++ w.journal self moves) (w.play moves) := by
  induction moves generalizing w J with
  | nil =>
    show Recorded self (J ++ []) w
    rw [List.append_nil]
    exact h
  | cons m rest ih =>
    have others := foreign m List.mem_cons_self
    have one := h.turn (turn_of_move h.market others)
    have all := ih one fun m' member => foreign m' (List.mem_cons_of_mem m member)
    rw [List.append_assoc] at all
    exact all

/-! ### The whole or nothing -/

/-- A settled pool has paid a share as a whole, if it has paid any of it. -/
def WholeOrNothing (p : Pool) (paid share : Nat) : Prop := paid = 0 ∨ p.phase.isSettled = true ∧ paid = share

theorem WholeOrNothing.of_flag {flag : Bool} {n share : Nat} (settled : flag = true → p.phase.isSettled = true)
    (told : n = if flag then share else 0) : WholeOrNothing p n share := by
  cases flag with
  | false => exact .inl told
  | true => exact .inr ⟨settled rfl, told⟩

theorem LendHistory.whole (h : LendHistory J id p user) (shape : p.Shape) :
    WholeOrNothing p (total J id user refunds) (p.unmatchedOf (p.lendPosition user).stake) ∧
      WholeOrNothing p (total J id user lendReceipts) (p.matchedOf (p.lendPosition user).stake) ∧
      WholeOrNothing p (total J id user lendRecoveries) (p.lendRecoveryOf (p.lendPosition user).stake) := by
  have settled (flag : (p.lendPosition user).refunded = true ∨ (p.lendPosition user).claimed = true ∨
      (p.lendPosition user).recovered = true) : p.phase.isSettled = true := by
    by_contra unsettled
    rw [(shape.lend user).fresh (matching_of_not_settled unsettled)] at flag
    simp at flag
  refine ⟨.of_flag (fun done => settled (.inl done)) h.told.refunded, ?_,
    .of_flag (fun done => settled (.inr (.inr done))) h.told.recovered⟩
  rcases h.told.received with none | ⟨claimed, all⟩
  · exact .inl none
  · exact .inr ⟨settled (.inr (.inl claimed)), all⟩

theorem BorrowHistory.whole (h : BorrowHistory J id p user) (shape : p.Shape) :
    WholeOrNothing p (total J id user loans) (p.drawnOf (p.borrowPosition user).pledge) ∧
      WholeOrNothing p (total J id user borrowReceipts) (p.borrowPosition user).pledge ∧
      WholeOrNothing p (total J id user borrowRecoveries) (p.borrowRecoveryOf (p.borrowPosition user).pledge) := by
  have settled (flag : (p.borrowPosition user).claimed = true ∨ (p.borrowPosition user).recovered = true) :
      p.phase.isSettled = true := by
    by_contra unsettled
    rw [(shape.borrow user).fresh (matching_of_not_settled unsettled)] at flag
    simp at flag
  refine ⟨.of_flag (fun done => settled (.inl done)) h.drawn, ?_, .of_flag (fun done => settled (.inr done)) h.recovered⟩
  rcases h.received with none | ⟨claimed, all⟩
  · exact .inl none
  · exact .inr ⟨settled (.inl claimed), all⟩

/--
Of each share a user has been paid nothing or the whole, a claim settles the refund, no pool pays out of both endings,
what the shares are counted from has not changed since the pool was settled, and the journal that says so tells all
that was paid.
-/
theorem nobody_is_paid_twice (launched : Launched self w) (foreign : Foreign self moves)
    (read : ((w.play moves).market self).pool? id = some p) (user : Address) :
    let J := w.journal self moves
    let stake := (p.lendPosition user).stake
    let pledge := (p.borrowPosition user).pledge
    WholeOrNothing p (total J id user refunds) (p.unmatchedOf stake) ∧
      (Claimed J id user → total J id user refunds = p.unmatchedOf stake) ∧
      WholeOrNothing p (total J id user lendReceipts) (p.matchedOf stake) ∧
      WholeOrNothing p (total J id user loans) (p.drawnOf pledge) ∧
      WholeOrNothing p (total J id user borrowReceipts) pledge ∧
      WholeOrNothing p (total J id user lendRecoveries) (p.lendRecoveryOf stake) ∧
      WholeOrNothing p (total J id user borrowRecoveries) (p.borrowRecoveryOf pledge) ∧
      (∀ e ∈ J, ∀ e' ∈ J, e.id = id → e'.id = id → ending e.action = some .liquidated →
        ending e'.action ≠ some .finished) ∧
      (∀ earlier later p₀, moves = earlier ++ later → ((w.play earlier).market self).pool? id = some p₀ → p₀.Later p) ∧
      ∀ earlier m later, moves = earlier ++ m :: later → Accounted self (w.play earlier) m := by
  intro J stake pledge
  have recorded := play_recorded (.of_launched launched) foreign
  have chronicle := recorded.pools id p read
  have shape := recorded.books.shape p (Market.mem_of_pool? read)
  obtain ⟨refunded, received, recovered⟩ := (chronicle.lend user).whole shape
  obtain ⟨drawn, issued, recovered'⟩ := (chronicle.borrow user).whole shape
  refine ⟨refunded, ?_, received, drawn, issued, recovered, recovered', ?_, ?_, ?_⟩
  · intro claims
    have done := (shape.lend user).refunded ((chronicle.lend user).claimed claims)
    have told := (chronicle.lend user).told.refunded
    rw [if_pos done] at told
    exact told
  · intro e member e' member' here here' liquidated finished
    have one := chronicle.ended e member here .liquidated liquidated
    have other := chronicle.ended e' member' here' .finished finished
    rw [one] at other
    cases other
  · rintro earlier later p₀ rfl read₀
    have market := (play_books (launched_market launched).1 (launched_books launched) foreign.earlier).1
    obtain ⟨p', read', lasting⟩ := play_later market foreign.later read₀
    rw [play_append, read'] at read
    cases read
    exact lasting
  · rintro earlier m later rfl
    exact play_accounted launched foreign

/-- The lender of the town got back the ten that were not matched, once. -/
theorem town_pays_once :
    total (marketTown.journal (someone 5) townLoan) 1 (someone 6) refunds = 10 ∧
      ∃ p, ((marketTown.play townLoan).market (someone 5)).pool? 1 = some p ∧
        WholeOrNothing p 10 (p.unmatchedOf (p.lendPosition (someone 6)).stake) := by
  have paid : total (marketTown.journal (someone 5) townLoan) 1 (someone 6) refunds = 10 := by decide +kernel
  refine ⟨paid, ?_⟩
  have there : (((marketTown.play townLoan).market (someone 5)).pool? 1).isSome = true := by decide +kernel
  obtain ⟨p, read⟩ := Option.isSome_iff_exists.1 there
  have whole := (nobody_is_paid_twice marketTown_launched townLoan_foreign read (someone 6)).1
  rw [paid] at whole
  exact ⟨p, read, whole⟩

end TermLending.World
