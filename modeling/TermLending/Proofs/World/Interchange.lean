import TermLending.Proofs.World.Coverage
import TermLending.Proofs.World.Holdings

/-!
# Calls in either order

Two calls on a market are interchangeable if each is answered alike before and after the other, and both orders leave
the same world. Exits of different users are: nobody gains or loses by being first or last.
-/

namespace TermLending.World

variable {self a r : Address} {among : Address → Prop} {w w' w₁ v v' v₁ : World} {e e' : Errand} {p q : Pool}
  {t u : Transition} {T : Token} {terms : Terms} {out : Payout} {moves : List Move}

/-! ### What a call on a pool does to tokens -/

namespace Kindred

theorem receiptsIn (h : Kindred among w v) (r : Address) (n : Nat) (T : Token) :
    v.receiptsIn r n T = w.receiptsIn r n T := by
  unfold World.receiptsIn
  rw [h.token r]

theorem issuable (h : Kindred among w v) (r : Address) (n : Nat) : v.issuable r n = w.issuable r n := by
  unfold World.issuable
  rw [h.kind]

theorem released (h : Kindred among w v) (terms : Terms) (out : Payout) :
    v.released terms out = w.released terms out := by
  unfold World.released
  rw [h.issuable, h.issuable]

theorem outgoing (h : Kindred among w v) (terms : Terms) (out : Payout) (T : Token) :
    v.outgoing terms out T = w.outgoing terms out T := by
  unfold World.outgoing
  rw [h.receiptsIn, h.receiptsIn]

theorem incoming (h : Kindred among w v) (terms : Terms) (out : Payout) (T : Token) :
    v.incoming terms out T = w.incoming terms out T := by
  unfold World.incoming
  rw [h.receiptsIn, h.receiptsIn, h.issuable, h.issuable]

theorem touches (h : Kindred among w v) (home : Address) (terms : Terms) (out : Payout) (a : Address) (T : Token) :
    v.Touches home terms out a T ↔ w.Touches home terms out a T := by
  unfold Touches
  rw [h.token, h.token, h.issuable, h.issuable]

end Kindred

theorem TokensOnly.kindred (only : w.TokensOnly v) : Kindred (fun _ => False) w v :=
  ⟨only.kind, only.mayIssue, only.token_eq, only.minters_eq, nofun, nofun, nofun⟩

theorem Rearranged.kindred (h : Rearranged self w v) : Kindred (fun _ => False) w v :=
  let kin := TokensOnly.kindred h
  ⟨kin.kind, kin.mayIssue, kin.token, kin.minters, nofun, nofun, nofun⟩

namespace Served

theorem sameTerms (h : Served self e w p t w₁ w') : t.pool.toTerms = p.toTerms := (Pool.act_later h.accepted).terms

/-- The world in which the payout is carried out. -/
theorem stage (h : Served self e w p t w₁ w') :
    Kindred (fun _ => False) w (w₁.setMarket self ((w.market self).setPool e.id t.pool)) :=
  let kin := (transferAll_only h.paid).1.kindred
  ⟨kin.kind, kin.mayIssue, kin.token, kin.minters, nofun, nofun, nofun⟩

theorem balance (h : Served self e w p t w₁ w') (a : Address) (T : Token) :
    w'.balance a T + ((if a = e.caller then World.paid e.payments T else 0) +
        (if a = self then w.outgoing p.toTerms t.payout T else 0)) =
      w.balance a T + ((if a = self then World.paid e.payments T else 0) +
        (if a = t.payout.recipient then w.incoming p.toTerms t.payout T else 0)) := by
  have brought := transferAll_balance h.paid a T
  have moved := h.delivered.balance a T
  rw [h.sameTerms, h.stage.outgoing, h.stage.incoming] at moved
  change _ = w₁.balance a T + _ at moved
  omega

theorem supply (h : Served self e w p t w₁ w') (r : Address) :
    (w'.receipt r).supply + ((if r = p.lendReceipt then t.payout.burnLend else 0) +
        (if r = p.borrowReceipt then t.payout.burnBorrow else 0)) =
      (w.receipt r).supply + ((if r = p.lendReceipt then (w.released p.toTerms t.payout).mintLend else 0) +
        (if r = p.borrowReceipt then (w.released p.toTerms t.payout).mintBorrow else 0)) := by
  have delivered := h.delivered
  rw [h.sameTerms] at delivered
  exact acted_supply h.paid delivered r

theorem held (h : Served self e w p t w₁ w') (a : Address) (T : Token) : w'.hasHeld a T = true ↔
    w.hasHeld a T = true ∨ ((a = e.caller ∨ a = self) ∧ ∃ payment ∈ e.payments, T = payment.token) ∨
      w.Touches self p.toTerms t.payout a T := by
  rw [h.delivered.held, h.sameTerms, h.stage.touches]
  change w₁.hasHeld a T = true ∨ _ ↔ _
  rw [transferAll_held h.paid, or_assoc]

/-- Nobody forgets what he has held. -/
theorem grows (h : Served self e w p t w₁ w') (a : Address) (T : Token) (before : w.hasHeld a T = true) :
    w'.hasHeld a T = true :=
  (h.held a T).2 (.inl before)

end Served

/-! ### The same call in two worlds -/

/-- What became of the world `w` when it turned into `w'` is what became of `v` when it turned into `v'`. -/
structure Parallel (w w' v v' : World) : Prop where
  balance : ∀ a T, w'.balance a T + v.balance a T = w.balance a T + v'.balance a T
  supply : ∀ r, (w'.receipt r).supply + (v.receipt r).supply = (w.receipt r).supply + (v'.receipt r).supply
  held : ∀ a T, w'.hasHeld a T = true ∨ v.hasHeld a T = true ↔ w.hasHeld a T = true ∨ v'.hasHeld a T = true

theorem Parallel.still (w v : World) : Parallel w w v v := ⟨fun _ _ => rfl, fun _ => rfl, fun _ _ => Iff.rfl⟩

theorem Parallel.same (w w' : World) : Parallel w w' w w' :=
  ⟨fun _ _ => Nat.add_comm _ _, fun _ => Nat.add_comm _ _, fun _ _ => or_comm⟩

theorem Served.parallel (h : Served self e w p t w₁ w') (h' : Served self e v q u v₁ v') (kin : Kindred among w v)
    (terms : q.toTerms = p.toTerms) (payout : u.payout = t.payout) : Parallel w w' v v' := by
  have held := h'.held
  rw [terms, payout] at held
  simp only [kin.touches] at held
  refine ⟨?_, ?_, ?_⟩
  · intro a T
    have one := h.balance a T
    have two := h'.balance a T
    rw [terms, payout, kin.outgoing, kin.incoming] at two
    omega
  · intro r
    have one := h.supply r
    have two := h'.supply r
    rw [terms, payout, kin.released] at two
    omega
  · intro a T
    rw [h.held, held]
    exact or_right_comm.trans or_assoc

/-! ### One call before another -/

theorem Rearranged.scene (h : Rearranged self w v) (terms : q.toTerms = p.toTerms) (user : Address)
    (payments : List Payment) (id : Nat) : v.scene self user payments id q = w.scene self user payments id p := by
  rw [scene_of_only h]
  unfold World.scene
  have stored : (w.setMarket self { w.market self with pools := (v.market self).pools }).market self =
      { w.market self with pools := (v.market self).pools } := put_self _ _ _
  rw [stored, terms]
  rfl

theorem Rearranged.gate (h : Rearranged self w v) (gated : Bool) (user : Address) :
    v.gate gated (v.market self).registry user self = w.gate gated (w.market self).registry user self := by
  rw [gate_of_only h, h.market]
  rfl

/-- Pools of the same terms that answer an errand alike. -/
def Answers (w : World) (home : Address) (e : Errand) (p q : Pool) : Prop :=
  q.toTerms = p.toTerms ∧ Alike (fun _ => False) Transition.Corresponding
    (p.act (w.scene home e.caller e.payments e.id p) e.action)
    (q.act (w.scene home e.caller e.payments e.id p) e.action)

theorem transitionOf_alike (rearranged : Rearranged self w v) (kin : Kindred among w v)
    (payer : among e.caller ∨ e.payments = [])
    (pools : Alike (fun _ => False) (Answers w self e) ((w.market self).pool e.id) ((v.market self).pool e.id)) :
    Alike (fun _ => False) Transition.Corresponding (w.transitionOf self e) (v.transitionOf self e) := by
  have arrived : Alike (fun _ => False) _ (w.transferAll e.caller self e.payments)
      (v.transferAll e.caller self e.payments) :=
    kin.transferAll' payer self
  rcases arrived.ok_or_error with ⟨w₁, v₁, paid, paid', _⟩ | ⟨fault, failed, failed'⟩
  · rw [transitionOf_of_paid paid, transitionOf_of_paid paid']
    refine pools.bind fun p q ⟨terms, acts⟩ => ?_
    rw [rearranged.scene terms]
    exact acts
  · unfold transitionOf
    rw [failed, failed']
    exact .error fault

theorem Answers.refl (w : World) (home : Address) (e : Errand) (p : Pool) : Answers w home e p p :=
  ⟨rfl, Transition.alike_of_eq rfl⟩

/-- The requests of both errands do not disturb one another, should they meet at one pool. -/
def Compatible (w : World) (home : Address) (e e' : Errand) : Prop :=
  ∀ p, (w.market home).pool? e.id = some p → e.id = e'.id →
    p.Independent (w.scene home e.caller e.payments e.id p) e.action
      (w.scene home e'.caller e'.payments e'.id p) e'.action

theorem Compatible.symm (h : Compatible w self e e') : Compatible w self e' e := by
  intro p read same
  rw [same] at read
  exact (h p read same.symm).symm

theorem Served.pool? (h : Served self e w p t w₁ w') (i : Nat) :
    (w'.market self).pool? i = if i = e.id then some t.pool else (w.market self).pool? i := by
  rw [market_of_delivered h.delivered]
  exact Market.pool?_setPool h.read i

theorem Served.stored (h : Served self e w p t w₁ w') : (w'.market self).pool? e.id = some t.pool :=
  (h.pool? e.id).trans (if_pos rfl)

theorem Compatible.pools (h : Compatible w self e e') (there : Served self e' w q u v₁ v) :
    Alike (fun _ => False) (Answers w self e) ((w.market self).pool e.id) ((v.market self).pool e.id) := by
  have after := there.pool? e.id
  unfold Market.pool
  by_cases same : e.id = e'.id
  · have read := there.read
    rw [← same] at read
    rw [if_pos same] at after
    rw [read, after]
    have independent := h q read same
    exact .ok ⟨there.sameTerms, independent.first u there.accepted⟩
  · rw [if_neg same] at after
    rw [after]
    cases (w.market self).pool? e.id with
    | none => exact .error _
    | some p => exact .ok (.refl w self e p)

/-- Nothing about a call changes with another call before it. -/
structure Unmoved (home : Address) (among : Address → Prop) (w v : World) (e : Errand) : Prop where
  served : Alike (fun _ => False) (Concordant among) (w.serve home e) (v.serve home e)
  parallel : Parallel w (w.after (e.move home)) v (v.after (e.move home))

theorem unmoved_of_alike (orderly : Orderly self w) (orderly' : Orderly self v) (other : e.caller ≠ self)
    (rearranged : Rearranged self w v) (kin : Kindred among w v) (payer : among e.caller ∨ e.payments = [])
    (pools : Alike (fun _ => False) (Answers w self e) ((w.market self).pool e.id) ((v.market self).pool e.id)) :
    Unmoved self among w v e := by
  have acts := transitionOf_alike rearranged kin payer pools
  have served : Alike (fun _ => False) (Concordant among) (w.serve self e) (v.serve self e) := by
    have lenient : Lenient (fun fault => fault.isShortage = true) := fun _ => id
    apply serve_alike kin payer (rearranged.gate _ _) acts (.inr lenient)
    · exact fun _ _ => orderly.conclude other
    · exact fun _ _ => orderly'.conclude other
  refine ⟨served, ?_⟩
  rcases served.ok_or_error with ⟨o, o', done, done', _⟩ | ⟨fault, failed, failed'⟩
  · obtain ⟨p, t, w₁, here⟩ := served_of_serve done
    obtain ⟨p', t', v₂, here'⟩ := served_of_serve done'
    have after : w.after (e.move self) = o.world := after_call_ok done
    have after' : v.after (e.move self) = o'.world := after_call_ok done'
    rw [here.transitionOf, here'.transitionOf] at acts
    have corresponding := acts.of_ok
    rw [after, after']
    refine here.parallel here' kin ?_ corresponding.payout
    rw [← here.sameTerms, ← here'.sameTerms]
    exact corresponding.terms
  · have after : w.after (e.move self) = w := after_call_error failed
    have after' : v.after (e.move self) = v := after_call_error failed'
    rw [after, after']
    exact .still w v

theorem Unmoved.same (w : World) (e : Errand) : Unmoved self among w w e :=
  ⟨(Alike.of_eq rfl).mono fun o _ same => same ▸ .refl o, .same w (w.after (e.move self))⟩

theorem unmoved_after (orderly : Orderly self w) (orderly' : Orderly self (w.after (e'.move self)))
    (other : e.caller ≠ self) (kin : Kindred among w (w.after (e'.move self)))
    (payer : among e.caller ∨ e.payments = []) (compatible : Compatible w self e e') :
    Unmoved self among w (w.after (e'.move self)) e := by
  obtain ⟨o, served, after⟩ | ⟨_, after⟩ := after_move w self e'
  · obtain ⟨q, u, v₁, there⟩ := served_of_serve served
    rw [← after] at there
    exact unmoved_of_alike orderly orderly' other there.rearranged kin payer (compatible.pools there)
  · rw [after]
    exact .same w e

/-! ### Both orders -/

/--
Two calls in either order: each is answered alike, both orders end in the same world, and what accounts gain and lose
with one call does not depend on the other.
-/
structure Interchange (home : Address) (w : World) (e e' : Errand) : Prop where
  first : told ((w.after (e'.move home)).serve home e) = told (w.serve home e)
  second : told ((w.after (e.move home)).serve home e') = told (w.serve home e')
  meet : (w.after (e.move home)).after (e'.move home) = (w.after (e'.move home)).after (e.move home)
  balance : ∀ a T, ((w.after (e.move home)).after (e'.move home)).balance a T + w.balance a T =
    (w.after (e.move home)).balance a T + (w.after (e'.move home)).balance a T

theorem held_after_move (w : World) (self : Address) (e : Errand) (a : Address) (T : Token)
    (before : w.hasHeld a T = true) : (w.after (e.move self)).hasHeld a T = true := by
  obtain ⟨o, served, after⟩ | ⟨_, after⟩ := after_move w self e
  · obtain ⟨p, t, w₁, served⟩ := served_of_serve served
    rw [after]
    exact served.grows a T before
  · rw [after]
    exact before

/-- The pool of a call after another call, and what it makes of it. -/
theorem Served.next (there : Served self e' w q u v₁ v) (next : Served self e v p t w₁ w') :
    (if e.id = e'.id then some u.pool else (w.market self).pool? e.id) = some p ∧
      p.act (w.scene self e.caller e.payments e.id p) e.action = .ok t := by
  refine ⟨(there.pool? e.id).symm.trans next.read, ?_⟩
  have accepted := next.accepted
  rwa [there.rearranged.scene rfl] at accepted

theorem set_pools_meet {x x' y y' : Outcome} {p' q' : Pool} {t' u' : Transition} {a₁ a₂ b₁ b₂ : World}
    (compatible : Compatible w self e e')
    (here : Served self e w p t a₁ x.world) (there : Served self e' w q u b₁ y.world)
    (here' : Served self e y.world p' t' a₂ x'.world) (there' : Served self e' x.world q' u' b₂ y'.world) :
    (y'.world.market self).pools = (x'.world.market self).pools := by
  obtain ⟨found, accepted⟩ := there.next here'
  obtain ⟨found', accepted'⟩ := here.next there'
  rw [there'.pools, here.pools, here'.pools, there.pools]
  by_cases same : e.id = e'.id
  · rw [if_pos same] at found
    rw [if_pos same.symm] at found'
    cases found
    cases found'
    have read := there.read
    rw [← same] at read
    cases here.read.symm.trans read
    rw [(Rearranged.refl self w).scene there.sameTerms] at accepted
    rw [(Rearranged.refl self w).scene here.sameTerms] at accepted'
    have both := (compatible p here.read same).meet t u t' u' here.accepted there.accepted accepted accepted'
    rw [same, List.set_set, List.set_set, both]
  · rw [if_neg same, here.read] at found
    rw [if_neg (Ne.symm same), there.read] at found'
    cases found
    cases found'
    cases here.accepted.symm.trans accepted
    cases there.accepted.symm.trans accepted'
    have apart : e.id - 1 ≠ e'.id - 1 := by
      have one := Market.pos_of_pool? here.read
      have two := Market.pos_of_pool? there.read
      omega
    rw [List.set_comm _ _ apart]

theorem pools_meet {among' : Address → Prop} (compatible : Compatible w self e e')
    (first : Alike (fun _ => False) (Concordant among) (w.serve self e) ((w.after (e'.move self)).serve self e))
    (second : Alike (fun _ => False) (Concordant among') (w.serve self e') ((w.after (e.move self)).serve self e')) :
    (((w.after (e.move self)).after (e'.move self)).market self).pools =
      (((w.after (e'.move self)).after (e.move self)).market self).pools := by
  rcases first.ok_or_error with ⟨x, x', done, next, _⟩ | ⟨fault, failed, failed'⟩
  · rcases second.ok_or_error with ⟨y, y', done', next', _⟩ | ⟨fault, failed, failed'⟩
    · have after : w.after (e.move self) = x.world := after_call_ok done
      have after' : w.after (e'.move self) = y.world := after_call_ok done'
      rw [after'] at next ⊢
      rw [after] at next' ⊢
      have last : y.world.after (e.move self) = x'.world := after_call_ok next
      have last' : x.world.after (e'.move self) = y'.world := after_call_ok next'
      rw [last, last']
      obtain ⟨p, t, a₁, here⟩ := served_of_serve done
      obtain ⟨q, u, b₁, there⟩ := served_of_serve done'
      obtain ⟨p', t', a₂, here'⟩ := served_of_serve next
      obtain ⟨q', u', b₂, there'⟩ := served_of_serve next'
      exact set_pools_meet compatible here there here' there'
    · have after : w.after (e'.move self) = w := after_call_error failed
      have last : (w.after (e.move self)).after (e'.move self) = w.after (e.move self) := after_call_error failed'
      rw [after, last]
  · have after : w.after (e.move self) = w := after_call_error failed
    have last : (w.after (e'.move self)).after (e.move self) = w.after (e'.move self) := after_call_error failed'
    rw [after, last]

theorem interchange_of_unmoved {among' : Address → Prop} (compatible : Compatible w self e e')
    (first : Unmoved self among w (w.after (e'.move self)) e)
    (second : Unmoved self among' w (w.after (e.move self)) e') : Interchange self w e e' := by
  have one := first.parallel
  have two := second.parallel
  refine ⟨told_of_alike first.served, told_of_alike second.served, ?_, ?_⟩
  · have left := (after_rearranged w self e).trans (after_rearranged _ self e')
    have right := (after_rearranged w self e').trans (after_rearranged _ self e)
    refine left.ext right ?_ ?_ ?_ (pools_meet compatible first.served second.served)
    · funext a T
      have here := one.balance a T
      have there := two.balance a T
      omega
    · funext a T
      have here := one.held a T
      have there := two.held a T
      have start := held_after_move w self e a T
      have start' := held_after_move w self e' a T
      have keeps := held_after_move (w.after (e.move self)) self e' a T
      have keeps' := held_after_move (w.after (e'.move self)) self e a T
      rw [Bool.eq_iff_iff]
      grind
    · intro r
      have here := one.supply r
      have there := two.supply r
      omega
  · intro a T
    have there := two.balance a T
    omega

/-! ### Exits of different users -/

/-- An account outside of a market: neither the market nor one of its receipt contracts, none of which makes calls. -/
structure Outside (home : Address) (w : World) (a : Address) : Prop where
  other : a ≠ home
  unbound : a ∉ (w.market home).receipts

theorem Served.elsewhere (h : Served self e w p t w₁ w') (books : (w.market self).Books) (outside : Outside self w a)
    (caller : a ≠ e.caller) (recipient : a ≠ t.payout.recipient) :
    w'.balance a = w.balance a ∧ w'.hasHeld a = w.hasHeld a ∧ (w'.receipt a).supply = (w.receipt a).supply := by
  have away : a ∉ p.contracts := fun serves =>
    outside.unbound (books.mem_of_contract (Market.mem_of_pool? h.read) serves)
  rw [Market.mem_contracts_iff, not_or] at away
  obtain ⟨lend, borrow⟩ := away
  refine ⟨?_, ?_, ?_⟩
  · funext T
    have moved := h.balance a T
    rwa [if_neg caller, if_neg outside.other, if_neg outside.other, if_neg recipient] at moved
  · funext T
    rw [Bool.eq_iff_iff, h.held a T]
    refine or_iff_left ?_
    rintro (⟨here | here, _⟩ | touches)
    · exact caller here
    · exact outside.other here
    · rcases touches.who with here | here | here | here
      · exact outside.other here
      · exact recipient here
      · exact lend here
      · exact borrow here
  · have moved := h.supply a
    rwa [if_neg lend, if_neg borrow, if_neg lend, if_neg borrow] at moved

/-- The exit of one user is none of another's business. -/
theorem kindred_after_exit (books : (w.market self).Books) (exit : e.action.isExit = true) (outside : Outside self w a)
    (caller : a ≠ e.caller) : Kindred (· = a) w (w.after (e.move self)) := by
  have rearranged := (after_rearranged w self e).kindred
  suffices same : (w.after (e.move self)).balance a = w.balance a ∧ (w.after (e.move self)).hasHeld a = w.hasHeld a ∧
      ((w.after (e.move self)).receipt a).supply = (w.receipt a).supply by
    obtain ⟨balance, held, supply⟩ := same
    refine ⟨rearranged.kind, rearranged.mayIssue, rearranged.token, rearranged.minters, ?_, ?_, ?_⟩ <;>
      · rintro _ rfl
        assumption
  obtain ⟨o, served, after⟩ | ⟨_, after⟩ := after_move w self e
  · obtain ⟨p, t, w₁, served⟩ := served_of_serve served
    rw [after]
    apply served.elsewhere books outside caller
    rw [Pool.act_recipient (Pool.Action.ungated_of_exit exit) served.accepted]
    exact caller
  · rw [after]
    exact ⟨rfl, rfl, rfl⟩

/--
Exits of different users, on the same pool or on different ones, are interchangeable wherever the run of a market has
led. The receipts need only be reserved for the market.
-/
theorem exits_are_interchangeable (launched : Launched self w) (foreign : Foreign self moves)
    (reserved : AllReserved self w moves) (exit : e.action.isExit = true) (exit' : e'.action.isExit = true)
    (apart : e.caller ≠ e'.caller) (outside : Outside self (w.play moves) e.caller)
    (outside' : Outside self (w.play moves) e'.caller) : Interchange self (w.play moves) e e' := by
  have books := (play_books (launched_market launched).1 (launched_books launched) foreign).2
  have reached : Reached self (w.play moves) := ⟨w, moves, launched, foreign, reserved, rfl⟩
  have left := (reached.after outside.other).orderly
  have right := (reached.after outside'.other).orderly
  have compatible : Compatible (w.play moves) self e e' := fun p _ _ => Pool.exits_independent exit exit' apart p
  have kin := kindred_after_exit books exit' outside apart
  have kin' := kindred_after_exit books exit outside' apart.symm
  apply interchange_of_unmoved compatible
  · exact unmoved_after reached.orderly right outside.other kin (.inl rfl) compatible
  · exact unmoved_after reached.orderly left outside'.other kin' (.inl rfl) compatible.symm

/-- The lender and the borrower of the town may leave in either order. -/
theorem town_leaves_in_any_order :
    Interchange (someone 5) (marketTown.play townLoan) ⟨someone 6, 1, .withdrawLend, [⟨coin 0x33, 30⟩]⟩
        ⟨someone 7, 1, .withdrawBorrow, [⟨coin 0x34, 120⟩]⟩ ∧
      ((marketTown.play townLoan).serve (someone 5) ⟨someone 6, 1, .withdrawLend, [⟨coin 0x33, 30⟩]⟩).isOk = true ∧
      ((marketTown.play townLoan).serve (someone 5)
        ⟨someone 7, 1, .withdrawBorrow, [⟨coin 0x34, 120⟩]⟩).isOk = true := by
  have reserved : AllReserved (someone 5) marketTown townLoan := town_reserved (by decide) (by decide +kernel)
  refine ⟨?_, by decide +kernel, by decide +kernel⟩
  exact exits_are_interchangeable marketTown_launched townLoan_foreign reserved rfl rfl (by decide)
    ⟨by decide, by decide +kernel⟩ ⟨by decide, by decide +kernel⟩

end TermLending.World
