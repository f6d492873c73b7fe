import TermLending.Proofs.Pool.Delay
import TermLending.Proofs.World.Interchange
import TermLending.Proofs.World.Liquidation

/-!
# Claims before and after the end of a pool

Nobody needs to hurry with a claim. Whether it is made before its pool has ended or after makes no difference, except
that a liquidated pool creates no receipts, and the way out of it needs none.
-/

namespace TermLending.World

variable {self user closer r : Address} {w w' w₁ v v' : World} {p q : Pool} {t t' u : Transition} {T : Token}
  {terms : Terms} {moves : List Move} {id settle n : Nat} {side : Side} {action : Pool.Action} {e c l : Errand}

/-! ### Carrying out a claim -/

theorem deliver_claim (covered : settle ≤ w.balance self terms.settleToken)
    (able : n = 0 ∨ Ready self (side.contract terms) T w ∧ user ≠ .zero) :
    ∃ w' log, w.deliver self terms (side.payout user settle n) = .ok (w', log) := by
  obtain ⟨w₁, sent⟩ : ∃ w₁, w.send self user terms.settleToken settle = .ok w₁ := send_succeeds covered
  obtain ⟨w₂, log, issued⟩ : ∃ w₂ log, w₁.issueReceipts self (side.contract terms) user n = .ok (w₂, log) := by
    rcases able with none | ⟨ready, somebody⟩
    · exact ⟨w₁, [], if_pos none⟩
    · exact issueReceipts_succeeds (ready.of_only (send_only sent).1) somebody n
  have unburned (r : Address) : w.returnReceipts self r user 0 = .ok (w, []) := if_pos rfl
  have unminted (v : World) (r : Address) : v.issueReceipts self r user 0 = .ok (v, []) := if_pos rfl
  have nothing : w₂.send self user terms.pledgeToken 0 = .ok w₂ := if_pos rfl
  refine ⟨w₂, log, ?_⟩
  unfold deliver
  cases side with
  | lenders =>
    change w₁.issueReceipts self terms.lendReceipt user n = _ at issued
    simp only [Side.payout, unburned, sent, issued, unminted, nothing, bind, Except.bind, pure, Except.pure,
      List.append_nil, List.nil_append]
  | borrowers =>
    change w₁.issueReceipts self terms.borrowReceipt user n = _ at issued
    simp only [Side.payout, unburned, sent, issued, unminted, nothing, bind, Except.bind, pure, Except.pure,
      List.append_nil, List.nil_append]

theorem outgoing_claim (w : World) (terms : Terms) (side : Side) (user : Address) (settle n : Nat) (T : Token) :
    w.outgoing terms (side.payout user settle n) T = if T = terms.settleToken then settle else 0 := by
  cases side <;> simp [outgoing, receiptsIn, Side.payout]

/-- A claim that a pool accepts is carried out if its receipts can be created. -/
theorem conclude_claim (orderly : Orderly self w) (other : user ≠ self) (read : (w.market self).pool? id = some p)
    (accepted : p.act (w.scene self user [] id p) action = .ok t) (payout : t.payout = side.payout user settle n)
    (able : n = 0 ∨ Ready self (side.contract p.toTerms) T w ∧ user ≠ .zero) : ∃ o, w.conclude self id t = .ok o := by
  obtain ⟨kept, circulation⟩ := orderly.circulation
  have member := Market.mem_of_pool? read
  obtain ⟨L, B, counted⟩ := orderly.counted p member
  have covered := outgoing_covered circulation orderly.solvent member counted other rfl accepted p.settleToken
  rw [payout, outgoing_claim, if_pos rfl] at covered
  have able' : n = 0 ∨ Ready self (side.contract p.toTerms) T
      (w.setMarket self ((w.market self).setPool id t.pool)) ∧ user ≠ .zero :=
    able.imp_right fun ⟨ready, somebody⟩ =>
      ⟨⟨ready.kind, ready.issued, ready.role, ready.minter, ready.notCoin⟩, somebody⟩
  obtain ⟨w', log, delivered⟩ : ∃ w' log, (w.setMarket self ((w.market self).setPool id t.pool)).deliver self
      p.toTerms (side.payout user settle n) = .ok (w', log) := deliver_claim covered able'
  rw [← payout, ← (Pool.act_later accepted).terms] at delivered
  exact ⟨_, bind_eq_ok_iff.2 ⟨(w', log), delivered, rfl⟩⟩

/-- A call without payments and without a gate. -/
theorem serve_bare (ungated : action.isGated = false) : w.serve self ⟨user, id, action, []⟩ =
    w.accept ⟨user, self, []⟩ (.market (.onPool id action)) >>= fun _ =>
      (w.market self).pool id >>= fun p => p.act (w.scene self user [] id p) action >>= fun t =>
        w.conclude self id t := by
  show (w.accept _ _ >>= fun _ => w.actOnPool _ id action) = _
  unfold actOnPool gate
  rw [ungated]
  rfl

theorem served_bare {o : Outcome} (read : (w.market self).pool? id = some p)
    (accepted : p.act (w.scene self user [] id p) action = .ok t) (concluded : w.conclude self id t = .ok o) :
    Served self ⟨user, id, action, []⟩ w p t w o.world :=
  ⟨rfl, read, accepted, delivered_of_conclude concluded⟩

/-- A claim before the pool is liquidated, and after: refused for the same reason, or granted but for the receipts. -/
theorem claims_alike (orderly : Orderly self w) (orderly' : Orderly self v) (other : user ≠ self)
    (somebody : user ≠ .zero) (ready : Ready self (side.contract p.toTerms) T w)
    (closed : Served self ⟨closer, id, .liquidate, []⟩ w p u w₁ v) :
    Alike (fun _ => False)
      (fun o o' => ∃ t t' settle n, Served self ⟨user, id, side.claim, []⟩ w p t w o.world ∧
        Served self ⟨user, id, side.claim, []⟩ v u.pool t' v o'.world ∧
        Pool.Late side u.pool.toAmounts user settle n t t')
      (w.serve self ⟨user, id, side.claim, []⟩) (v.serve self ⟨user, id, side.claim, []⟩) := by
  have ungated := Pool.Action.ungated_of_exit (Pool.Action.exit_of_claim side.isClaim_claim)
  have read : (w.market self).pool id = .ok p := Market.pool_eq_ok_iff.2 closed.read
  have found : (v.market self).pool? id = some u.pool := closed.stored
  have read' : (v.market self).pool id = .ok u.pool := Market.pool_eq_ok_iff.2 found
  have accepts : v.accept ⟨user, self, []⟩ (.market (.onPool id side.claim)) =
      w.accept ⟨user, self, []⟩ (.market (.onPool id side.claim)) :=
    closed.rearranged.kindred.accept user id side.claim []
  have scene : v.scene self user [] id u.pool = w.scene self user [] id p :=
    closed.rearranged.scene closed.sameTerms user [] id
  obtain ⟨running, amounts, final, ends⟩ := Pool.liquidate_ends closed.accepted
  have answers := Pool.claim_late running final side (w.scene self user [] id p)
  rw [← ends] at answers
  rw [serve_bare ungated, serve_bare ungated, accepts]
  refine (Alike.of_eq rfl).bind fun _ _ _ => ?_
  rw [read, read']
  show Alike _ _ (p.act _ _ >>= _) (u.pool.act _ _ >>= _)
  rw [scene]
  refine answers.bind_of_ok ?_
  rintro t t' accepted accepted' ⟨settle, n, late⟩
  obtain ⟨o, concluded⟩ := conclude_claim orderly other closed.read accepted late.payout (.inr ⟨ready, somebody⟩)
  rw [← scene] at accepted'
  obtain ⟨o', concluded'⟩ := conclude_claim (T := T) orderly' other found accepted' late.late (.inl rfl)
  rw [concluded, concluded']
  have amounts' : u.pool.toAmounts = amounts := by rw [ends]; rfl
  rw [amounts']
  exact .ok ⟨t, t', settle, n, served_bare closed.read accepted concluded, served_bare found accepted' concluded', late⟩

/-! ### What a claim changes -/

/-- A claim pays `settle` to `user`, and creates `n` receipts. -/
structure Collected (home : Address) (side : Side) (terms : Terms) (user : Address) (T : Token) (settle n : Nat)
    (w w' : World) : Prop where
  balance : ∀ a T', w'.balance a T' + (if a = home ∧ T' = terms.settleToken then settle else 0) =
    w.balance a T' + (if a = user ∧ T' = terms.settleToken then settle else 0) + (if a = user ∧ T' = T then n else 0)
  supply : ∀ r, (w'.receipt r).supply = (w.receipt r).supply + if r = side.contract terms then n else 0
  held : ∀ a T', T' ≠ T → (w'.hasHeld a T' = true ↔
    w.hasHeld a T' = true ∨ 0 < settle ∧ (a = home ∨ a = user) ∧ T' = terms.settleToken)

theorem incoming_claim (kind : w.kind (side.contract terms) = some .receipt)
    (issued : (w.receipt (side.contract terms)).token = some T) (user : Address) (settle n : Nat) (T' : Token) :
    w.incoming terms (side.payout user settle n) T' =
      (if T' = terms.settleToken then settle else 0) + if T' = T then n else 0 := by
  cases side with
  | lenders =>
    change w.kind terms.lendReceipt = _ at kind
    change (w.receipt terms.lendReceipt).token = _ at issued
    simp [incoming, receiptsIn, issuable, Side.payout, kind, issued, eq_comm]
  | borrowers =>
    change w.kind terms.borrowReceipt = _ at kind
    change (w.receipt terms.borrowReceipt).token = _ at issued
    simp [incoming, receiptsIn, issuable, Side.payout, kind, issued, eq_comm]

theorem Served.collected (h : Served self ⟨user, id, action, []⟩ w p t w₁ w')
    (payout : t.payout = side.payout user settle n) (kind : w.kind (side.contract p.toTerms) = some .receipt)
    (issued : (w.receipt (side.contract p.toTerms)).token = some T) :
    Collected self side p.toTerms user T settle n w w' := by
  refine ⟨?_, ?_, ?_⟩
  · intro a T'
    have moved := h.balance a T'
    rw [payout, outgoing_claim, incoming_claim kind issued] at moved
    have recipient : (side.payout user settle n).recipient = user := by cases side <;> rfl
    have nothing : World.paid [] T' = 0 := rfl
    rw [recipient, nothing] at moved
    simp only [ite_self, ite_and, Nat.zero_add] at moved ⊢
    by_cases here : a = user
    · rw [if_pos here] at moved
      rw [if_pos here, if_pos here]
      omega
    · rw [if_neg here] at moved
      rw [if_neg here, if_neg here]
      omega
  · intro r
    have moved := h.supply r
    rw [payout] at moved
    cases side with
    | lenders =>
      change w.kind p.lendReceipt = _ at kind
      show _ = _ + if r = p.lendReceipt then n else 0
      simpa [Side.payout, released, issuable, kind] using moved
    | borrowers =>
      change w.kind p.borrowReceipt = _ at kind
      show _ = _ + if r = p.borrowReceipt then n else 0
      simpa [Side.payout, released, issuable, kind] using moved
  · intro a T' apart
    rw [h.held, payout]
    cases side with
    | lenders =>
      change (w.receipt p.lendReceipt).token = _ at issued
      simp [Touches, Side.payout, issuable_zero, issued, apart.symm]
    | borrowers =>
      change (w.receipt p.borrowReceipt).token = _ at issued
      simp [Touches, Side.payout, issuable_zero, issued, apart.symm]

/-! ### Before a liquidation and after -/

/--
The world `early` is like `late`, with `n` more receipts: `user` has so many more units of `T`, and they are counted and
on record. Where they are missing, none are on record.
-/
structure Ahead (home : Address) (side : Side) (terms : Terms) (id : Nat) (user : Address) (T : Token) (n : Nat)
    (late early : World) : Prop where
  elsewhere : Rearranged home late early
  balance : ∀ a T', early.balance a T' = late.balance a T' + if a = user ∧ T' = T then n else 0
  supply : ∀ r, (early.receipt r).supply = (late.receipt r).supply + if r = side.contract terms then n else 0
  held : ∀ a T', T' ≠ T → early.hasHeld a T' = late.hasHeld a T'
  pools : ∃ q, (late.market home).pool? id = some q ∧ side.receipts q user = 0 ∧
    (early.market home).pools = (late.market home).pools.set (id - 1) (side.record q user n)

/-- A liquidation does not mind a claim. -/
theorem unmoved_liquidation (orderly : Orderly self w) (orderly' : Orderly self v) (other : closer ≠ self)
    (claim : action.isClaim = true) (there : Served self ⟨user, id, action, []⟩ w p t w₁ v) :
    Unmoved self (fun _ => False) w v ⟨closer, id, .liquidate, []⟩ := by
  have kin := there.rearranged.kindred
  apply unmoved_of_alike orderly orderly' other there.rearranged kin (.inr rfl)
  have read : (w.market self).pool id = .ok p := Market.pool_eq_ok_iff.2 there.read
  have read' : (v.market self).pool id = .ok t.pool := Market.pool_eq_ok_iff.2 there.stored
  rw [read, read']
  obtain ⟨f, _, filed⟩ := Pool.act_files (Pool.Action.exit_of_claim claim) there.accepted
  rw [filed]
  exact .ok ⟨rfl, (Pool.liquidate_passes_file f p _).alike rfl⟩

theorem Served.collected_late {x y late : World} (closed : Served self l w p u x v)
    (last : Served self ⟨user, id, action, []⟩ v u.pool t y late) (payout : t.payout = side.payout user settle n)
    (kind : w.kind (side.contract p.toTerms) = some .receipt)
    (issued : (w.receipt (side.contract p.toTerms)).token = some T) :
    Collected self side p.toTerms user T settle n v late := by
  have kin := closed.rearranged.kindred
  rw [← kin.kind, ← closed.sameTerms] at kind
  rw [← kin.token, ← closed.sameTerms] at issued
  have collected := last.collected payout kind issued
  rwa [closed.sameTerms] at collected

theorem ahead_of_served {late early L : World} {x x' y y' : World} {t' u' : Transition}
    (kind : w.kind (side.contract p.toTerms) = some .receipt)
    (issued : (w.receipt (side.contract p.toTerms)).token = some T)
    (parallel : Parallel w L v early)
    (closed : Served self ⟨closer, id, .liquidate, []⟩ w p u x L)
    (first : Served self ⟨user, id, side.claim, []⟩ w p t x' v)
    (last : Served self ⟨user, id, side.claim, []⟩ L u.pool t' y late)
    (closed' : Served self ⟨closer, id, .liquidate, []⟩ v t.pool u' y' early)
    (lately : Pool.Late side u.pool.toAmounts user settle n t t') :
    Ahead self side p.toTerms id user T n late early := by
  have collected := first.collected lately.payout kind issued
  have collected' := closed.collected_late last lately.late kind issued
  refine ⟨?_, ?_, ?_, ?_, ?_⟩
  · exact (closed.rearranged.trans last.rearranged).between (first.rearranged.trans closed'.rearranged)
  · intro a T'
    have one := collected.balance a T'
    have two := collected'.balance a T'
    have both := parallel.balance a T'
    rw [ite_self] at two
    omega
  · intro r
    have one := collected.supply r
    have two := collected'.supply r
    have both := parallel.supply r
    rw [ite_self] at two
    omega
  · intro a T' apart
    have one := collected.held a T' apart
    have two := collected'.held a T' apart
    have both := parallel.held a T'
    have grows := closed.grows a T'
    have grows' := closed'.grows a T'
    rw [Bool.eq_iff_iff]
    grind
  · refine ⟨t'.pool, last.stored, lately.none, ?_⟩
    obtain ⟨_, amounts, _, ends⟩ := Pool.liquidate_ends closed.accepted
    obtain ⟨_, accepted⟩ := first.next closed'
    rw [(Rearranged.refl self w).scene first.sameTerms] at accepted
    have early := Pool.liquidate_after_claim side.isClaim_claim first.accepted closed.accepted ends accepted
    have amounts' : u.pool.toAmounts = amounts := by rw [ends]; rfl
    rw [closed'.pools, first.pools, last.pools, closed.pools, List.set_set, List.set_set, List.set_set, early,
      ← lately.pool, amounts']

/-- What can be recovered is the same wherever the amounts, the stake and the pledge are. -/
theorem unmoved_recovery (orderly : Orderly self w) (orderly' : Orderly self v) (other : user ≠ self)
    (rearranged : Rearranged self w v) (read : (w.market self).pool? id = some p)
    (read' : (v.market self).pool? id = some q) (same : Pool.SameRecovery user p q) (side : Side) :
    Unmoved self (fun _ => False) w v ⟨user, id, side.recover, []⟩ := by
  apply unmoved_of_alike orderly orderly' other rearranged rearranged.kindred (.inr rfl)
  rw [Market.pool_eq_ok_iff.2 read, Market.pool_eq_ok_iff.2 read']
  exact .ok ⟨congrArg Loan.toTerms same.loan, Pool.recover_alike same side⟩

theorem Ahead.recovery {late early : World} (ahead : Ahead self side terms id user T n late early)
    (orderly : Orderly self late) (orderly' : Orderly self early) (other : user ≠ self) (side' : Side) :
    Unmoved self (fun _ => False) late early ⟨user, id, side'.recover, []⟩ := by
  obtain ⟨q, read, _, pools⟩ := ahead.pools
  change _ = ((late.market self).setPool id (side.record q user n)).pools at pools
  have read' : (early.market self).pool? id = some (side.record q user n) := by
    have stored := Market.pool?_setPool (q := side.record q user n) read id
    rw [if_pos rfl] at stored
    exact (Market.pool?_of_pools pools id).trans stored
  have same : Pool.SameRecovery user q (side.record q user n) := Pool.record_sameRecovery side q user n
  exact unmoved_recovery orderly orderly' other ahead.elsewhere read read' same side'

/-- A liquidation creates and destroys no receipts. -/
theorem Served.supply_of_liquidate (h : Served self ⟨closer, id, .liquidate, []⟩ w p u w₁ v) (r : Address) :
    (v.receipt r).supply = (w.receipt r).supply := by
  have accepted : p.liquidate (w.scene self closer [] id p) = .ok u := h.accepted
  have moved := h.supply r
  rw [(Pool.liquidate_parts accepted).1] at moved
  simpa only [released, issuable_zero, ite_self, Nat.add_zero] using moved

/-- It makes no difference but for receipts whether a claim is made before a liquidation or after. -/
structure Postponable (home : Address) (side : Side) (terms : Terms) (T : Token) (w : World) (c l : Errand) : Prop where
  closed : told ((w.after (c.move home)).serve home l) = told (w.serve home l)
  refused : ∀ fault, w.serve home c = .error fault ↔ (w.after (l.move home)).serve home c = .error fault
  granted : ∀ o, w.serve home c = .ok o → ∃ n, Ahead home side terms c.id c.caller T n
    ((w.after (l.move home)).after (c.move home)) ((w.after (c.move home)).after (l.move home))
  balance : ∀ a T', ((w.after (c.move home)).after (l.move home)).balance a T' + w.balance a T' =
    (w.after (c.move home)).balance a T' + (w.after (l.move home)).balance a T'
  supply : ∀ r, (((w.after (l.move home)).after (c.move home)).receipt r).supply = (w.receipt r).supply
  recovery : ∀ side' : Side, Unmoved home (fun _ => False) ((w.after (l.move home)).after (c.move home))
    ((w.after (c.move home)).after (l.move home)) ⟨c.caller, c.id, side'.recover, []⟩

theorem postponable (reached : Reached self w) (other : user ≠ self) (other' : closer ≠ self) (somebody : user ≠ .zero)
    (read : (w.market self).pool? id = some p) (ready : Ready self (side.contract p.toTerms) T w) {x : Outcome}
    (done : w.serve self ⟨closer, id, .liquidate, []⟩ = .ok x) :
    Postponable self side p.toTerms T w ⟨user, id, side.claim, []⟩ ⟨closer, id, .liquidate, []⟩ := by
  obtain ⟨p', u, w₁, there⟩ := served_of_serve done
  cases read.symm.trans there.read
  have closed : w.after (Errand.move ⟨closer, id, .liquidate, []⟩ self) = x.world := after_call_ok done
  have lately : Reached self x.world := closed ▸ reached.after other'
  have answers := claims_alike reached.orderly lately.orderly other somebody ready there
  rcases answers.ok_or_error with
    ⟨o, o', made, made', t, t', settle, n, first, last, late⟩ | ⟨fault, failed, failed'⟩
  · have after : w.after (Errand.move ⟨user, id, side.claim, []⟩ self) = o.world := after_call_ok made
    have after' : x.world.after (Errand.move ⟨user, id, side.claim, []⟩ self) = o'.world := after_call_ok made'
    have early : Reached self o.world := after ▸ reached.after other
    have unmoved := unmoved_liquidation reached.orderly early.orderly other' side.isClaim_claim first
    have same := told_of_alike unmoved.served
    have again := same
    rw [done] at again
    obtain ⟨y, done'⟩ := ok_of_told again
    have closed' : o.world.after (Errand.move ⟨closer, id, .liquidate, []⟩ self) = y.world := after_call_ok done'
    have parallel := unmoved.parallel
    rw [closed, closed'] at parallel
    obtain ⟨q, u', w₂, there'⟩ := served_of_serve done'
    have found : some t.pool = some q := first.stored.symm.trans there'.read
    cases found
    have ahead := ahead_of_served ready.kind ready.issued parallel there first last there' late
    refine ⟨?_, ?_, ?_, ?_, ?_, ?_⟩
    · rw [after]
      exact same
    · intro fault
      rw [closed, made, made']
      exact iff_of_false nofun nofun
    · intro _ _
      rw [closed, after, after', closed']
      exact ⟨n, ahead⟩
    · intro a T'
      have both := parallel.balance a T'
      rw [closed, after, closed']
      omega
    · intro r
      have nothing := (there.collected_late last late.late ready.kind ready.issued).supply r
      rw [closed, after', nothing, there.supply_of_liquidate, ite_self, Nat.add_zero]
    · intro side'
      rw [closed, after, after', closed']
      have late : Reached self o'.world := after' ▸ lately.after other
      have early : Reached self y.world := closed' ▸ early.after other'
      exact ahead.recovery late.orderly early.orderly other side'
  · have after : w.after (Errand.move ⟨user, id, side.claim, []⟩ self) = w := after_call_error failed
    have after' : x.world.after (Errand.move ⟨user, id, side.claim, []⟩ self) = x.world := after_call_error failed'
    refine ⟨?_, ?_, ?_, ?_, ?_, ?_⟩
    · rw [after]
    · intro fault
      rw [closed, failed, failed']
    · intro o made
      cases failed.symm.trans made
    · intro a T'
      rw [after]
      exact Nat.add_comm _ _
    · intro r
      rw [closed, after', there.supply_of_liquidate]
    · intro side'
      rw [closed, after, after', closed]
      exact .same _ _

/-! ### Nobody needs to hurry -/

/-- Calls that pay nothing, and do not disturb one another. -/
theorem interchange_bare (reached : Reached self w) (other : c.caller ≠ self) (other' : l.caller ≠ self)
    (bare : c.payments = []) (bare' : l.payments = []) (compatible : Compatible w self c l) :
    Interchange self w c l := by
  apply interchange_of_unmoved compatible
  · have rearranged := after_rearranged w self l
    exact unmoved_after reached.orderly (reached.after other').orderly other rearranged.kindred (.inr bare) compatible
  · have rearranged := after_rearranged w self c
    exact unmoved_after reached.orderly (reached.after other).orderly other' rearranged.kindred (.inr bare')
      compatible.symm

/-- A claim leaves alone what its caller can recover. -/
theorem unmoved_after_claim (reached : Reached self w) (other : user ≠ self) (claim : action.isClaim = true)
    (side : Side) : Unmoved self (fun _ => False) w (w.after (Errand.move ⟨user, id, action, []⟩ self))
      ⟨user, id, side.recover, []⟩ := by
  obtain ⟨o, served, after⟩ | ⟨_, after⟩ := after_move w self ⟨user, id, action, []⟩
  · obtain ⟨p, t, w₁, there⟩ := served_of_serve served
    have later : Reached self o.world := after ▸ reached.after other
    have same := Pool.claim_sameRecovery claim there.accepted
    rw [after]
    exact unmoved_recovery reached.orderly later.orderly other there.rearranged there.read there.stored same side
  · rw [after]
    exact .same w _

/--
Whether a claim is made before its pool ends or after makes no difference. At maturity both orders are the same in every
way. So they are on liquidation for what found no borrower; the other claims get the same and are recorded in the same
way, but for the receipts that a liquidated pool does not create. What can be recovered from it does not depend on them.
-/
theorem claims_can_wait (launched : Launched self w) (foreign : Foreign self moves)
    (reserved : AllReserved self w moves) (read : ((w.play moves).market self).pool? id = some p)
    (claim : action.isClaim = true) (other : user ≠ self) (other' : closer ≠ self) :
    let w' := w.play moves
    let c : Errand := ⟨user, id, action, []⟩
    let l : Errand := ⟨closer, id, .liquidate, []⟩
    Interchange self w' c ⟨closer, id, .finish, []⟩ ∧
    (action = .refundLend none → Interchange self w' c l) ∧
    ∀ o, w'.serve self l = .ok o →
      (∀ side T, action = side.claim → Ready self (side.contract p.toTerms) T w' → user ≠ .zero →
        Postponable self side p.toTerms T w' c l) ∧
      ∀ side : Side,
        Unmoved self (fun _ => False) o.world (o.world.after (c.move self)) ⟨user, id, side.recover, []⟩ := by
  intro w' c l
  have reached : Reached self w' := ⟨w, moves, launched, foreign, reserved, rfl⟩
  refine ⟨?_, ?_, ?_⟩
  · exact interchange_bare reached other other' rfl rfl fun q _ _ => Pool.claim_independent_of_finish claim q _ _
  · intro refund
    have compatible : Compatible w' self c l := fun q _ _ => by
      subst refund
      exact Pool.refund_independent_of_liquidate q _ _
    exact interchange_bare reached other other' rfl rfl compatible
  · intro o done
    have closed : w'.after (l.move self) = o.world := after_call_ok done
    refine ⟨?_, unmoved_after_claim (closed ▸ reached.after other') other claim⟩
    rintro side T rfl ready somebody
    exact postponable reached other other' somebody read ready done

/-- The lender of the town gets receipts before the pool is liquidated only, and the same otherwise. -/
theorem town_lender_can_wait :
    let w := marketTown.play townCrash
    let c : Errand := ⟨someone 6, 1, .claimLend, []⟩
    let l : Errand := ⟨someone 8, 1, .liquidate, []⟩
    (w.serve (someone 5) c).isOk = true ∧ (w.serve (someone 5) l).isOk = true ∧
      Interchange (someone 5) w c ⟨someone 8, 1, .finish, []⟩ ∧
      Postponable (someone 5) .lenders townTerms (coin 0x33) w c l := by
  intro w c l
  have foreign : Foreign (someone 5) townCrash := by
    unfold Foreign
    decide
  have bound : ∀ p ∈ (w.market (someone 5)).pools, p.toTerms = townTerms := by decide +kernel
  have reserved : AllReserved (someone 5) marketTown townCrash := town_reserved (by decide) (by decide +kernel)
  have there : ((w.market (someone 5)).pool? 1).isSome = true := by decide +kernel
  obtain ⟨p, read⟩ := Option.isSome_iff_exists.1 there
  have ready : Ready (someone 5) (someone 3) (coin 0x33) w :=
    ⟨by decide +kernel, by decide +kernel, by decide +kernel, by decide +kernel, by decide⟩
  have closes : (w.serve (someone 5) l).isOk = true := by decide +kernel
  obtain ⟨finish, _, liquidate⟩ := claims_can_wait marketTown_launched foreign reserved read
    (rfl : Pool.Action.isClaim .claimLend = true) (by decide : someone 6 ≠ someone 5)
    (by decide : someone 8 ≠ someone 5)
  refine ⟨by decide +kernel, closes, finish, ?_⟩
  have terms := bound p (Market.mem_of_pool? read)
  cases closed : w.serve (someone 5) l with
  | error fault =>
    rw [closed] at closes
    cases closes
  | ok o =>
    rw [← terms]
    exact (liquidate o closed).1 .lenders (coin 0x33) rfl (by rw [terms]; exact ready) (by decide)

end TermLending.World
