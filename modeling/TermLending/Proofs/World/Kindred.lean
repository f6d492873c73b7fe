import TermLending.Proofs.Pool.Locality
import TermLending.Proofs.World.Exits

/-!
# Worlds that pay alike

Whether a payout succeeds, and what is said of it, depends on the contracts, on their tokens and minters, and on what
the accounts hold. Worlds that agree on the former carry out the same payouts alike, unless one of them falls short.
-/

namespace TermLending

/-- Somebody has less than he is to give away, or than was counted. -/
def Fault.isShortage : Fault → Bool
  | tokenShortage | coinShortage | negativeDifference => true
  | _ => false

namespace World

variable {among : Address → Prop} {excused : Fault → Prop} {self user r minter owner source target account : Address}
  {w w' : World} {T : Token} {n id : Nat} {payments attached : List Payment} {terms : Terms} {out : Payout}
  {action : Pool.Action}

/-- The same contracts may create and destroy the same tokens, and the accounts `among` others have the same. -/
structure Kindred (among : Address → Prop) (w w' : World) : Prop where
  kind : w'.kind = w.kind
  mayIssue : w'.mayIssue = w.mayIssue
  token : ∀ r, (w'.receipt r).token = (w.receipt r).token
  minters : ∀ r, (w'.receipt r).minters = (w.receipt r).minters
  balance : ∀ a, among a → w'.balance a = w.balance a
  hasHeld : ∀ a, among a → w'.hasHeld a = w.hasHeld a
  supply : ∀ a, among a → (w'.receipt a).supply = (w.receipt a).supply

/-- Kindred worlds with the same announcements. -/
def Announced (among : Address → Prop) (a b : World × List LogEntry) : Prop := Kindred among a.1 b.1 ∧ b.2 = a.2

/-- Kindred worlds, left with the same reply and the same announcements. -/
structure Concordant (among : Address → Prop) (o o' : Outcome) : Prop where
  kindred : Kindred among o.world o'.world
  reply : o'.reply = o.reply
  log : o'.log = o.log

/-- Shortages are excused. -/
def Lenient (excused : Fault → Prop) : Prop := ∀ fault, Fault.isShortage fault = true → excused fault

theorem shortage_isShortage (T : Token) : (shortage T).isShortage = true := by
  unfold shortage
  split <;> rfl

theorem uncount_of_le {r : Receipt} (counted : n ≤ r.supply) :
    r.uncount n = .ok { r with supply := r.supply - n } :=
  Receipt.uncount_eq_ok_iff.2 ⟨counted, rfl⟩

theorem uncount_of_lt {r : Receipt} (short : r.supply < n) : r.uncount n = .error .negativeDifference := by
  have none : difference r.supply n = .error .negativeDifference := if_neg (Nat.not_le.2 short)
  unfold Receipt.uncount
  rw [none]
  rfl

namespace Kindred

theorem refl (among : Address → Prop) (w : World) : Kindred among w w :=
  ⟨rfl, rfl, fun _ => rfl, fun _ => rfl, fun _ _ => rfl, fun _ _ => rfl, fun _ _ => rfl⟩

theorem canPay_iff (h : Kindred among w w') (member : among account) :
    w.CanPay account T n ↔ w'.CanPay account T n := by
  unfold CanPay
  rw [h.balance account member, h.hasHeld account member]

theorem setBalance (h : Kindred among w w') {n n' : Nat} (same : among account → n' = n) (T : Token) :
    Kindred among (w.setBalance account T n) (w'.setBalance account T n') := by
  refine ⟨h.kind, h.mayIssue, h.token, h.minters, ?_, ?_, h.supply⟩
  · intro a member
    show put w'.balance account _ a = put w.balance account _ a
    by_cases here : a = account
    · subst here
      rw [put_self, put_self, h.balance a member, same member]
    · rw [put_of_ne _ _ _ here, put_of_ne _ _ _ here, h.balance a member]
  · intro a member
    show put w'.hasHeld account _ a = put w.hasHeld account _ a
    by_cases here : a = account
    · subst here
      rw [put_self, put_self, h.hasHeld a member]
    · rw [put_of_ne _ _ _ here, put_of_ne _ _ _ here, h.hasHeld a member]

theorem markHeld (h : Kindred among w w') (account : Address) (T : Token) :
    Kindred among (w.markHeld account T) (w'.markHeld account T) := by
  refine ⟨h.kind, h.mayIssue, h.token, h.minters, h.balance, ?_, h.supply⟩
  intro a member
  show put w'.hasHeld account _ a = put w.hasHeld account _ a
  by_cases here : a = account
  · subst here
    rw [put_self, put_self, h.hasHeld a member]
  · rw [put_of_ne _ _ _ here, put_of_ne _ _ _ here, h.hasHeld a member]

theorem setSupply (h : Kindred among w w') {n n' : Nat} (same : among r → n' = n) :
    Kindred among (w.setSupply r n) (w'.setSupply r n') := by
  have only := setSupply_only w r n
  have only' := setSupply_only w' r n'
  refine ⟨h.kind, h.mayIssue, ?_, ?_, h.balance, h.hasHeld, ?_⟩
  · intro a
    rw [only.token_eq, only'.token_eq, h.token]
  · intro a
    rw [only.minters_eq, only'.minters_eq, h.minters]
  · intro a member
    rw [supply_setSupply, supply_setSupply]
    split
    · next here => exact same (here ▸ member)
    · exact h.supply a member

theorem credit (h : Kindred among w w') (account : Address) (T : Token) (n : Nat) :
    Kindred among (w.credit account T n) (w'.credit account T n) :=
  h.setBalance (fun member => by rw [h.balance account member]) T

theorem setMarkets (h : Kindred among w w') (a : Address) (m m' : Market) :
    Kindred among (w.setMarket a m) (w'.setMarket a m') :=
  ⟨h.kind, h.mayIssue, h.token, h.minters, h.balance, h.hasHeld, h.supply⟩

/-! ### Transfers -/

theorem debit (h : Kindred among w w') (lenient : among account ∨ Lenient excused) (T : Token) (n : Nat) :
    Alike excused (Kindred among) (w.debit account T n) (w'.debit account T n) := by
  unfold World.debit
  by_cases member : among account
  · refine (Alike.demand (h.canPay_iff member) _).bind fun _ _ _ => .ok ?_
    exact h.setBalance (fun _ => by rw [h.balance account member]) T
  · have excuse := lenient.resolve_left member _ (shortage_isShortage T)
    by_cases covered : w.CanPay account T n
    · by_cases covered' : w'.CanPay account T n
      · rw [demand_of_true covered, demand_of_true covered']
        exact .ok (h.setBalance (fun among => absurd among member) T)
      · rw [demand_of_false covered']
        exact .right excuse _
    · rw [demand_of_false covered]
      exact .left excuse _

theorem transfer (h : Kindred among w w') (lenient : among source ∨ Lenient excused) (target : Address) (T : Token)
    (n : Nat) : Alike excused (Kindred among) (w.transfer source target T n) (w'.transfer source target T n) :=
  (h.debit lenient T n).bind fun _ _ kindred => .ok (kindred.credit target T n)

theorem transferAll (h : Kindred among w w') (lenient : among source ∨ Lenient excused) (target : Address)
    (payments : List Payment) :
    Alike excused (Kindred among) (w.transferAll source target payments) (w'.transferAll source target payments) := by
  induction payments generalizing w w' with
  | nil => exact .ok h
  | cons payment rest ih => exact (h.transfer lenient target _ _).bind fun _ _ kindred => ih kindred

/-- Who has the same, or pays nothing, pays alike. -/
theorem transferAll' (h : Kindred among w w') (payer : among source ∨ payments = []) (target : Address) :
    Alike excused (Kindred among) (w.transferAll source target payments) (w'.transferAll source target payments) := by
  rcases payer with member | none
  · exact h.transferAll (.inl member) target payments
  · rw [none]
    exact .ok h

theorem send (h : Kindred among w w') (lenient : among source ∨ Lenient excused) (target : Address) (T : Token)
    (n : Nat) : Alike excused (Kindred among) (w.send source target T n) (w'.send source target T n) := by
  unfold World.send
  split
  · exact .ok h
  · exact h.transfer lenient target T n

/-! ### Creating and destroying receipts -/

theorem issued (h : Kindred among w w') (r : Address) : (w'.receipt r).issued = (w.receipt r).issued := by
  unfold Receipt.issued
  rw [h.token r]

theorem receiptToken (h : Kindred among w w') (r : Address) : w'.receiptToken r = w.receiptToken r := by
  unfold World.receiptToken contact
  rw [h.kind, h.token r]

theorem mint (h : Kindred among w w') (r minter owner : Address) (n : Nat) :
    Alike excused (Announced among) (w.mint r minter owner n) (w'.mint r minter owner n) := by
  have request : Alike excused
      (fun a b => a.1 = { w.receipt r with supply := (w.receipt r).supply + n } ∧
        b = ({ w'.receipt r with supply := (w'.receipt r).supply + n }, a.2))
      ((w.receipt r).mint minter owner n) ((w'.receipt r).mint minter owner n) := by
    unfold Receipt.mint
    refine (Alike.demand (by rw [h.minters r]) _).bind fun _ _ _ => ?_
    refine (Alike.demand Iff.rfl _).bind fun _ _ _ => ?_
    refine (Alike.demand Iff.rfl _).bind fun _ _ _ => ?_
    refine (Alike.of_eq (h.issued r).symm).bind fun token _ same => ?_
    subst same
    exact .ok ⟨rfl, rfl⟩
  refine request.bind ?_
  rintro ⟨_, token⟩ _ ⟨rfl, rfl⟩
  rw [h.mayIssue]
  refine (Alike.demand Iff.rfl _).bind fun _ _ _ => .ok ⟨?_, rfl⟩
  exact ((h.setSupply (fun member => by rw [h.supply r member])).markHeld r token).credit owner token n

theorem uncount (h : Kindred among w w') (lenient : among r ∨ Lenient excused) (n : Nat) :
    Alike excused
      (fun a b => a = { w.receipt r with supply := (w.receipt r).supply - n } ∧
        b = { w'.receipt r with supply := (w'.receipt r).supply - n })
      ((w.receipt r).uncount n) ((w'.receipt r).uncount n) := by
  by_cases counted : n ≤ (w.receipt r).supply <;> by_cases counted' : n ≤ (w'.receipt r).supply
  · rw [uncount_of_le counted, uncount_of_le counted']
    exact .ok ⟨rfl, rfl⟩
  · have excuse := lenient.resolve_left (fun member => counted' (h.supply r member ▸ counted)) .negativeDifference rfl
    rw [uncount_of_lt (Nat.not_le.1 counted')]
    exact .right excuse _
  · have excuse := lenient.resolve_left (fun member => counted (h.supply r member ▸ counted')) .negativeDifference rfl
    rw [uncount_of_lt (Nat.not_le.1 counted)]
    exact .left excuse _
  · rw [uncount_of_lt (Nat.not_le.1 counted), uncount_of_lt (Nat.not_le.1 counted')]
    exact .error _

theorem burn (h : Kindred among w w') (lenient : among r ∨ Lenient excused) (minter owner : Address) (n : Nat)
    (attached : List Payment) :
    Alike excused (Announced among) (w.burn r minter owner n attached) (w'.burn r minter owner n attached) := by
  have request : (w'.receipt r).redeem minter n (soleToken attached) =
      (w.receipt r).redeem minter n (soleToken attached) := by
    unfold Receipt.redeem
    rw [h.minters r, h.issued r]
  refine (Alike.of_eq request.symm).bind fun token _ same => ?_
  subst same
  rw [h.mayIssue]
  refine (Alike.demand Iff.rfl _).bind fun _ _ _ => ?_
  refine (h.debit lenient token n).bind fun v v' kindred => ?_
  refine (kindred.uncount lenient n).bind ?_
  rintro _ _ ⟨rfl, rfl⟩
  exact .ok ⟨kindred.setSupply (fun member => by rw [kindred.supply r member]), rfl⟩

theorem issueReceipts (h : Kindred among w w') (self r owner : Address) (n : Nat) :
    Alike excused (Announced among) (w.issueReceipts self r owner n) (w'.issueReceipts self r owner n) := by
  unfold World.issueReceipts
  rw [h.kind]
  split
  · exact .ok ⟨h, rfl⟩
  · split
    · exact .ok ⟨h, rfl⟩
    · exact h.mint r self owner n
    · exact .error _

theorem returnReceipts (h : Kindred among w w') (lenient : (∀ a, among a) ∨ Lenient excused) (self r owner : Address)
    (n : Nat) :
    Alike excused (Announced among) (w.returnReceipts self r owner n) (w'.returnReceipts self r owner n) := by
  have one (a : Address) : among a ∨ Lenient excused := lenient.imp_left fun all => all a
  unfold World.returnReceipts
  split
  · exact .ok ⟨h, rfl⟩
  · refine (Alike.of_eq (h.receiptToken r).symm).bind fun token _ same => ?_
    subst same
    exact (h.transfer (one self) r token n).bind fun _ _ kindred => kindred.burn (one r) self owner n _

/-- The same payout is carried out alike, and announced in the same words. -/
theorem deliver (h : Kindred among w w') (lenient : (∀ a, among a) ∨ Lenient excused) (self : Address) (terms : Terms)
    (out : Payout) :
    Alike excused (Announced among) (w.deliver self terms out) (w'.deliver self terms out) := by
  have one (a : Address) : among a ∨ Lenient excused := lenient.imp_left fun all => all a
  refine (h.returnReceipts lenient self terms.lendReceipt out.recipient out.burnLend).bind ?_
  rintro ⟨w₁, lendBurned⟩ ⟨w₁', _⟩ ⟨h₁, rfl⟩
  refine (h₁.returnReceipts lenient self terms.borrowReceipt out.recipient out.burnBorrow).bind ?_
  rintro ⟨w₂, borrowBurned⟩ ⟨w₂', _⟩ ⟨h₂, rfl⟩
  refine (h₂.send (one self) out.recipient terms.settleToken out.settle).bind fun w₃ w₃' h₃ => ?_
  refine (h₃.issueReceipts self terms.lendReceipt out.recipient out.mintLend).bind ?_
  rintro ⟨w₄, lendMinted⟩ ⟨w₄', _⟩ ⟨h₄, rfl⟩
  refine (h₄.issueReceipts self terms.borrowReceipt out.recipient out.mintBorrow).bind ?_
  rintro ⟨w₅, borrowMinted⟩ ⟨w₅', _⟩ ⟨h₅, rfl⟩
  exact (h₅.send (one self) out.recipient terms.pledgeToken out.pledge).bind fun w₆ w₆' h₆ => .ok ⟨h₆, rfl⟩

theorem conclude (h : Kindred among w w') (lenient : (∀ a, among a) ∨ Lenient excused) (self : Address) (id : Nat)
    {t t' : Transition} (corresponding : t.Corresponding t') :
    Alike excused (Concordant among) (w.conclude self id t) (w'.conclude self id t') := by
  unfold World.conclude
  rw [corresponding.payout, corresponding.events, corresponding.terms]
  refine ((h.setMarkets self _ _).deliver lenient self _ _).bind ?_
  rintro ⟨v, log⟩ ⟨v', _⟩ ⟨kindred, rfl⟩
  exact .ok ⟨kindred, rfl, rfl⟩

end Kindred

theorem Concordant.refl (o : Outcome) : Concordant among o o := ⟨.refl among o.world, rfl, rfl⟩

/-! ### Calls on a pool -/

def serve (w : World) (home : Address) (e : Errand) : Except Fault Outcome :=
  w.onPool home e.caller e.id e.action e.payments

/-- The move that brings an errand to the market at `home`. -/
def Errand.move (e : Errand) (home : Address) : Move :=
  .call ⟨e.caller, home, .act (.market (.onPool e.id e.action)), e.payments⟩

/-- What the caller learns of the outcome. -/
def told (x : Except Fault Outcome) : Except Fault (Reply × List LogEntry) := x.map fun o => (o.reply, o.log)

variable {e : Errand} {w₁ : World}

theorem gate_of_only (only : w.TokensOnly w₁) (gated : Bool) (registry caller target : Address) :
    w₁.gate gated registry caller target = w.gate gated registry caller target := by
  unfold gate
  rw [requireApproved_of_only only]

theorem Kindred.accept (h : Kindred among w w') (user : Address) (id : Nat) (action : Pool.Action)
    (payments : List Payment) :
    w'.accept ⟨user, self, payments⟩ (.market (.onPool id action)) =
      w.accept ⟨user, self, payments⟩ (.market (.onPool id action)) := by
  have anybody (v : World) :
      demand ((Action.market (.onPool id action)).isDeployerOnly = true → user = v.deployer self) .notDeployer =
        .ok () :=
    demand_of_true nofun
  unfold World.accept
  dsimp only
  rw [h.kind, anybody, anybody]

theorem serve_alike (h : Kindred among w w') (payer : among e.caller ∨ e.payments = [])
    (gates : w'.gate e.action.isGated (w'.market self).registry e.caller self =
      w.gate e.action.isGated (w.market self).registry e.caller self)
    (acts : Alike (fun _ => False) Transition.Corresponding (w.transitionOf self e) (w'.transitionOf self e))
    (lenient : (∀ a, among a) ∨ Lenient excused)
    (funded : ∀ w₁ t, w.transferAll e.caller self e.payments = .ok w₁ → w.transitionOf self e = .ok t →
      Avoids excused (w₁.conclude self e.id t))
    (funded' : ∀ w₁ t, w'.transferAll e.caller self e.payments = .ok w₁ → w'.transitionOf self e = .ok t →
      Avoids excused (w₁.conclude self e.id t)) :
    Alike (fun _ => False) (Concordant among) (w.serve self e) (w'.serve self e) := by
  refine (h.transferAll' payer self).bind_of_ok fun w₁ w₁' paid paid' h₁ => ?_
  have only := (transferAll_only paid).1
  have only' := (transferAll_only paid').1
  refine (Alike.of_eq (h₁.accept e.caller e.id e.action e.payments).symm).bind fun _ _ _ => ?_
  show Alike _ _ (w₁.actOnPool _ e.id e.action) (w₁'.actOnPool _ e.id e.action)
  unfold actOnPool
  dsimp only
  refine (Alike.of_eq ?_).bind fun _ _ _ => ?_
  · rw [gate_of_only only, gate_of_only only', only.market, only'.market, gates]
  · unfold transitionOf at acts funded funded'
    rw [paid, paid'] at acts
    rw [← bind_assoc, ← bind_assoc]
    refine acts.bind_of_ok fun t t' accepted accepted' corresponding => ?_
    refine (h₁.conclude lenient self e.id corresponding).exact ?_ ?_ _
    · exact funded w₁ t paid (by rw [paid]; exact accepted)
    · exact funded' w₁' t' paid' (by rw [paid']; exact accepted')

theorem told_of_alike {x y : Except Fault Outcome} (h : Alike (fun _ => False) (Concordant among) x y) :
    told y = told x := by
  rcases h.ok_or_error with ⟨o, o', rfl, rfl, same⟩ | ⟨fault, rfl, rfl⟩
  · show Except.ok (o'.reply, o'.log) = Except.ok (o.reply, o.log)
    rw [same.reply, same.log]
  · rfl

theorem ok_of_told {x : Except Fault Outcome} {o : Outcome} (h : told x = told (.ok o)) : ∃ o', x = .ok o' := by
  cases x with
  | error fault => cases h
  | ok o' => exact ⟨o', rfl⟩

/-! ### What a call on a pool leaves alone -/

theorem prices_of_only (only : w.TokensOnly w₁) (oracle : Address) (terms : Terms) :
    w₁.prices oracle terms = w.prices oracle terms := by
  unfold World.prices tokenPrice contact
  rw [only.kind, only.oracle, askFeed_of_only only]

theorem scene_of_only (only : w.TokensOnly w₁) (self user : Address) (payments : List Payment) (id : Nat) (p : Pool) :
    w₁.scene self user payments id p = w.scene self user payments id p := by
  have tokens (r : Address) : w₁.receiptToken r = w.receiptToken r := by
    unfold World.receiptToken contact
    rw [only.kind, only.token_eq]
  unfold scene
  simp only [only.market, only.now, prices_of_only only, tokens]

/-- Payments make no difference to what the pool sees. -/
theorem transitionOf_of_paid (paid : w.transferAll e.caller self e.payments = .ok w₁) :
    w.transitionOf self e =
      (w.market self).pool e.id >>= fun p => p.act (w.scene self e.caller e.payments e.id p) e.action := by
  have only := (transferAll_only paid).1
  unfold transitionOf
  rw [paid]
  show (w₁.market self).pool e.id >>= _ = _
  rw [only.market]
  simp only [scene_of_only only]

/-- Nothing differs but tokens, supplies, and the pools of the market at `home`. -/
def Rearranged (home : Address) (w w' : World) : Prop :=
  (w.setMarket home { w.market home with pools := (w'.market home).pools }).TokensOnly w'

namespace Rearranged

theorem refl (home : Address) (w : World) : Rearranged home w w := by
  unfold Rearranged setMarket
  rw [put_same]
  exact .refl w

theorem market (h : Rearranged self w w') :
    w'.market self = { w.market self with pools := (w'.market self).pools } := by
  conv_lhs => rw [TokensOnly.market h]
  exact put_self _ _ _

theorem receipt_eq (h : Rearranged self w w') (r : Address) :
    w'.receipt r = { w.receipt r with supply := (w'.receipt r).supply } :=
  TokensOnly.receipt_eq h r

/-- What is written to the market next is all that is left of it. -/
theorem setMarket (h : Rearranged self w w') (m : Market) :
    (w.setMarket self m).TokensOnly (w'.setMarket self m) := by
  unfold Rearranged TokensOnly at h
  rw [h]
  unfold TokensOnly World.setMarket
  dsimp only
  rw [put_put]

theorem trans (h : Rearranged self w w₁) (h' : Rearranged self w₁ w') : Rearranged self w w' := by
  have settings : { w₁.market self with pools := (w'.market self).pools } =
      { w.market self with pools := (w'.market self).pools } := by rw [h.market]
  unfold Rearranged at h' ⊢
  rw [settings] at h'
  exact (h.setMarket _).trans h'

theorem between (h : Rearranged self w w₁) (h' : Rearranged self w w') : Rearranged self w₁ w' := by
  have settings : { w₁.market self with pools := (w'.market self).pools } =
      { w.market self with pools := (w'.market self).pools } := by rw [h.market]
  unfold Rearranged at h' ⊢
  rw [settings]
  exact (h.setMarket _).between h'

theorem ext (h : Rearranged self w w₁) (h' : Rearranged self w w') (balance : w₁.balance = w'.balance)
    (hasHeld : w₁.hasHeld = w'.hasHeld) (supply : ∀ r, (w₁.receipt r).supply = (w'.receipt r).supply)
    (pools : (w₁.market self).pools = (w'.market self).pools) : w₁ = w' := by
  unfold Rearranged TokensOnly at h h'
  rw [h, h']
  simp only [balance, hasHeld, supply, pools]

end Rearranged

/-- What a pool makes of a call that succeeds, and what the world is left as. -/
structure Served (home : Address) (e : Errand) (w : World) (p : Pool) (t : Transition) (w₁ w' : World) : Prop where
  paid : w.transferAll e.caller home e.payments = .ok w₁
  read : (w.market home).pool? e.id = some p
  accepted : p.act (w.scene home e.caller e.payments e.id p) e.action = .ok t
  delivered : (w₁.setMarket home ((w.market home).setPool e.id t.pool)).Delivered home t.pool.toTerms t.payout w'

theorem served_of_serve {o : Outcome} (h : w.serve self e = .ok o) : ∃ p t w₁, Served self e w p t w₁ o.world := by
  obtain ⟨w₁, paid, _, done⟩ := call_act_eq_ok_iff.1 h
  obtain ⟨p, t, _, read, accepted, delivered⟩ := actOnPool_eq_ok done
  have only := (transferAll_only paid).1
  dsimp only at read accepted delivered
  rw [only.market] at read delivered
  rw [scene_of_only only] at accepted
  exact ⟨p, t, w₁, paid, read, accepted, delivered⟩

namespace Served

variable {p : Pool} {t : Transition}

theorem transitionOf (h : Served self e w p t w₁ w') : w.transitionOf self e = .ok t := by
  rw [transitionOf_of_paid h.paid]
  exact bind_eq_ok_iff.2 ⟨p, Market.pool_eq_ok_iff.2 h.read, h.accepted⟩

theorem pools (h : Served self e w p t w₁ w') :
    (w'.market self).pools = (w.market self).pools.set (e.id - 1) t.pool := by
  rw [market_of_delivered h.delivered]
  rfl

theorem rearranged (h : Served self e w p t w₁ w') : Rearranged self w w' := by
  have only : (w.setMarket self ((w.market self).setPool e.id t.pool)).TokensOnly w' := by
    refine TokensOnly.trans ?_ h.delivered.only
    have paid := (transferAll_only h.paid).1
    unfold TokensOnly at paid ⊢
    rw [paid]
    rfl
  unfold Rearranged
  rw [h.pools]
  exact only

end Served

theorem after_move (w : World) (self : Address) (e : Errand) :
    (∃ o, w.serve self e = .ok o ∧ w.after (e.move self) = o.world) ∨
      (∃ fault, w.serve self e = .error fault) ∧ w.after (e.move self) = w := by
  cases result : w.serve self e with
  | ok o => exact .inl ⟨o, rfl, after_call_ok result⟩
  | error fault => exact .inr ⟨⟨fault, rfl⟩, after_call_error result⟩

theorem after_rearranged (w : World) (self : Address) (e : Errand) : Rearranged self w (w.after (e.move self)) := by
  obtain ⟨o, served, after⟩ | ⟨_, after⟩ := after_move w self e
  · obtain ⟨p, t, w₁, served⟩ := served_of_serve served
    rw [after]
    exact served.rearranged
  · rw [after]
    exact .refl self w

end World

end TermLending
