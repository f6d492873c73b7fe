import TermLending.Proofs.World.Stock
import TermLending.Proofs.World.Storage

/-!
# Receipts and announcements

Every receipt that is created or destroyed is announced by its contract, with the minter that asked for it. Within one
call that is always the same account: the caller of a receipt contract, or a market on behalf of its user.
-/

namespace TermLending

namespace Event

/-- The receipts that an event says were created. -/
def created : Event → Nat
  | receiptsMinted _ _ n => n
  | _ => 0

/-- The receipts that an event says were destroyed. -/
def destroyed : Event → Nat
  | receiptsBurned _ _ n => n
  | _ => 0

/-- Who had receipts created or destroyed. -/
def minter? : Event → Option Address
  | receiptsMinted minter _ _ | receiptsBurned minter _ _ => some minter
  | _ => none

theorem amounts_of_quiet {event : Event} (quiet : event.minter? = none) : event.created = 0 ∧ event.destroyed = 0 := by
  cases event with
  | receiptsMinted | receiptsBurned => cases quiet
  | _ => exact ⟨rfl, rfl⟩

end Event

namespace World

variable {w w' v v' w₁ : World} {r x a actor owner source target : Address} {T T' token : Token} {n : Nat}
  {log entries : List LogEntry} {amount : Event → Nat} {payments attached : List Payment} {terms : Terms}
  {out : Payout} {c : Context} {o : Outcome} {action : Action} {m : Move}

/-! ### Logs -/

/-- The sum of an amount over all that one contract announced. -/
def tally (log : List LogEntry) (source : Address) (amount : Event → Nat) : Nat :=
  ((log.filter fun entry => entry.source = source).map fun entry => amount entry.event).sum

theorem tally_append (log entries : List LogEntry) (r : Address) (amount : Event → Nat) :
    tally (log ++ entries) r amount = tally log r amount + tally entries r amount := by
  simp [tally]

theorem tally_single (x r : Address) (event : Event) (amount : Event → Nat) :
    tally [⟨x, event⟩] r amount = if r = x then amount event else 0 := by
  by_cases here : x = r
  · simp [tally, here]
  · simp [tally, here, Ne.symm here]

theorem tally_eq_zero (none : ∀ entry ∈ log, entry.source = r → amount entry.event = 0) : tally log r amount = 0 := by
  refine List.sum_eq_zero ?_
  intro k member
  obtain ⟨entry, listed, rfl⟩ := List.mem_map.1 member
  obtain ⟨logged, here⟩ := List.mem_filter.1 listed
  exact none entry logged (of_decide_eq_true here)

/-- The contract at `r` announces no receipts. -/
def Quiet (r : Address) (log : List LogEntry) : Prop := ∀ entry ∈ log, entry.source = r → entry.event.minter? = none

theorem Quiet.tally (quiet : Quiet r log) : tally log r Event.created = 0 ∧ tally log r Event.destroyed = 0 :=
  ⟨tally_eq_zero fun entry logged here => (Event.amounts_of_quiet (quiet entry logged here)).1,
    tally_eq_zero fun entry logged here => (Event.amounts_of_quiet (quiet entry logged here)).2⟩

theorem quiet_of_elsewhere (elsewhere : x ≠ r) (events : List Event) : Quiet r (events.map (⟨x, ·⟩)) := by
  intro entry logged here
  obtain ⟨_, _, rfl⟩ := List.mem_map.1 logged
  exact absurd here elsewhere

/-- A call that fails announces nothing. -/
def logOf : Except Fault Outcome → List LogEntry
  | .ok o => o.log
  | .error _ => []

def announced (w : World) : Move → List LogEntry
  | .call c => logOf (w.call c)
  | _ => []

def announcements (w : World) : List Move → List LogEntry
  | [] => []
  | m :: rest => w.announced m ++ (w.after m).announcements rest

theorem announced_ok {call : Call} (h : w.call call = .ok o) : w.announced (.call call) = o.log := by
  rw [announced, h]
  rfl

theorem announced_error {call : Call} {fault : Fault} (h : w.call call = .error fault) :
    w.announced (.call call) = [] := by
  rw [announced, h]
  rfl

/-! ### The course of a call -/

/-- How far a call may have come in which `actor` deals with receipt contracts, and what was announced of receipts. -/
inductive Course (actor : Address) (w : World) : World → List LogEntry → Prop where
  | start : Course actor w w []
  | moved {v v' : World} {log : List LogEntry} {source target : Address} {token : Token} {n : Nat}
      (before : Course actor w v log) (sent : v.transfer source target token n = .ok v') : Course actor w v' log
  | stored {v : World} {log : List LogEntry} {account : Address} {market : Market} (before : Course actor w v log) :
      Course actor w (v.setMarket account market) log
  | minted {v v' : World} {log entries : List LogEntry} {x owner : Address} {n : Nat} (before : Course actor w v log)
      (contract : v.kind x = some .receipt) (done : v.mint x actor owner n = .ok (v', entries)) :
      Course actor w v' (log ++ entries)
  | burned {v v' : World} {log entries : List LogEntry} {x owner : Address} {n : Nat} {attached : List Payment}
      (before : Course actor w v log) (contract : v.kind x = some .receipt)
      (done : v.burn x actor owner n attached = .ok (v', entries)) : Course actor w v' (log ++ entries)

namespace Course

theorem kind (h : Course actor w v log) : v.kind = w.kind := by
  induction h with
  | start => rfl
  | moved before sent ih => rw [(transfer_only sent).1.kind, ih]
  | stored before ih => exact ih
  | minted before contract done ih => rw [(mint_only done).kind, ih]
  | burned before contract done ih => rw [(burn_only done).kind, ih]

theorem sameIssuers (h : Course actor w v log) : SameIssuers w v := by
  induction h with
  | start => exact fun _ => ⟨rfl, rfl⟩
  | moved before sent ih => exact ih.trans (transfer_only sent).1.sameIssuers
  | stored before ih => exact ih
  | minted before contract done ih => exact ih.trans (mint_only done).sameIssuers
  | burned before contract done ih => exact ih.trans (burn_only done).sameIssuers

/-- The count of a receipt contract changes by what it announces. -/
theorem supply (h : Course actor w v log) (r : Address) :
    (v.receipt r).supply + tally log r Event.destroyed = (w.receipt r).supply + tally log r Event.created := by
  induction h with
  | start => rfl
  | moved before sent ih =>
    rw [(transfer_only sent).2]
    exact ih
  | stored before ih => exact ih
  | minted before contract done ih =>
    have counted := mint_supply done r
    obtain ⟨_, _, _, _, _, _, _, rfl⟩ := mint_eq_ok_iff.1 done
    rw [tally_append, tally_append, tally_single, tally_single, counted]
    simp only [Event.created, Event.destroyed, ite_self]
    omega
  | burned before contract done ih =>
    have counted := burn_supply done r
    obtain ⟨_, _, _, _, _, _, _, _, _, _, rfl⟩ := burn_eq_ok_iff.1 done
    rw [tally_append, tally_append, tally_single, tally_single]
    simp only [Event.created, Event.destroyed, ite_self]
    omega

/-- Receipts are created and destroyed by contracts with a token, and only for a minter. -/
theorem authorized (h : Course actor w v log) {entry : LogEntry} (logged : entry ∈ log) {minter : Address}
    (loud : entry.event.minter? = some minter) :
    minter = actor ∧ actor ∈ (w.receipt entry.source).minters ∧ w.kind entry.source = some .receipt ∧
      ∃ T, (w.receipt entry.source).token = some T := by
  induction h with
  | start => cases logged
  | moved before sent ih => exact ih logged
  | stored before ih => exact ih logged
  | minted before contract done ih =>
    rcases List.mem_append.1 logged with old | new
    · exact ih old
    · obtain ⟨T, isMinter, _, _, issued, _, _, rfl⟩ := mint_eq_ok_iff.1 done
      cases List.mem_singleton.1 new
      cases loud
      rw [before.kind] at contract
      rw [(before.sameIssuers _).1] at issued
      rw [(before.sameIssuers _).2] at isMinter
      exact ⟨rfl, isMinter, contract, T, issued⟩
  | burned before contract done ih =>
    rcases List.mem_append.1 logged with old | new
    · exact ih old
    · obtain ⟨T, isMinter, _, issued, _, _, _, _, _, _, rfl⟩ := burn_eq_ok_iff.1 done
      cases List.mem_singleton.1 new
      cases loud
      rw [before.kind] at contract
      rw [(before.sameIssuers _).1] at issued
      rw [(before.sameIssuers _).2] at isMinter
      exact ⟨rfl, isMinter, contract, T, issued⟩

/-! #### What a call consists of -/

theorem transferAll (h : Course actor w v log) (paid : v.transferAll source target payments = .ok v') :
    Course actor w v' log := by
  induction payments generalizing v with
  | nil =>
    cases paid
    exact h
  | cons payment rest ih =>
    obtain ⟨v₁, first, others⟩ := bind_eq_ok_iff.1 paid
    exact ih (h.moved first) others

theorem send (h : Course actor w v log) (sent : v.send source target token n = .ok v') : Course actor w v' log := by
  unfold World.send at sent
  split at sent
  · cases sent
    exact h
  · exact h.moved sent

theorem returnReceipts (h : Course actor w v log) (returned : v.returnReceipts actor x owner n = .ok (v', entries)) :
    Course actor w v' (log ++ entries) := by
  unfold World.returnReceipts at returned
  split at returned
  · cases returned
    rwa [List.append_nil]
  · obtain ⟨token, known, returned⟩ := bind_eq_ok_iff.1 returned
    obtain ⟨v₁, sent, burned⟩ := bind_eq_ok_iff.1 returned
    have contract : v₁.kind x = some .receipt := by
      rw [(transfer_only sent).1.kind]
      exact (receiptToken_eq_ok_iff.1 known).1
    exact (h.moved sent).burned contract burned

theorem issueReceipts (h : Course actor w v log) (issued : v.issueReceipts actor x owner n = .ok (v', entries)) :
    Course actor w v' (log ++ entries) := by
  unfold World.issueReceipts at issued
  split at issued
  · cases issued
    rwa [List.append_nil]
  · split at issued
    · cases issued
      rwa [List.append_nil]
    · next contract => exact h.minted contract issued
    · cases issued

theorem deliver (h : Course actor w v log) (delivered : v.deliver actor terms out = .ok (v', entries)) :
    Course actor w v' (log ++ entries) := by
  unfold World.deliver at delivered
  obtain ⟨⟨v₁, log₁⟩, lendBurned, delivered⟩ := bind_eq_ok_iff.1 delivered
  obtain ⟨⟨v₂, log₂⟩, borrowBurned, delivered⟩ := bind_eq_ok_iff.1 delivered
  obtain ⟨v₃, settled, delivered⟩ := bind_eq_ok_iff.1 delivered
  obtain ⟨⟨v₄, log₄⟩, lendMinted, delivered⟩ := bind_eq_ok_iff.1 delivered
  obtain ⟨⟨v₅, log₅⟩, borrowMinted, delivered⟩ := bind_eq_ok_iff.1 delivered
  obtain ⟨v₆, pledged, delivered⟩ := bind_eq_ok_iff.1 delivered
  cases pure_eq_ok_iff.1 delivered
  have burned := (h.returnReceipts lendBurned).returnReceipts borrowBurned
  have minted := ((burned.send settled).issueReceipts lendMinted).issueReceipts borrowMinted
  simpa only [List.append_assoc] using minted.send pledged

end Course

/-! ### What an action does to receipts -/

/-- Receipt contracts may get other minters, but nothing else about receipts differs. -/
structure SameReceipts (w w' : World) : Prop where
  kind : w'.kind = w.kind
  balance : w'.balance = w.balance
  token : ∀ r, (w'.receipt r).token = (w.receipt r).token
  supply : ∀ r, (w'.receipt r).supply = (w.receipt r).supply

/-- What an action at `c.self` leaves of receipts, and what it announces. -/
inductive Dealing (w : World) (c : Context) : World → List LogEntry → Prop where
  | direct {w' : World} {log : List LogEntry} (course : Course c.caller w w' log)
      (own : ∀ entry ∈ log, entry.source = c.self) : Dealing w c w' log
  | onBehalf {w' : World} {log : List LogEntry} (market : w.kind c.self = some .market)
      (course : Course c.self w w' log) (events : List Event) : Dealing w c w' (log ++ events.map (⟨c.self, ·⟩))
  | issued {w' : World} (contract : w.kind c.self = some .receipt) (ticker : List UInt8) (price : Nat)
      (issued : w.issue c.self ticker price = .ok w') : Dealing w c w' []
  | none {w' : World} {log : List LogEntry} (same : SameReceipts w w')
      (quiet : ∀ r, w.kind r = none ∨ w.kind r = some .receipt → Quiet r log) : Dealing w c w' log

/-- Contracts of other kinds announce no receipts. -/
theorem quiet_of_kind {kind : Kind} (known : w.kind x = some kind) (other : kind ≠ .receipt)
    (serving : w.kind r = none ∨ w.kind r = some .receipt) (events : List Event) :
    Quiet r (events.map (⟨x, ·⟩)) := by
  apply quiet_of_elsewhere
  rintro rfl
  rw [known] at serving
  rcases serving with absent | receipt
  · cases absent
  · exact other (Option.some.inj receipt)

/-- A receipt contract announces new and former minters, which are no receipts. -/
theorem setReceipt_dealing {receipt : Receipt} {events : List Event}
    (token : receipt.token = (w.receipt c.self).token) (supply : receipt.supply = (w.receipt c.self).supply)
    (quiet : ∀ event ∈ events, event.minter? = none) :
    Dealing w c (w.setReceipt c.self receipt) (events.map (⟨c.self, ·⟩)) := by
  refine .none ⟨rfl, rfl, put_agree (g := Receipt.token) token, put_agree (g := Receipt.supply) supply⟩ ?_
  intro r _ entry logged _
  obtain ⟨event, member, rfl⟩ := List.mem_map.1 logged
  exact quiet event member

theorem ReceiptOutcome.dealing {action : Receipt.Action} (known : w.kind c.self = some .receipt)
    (h : w.ReceiptOutcome c action o) : Dealing w c o.world o.log := by
  cases h with
  | issued paid issued => exact .issued known _ _ issued
  | minted minted =>
    refine .direct (Course.start.minted known minted) ?_
    obtain ⟨_, _, _, _, _, _, _, rfl⟩ := mint_eq_ok_iff.1 minted
    simp
  | burned burned =>
    refine .direct (Course.start.burned known burned) ?_
    obtain ⟨_, _, _, _, _, _, _, _, _, _, rfl⟩ := burn_eq_ok_iff.1 burned
    simp
  | added approved added =>
    obtain ⟨_, rfl, rfl⟩ := Receipt.addMinter_eq_ok_iff.1 added
    refine setReceipt_dealing rfl rfl ?_
    split <;> simp [Event.minter?]
  | removed approved removed =>
    cases (Receipt.removeMinter_eq _ _).symm.trans removed
    refine setReceipt_dealing rfl rfl ?_
    split <;> simp [Event.minter?]

theorem actOnPool_dealing {id : Nat} {action : Pool.Action} (market : w.kind c.self = some .market)
    (h : w.actOnPool c id action = .ok o) : Dealing w c o.world o.log := by
  unfold actOnPool at h
  obtain ⟨_, _, h⟩ := bind_eq_ok_iff.1 h
  obtain ⟨p, _, h⟩ := bind_eq_ok_iff.1 h
  obtain ⟨t, _, concluded⟩ := bind_eq_ok_iff.1 h
  obtain ⟨⟨w', log⟩, delivered, rest⟩ := bind_eq_ok_iff.1 concluded
  cases pure_eq_ok_iff.1 rest
  exact .onBehalf market (Course.start.stored.deliver delivered) t.events

theorem act_dealing (known : w.kind c.self = some action.kind) (h : w.act c action = .ok o) :
    Dealing w c o.world o.log := by
  cases act_outcome h with
  | registry performed =>
    exact .none ⟨rfl, rfl, fun _ => rfl, fun _ => rfl⟩ fun r serving => quiet_of_kind known nofun serving [_]
  | feed answer => exact .none ⟨rfl, rfl, fun _ => rfl, fun _ => rfl⟩ fun _ _ _ logged => nomatch logged
  | oracle approved changed =>
    exact .none ⟨rfl, rfl, fun _ => rfl, fun _ => rfl⟩ fun r serving => quiet_of_kind known nofun serving _
  | receipt outcome => exact outcome.dealing known
  | market outcome =>
    cases outcome with
    | created | set | switched =>
      exact .none ⟨rfl, rfl, fun _ => rfl, fun _ => rfl⟩ fun r serving => quiet_of_kind known nofun serving [_]
    | acted done => exact actOnPool_dealing known done

/-- A call that succeeds moves its payments, and then does what its action does. -/
theorem call_dealing {caller : Address} {request : Request}
    (h : w.call ⟨caller, target, request, payments⟩ = .ok o) :
    ∃ w₁, w.transferAll caller target payments = .ok w₁ ∧ Dealing w₁ ⟨caller, target, payments⟩ o.world o.log := by
  cases call_outcome h with
  | asked paid =>
    exact ⟨_, paid, .none ⟨rfl, rfl, fun _ => rfl, fun _ => rfl⟩ fun _ _ _ logged => nomatch logged⟩
  | acted paid accepted done => exact ⟨_, paid, act_dealing (kind_of_accept accepted) done⟩

end World

end TermLending
