import TermLending.World.Issuance
import TermLending.World.Message

/-!
# Carrying out actions

What a contract does when it is called. The payment of the call has already reached it.
-/

namespace TermLending

/-- What a contract sees of the call that it serves. -/
structure Context where
  caller : Address
  self : Address
  attached : List Payment := []

/-- What a successful call leaves. -/
structure Outcome where
  world : World
  reply : Reply := .nothing
  log : List LogEntry := []

namespace World

def actOnRegistry (w : World) (c : Context) (action : Registry.Action) : Except Fault Outcome := do
  let r := w.registry c.self
  match action with
  | .submit target =>
      let (r, index) ← r.submit c.caller target
      return {
        world := w.setRegistry c.self r, reply := .number index
        log := [⟨c.self, .applicationOpened c.caller target (.ofPair c.caller target) index⟩] }
  | .sign digest index =>
      let (r, index) ← r.sign c.caller digest index
      return {
        world := w.setRegistry c.self r
        log := [⟨c.self, .applicationSigned c.caller digest index⟩] }
  | .revoke digest index =>
      let (r, index) ← r.revoke c.caller digest index
      return {
        world := w.setRegistry c.self r
        log := [⟨c.self, .signatureRevoked c.caller digest index⟩] }

/-- The oracle after an action, and what it announces. -/
def oracleAfter (o : Oracle) : Oracle.Action → Except Fault (Oracle × List Event)
  | .setPrice token price => announceOne (o.setPrice token price)
  | .setPrices tokens prices => o.setPrices tokens prices
  | .setIdPrice id price => announceOne (o.setIdPrice id price)
  | .setFeed token config => announceOne (o.setFeed token config)
  | .setIdFeed id config => announceOne (o.setIdFeed id config)
  | .setDivisor divisor => announceOne (o.setDivisor divisor)
  | .bindToken token id => return (← o.bindToken token id, [])
where
  announceOne (result : Except Fault (Oracle × Event)) : Except Fault (Oracle × List Event) := do
    let (o, event) ← result
    return (o, [event])

def actOnOracle (w : World) (c : Context) (action : Oracle.Action) : Except Fault Outcome := do
  let o := w.oracle c.self
  w.requireApproved o.registry c.caller c.self
  let (o, events) ← oracleAfter o action
  return { world := w.setOracle c.self o, log := events.map (⟨c.self, ·⟩) }

/-- The price paid for an issue, which is paid in the native coin. -/
def issuePrice : List Payment → Except Fault Nat
  | [] => .ok 0
  | [payment] => if payment.token = .native then .ok payment.amount else .error .tokensRefused
  | _ => .error .tooManyTransfers

def actOnReceipt (w : World) (c : Context) (action : Receipt.Action) : Except Fault Outcome := do
  let r := w.receipt c.self
  match action with
  | .issue _ ticker _ =>
      let price ← issuePrice c.attached
      let w ← w.issue c.self ticker price
      return { world := w }
  | .mint owner amount =>
      let (w, log) ← w.mint c.self c.caller owner amount
      return { world := w, log }
  | .burn owner amount =>
      let (w, log) ← w.burn c.self c.caller owner amount c.attached
      return { world := w, log }
  | .addMinter minter =>
      w.requireApproved r.registry c.caller c.self
      let (r, events) ← r.addMinter minter
      return { world := w.setReceipt c.self r, reply := .flag !events.isEmpty, log := events.map (⟨c.self, ·⟩) }
  | .removeMinter minter =>
      w.requireApproved r.registry c.caller c.self
      let (r, events) := r.removeMinter minter
      return { world := w.setReceipt c.self r, reply := .flag !events.isEmpty, log := events.map (⟨c.self, ·⟩) }

/-- Stores what an accepted action makes of a pool, carries out its payout, and announces it last. -/
def conclude (w : World) (self : Address) (id : Nat) (t : Transition) : Except Fault Outcome := do
  let w := w.setMarket self ((w.market self).setPool id t.pool)
  let (w, log) ← w.deliver self t.pool.toTerms t.payout
  return { world := w, log := log ++ t.events.map (⟨self, ·⟩) }

def actOnPool (w : World) (c : Context) (id : Nat) (action : Pool.Action) : Except Fault Outcome := do
  let m := w.market c.self
  w.gate action.isGated m.registry c.caller c.self
  let p ← m.pool id
  let t ← p.act (w.scene c.self c.caller c.attached id p) action
  w.conclude c.self id t

def actOnMarket (w : World) (c : Context) (action : Market.Action) : Except Fault Outcome := do
  let m := w.market c.self
  match action with
  | .create terms =>
      w.requireApproved m.registry c.caller c.self
      let (m, id, event) ← m.create terms
      return { world := w.setMarket c.self m, reply := .number id, log := [⟨c.self, event⟩] }
  | .set setting =>
      w.requireApproved m.registry c.caller c.self
      let (m, event) ← m.set setting
      return { world := w.setMarket c.self m, log := [⟨c.self, event⟩] }
  | .switch paused =>
      let event := if paused then .pausedByDeployer else .resumedByDeployer
      return { world := w.setMarket c.self { m with paused }, log := [⟨c.self, event⟩] }
  | .onPool id action => w.actOnPool c id action

/-- Carries out an action on a contract that knows it. -/
def act (w : World) (c : Context) : Action → Except Fault Outcome
  | .registry action => w.actOnRegistry c action
  | .feed answer => return { world := w.setFeed c.self { w.feed c.self with answer } }
  | .oracle action => w.actOnOracle c action
  | .receipt action => w.actOnReceipt c action
  | .market action => w.actOnMarket c action

end World

end TermLending
