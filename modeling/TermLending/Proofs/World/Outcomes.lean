import TermLending.Proofs.Registry
import TermLending.Proofs.World.Payouts
import TermLending.World.Call

/-!
# What comes of an action

A contract that is asked for an action and carries it out leaves one of a few outcomes behind, one for each action that it
knows, and a contract that is deployed starts from one of five storages. Whatever is kept by actions and by deployments is
proved from these cases.
-/

namespace TermLending.World

variable {w w' : World} {c : Context} {o : Outcome} {deployer account : Address} {blueprint : Blueprint}

/-- What comes of an action that a market carries out. -/
inductive MarketOutcome (w : World) (c : Context) : Market.Action → Outcome → Prop where
  | created {terms : Terms} {market : Market} {id : Nat} {event : Event}
      (approved : w.requireApproved (w.market c.self).registry c.caller c.self = .ok ())
      (created : (w.market c.self).create terms = .ok (market, id, event)) :
      MarketOutcome w c (.create terms)
        { world := w.setMarket c.self market, reply := .number id, log := [⟨c.self, event⟩] }
  | set {setting : Market.Setting} {market : Market} {event : Event}
      (approved : w.requireApproved (w.market c.self).registry c.caller c.self = .ok ())
      (set : (w.market c.self).set setting = .ok (market, event)) :
      MarketOutcome w c (.set setting) { world := w.setMarket c.self market, log := [⟨c.self, event⟩] }
  | switched (paused : Bool) :
      MarketOutcome w c (.switch paused) {
        world := w.setMarket c.self { w.market c.self with paused }
        log := [⟨c.self, if paused then .pausedByDeployer else .resumedByDeployer⟩] }
  | acted {id : Nat} {action : Pool.Action} {o : Outcome} (done : w.actOnPool c id action = .ok o) :
      MarketOutcome w c (.onPool id action) o

theorem actOnMarket_outcome {action : Market.Action} (h : w.actOnMarket c action = .ok o) :
    MarketOutcome w c action o := by
  unfold actOnMarket at h
  cases action with
  | create terms =>
    simp only [bind_eq_ok_iff, pure_eq_ok_iff, Prod.exists] at h
    obtain ⟨_, approved, market, id, event, created, rfl⟩ := h
    exact .created approved created
  | set setting =>
    simp only [bind_eq_ok_iff, pure_eq_ok_iff, Prod.exists] at h
    obtain ⟨_, approved, market, event, set, rfl⟩ := h
    exact .set approved set
  | switch paused =>
    cases pure_eq_ok_iff.1 h
    exact .switched paused
  | onPool id action => exact .acted h

/-- What comes of an action that a receipt contract carries out. -/
inductive ReceiptOutcome (w : World) (c : Context) : Receipt.Action → Outcome → Prop where
  | issued {name ticker : List UInt8} {decimals price : Nat} {w' : World} (paid : issuePrice c.attached = .ok price)
      (issued : w.issue c.self ticker price = .ok w') : ReceiptOutcome w c (.issue name ticker decimals) { world := w' }
  | minted {owner : Address} {amount : Nat} {w' : World} {log : List LogEntry}
      (minted : w.mint c.self c.caller owner amount = .ok (w', log)) :
      ReceiptOutcome w c (.mint owner amount) { world := w', log }
  | burned {owner : Address} {amount : Nat} {w' : World} {log : List LogEntry}
      (burned : w.burn c.self c.caller owner amount c.attached = .ok (w', log)) :
      ReceiptOutcome w c (.burn owner amount) { world := w', log }
  | added {minter : Address} {receipt : Receipt} {events : List Event}
      (approved : w.requireApproved (w.receipt c.self).registry c.caller c.self = .ok ())
      (added : (w.receipt c.self).addMinter minter = .ok (receipt, events)) :
      ReceiptOutcome w c (.addMinter minter) {
        world := w.setReceipt c.self receipt
        reply := .flag !events.isEmpty
        log := events.map (⟨c.self, ·⟩) }
  | removed {minter : Address} {receipt : Receipt} {events : List Event}
      (approved : w.requireApproved (w.receipt c.self).registry c.caller c.self = .ok ())
      (removed : (w.receipt c.self).removeMinter minter = (receipt, events)) :
      ReceiptOutcome w c (.removeMinter minter) {
        world := w.setReceipt c.self receipt
        reply := .flag !events.isEmpty
        log := events.map (⟨c.self, ·⟩) }

theorem actOnReceipt_outcome {action : Receipt.Action} (h : w.actOnReceipt c action = .ok o) :
    ReceiptOutcome w c action o := by
  unfold actOnReceipt at h
  cases action with
  | issue name ticker decimals =>
    simp only [bind_eq_ok_iff, pure_eq_ok_iff] at h
    obtain ⟨price, paid, w', issued, rfl⟩ := h
    exact .issued paid issued
  | mint owner amount =>
    simp only [bind_eq_ok_iff, pure_eq_ok_iff, Prod.exists] at h
    obtain ⟨w', log, minted, rfl⟩ := h
    exact .minted minted
  | burn owner amount =>
    simp only [bind_eq_ok_iff, pure_eq_ok_iff, Prod.exists] at h
    obtain ⟨w', log, burned, rfl⟩ := h
    exact .burned burned
  | addMinter minter =>
    simp only [bind_eq_ok_iff, pure_eq_ok_iff, Prod.exists] at h
    obtain ⟨_, approved, receipt, events, added, rfl⟩ := h
    exact .added approved added
  | removeMinter minter =>
    simp only [bind_eq_ok_iff, pure_eq_ok_iff] at h
    obtain ⟨_, approved, rfl⟩ := h
    exact .removed approved rfl

/-- What an oracle makes of an action, and what it announces. -/
inductive OracleOutcome (oracle : Oracle) : Oracle.Action → Oracle → List Event → Prop where
  | priced {token : Token} {price : Nat} {oracle' : Oracle} {event : Event}
      (done : oracle.setPrice token price = .ok (oracle', event)) :
      OracleOutcome oracle (.setPrice token price) oracle' [event]
  | row {tokens : List Token} {prices : List Nat} {oracle' : Oracle} {events : List Event}
      (lengths : tokens.length = prices.length) (done : oracle.setEach (tokens.zip prices) = .ok (oracle', events)) :
      OracleOutcome oracle (.setPrices tokens prices) oracle' events
  | pricedById {id price : Nat} {oracle' : Oracle} {event : Event}
      (done : oracle.setIdPrice id price = .ok (oracle', event)) :
      OracleOutcome oracle (.setIdPrice id price) oracle' [event]
  | fed {token : Token} {config : FeedConfig} {oracle' : Oracle} {event : Event}
      (done : oracle.setFeed token config = .ok (oracle', event)) :
      OracleOutcome oracle (.setFeed token config) oracle' [event]
  | fedById {id : Nat} {config : FeedConfig} {oracle' : Oracle} {event : Event}
      (done : oracle.setIdFeed id config = .ok (oracle', event)) :
      OracleOutcome oracle (.setIdFeed id config) oracle' [event]
  | divided {divisor : Nat} {oracle' : Oracle} {event : Event}
      (done : oracle.setDivisor divisor = .ok (oracle', event)) :
      OracleOutcome oracle (.setDivisor divisor) oracle' [event]
  | bound {token : Token} {id : Nat} {oracle' : Oracle} (done : oracle.bindToken token id = .ok oracle') :
      OracleOutcome oracle (.bindToken token id) oracle' []

theorem announceOne_eq_ok {result : Except Fault (Oracle × Event)} {oracle : Oracle} {events : List Event}
    (h : oracleAfter.announceOne result = .ok (oracle, events)) :
    ∃ event, result = .ok (oracle, event) ∧ events = [event] := by
  obtain ⟨⟨_, event⟩, done, h⟩ := bind_eq_ok_iff.1 h
  cases pure_eq_ok_iff.1 h
  exact ⟨event, done, rfl⟩

theorem oracleAfter_outcome {oracle oracle' : Oracle} {action : Oracle.Action} {events : List Event}
    (h : oracleAfter oracle action = .ok (oracle', events)) : OracleOutcome oracle action oracle' events := by
  cases action with
  | setPrice token price =>
    obtain ⟨event, done, rfl⟩ := announceOne_eq_ok h
    exact .priced done
  | setPrices tokens prices =>
    obtain ⟨_, lengths, done⟩ := bind_eq_ok_iff.1 h
    exact .row (demand_eq_ok_iff.1 lengths) done
  | setIdPrice id price =>
    obtain ⟨event, done, rfl⟩ := announceOne_eq_ok h
    exact .pricedById done
  | setFeed token config =>
    obtain ⟨event, done, rfl⟩ := announceOne_eq_ok h
    exact .fed done
  | setIdFeed id config =>
    obtain ⟨event, done, rfl⟩ := announceOne_eq_ok h
    exact .fedById done
  | setDivisor divisor =>
    obtain ⟨event, done, rfl⟩ := announceOne_eq_ok h
    exact .divided done
  | bindToken token id =>
    obtain ⟨_, done, h⟩ := bind_eq_ok_iff.1 h
    cases pure_eq_ok_iff.1 h
    exact .bound done

/-- What comes of an action that the contract at `c.self` carries out, whichever it is. -/
inductive ActionOutcome (w : World) (c : Context) : Action → Outcome → Prop where
  | registry {action : Registry.Action} {registry : Registry} {index : Nat} {reply : Reply} {event : Event}
      (performed : (w.registry c.self).perform ⟨c.caller, action⟩ = .ok (registry, index)) :
      ActionOutcome w c (.registry action) { world := w.setRegistry c.self registry, reply, log := [⟨c.self, event⟩] }
  | feed (answer : Nat) : ActionOutcome w c (.feed answer) { world := w.setFeed c.self { w.feed c.self with answer } }
  | oracle {action : Oracle.Action} {oracle : Oracle} {events : List Event}
      (approved : w.requireApproved (w.oracle c.self).registry c.caller c.self = .ok ())
      (changed : oracleAfter (w.oracle c.self) action = .ok (oracle, events)) :
      ActionOutcome w c (.oracle action) { world := w.setOracle c.self oracle, log := events.map (⟨c.self, ·⟩) }
  | receipt {action : Receipt.Action} {o : Outcome} (outcome : w.ReceiptOutcome c action o) :
      ActionOutcome w c (.receipt action) o
  | market {action : Market.Action} {o : Outcome} (outcome : w.MarketOutcome c action o) :
      ActionOutcome w c (.market action) o

theorem act_outcome {action : Action} (h : w.act c action = .ok o) : w.ActionOutcome c action o := by
  cases action with
  | registry action =>
    change w.actOnRegistry c action = .ok o at h
    unfold actOnRegistry at h
    cases action <;>
      · simp only [bind_eq_ok_iff, pure_eq_ok_iff, Prod.exists] at h
        obtain ⟨_, _, performed, rfl⟩ := h
        exact .registry performed
  | feed answer =>
    cases pure_eq_ok_iff.1 h
    exact .feed answer
  | oracle action =>
    simp only [act, actOnOracle, bind_eq_ok_iff, pure_eq_ok_iff, Prod.exists] at h
    obtain ⟨_, approved, _, _, changed, rfl⟩ := h
    exact .oracle approved changed
  | receipt action => exact .receipt (actOnReceipt_outcome h)
  | market action => exact .market (actOnMarket_outcome h)

/-- The first storage of a contract. -/
inductive Founded (w : World) (account : Address) : Blueprint → World → Prop where
  | registry {threshold : Nat} {signers : List Address} (registry : Registry)
      (established : Registry.establish threshold signers = .ok registry) :
      Founded w account (.registry threshold signers) (w.setRegistry account registry)
  | feed {decimals answer : Nat} : Founded w account (.feed decimals answer) (w.setFeed account { decimals, answer })
  | oracle {registry : Address} :
      Founded w account (.oracle registry) (w.setOracle account { registry, divisor := Oracle.defaultDivisor })
  | receipt {registry : Address} : Founded w account (.receipt registry) (w.setReceipt account { registry })
  | market {registry oracle feeAddress : Address} (market : Market)
      (established : Market.establish registry oracle feeAddress = .ok market) :
      Founded w account (.market registry oracle feeAddress) (w.setMarket account market)

theorem build_founded (h : w.build account blueprint = .ok w') : Founded w account blueprint w' := by
  cases blueprint with
  | registry threshold signers =>
    obtain ⟨registry, established, rfl⟩ := bind_pure_eq_ok_iff.1 h
    exact .registry registry established
  | feed decimals answer =>
    cases pure_eq_ok_iff.1 h
    exact .feed
  | oracle registry =>
    obtain ⟨oracle, established, rfl⟩ := bind_pure_eq_ok_iff.1 h
    obtain ⟨_, _, rfl⟩ := bind_pure_eq_ok_iff.1 established
    exact .oracle
  | receipt registry =>
    obtain ⟨receipt, established, rfl⟩ := bind_pure_eq_ok_iff.1 h
    obtain ⟨_, _, rfl⟩ := bind_pure_eq_ok_iff.1 established
    exact .receipt
  | market registry oracle feeAddress =>
    obtain ⟨market, established, rfl⟩ := bind_pure_eq_ok_iff.1 h
    exact .market market established

theorem deploy_outcome (h : w.deploy deployer account blueprint = .ok w') :
    ∃ w₁, Founded w account blueprint w₁ ∧
      w' = { w₁ with kind := put w₁.kind account (some blueprint.kind), deployer := put w₁.deployer account deployer } := by
  obtain ⟨_, _, h⟩ := bind_eq_ok_iff.1 h
  obtain ⟨w₁, built, rfl⟩ := bind_pure_eq_ok_iff.1 h
  exact ⟨w₁, build_founded built, rfl⟩

/-- New storage changes nothing elsewhere, and counts no receipts. -/
theorem Founded.frame (h : Founded w account blueprint w') :
    w'.kind = w.kind ∧ w'.balance = w.balance ∧ (∀ a, a ≠ account → w'.market a = w.market a) ∧
      ∀ r, w'.receipt r = w.receipt r ∨ r = account ∧ (w'.receipt r).supply = 0 := by
  cases h with
  | receipt =>
    refine ⟨rfl, rfl, fun _ _ => rfl, fun r => ?_⟩
    by_cases here : r = account
    · subst here
      exact .inr ⟨rfl, congrArg Receipt.supply (put_self w.receipt r _)⟩
    · exact .inl (put_of_ne w.receipt account _ here)
  | market market established => exact ⟨rfl, rfl, fun _ elsewhere => put_of_ne _ _ _ elsewhere, fun _ => .inl rfl⟩
  | _ => exact ⟨rfl, rfl, fun _ _ => rfl, fun _ => .inl rfl⟩

end TermLending.World
