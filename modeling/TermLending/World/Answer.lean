import TermLending.Pool.View
import TermLending.World.Inquiry
import TermLending.World.Message

/-!
# Answering queries

What contracts say about their storage. A query changes nothing.
-/

namespace TermLending

/-- What a pool answers in a scene. -/
def Pool.answer (p : Pool) (s : Scene) : Pool.Query → Except Fault Reply
  | .loan => return .loan p.toLoan
  | .amounts => return .amounts p.toAmounts
  | .phase => return .phase p.phase
  | .prices => return (fun q => .numbers [q.settle, q.pledge]) (← s.prices)
  | .lendPosition user => return .lendPosition (p.lendPosition user)
  | .borrowPosition user => return .borrowPosition (p.borrowPosition user)
  | .lenders => return .addresses p.lenders.items
  | .borrowers => return .addresses p.borrowers.items
  | .readyToSettle => return .flag (p.readyToSettle s.now)
  | .readyToFinish => return .flag (p.readyToFinish s.now)
  | .capacity pledged => return .number (← p.capacityNow s pledged)
  | .due => return .number (← p.dueNow s.now)
  | .lendRecovery => return .number p.lendRecovery
  | .health => return .number (← p.health s)
  | .canLiquidate => return .flag (← p.canLiquidate s)
  | .healthReport => return .healthReport (← p.healthReport s)

/-- Users have no positions in a pool that does not exist, and nothing else is known of it. -/
def answerWithoutPool : Pool.Query → Except Fault Reply
  | .lenders | .borrowers => .ok (.addresses [])
  | .lendPosition _ => .ok (.lendPosition {})
  | .borrowPosition _ => .ok (.borrowPosition {})
  | _ => .error .poolNotFound

namespace World

def askRegistry (r : Registry) : Registry.Query → Except Fault Reply
  | .approval source target start => return .number (r.approval source target start)
  | .digest source target => return .digest (.ofPair source target)
  | .count digest => return .number (r.count digest)
  | .application digest index =>
      match (r.applications digest)[index]? with
      | some application => .ok (.application application)
      | none => .error .indexOutOfBounds
  | .signers => return .addresses r.signers.items
  | .isSigner account => return .flag (account ∈ r.signers)
  | .threshold => return .number r.threshold

def askOracle (w : World) (o : Oracle) : Oracle.Query → Except Fault Reply
  | .price token => return .number (← o.tokenPrice w.askFeed token)
  | .prices tokens => return .numbers (← tokens.mapM (o.tokenPrice w.askFeed))
  | .idPrice id => return .number (← o.idPrice w.askFeed id)
  | .feed token => return .feedConfig (o.feedConfig (o.idOf token))
  | .idFeed id => return .feedConfig (o.feedConfig id)
  | .id token => return .number (o.idOf token)
  | .divisor => return .number o.divisor

def askReceipt (w : World) (r : Receipt) : Receipt.Query → Except Fault Reply
  | .token => return .token (r.token.getD .blank)
  | .supply => return .number r.supply
  | .balance account =>
      match r.token with
      | some token => .ok (.number (w.balance account token))
      | none => .ok (.number 0)
  | .isMinter account => return .flag (account ∈ r.minters)
  | .minterCount => return .number r.minters.size
  | .minter index =>
      match r.minters.get? index with
      | some minter => .ok (.address minter)
      | none => .error .indexOutOfBounds
  | .minters => return .addresses r.minters.items

def askMarket (w : World) (self : Address) : Market.Query → Except Fault Reply
  | .count => return .number (w.market self).pools.length
  | .settings =>
      let m := w.market self
      return .settings m.fees m.feeAddress m.minDeposit m.paused
  | .paused => return .flag (w.market self).paused
  | .oracle => return .address (w.market self).oracle
  | .receipts => return .addresses (w.market self).receipts.items
  | .onPool id query =>
      match (w.market self).pool? id with
      | some p => p.answer (w.scene self .zero [] id p) query
      | none => answerWithoutPool query

/-- The registry that a contract asks for approval. -/
def registryOf (w : World) (a : Address) : Address :=
  match w.kind a with
  | some .oracle => (w.oracle a).registry
  | some .receipt => (w.receipt a).registry
  | some .market => (w.market a).registry
  | _ => .zero

def answer (w : World) (a : Address) : Query → Except Fault Reply
  | .registry query => askRegistry (w.registry a) query
  | .feed .decimals => return .number (w.feed a).decimals
  | .feed .answer => return .number (w.feed a).answer
  | .oracle query => w.askOracle (w.oracle a) query
  | .receipt query => w.askReceipt (w.receipt a) query
  | .market query => w.askMarket a query
  | .registryAddress => return .address (w.registryOf a)

/-- The answer of the contract at `a`, if it knows the question, nothing is paid and the arguments fit. -/
def ask (w : World) (a : Address) (query : Query) (attached : List Payment := []) : Except Fault Reply := do
  match w.kind a with
  | none => .error .noResult
  | some kind =>
      demand (query.isKnownTo kind) .unknownFunction
      refusePayment attached
      checkWords query.words
      w.answer a query

end World

end TermLending
