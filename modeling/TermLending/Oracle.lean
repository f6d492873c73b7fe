import TermLending.Arith.Decimal
import TermLending.Data.Pointwise
import TermLending.Event

/-!
# Prices

The oracle files every token under a number. A number has a price of its own or a feed that is asked for one; a
price counts the value of one whole token at eighteen decimals, and is zero where nothing is known.

A token that is priced for the first time gets the least unused number above the last one handed out. Several tokens
share a number only if one of them was bound to it by hand.
-/

namespace TermLending

/-- A source of prices: the last answer, and the number of decimals it counts. -/
structure Feed where
  decimals : Nat := 0
  answer : Nat := 0
  deriving DecidableEq, Repr

structure FeedConfig where
  feed : Address
  tokenDecimals : Nat
  deriving DecidableEq, Repr

structure Oracle where
  registry : Address := .zero
  /-- The number of a token, zero while it has none. -/
  idOf : Token → Nat := fun _ => 0
  /-- The last number handed out to a token on its first pricing. -/
  lastId : Nat := 0
  usedIds : List Nat := []
  price : Nat → Nat := fun _ => 0
  feedOf : Nat → Option FeedConfig := fun _ => none
  /-- Answers of feeds are divided by this before anything else. -/
  divisor : Nat := 0

namespace Oracle

/-- What answers of feeds are divided by until that is changed. -/
def defaultDivisor : Nat := 1

def establish (registry : Address) : Except Fault Oracle := do
  demand (registry ≠ .zero) .zeroRegistry
  return { registry, divisor := defaultDivisor }

/-- The least number from `start` on that is not in the list, if one of the first `tries` is not. -/
def leastUnused (used : List Nat) (start : Nat) : Nat → Nat
  | 0 => start
  | tries + 1 => if start ∈ used then leastUnused used (start + 1) tries else start

def markUsed (o : Oracle) (id : Nat) : Oracle :=
  if id ∈ o.usedIds then o else { o with usedIds := o.usedIds ++ [id] }

/-- The number a new token gets. As many tries as there are used numbers always reach an unused one. -/
def nextId (o : Oracle) : Nat := leastUnused o.usedIds (o.lastId + 1) o.usedIds.length

/-- The number of a token, handed out now if it has none. -/
def resolve (o : Oracle) (token : Token) : Except Fault (Oracle × Nat) := do
  demand token.isValid .invalidToken
  if o.idOf token ≠ 0 then return (o, o.idOf token)
  else
    let id := o.nextId
    return ({ o.markUsed id with lastId := id, idOf := put o.idOf token id }, id)

def storePrice (o : Oracle) (id price : Nat) : Oracle × Event :=
  ({ o with price := put o.price id price }, .priceSet id price)

def storeFeed (o : Oracle) (id : Nat) (config : FeedConfig) : Except Fault (Oracle × Event) := do
  demand (config.feed ≠ .zero) .zeroAddress
  return ({ o with feedOf := put o.feedOf id (some config) }, .feedSet id config.feed config.tokenDecimals)

def setPrice (o : Oracle) (token : Token) (price : Nat) : Except Fault (Oracle × Event) := do
  let (o, id) ← o.resolve token
  return o.storePrice id price

/-- One `setPrice` after the other. -/
def setEach (o : Oracle) : List (Token × Nat) → Except Fault (Oracle × List Event)
  | [] => .ok (o, [])
  | (token, price) :: rest => do
      let (o, event) ← o.setPrice token price
      let (o, events) ← o.setEach rest
      return (o, event :: events)

def setPrices (o : Oracle) (tokens : List Token) (prices : List Nat) : Except Fault (Oracle × List Event) := do
  demand (tokens.length = prices.length) .lengthMismatch
  o.setEach (tokens.zip prices)

def setIdPrice (o : Oracle) (id price : Nat) : Except Fault (Oracle × Event) := do
  demand (id ≠ 0) .zeroUnderlying
  return (o.markUsed id).storePrice id price

def setFeed (o : Oracle) (token : Token) (config : FeedConfig) : Except Fault (Oracle × Event) := do
  let (o, id) ← o.resolve token
  o.storeFeed id config

def setIdFeed (o : Oracle) (id : Nat) (config : FeedConfig) : Except Fault (Oracle × Event) := do
  demand (id ≠ 0) .zeroUnderlying
  (o.markUsed id).storeFeed id config

def setDivisor (o : Oracle) (divisor : Nat) : Except Fault (Oracle × Event) := do
  demand (0 < divisor) .zeroDivisor
  return ({ o with divisor }, .divisorSet divisor)

/-- Files a token under a number of one's choice, so that several tokens share one price. -/
def bindToken (o : Oracle) (token : Token) (id : Nat) : Except Fault Oracle := do
  demand token.isValid .invalidToken
  demand (id ≠ 0) .zeroUnderlying
  return { o.markUsed id with idOf := put o.idOf token id }

/-- The number of decimals of a price. -/
def priceDecimals : Nat := 18

/-- A feed's answer, brought to eighteen decimals and then lifted by what the token's own decimals lack. -/
def normalize (answer divisor feedDecimals tokenDecimals : Nat) : Except Fault Nat := do
  let raw ← quotient answer divisor
  let value := shiftDecimals raw feedDecimals priceDecimals
  return shiftDecimals value tokenDecimals priceDecimals

/-- The price of a number, where `ask` reaches the feeds. -/
def idPrice (o : Oracle) (ask : Address → Except Fault Feed) (id : Nat) : Except Fault Nat :=
  if id = 0 then .ok 0
  else match o.feedOf id with
    | none => .ok (o.price id)
    | some config => do
        let feed ← ask config.feed
        normalize feed.answer o.divisor feed.decimals config.tokenDecimals

def tokenPrice (o : Oracle) (ask : Address → Except Fault Feed) (token : Token) : Except Fault Nat :=
  o.idPrice ask (o.idOf token)

/-- The feed of a number, the zero address where it has none. -/
def feedConfig (o : Oracle) (id : Nat) : FeedConfig := (o.feedOf id).getD ⟨.zero, 0⟩

end Oracle

end TermLending
