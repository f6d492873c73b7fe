import TermLending.Proofs.World.Payouts
import TermLending.World.Call

/-!
# Runs

Accounts call contracts, pass tokens on and deploy contracts, and time jumps to wherever it likes. What fails leaves
the world as it was. A run is a list of such moves; the journal of a market lists what its pools released on the way.
-/

namespace TermLending

inductive Move where
  | call (call : Call)
  | transfer (source target : Address) (payment : Payment)
  | deploy (deployer account : Address) (blueprint : World.Blueprint)
  | wait (now : Nat)

/-- Who makes a move. Time passes by itself. -/
def Move.sender : Move → Option Address
  | .call c => some c.caller
  | .transfer source _ _ => some source
  | .deploy deployer _ _ => some deployer
  | .wait _ => none

namespace World

def afterwards (w : World) : Except Fault World → World
  | .ok w' => w'
  | .error _ => w

def after (w : World) : Move → World
  | .call c => w.afterwards (do return (← w.call c).world)
  | .transfer source target payment => w.afterwards (w.transfer source target payment.token payment.amount)
  | .deploy deployer account blueprint =>
      if w.kind account = none then w.afterwards (w.deploy deployer account blueprint) else w
  | .wait now => { w with now }

def play (w : World) (moves : List Move) : World := moves.foldl after w

/-- A market has just been deployed at `self`, in whatever world. -/
def Launched (self : Address) (w : World) : Prop :=
  ∃ (before : World) (deployer registry oracle feeAddress : Address),
    before.deploy deployer self (.market registry oracle feeAddress) = .ok w

/-- The code of a market makes no calls of its own, so what it does it does in the calls of others. -/
def Foreign (self : Address) (moves : List Move) : Prop := ∀ m ∈ moves, m.sender ≠ some self

/-- Something holds before, between and after the moves of a run. -/
def Throughout (Q : World → Prop) (w : World) : List Move → Prop
  | [] => Q w
  | m :: rest => Q w ∧ Throughout Q (w.after m) rest

instance decidableThroughout (Q : World → Prop) [DecidablePred Q] (w : World) :
    (moves : List Move) → Decidable (Throughout Q w moves)
  | [] => inferInstanceAs (Decidable (Q w))
  | m :: rest =>
      have := decidableThroughout Q (w.after m) rest
      inferInstanceAs (Decidable (_ ∧ _))

/-! ### Journals -/

structure Errand where
  caller : Address
  id : Nat
  action : Pool.Action
  payments : List Payment

/-- The errand of a move on the market at `self`. -/
def errand? (self : Address) : Move → Option Errand
  | .call ⟨caller, target, .act (.market (.onPool id action)), payments⟩ =>
      if target = self then some ⟨caller, id, action, payments⟩ else none
  | _ => none

/-- What the pool makes of an errand, once its payments have arrived. -/
def transitionOf (w : World) (self : Address) (e : Errand) : Except Fault Transition := do
  let w ← w.transferAll e.caller self e.payments
  let p ← (w.market self).pool e.id
  p.act (w.scene self e.caller e.payments e.id p) e.action

structure Entry where
  id : Nat
  action : Pool.Action
  payout : Payout

/-- The entry of a call, if it asks a pool for an action and succeeds. -/
def entry? (self : Address) (w : World) (m : Move) : Option Entry :=
  match m, errand? self m with
  | .call c, some e =>
      match w.call c, w.transitionOf self e with
      | .ok _, .ok t => some ⟨e.id, e.action, w.released t.pool.toTerms t.payout⟩
      | _, _ => none
  | _, _ => none

def journal (self : Address) (w : World) : List Move → List Entry
  | [] => []
  | m :: rest => (w.entry? self m).toList ++ journal self (w.after m) rest

variable {self : Address} {w : World} {m : Move} {moves rest : List Move} {Q I : World → Prop}

theorem after_call_ok {c : Call} {o : Outcome} (h : w.call c = .ok o) : w.after (.call c) = o.world := by
  rw [after, h]
  rfl

theorem after_call_error {c : Call} {fault : Fault} (h : w.call c = .error fault) : w.after (.call c) = w := by
  rw [after, h]
  rfl

/-- What comes of a call that succeeds. The payments move in either case. -/
inductive CallOutcome (w : World) : Call → Outcome → Prop where
  | acted {caller target : Address} {action : Action} {payments : List Payment} {w₁ : World} {o : Outcome}
      (paid : w.transferAll caller target payments = .ok w₁)
      (accepted : w₁.accept ⟨caller, target, payments⟩ action = .ok ())
      (done : w₁.act ⟨caller, target, payments⟩ action = .ok o) :
      CallOutcome w ⟨caller, target, .act action, payments⟩ o
  | asked {caller target : Address} {query : Query} {payments : List Payment} {w₁ : World} {reply : Reply}
      (paid : w.transferAll caller target payments = .ok w₁) :
      CallOutcome w ⟨caller, target, .ask query, payments⟩ { world := w₁, reply }

theorem call_outcome {c : Call} {o : Outcome} (h : w.call c = .ok o) : w.CallOutcome c o := by
  obtain ⟨caller, target, request, payments⟩ := c
  obtain ⟨w₁, paid, h⟩ := bind_eq_ok_iff.1 h
  cases request with
  | act action =>
    obtain ⟨_, accepted, done⟩ := bind_eq_ok_iff.1 h
    exact .acted paid accepted done
  | ask query =>
    obtain ⟨reply, _, rfl⟩ := bind_pure_eq_ok_iff.1 h
    exact .asked paid

/-- What comes of a move. What fails leaves the world as it was. -/
inductive MoveOutcome (w : World) : Move → World → Prop where
  | called {c : Call} {o : Outcome} (done : w.call c = .ok o) : MoveOutcome w (.call c) o.world
  | refused {c : Call} {fault : Fault} (failed : w.call c = .error fault) : MoveOutcome w (.call c) w
  | sent {source target : Address} {payment : Payment} {w' : World}
      (done : w.transfer source target payment.token payment.amount = .ok w') :
      MoveOutcome w (.transfer source target payment) w'
  | unsent {source target : Address} {payment : Payment} : MoveOutcome w (.transfer source target payment) w
  | deployed {deployer account : Address} {blueprint : Blueprint} {w' : World} (free : w.kind account = none)
      (done : w.deploy deployer account blueprint = .ok w') : MoveOutcome w (.deploy deployer account blueprint) w'
  | undeployed {deployer account : Address} {blueprint : Blueprint} :
      MoveOutcome w (.deploy deployer account blueprint) w
  | waited (now : Nat) : MoveOutcome w (.wait now) { w with now }

theorem after_outcome (w : World) (m : Move) : w.MoveOutcome m (w.after m) := by
  cases m with
  | call c =>
    cases result : w.call c with
    | error fault =>
      rw [after_call_error result]
      exact .refused result
    | ok o =>
      rw [after_call_ok result]
      exact .called result
  | transfer source target payment =>
    rw [after]
    cases result : w.transfer source target payment.token payment.amount with
    | error fault => exact .unsent
    | ok w' => exact .sent result
  | deploy deployer account blueprint =>
    rw [after]
    split
    · next free =>
      cases result : w.deploy deployer account blueprint with
      | error fault => exact .undeployed
      | ok w' => exact .deployed free result
    · exact .undeployed
  | wait now => exact .waited now

theorem play_append (w : World) (moves rest : List Move) : w.play (moves ++ rest) = (w.play moves).play rest :=
  List.foldl_append

theorem Throughout.start (h : w.Throughout Q moves) : Q w := by
  cases moves with
  | nil => exact h
  | cons m rest => exact h.1

theorem Throughout.finish (h : w.Throughout Q moves) : Q (w.play moves) := by
  induction moves generalizing w with
  | nil => exact h
  | cons m rest ih => exact ih h.2

theorem throughout_iff :
    w.Throughout Q moves ↔ ∀ earlier later, moves = earlier ++ later → Q (w.play earlier) := by
  induction moves generalizing w with
  | nil =>
    constructor
    · intro h earlier later split
      rw [(List.append_eq_nil_iff.1 split.symm).1]
      exact h
    · intro h
      exact h [] [] rfl
  | cons m rest ih =>
    constructor
    · intro h earlier later split
      rcases List.cons_eq_append_iff.1 split with ⟨rfl, _⟩ | ⟨before, rfl, tail⟩
      · exact h.1
      · exact ih.1 h.2 before later tail
    · intro h
      refine ⟨h [] (m :: rest) rfl, ih.2 ?_⟩
      intro earlier later split
      exact h (m :: earlier) later (by rw [split, List.cons_append])

theorem Throughout.mono (h : w.Throughout Q moves) (weaker : ∀ w, Q w → I w) : w.Throughout I moves := by
  induction moves generalizing w with
  | nil => exact weaker w h
  | cons m rest ih => exact ⟨weaker w h.1, ih h.2⟩

theorem Foreign.earlier (foreign : Foreign self (moves ++ rest)) : Foreign self moves :=
  fun m member => foreign m (List.mem_append_left rest member)

theorem Foreign.later (foreign : Foreign self (moves ++ rest)) : Foreign self rest :=
  fun m member => foreign m (List.mem_append_right moves member)

/-- What holds at the start and is kept by every move, in worlds where `Q` holds, holds at the end. -/
theorem play_invariant (start : I w) (foreign : Foreign self moves) (always : w.Throughout Q moves)
    (step : ∀ w m, I w → m.sender ≠ some self → Q w → Q (w.after m) → I (w.after m)) : I (w.play moves) := by
  induction moves generalizing w with
  | nil => exact start
  | cons m rest ih =>
    have others := foreign m List.mem_cons_self
    exact ih (step w m start others always.1 always.2.start) (fun m' member => foreign m' (List.mem_cons_of_mem m member))
      always.2

theorem throughout_true (w : World) (moves : List Move) : w.Throughout (fun _ => True) moves := by
  induction moves generalizing w with
  | nil => trivial
  | cons m rest ih => exact ⟨trivial, ih (w.after m)⟩

end World

end TermLending
