import TermLending.Proofs.Market
import TermLending.Proofs.World.Aside
import TermLending.Proofs.World.Run

/-!
# What a move does to a market

A move of somebody else acts on one pool, creates a pool, or is none of the market's business. Everything that holds
along runs is proved from these three cases.
-/

namespace TermLending.World

variable {self account : Address} {w w' w₁ : World} {m : Move} {c : Call} {o : Outcome} {fault : Fault}

inductive Turn (home : Address) (w : World) (m : Move) (w' : World) : Prop where
  | acted (e : Errand) (p : Pool) (t : Transition) (w₁ : World) (other : e.caller ≠ home)
      (paid : w.transferAll e.caller home e.payments = .ok w₁)
      (read : (w.market home).pool? e.id = some p)
      (accepted : p.act (w₁.scene home e.caller e.payments e.id p) e.action = .ok t)
      (delivered :
        (w₁.setMarket home ((w.market home).setPool e.id t.pool)).Delivered home t.pool.toTerms t.payout w')
      (entry : w.entry? home m = some ⟨e.id, e.action, w.released t.pool.toTerms t.payout⟩)
      (asked : errand? home m = some e)
  | created (caller : Address) (payments : List Payment) (w₁ : World) (terms : Terms) (market : Market) (id : Nat)
      (event : Event) (other : caller ≠ home)
      (paid : w.transferAll caller home payments = .ok w₁)
      (created : (w.market home).create terms = .ok (market, id, event))
      (after : w' = w₁.setMarket home market)
      (silent : w.entry? home m = none)
  | aside (aside : w.Aside home w') (silent : w.entry? home m = none)

theorem entry_of_errand_none (h : errand? self m = none) : w.entry? self m = none := by
  unfold entry?
  rw [h]
  split <;> simp_all

theorem entry_of_refused (h : w.call c = .error fault) : w.entry? self (.call c) = none := by
  unfold entry?
  cases errand? self (.call c) with
  | none => rfl
  | some e =>
    dsimp only
    rw [h]

theorem entry_of_accepted {caller : Address} {payments : List Payment} {id : Nat} {action : Pool.Action}
    {t : Transition} (h : w.call ⟨caller, self, .act (.market (.onPool id action)), payments⟩ = .ok o)
    (accepted : w.transitionOf self ⟨caller, id, action, payments⟩ = .ok t) :
    w.entry? self (.call ⟨caller, self, .act (.market (.onPool id action)), payments⟩) =
      some ⟨id, action, w.released t.pool.toTerms t.payout⟩ := by
  have errand : errand? self (.call ⟨caller, self, .act (.market (.onPool id action)), payments⟩) =
      some ⟨caller, id, action, payments⟩ := if_pos rfl
  unfold entry?
  rw [errand]
  dsimp only
  rw [h, accepted]

/-! ### Calls -/

/-- An action on another contract, seen from a market. -/
theorem act_aside {context : Context} {action : Action} (market : w.kind self = some .market)
    (other : context.caller ≠ self) (elsewhere : context.self ≠ self) (h : w.act context action = .ok o) :
    w.Aside self o.world := by
  cases act_outcome h with
  | registry | feed | oracle => exact .of_storage rfl rfl (fun _ => rfl) rfl rfl
  | receipt outcome => exact outcome.aside other elsewhere
  | market outcome =>
    cases outcome with
    | created | set | switched => exact setMarket_aside_of_ne elsewhere _
    | acted done => exact actOnPool_aside market elsewhere done

/-- A market serves nothing but the actions of markets. -/
theorem market_action_of_accept {context : Context} {action : Action} (market : w.kind context.self = some .market)
    (h : w.accept context action = .ok ()) : ∃ request, action = .market request := by
  simp only [accept, bind_eq_ok_iff, demand_eq_ok_iff, exists_const, market] at h
  cases action with
  | market request => exact ⟨request, rfl⟩
  | _ => cases h.1

theorem call_turn {caller target : Address} {request : Request} {payments : List Payment}
    (market : w.kind self = some .market) (other : caller ≠ self)
    (h : w.call ⟨caller, target, request, payments⟩ = .ok o) :
    Turn self w (.call ⟨caller, target, request, payments⟩) o.world := by
  cases call_outcome h with
  | asked paid => exact .aside (transferAll_aside other paid) (entry_of_errand_none rfl)
  | @acted _ _ action _ w₁ _ paid accepted acted =>
    have only := (transferAll_only paid).1
    have brought := transferAll_aside other paid
    by_cases here : target = self
    · subst here
      obtain ⟨request, rfl⟩ := market_action_of_accept (only.kind ▸ market) accepted
      cases actOnMarket_outcome acted with
      | created approved created =>
        rw [only.market] at created
        exact .created caller payments w₁ _ _ _ _ other paid created rfl (entry_of_errand_none rfl)
      | set approved set =>
        obtain ⟨pools, receipts⟩ := set_frame set
        exact .aside (.trans only brought (setMarket_aside pools receipts)) (entry_of_errand_none rfl)
      | switched paused =>
        exact .aside (.trans only brought (setMarket_aside rfl rfl)) (entry_of_errand_none rfl)
      | @acted id action _ done =>
        obtain ⟨p, t, _, read, transition, delivered⟩ := actOnPool_eq_ok done
        have made : w.transitionOf target ⟨caller, id, action, payments⟩ = .ok t :=
          bind_eq_ok_iff.2 ⟨w₁, paid, bind_eq_ok_iff.2 ⟨p, Market.pool_eq_ok_iff.2 read, transition⟩⟩
        dsimp only at read delivered
        rw [only.market] at read delivered
        exact .acted ⟨caller, id, action, payments⟩ p t w₁ other paid read transition delivered
          (entry_of_accepted h made) (if_pos rfl)
    · have away := act_aside (only.kind ▸ market) other here acted
      refine .aside (.trans only brought away) (entry_of_errand_none ?_)
      unfold errand?
      split
      · next same =>
        cases same
        exact if_neg here
      · rfl

theorem turn_of_move (market : w.kind self = some .market) (other : m.sender ≠ some self) :
    Turn self w m (w.after m) := by
  have outcome := w.after_outcome m
  generalize w.after m = w' at outcome ⊢
  cases outcome with
  | called done => exact call_turn market (fun here => other (congrArg some here)) done
  | refused failed => exact .aside (.refl self w) (entry_of_refused failed)
  | sent done =>
    exact .aside (transfer_aside (fun here => other (congrArg some here)) done) (entry_of_errand_none rfl)
  | deployed free done => exact .aside (deploy_aside free market done) (entry_of_errand_none rfl)
  | unsent | undeployed => exact .aside (.refl self w) (entry_of_errand_none rfl)
  | waited => exact .aside (.of_storage rfl rfl (fun _ => rfl) rfl rfl) (entry_of_errand_none rfl)

end TermLending.World
