import Mathlib.Data.Set.Function
import TermLending.Proofs.World.Approvals
import TermLending.Proofs.World.Lifecycle

/-!
# Authority

What the gates of a contract protect changes only in a call of somebody for whom enough signers vouch: who has opened an
application for this very contract, on which the last word of as many signers as the threshold asks is a signature.
-/

namespace TermLending

open Registry

/-- Actions that need approval. -/
def Action.isGated : Action → Bool
  | .oracle _ | .receipt (.addMinter _) | .receipt (.removeMinter _) | .market (.create _) | .market (.set _) => true
  | .market (.onPool _ action) => action.isGated
  | _ => false

/-- The messages that are hashed for a move: who opens an application for what, and who wants to pass which gate. -/
def Move.hashed : Move → List (List UInt8)
  | .call ⟨caller, _, .act (.registry (.submit target)), _⟩ => [caller.bytes ++ target.bytes]
  | .call ⟨caller, target, .act action, _⟩ => if action.isGated then [caller.bytes ++ target.bytes] else []
  | _ => []

namespace World

variable {a caller target deployer registry : Address} {w w' before : World} {m : Move} {moves : List Move}
  {signers : List Address} {threshold id : Nat} {history : List Deed} {action : Action} {o : Outcome} {p p' : Pool}
  {payments : List Payment}

/-- What the gates of a contract protect, whatever kind of contract it is. -/
structure Guarded where
  oracle : Oracle
  minters : Roster Address
  terms : List Terms
  receipts : Roster Address
  priceSource : Address
  fees : Fees
  feeAddress : Address
  minDeposit : Nat

def guarded (w : World) (a : Address) : Guarded where
  oracle := w.oracle a
  minters := (w.receipt a).minters
  terms := (w.market a).pools.map fun p => p.toTerms
  receipts := (w.market a).receipts
  priceSource := (w.market a).oracle
  fees := (w.market a).fees
  feeAddress := (w.market a).feeAddress
  minDeposit := (w.market a).minDeposit

/-! ### Gates -/

theorem Untouched.guarded (h : Untouched a w w') :
    w'.guarded a = w.guarded a ∧ (w'.market a).paused = (w.market a).paused := by
  unfold World.guarded
  rw [h.oracle, h.minters, h.market]
  exact ⟨rfl, rfl⟩

theorem act_approved (known : w.kind a = some action.kind) (gated : action.isGated = true)
    (done : w.act ⟨caller, a, payments⟩ action = .ok o) : w.requireApproved (w.registryOf a) caller a = .ok () := by
  unfold registryOf
  rw [known]
  cases act_outcome done with
  | registry | feed => cases gated
  | oracle approved changed => exact approved
  | receipt outcome =>
    cases outcome with
    | added approved | removed approved => exact approved
    | _ => cases gated
  | market outcome =>
    cases outcome with
    | created approved | set approved => exact approved
    | switched paused => cases gated
    | @acted id request _ done =>
      obtain ⟨_, _, passed, _⟩ := actOnPool_eq_ok done
      have closed : request.isGated = true := gated
      rw [closed] at passed
      exact passed

theorem registryOf_of_only (only : w.TokensOnly w') (a : Address) : w'.registryOf a = w.registryOf a := by
  unfold registryOf
  rw [only.kind, only.oracle, only.market, only.receipt_eq]

/-- Whoever passes a gate is approved when the call comes in. -/
theorem approved_of_carriesOut (carries : m.CarriesOut w caller a action) (gated : action.isGated = true) :
    w.requireApproved (w.registryOf a) caller a = .ok () := by
  obtain ⟨payments, w₁, o, only, accepted, done, _⟩ := carriesOut_elim carries
  rw [← requireApproved_of_only only, ← registryOf_of_only only]
  exact act_approved (kind_of_accept accepted) gated done

/-! ### Ungated actions -/

theorem setPool_guarded {t : Transition} {request : Pool.Action} {s : Scene} (read : (w.market a).pool? id = some p)
    (accepted : p.act s request = .ok t) :
    (w.setMarket a ((w.market a).setPool id t.pool)).guarded a = w.guarded a ∧
      ((w.setMarket a ((w.market a).setPool id t.pool)).market a).paused = (w.market a).paused := by
  unfold guarded
  rw [setMarket_market, Market.terms_setPool read (Pool.act_later accepted).terms]
  exact ⟨rfl, rfl⟩

theorem act_guarded (ungated : action.isGated = false) (done : w.act ⟨caller, a, payments⟩ action = .ok o) :
    o.world.guarded a = w.guarded a ∧
      ((o.world.market a).paused = (w.market a).paused ∨ action.isDeployerOnly = true) := by
  cases act_outcome done with
  | registry | feed => exact ⟨rfl, .inl rfl⟩
  | oracle => cases ungated
  | receipt outcome =>
    have untouched : Untouched a w o.world := by
      cases outcome with
      | issued paid issued => exact issue_untouched issued
      | minted minted => exact (mint_only minted).untouched a
      | burned burned => exact (burn_only burned).untouched a
      | _ => cases ungated
    exact ⟨untouched.guarded.1, .inl untouched.guarded.2⟩
  | market outcome =>
    cases outcome with
    | created | set => cases ungated
    | switched paused =>
      refine ⟨?_, .inr rfl⟩
      unfold guarded
      dsimp only
      rw [setMarket_market]
      rfl
    | acted done =>
      obtain ⟨p, t, _, read, accepted, delivered⟩ := actOnPool_eq_ok done
      obtain ⟨stored, paused⟩ := setPool_guarded read accepted
      obtain ⟨kept, paused'⟩ := (delivered.only.untouched a).guarded
      exact ⟨kept.trans stored, .inl (paused'.trans paused)⟩

/-- What gates protect changes in a call that passes one of them. Only the deployer stops and resumes a market without. -/
theorem change_of_guarded (there : w.kind a ≠ none)
    (changed : (w.after m).guarded a ≠ w.guarded a ∨ ((w.after m).market a).paused ≠ (w.market a).paused) :
    ∃ caller action, m.CarriesOut w caller a action ∧ (action.isGated = true ∨
      (w.after m).guarded a = w.guarded a ∧ caller = w.deployer a) := by
  rcases untouched_or_carriesOut there m with ⟨untouched, _⟩ | ⟨caller, action, carries⟩
  · obtain ⟨kept, paused⟩ := untouched.guarded
    rcases changed with written | switched
    · exact absurd kept written
    · exact absurd paused switched
  · refine ⟨caller, action, carries, ?_⟩
    cases gated : action.isGated with
    | true => exact .inl rfl
    | false =>
      obtain ⟨payments, w₁, o, only, accepted, done, after⟩ := carriesOut_elim carries
      obtain ⟨kept, paused⟩ := act_guarded gated done
      obtain ⟨kept', paused'⟩ := (only.untouched a).guarded
      rw [kept', ← after] at kept
      refine .inr ⟨kept, ?_⟩
      rcases paused with same | reserved
      · rw [paused', ← after] at same
        exact absurd same (changed.resolve_left (not_not_intro kept))
      · rw [← only.deployer]
        exact deployer_of_accept accepted reserved

/-- A pool passes through a gate from one phase to another, unless it is closed early. -/
theorem passage_gated (market : w.kind a = some .market) (read : (w.market a).pool? id = some p)
    (read' : ((w.after m).market a).pool? id = some p') (passed : p'.phase ≠ p.phase)
    (alive : p'.phase ≠ .liquidated) : ∃ caller action, m.CarriesOut w caller a action ∧ action.isGated = true := by
  by_cases rest : ∀ caller action, ¬Works a id w m caller action
  · cases (pool_at_rest market read rest).symm.trans read'
    exact absurd rfl passed
  · simp only [not_forall, not_not] at rest
    obtain ⟨caller, action, works⟩ := rest
    obtain ⟨s, t, _, _, accepted, stored, _⟩ := works_act read works
    cases stored.symm.trans read'
    rcases Pool.act_passage accepted with same | passage
    · exact absurd same passed
    · rcases passage.cause with gated | ⟨_, liquidated⟩
      · exact ⟨caller, _, works, gated⟩
      · exact absurd liquidated alive

/-! ### Who is approved -/

theorem Keeps.requireApproved (h : Keeps registry w signers threshold history) (caller target : Address) :
    w.requireApproved registry caller target =
      demand (0 < (w.registry registry).approval caller target 0) .notApproved := by
  unfold World.requireApproved contact
  rw [h.kind]
  rfl

theorem pair_inj {caller' target' : Address} (same : caller'.bytes ++ target'.bytes = caller.bytes ++ target.bytes) :
    caller' = caller ∧ target' = target := by
  obtain ⟨front, back⟩ := List.append_inj same (caller'.length_bytes.trans caller.length_bytes.symm)
  exact ⟨Address.eq_of_bytes front, Address.eq_of_bytes back⟩

theorem hashed_of_deed (told : ⟨caller, .submit target⟩ ∈ w.deeds registry moves) :
    caller.bytes ++ target.bytes ∈ moves.flatMap Move.hashed := by
  induction moves generalizing w with
  | nil => cases told
  | cons m rest ih =>
    rw [List.flatMap_cons, List.mem_append]
    rcases List.mem_append.1 told with now | later
    · obtain ⟨payments, _, rfl, _⟩ := deed?_eq_some_iff.1 (Option.mem_toList.1 now)
      exact .inl (List.mem_singleton_self _)
    · exact .inr (ih later)

theorem hashed_of_gated (gated : action.isGated = true) :
    caller.bytes ++ a.bytes ∈ Move.hashed (.call ⟨caller, a, .act action, payments⟩) := by
  have passing : Move.hashed (.call ⟨caller, a, .act action, payments⟩) =
      if action.isGated then [caller.bytes ++ a.bytes] else [] := by
    cases action with
    | registry request => cases gated
    | _ => rfl
  rw [passing, gated]
  exact List.mem_singleton_self _

/-- Where no two messages of a run share a digest, the callers that pass a gate are those that are vouched for. -/
theorem vouched_iff_approved (deployed : before.deploy deployer registry (.registry threshold signers) = .ok w)
    (apart : Set.InjOn Digest.keccak256 {message | message ∈ (moves ++ [m]).flatMap Move.hashed})
    (hashed : caller.bytes ++ target.bytes ∈ m.hashed) :
    Vouched signers threshold (w.deeds registry moves) caller target ↔
      0 < ((w.play moves).registry registry).approval caller target 0 := by
  apply (keeps_along deployed moves).reflects.vouched_iff
  intro caller' target' told same
  have early : caller'.bytes ++ target'.bytes ∈ (moves ++ [m]).flatMap Move.hashed := by
    rw [List.flatMap_append]
    exact List.mem_append_left _ (hashed_of_deed told)
  have late : caller.bytes ++ target.bytes ∈ (moves ++ [m]).flatMap Move.hashed := by
    rw [List.flatMap_append, List.flatMap_singleton]
    exact List.mem_append_right _ hashed
  exact pair_inj (apart early late same)

/--
Consider a contract that obeys a registry. Whoever changes what its gates protect, or leads one of its pools from
matching to running or from running to finished, is vouched for just before; only its deployer stops and resumes it
without. To a caller who is not vouched for, all gates are closed.
-/
theorem gates_open_to_the_vouched (deployed : before.deploy deployer registry (.registry threshold signers) = .ok w)
    (apart : Set.InjOn Digest.keccak256 {message | message ∈ (moves ++ [m]).flatMap Move.hashed})
    (there : (w.play moves).kind a ≠ none) (obeys : (w.play moves).registryOf a = registry) :
    let now := w.play moves
    let Trusted := fun caller => Vouched signers threshold (w.deeds registry moves) caller a
    ((now.after m).guarded a ≠ now.guarded a → ∃ caller action, m.CarriesOut now caller a action ∧ Trusted caller) ∧
    (now.kind a = some .market → ∀ id p p',
      (now.market a).pool? id = some p → ((now.after m).market a).pool? id = some p' →
      p.phase = .matching ∧ p'.phase = .running ∨ p.phase = .running ∧ p'.phase = .finished →
      ∃ caller action, m.CarriesOut now caller a action ∧ Trusted caller) ∧
    (((now.after m).market a).paused ≠ (now.market a).paused →
      ∃ caller action, m.CarriesOut now caller a action ∧ (Trusted caller ∨ caller = now.deployer a)) ∧
    ∀ caller action payments, m = .call ⟨caller, a, .act action, payments⟩ → action.isGated = true → ¬Trusted caller →
      now.requireApproved registry caller a = .error .notApproved ∧
        ∃ fault, now.call ⟨caller, a, .act action, payments⟩ = .error fault := by
  intro now Trusted
  have keeps := keeps_along deployed moves
  have trusted {caller : Address} {action : Action} (carries : m.CarriesOut now caller a action)
      (gated : action.isGated = true) : Trusted caller := by
    have approved := approved_of_carriesOut carries gated
    rw [obeys, keeps.requireApproved, demand_eq_ok_iff] at approved
    obtain ⟨payments, o, rfl, _⟩ := carries
    exact (vouched_iff_approved deployed apart (hashed_of_gated gated)).2 approved
  refine ⟨?_, ?_, ?_, ?_⟩
  · intro written
    obtain ⟨caller, action, carries, gated | ⟨kept, _⟩⟩ := change_of_guarded there (.inl written)
    · exact ⟨caller, action, carries, trusted carries gated⟩
    · exact absurd kept written
  · intro market id p p' read read' passed
    have moved : p'.phase ≠ p.phase ∧ p'.phase ≠ .liquidated := by
      rcases passed with ⟨earlier, later⟩ | ⟨earlier, later⟩ <;> rw [earlier, later] <;> decide
    obtain ⟨caller, action, carries, gated⟩ := passage_gated market read read' moved.1 moved.2
    exact ⟨caller, action, carries, trusted carries gated⟩
  · intro switched
    obtain ⟨caller, action, carries, gated | ⟨_, owner⟩⟩ := change_of_guarded there (.inr switched)
    · exact ⟨caller, action, carries, .inl (trusted carries gated)⟩
    · exact ⟨caller, action, carries, .inr owner⟩
  · rintro caller action payments rfl gated untrusted
    constructor
    · rw [keeps.requireApproved]
      exact demand_of_false fun approved =>
        untrusted ((vouched_iff_approved deployed apart (hashed_of_gated gated)).2 approved)
    · cases result : now.call ⟨caller, a, .act action, payments⟩ with
      | error fault => exact ⟨fault, rfl⟩
      | ok o => exact absurd (trusted ⟨payments, o, rfl, result⟩ gated) untrusted

/-- In the hall, 6 sets a price. -/
def pricing : Move := .call ⟨someone 6, someone 2, .act (.oracle (.setPrice (coin 0x53) 5)), []⟩

/-- With two signatures for it, 6 may set prices in the hall. -/
theorem hall_trusts :
    ((hall.play petitions).after pricing).guarded (someone 2) ≠ (hall.play petitions).guarded (someone 2) ∧
      Vouched [someone 7, someone 8, someone 9] 2 (hall.deeds (someone 1) petitions) (someone 6) (someone 2) := by
  have apart : Set.InjOn Digest.keccak256 {message | message ∈ (petitions ++ [pricing]).flatMap Move.hashed} := by
    have one : ∀ message ∈ (petitions ++ [pricing]).flatMap Move.hashed,
        message = (someone 6).bytes ++ (someone 2).bytes := by decide +kernel
    intro message member other member' _
    exact (one message member).trans (one other member').symm
  -- All petitions are for the registry, so the oracle hears of none.
  have untouched : Untouched (someone 2) hall (hall.play petitions) := by
    apply play_untouched (by decide)
    rintro m member w caller action ⟨payments, o, rfl, _⟩
    have apart : someone 2 ≠ someone 1 := by decide
    simp [petitions, petition, apart] at member
  have kind : (hall.play petitions).kind (someone 2) = some .oracle := untouched.kind
  have obeys : (hall.play petitions).registryOf (someone 2) = someone 1 := by
    rw [registryOf, kind, untouched.oracle]
    rfl
  have changed : ((hall.play petitions).after pricing).guarded (someone 2) ≠
      (hall.play petitions).guarded (someone 2) := by
    have priced : (((hall.play petitions).after pricing).guarded (someone 2)).oracle.lastId = 1 := by decide +kernel
    intro same
    rw [same, untouched.guarded.1] at priced
    exact absurd priced (by decide)
  obtain ⟨caller, action, ⟨payments, o, written, _⟩, vouched⟩ :=
    (gates_open_to_the_vouched hall_deployed apart (by simp [kind]) obeys).1 changed
  cases written
  exact ⟨changed, vouched⟩

end World

end TermLending
