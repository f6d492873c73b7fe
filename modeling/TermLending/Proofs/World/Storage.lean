import TermLending.Proofs.Soundness
import TermLending.Proofs.World.Lifecycle

/-!
# The storage of contracts

A contract keeps its kind for good, and its storage changes only by what its own code does. So markets stay sound and
the divisors of oracles positive, whoever calls them, and whenever they are deployed.
-/

namespace TermLending.World

variable {self a : Address} {w w' w₁ : World} {m : Move} {moves : List Move} {c : Context} {o : Outcome}
  {action : Action} {kind : Kind}

/-! ### Kinds -/

theorem act_kind (h : w.act c action = .ok o) : o.world.kind = w.kind := by
  cases act_outcome h with
  | registry | feed | oracle => rfl
  | receipt outcome =>
    cases outcome with
    | issued paid issued =>
      simp only [issue, bind_eq_ok_iff, pure_eq_ok_iff, demand_eq_ok_iff, exists_const, debit_eq_ok_iff] at issued
      obtain ⟨_, _, ⟨_, rfl⟩, rfl⟩ := issued
      rfl
    | minted minted => exact (mint_only minted).kind
    | burned burned => exact (burn_only burned).kind
    | added | removed => rfl
  | market outcome =>
    cases outcome with
    | created | set | switched => rfl
    | acted done =>
      obtain ⟨_, _, _, _, _, delivered⟩ := actOnPool_eq_ok done
      exact delivered.only.kind

theorem deploy_kind {deployer account : Address} {blueprint : Blueprint}
    (h : w.deploy deployer account blueprint = .ok w') : w'.kind = put w.kind account (some blueprint.kind) := by
  obtain ⟨w₁, founded, rfl⟩ := deploy_outcome h
  exact congrArg (put · account (some blueprint.kind)) founded.frame.1

theorem after_kind (there : w.kind a ≠ none) (m : Move) : (w.after m).kind a = w.kind a := by
  rcases untouched_or_carriesOut there m with ⟨untouched, _⟩ | ⟨caller, action, carries⟩
  · exact untouched.kind
  · obtain ⟨payments, w₁, o, only, _, done, after⟩ := carriesOut_elim carries
    rw [after, act_kind done, only.kind]

theorem play_kind (there : w.kind a ≠ none) (moves : List Move) : (w.play moves).kind a = w.kind a := by
  induction moves generalizing w with
  | nil => rfl
  | cons m rest ih =>
    have same := after_kind there m
    exact (ih (by rwa [same])).trans same

/-- A contract comes into being by its deployment alone. -/
theorem deployed_of_new (absent : w.kind a = none) (there : (w.after m).kind a = some kind) :
    ∃ deployer blueprint, m = .deploy deployer a blueprint ∧ blueprint.kind = kind ∧
      w.deploy deployer a blueprint = .ok (w.after m) := by
  have outcome := w.after_outcome m
  generalize w.after m = w' at outcome there ⊢
  have impossible (same : w'.kind a = w.kind a) : False := by
    rw [there, absent] at same
    cases same
  cases outcome with
  | called done =>
    refine (impossible ?_).elim
    cases call_outcome done with
    | asked paid => exact congrFun (transferAll_only paid).1.kind a
    | acted paid _ acted => rw [act_kind acted, (transferAll_only paid).1.kind]
  | sent done => exact (impossible (congrFun (transfer_only done).1.kind a)).elim
  | @deployed deployer account blueprint _ free done =>
    rw [deploy_kind done] at there
    by_cases here : a = account
    · subst here
      rw [put_self, Option.some.injEq] at there
      exact ⟨deployer, blueprint, rfl, there, done⟩
    · rw [put_of_ne _ _ _ here, absent] at there
      cases there
  | refused | unsent | undeployed | waited => exact (impossible rfl).elim

/-! ### Markets -/

theorem market_sound_after (market : w.kind a = some .market) (sound : (w.market a).Sound) (m : Move) :
    ((w.after m).market a).Sound := by
  have rewritten := market_rewritten market m
  generalize (w.after m).market a = stored at rewritten ⊢
  cases rewritten with
  | idle => exact sound
  | created created => exact sound.create created
  | set set => exact sound.set set
  | switched paused => exact ⟨sound.pools, sound.fees⟩
  | acted works read accepted => exact sound.act read accepted

theorem play_market_sound (market : w.kind self = some .market) (sound : (w.market self).Sound) (moves : List Move) :
    (w.play moves).kind self = some .market ∧ ((w.play moves).market self).Sound := by
  induction moves generalizing w with
  | nil => exact ⟨market, sound⟩
  | cons m rest ih =>
    refine ih ?_ (market_sound_after market sound m)
    rw [after_kind (by simp [market]), market]

theorem launched_sound (launched : Launched self w) : (w.market self).Sound := by
  obtain ⟨before, deployer, registry, oracle, feeAddress, deployed⟩ := launched
  obtain ⟨_, founded, rfl⟩ := deploy_outcome deployed
  cases founded with
  | market market established =>
    show ((before.setMarket self market).market self).Sound
    rw [setMarket_market]
    exact .of_established established

/-! ### Oracles -/

section Oracles

variable {oracle oracle' : Oracle} {token : Token} {price id : Nat} {config : FeedConfig} {event : Event}
  {events : List Event}

theorem markUsed_divisor (oracle : Oracle) (id : Nat) : (oracle.markUsed id).divisor = oracle.divisor := by
  unfold Oracle.markUsed
  split <;> rfl

theorem resolve_divisor (h : oracle.resolve token = .ok (oracle', id)) : oracle'.divisor = oracle.divisor := by
  obtain ⟨_, _, h⟩ := bind_eq_ok_iff.1 h
  split at h
  · cases pure_eq_ok_iff.1 h
    rfl
  · cases pure_eq_ok_iff.1 h
    exact markUsed_divisor oracle _

theorem storeFeed_divisor (h : oracle.storeFeed id config = .ok (oracle', event)) : oracle'.divisor = oracle.divisor := by
  obtain ⟨_, _, h⟩ := bind_eq_ok_iff.1 h
  cases pure_eq_ok_iff.1 h
  rfl

theorem setPrice_divisor (h : oracle.setPrice token price = .ok (oracle', event)) :
    oracle'.divisor = oracle.divisor := by
  obtain ⟨⟨resolved, id⟩, known, h⟩ := bind_eq_ok_iff.1 h
  cases pure_eq_ok_iff.1 h
  show resolved.divisor = oracle.divisor
  exact resolve_divisor known

theorem setEach_divisor {prices : List (Token × Nat)} (h : oracle.setEach prices = .ok (oracle', events)) :
    oracle'.divisor = oracle.divisor := by
  induction prices generalizing oracle events with
  | nil =>
    cases h
    rfl
  | cons first rest ih =>
    obtain ⟨⟨next, event⟩, one, h⟩ := bind_eq_ok_iff.1 h
    obtain ⟨⟨last, events'⟩, others, h⟩ := bind_eq_ok_iff.1 h
    cases pure_eq_ok_iff.1 h
    exact (ih others).trans (setPrice_divisor one)

/-- Nothing but a demand for a positive one changes the divisor. -/
theorem oracleAfter_divisor {action : Oracle.Action} (h : oracleAfter oracle action = .ok (oracle', events))
    (positive : 0 < oracle.divisor) : 0 < oracle'.divisor := by
  cases oracleAfter_outcome h with
  | priced done => rwa [setPrice_divisor done]
  | row lengths done => rwa [setEach_divisor done]
  | @pricedById id _ _ _ done =>
    obtain ⟨_, _, done⟩ := bind_eq_ok_iff.1 done
    cases pure_eq_ok_iff.1 done
    show 0 < (oracle.markUsed id).divisor
    rwa [markUsed_divisor]
  | fed done =>
    obtain ⟨⟨resolved, id⟩, known, done⟩ := bind_eq_ok_iff.1 done
    rwa [storeFeed_divisor done, resolve_divisor known]
  | fedById done =>
    obtain ⟨_, _, done⟩ := bind_eq_ok_iff.1 done
    rwa [storeFeed_divisor done, markUsed_divisor]
  | divided done =>
    obtain ⟨_, demanded, done⟩ := bind_eq_ok_iff.1 done
    cases pure_eq_ok_iff.1 done
    exact demand_eq_ok_iff.1 demanded
  | @bound token id _ done =>
    obtain ⟨_, _, done⟩ := bind_eq_ok_iff.1 done
    obtain ⟨_, _, done⟩ := bind_eq_ok_iff.1 done
    cases pure_eq_ok_iff.1 done
    show 0 < (oracle.markUsed id).divisor
    rwa [markUsed_divisor]

end Oracles

theorem setOracle_oracle (w : World) (a : Address) (oracle : Oracle) : (w.setOracle a oracle).oracle a = oracle :=
  put_self _ _ _

/-- An oracle changes only by what it carries out. -/
theorem oracle_turn (kind : w.kind a = some .oracle) (m : Move) :
    (w.after m).oracle a = w.oracle a ∧ (∀ caller action, ¬m.CarriesOut w caller a action) ∨
      ∃ caller request events, m.CarriesOut w caller a (.oracle request) ∧
        oracleAfter (w.oracle a) request = .ok ((w.after m).oracle a, events) := by
  have there : w.kind a ≠ none := by simp [kind]
  rcases untouched_or_carriesOut there m with ⟨untouched, idle⟩ | ⟨caller, action, carries⟩
  · exact .inl ⟨untouched.oracle, idle⟩
  · obtain ⟨payments, w₁, o, only, accepted, done, after⟩ := carriesOut_elim carries
    have known := kind_of_accept accepted
    rw [only.kind, kind] at known
    cases act_outcome done with
    | @oracle request _ events approved changed =>
      rw [only.oracle] at changed
      refine .inr ⟨caller, request, events, carries, ?_⟩
      rw [after, setOracle_oracle]
      exact changed
    | _ => cases known

theorem oracle_divisor_after (kind : w.kind a = some .oracle) (positive : 0 < (w.oracle a).divisor) (m : Move) :
    0 < ((w.after m).oracle a).divisor := by
  rcases oracle_turn kind m with ⟨same, _⟩ | ⟨_, _, _, _, changed⟩
  · rwa [same]
  · exact oracleAfter_divisor changed positive

/-! ### All contracts together -/

/-- Every market is sound, and every oracle divides by something. -/
structure Sound (w : World) : Prop where
  markets : ∀ a, w.kind a = some .market → (w.market a).Sound
  oracles : ∀ a, w.kind a = some .oracle → 0 < (w.oracle a).divisor

theorem market_of_deployed {deployer : Address} {blueprint : Blueprint} (kind : blueprint.kind = .market)
    (h : w.deploy deployer a blueprint = .ok w') : (w'.market a).Sound := by
  cases blueprint with
  | market registry oracle feeAddress => exact launched_sound ⟨w, deployer, registry, oracle, feeAddress, h⟩
  | _ => cases kind

/-- A new oracle knows nothing. -/
theorem oracle_of_new {deployer registry : Address} (h : w.deploy deployer a (.oracle registry) = .ok w') :
    w'.oracle a = { registry, divisor := Oracle.defaultDivisor } := by
  obtain ⟨_, ⟨⟩, rfl⟩ := deploy_outcome h
  exact setOracle_oracle w a _

theorem oracle_of_deployed {deployer : Address} {blueprint : Blueprint} (kind : blueprint.kind = .oracle)
    (h : w.deploy deployer a blueprint = .ok w') : 0 < (w'.oracle a).divisor := by
  cases blueprint with
  | oracle registry =>
    rw [oracle_of_new h]
    exact Nat.one_pos
  | _ => cases kind

theorem Sound.after (h : w.Sound) (m : Move) : (w.after m).Sound := by
  constructor
  · intro a market
    by_cases absent : w.kind a = none
    · obtain ⟨deployer, blueprint, _, kind, deployed⟩ := deployed_of_new absent market
      exact market_of_deployed kind deployed
    · rw [after_kind absent] at market
      exact market_sound_after market (h.markets a market) m
  · intro a oracle
    by_cases absent : w.kind a = none
    · obtain ⟨deployer, blueprint, _, kind, deployed⟩ := deployed_of_new absent oracle
      exact oracle_of_deployed kind deployed
    · rw [after_kind absent] at oracle
      exact oracle_divisor_after oracle (h.oracles a oracle) m

theorem Sound.play (h : w.Sound) (moves : List Move) : (w.play moves).Sound := by
  induction moves generalizing w with
  | nil => exact h
  | cons m rest ih => exact ih (h.after m)

/-- Where no market and no oracle is yet, all that are to come will be sound. -/
theorem sound_of_blank (blank : ∀ a, w.kind a ≠ some .market ∧ w.kind a ≠ some .oracle) : w.Sound where
  markets a market := absurd market (blank a).1
  oracles a oracle := absurd oracle (blank a).2

end TermLending.World
