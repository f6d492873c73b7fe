import TermLending.Proofs.Sums
import TermLending.Proofs.World.Outcomes
import TermLending.Proofs.World.Run

/-!
# Whom a move reaches

A call writes to the storage of the contract that it asks, and tokens apart to no other. So what a contract keeps changes
only in a call that it carries out, and approval is asked for before anything is written.
-/

namespace TermLending

open World

variable {w w' w₁ w₂ : World} {m : Move} {a r self caller : Address} {action : Action} {payments : List Payment}
  {c : Context} {o : Outcome} {id : Nat}

/-- The move is a call in which the contract at `a` carries out `action` for `caller`. -/
def Move.CarriesOut (m : Move) (w : World) (caller a : Address) (action : Action) : Prop :=
  ∃ payments o, m = .call ⟨caller, a, .act action, payments⟩ ∧ w.call ⟨caller, a, .act action, payments⟩ = .ok o

theorem Move.CarriesOut.unique {caller' a' : Address} {action' : Action} (h : m.CarriesOut w caller a action)
    (h' : m.CarriesOut w caller' a' action') : caller' = caller ∧ a' = a ∧ action' = action := by
  obtain ⟨payments, o, rfl, _⟩ := h
  obtain ⟨payments', o', same, _⟩ := h'
  cases same
  exact ⟨rfl, rfl, rfl⟩

theorem checkWords_eq_ok_iff {words : List Word} :
    checkWords words = .ok () ↔ ∀ word ∈ words, word.value ≤ word.limit := by
  induction words with
  | nil => simp [checkWords]
  | cons word rest ih =>
    simp only [checkWords, Word.check, bind_eq_ok_iff, demand_eq_ok_iff, exists_const, ih, List.forall_mem_cons]

namespace World

theorem call_act_eq_ok_iff : w.call ⟨caller, a, .act action, payments⟩ = .ok o ↔
    ∃ w₁, w.transferAll caller a payments = .ok w₁ ∧ w₁.accept ⟨caller, a, payments⟩ action = .ok () ∧
      w₁.act ⟨caller, a, payments⟩ action = .ok o := by
  constructor
  · intro h
    obtain ⟨w₁, paid, h⟩ := bind_eq_ok_iff.1 h
    obtain ⟨_, accepted, done⟩ := bind_eq_ok_iff.1 h
    exact ⟨w₁, paid, accepted, done⟩
  · rintro ⟨w₁, paid, accepted, done⟩
    exact bind_eq_ok_iff.2 ⟨w₁, paid, bind_eq_ok_iff.2 ⟨(), accepted, done⟩⟩

theorem kind_of_accept (h : w.accept c action = .ok ()) : w.kind c.self = some action.kind := by
  obtain ⟨_, known, _⟩ := bind_eq_ok_iff.1 h
  exact demand_eq_ok_iff.1 known

theorem deployer_of_accept (h : w.accept c action = .ok ()) (only : action.isDeployerOnly = true) :
    c.caller = w.deployer c.self := by
  simp only [accept, bind_eq_ok_iff, demand_eq_ok_iff, exists_const] at h
  obtain ⟨_, _, _, allowed, _⟩ := h
  exact allowed only

/-- Every action can be had for nothing. -/
theorem checkPayment_nil (action : Action) : checkPayment [] action = .ok () := by
  unfold checkPayment
  split <;> rfl

/-- What anybody may ask for is accepted by contracts of the kind, if it takes the payment and the arguments fit. -/
theorem accept_eq_ok_iff (anybody : action.isDeployerOnly = false) :
    w.accept c action = .ok () ↔
      w.kind c.self = some action.kind ∧ checkPayment c.attached action = .ok () ∧
        ∀ word ∈ action.words, word.value ≤ word.limit := by
  have allowed : demand (action.isDeployerOnly → c.caller = w.deployer c.self) .notDeployer = .ok () := by
    refine demand_of_true fun only => ?_
    rw [anybody] at only
    cases only
  simp only [accept, allowed, bind_eq_ok_iff, demand_eq_ok_iff, exists_const, checkWords_eq_ok_iff, true_and]
  exact and_congr_right fun _ => Unique.exists_iff

/-- A contract answers whatever it knows of, once the arguments fit. -/
theorem ask_eq {kind : Kind} {query : Query} (there : w.kind a = some kind) (known : query.isKnownTo kind = true) :
    w.ask a query = (checkWords query.words >>= fun _ => w.answer a query) := by
  unfold ask
  rw [there]
  dsimp only
  rw [demand_of_true known]
  rfl

/-! ### What is left alone -/

/-- Nothing differs in what the contract at `a` keeps, but for tokens and supply. -/
structure Untouched (a : Address) (w w' : World) : Prop where
  kind : w'.kind a = w.kind a
  deployer : w'.deployer a = w.deployer a
  registry : w'.registry a = w.registry a
  oracle : w'.oracle a = w.oracle a
  minters : (w'.receipt a).minters = (w.receipt a).minters
  market : w'.market a = w.market a

theorem Untouched.trans (h : Untouched a w w₁) (h' : Untouched a w₁ w₂) : Untouched a w w₂ where
  kind := h'.kind.trans h.kind
  deployer := h'.deployer.trans h.deployer
  registry := h'.registry.trans h.registry
  oracle := h'.oracle.trans h.oracle
  minters := h'.minters.trans h.minters
  market := h'.market.trans h.market

theorem Untouched.refl (a : Address) (w : World) : Untouched a w w := ⟨rfl, rfl, rfl, rfl, rfl, rfl⟩

theorem TokensOnly.untouched (only : w.TokensOnly w') (a : Address) : Untouched a w w' where
  kind := congrFun only.kind a
  deployer := congrFun only.deployer a
  registry := congrFun only.registry a
  oracle := congrFun only.oracle a
  minters := only.minters_eq a
  market := congrFun only.market a

theorem setRegistry_untouched (other : a ≠ r) (registry : Registry) : Untouched a w (w.setRegistry r registry) :=
  ⟨rfl, rfl, put_of_ne _ _ _ other, rfl, rfl, rfl⟩

theorem setOracle_untouched (other : a ≠ r) (oracle : Oracle) : Untouched a w (w.setOracle r oracle) :=
  ⟨rfl, rfl, rfl, put_of_ne _ _ _ other, rfl, rfl⟩

theorem setReceipt_untouched (other : a ≠ r) (receipt : Receipt) : Untouched a w (w.setReceipt r receipt) :=
  ⟨rfl, rfl, rfl, rfl, congrArg Receipt.minters (put_of_ne w.receipt r receipt other), rfl⟩

theorem setReceipt_receipt (w : World) (a : Address) (receipt : Receipt) :
    (w.setReceipt a receipt).receipt a = receipt := put_self _ _ _

theorem setMarket_untouched (other : a ≠ r) (market : Market) : Untouched a w (w.setMarket r market) :=
  ⟨rfl, rfl, rfl, rfl, rfl, put_of_ne _ _ _ other⟩

/-- The name of the new token is not among what is watched here, nor is the account that pays for it. -/
theorem issue_untouched {ticker : List UInt8} {price : Nat} (h : w.issue r ticker price = .ok w') :
    Untouched a w w' := by
  simp only [issue, bind_eq_ok_iff, demand_eq_ok_iff, exists_const, debit_eq_ok_iff, pure_eq_ok_iff] at h
  obtain ⟨_, _, ⟨_, rfl⟩, rfl⟩ := h
  have named : { w.receipt r with token := some (Receipt.tokenName r ticker) }.minters = (w.receipt r).minters := rfl
  exact ⟨rfl, rfl, rfl, rfl, put_agree named a, rfl⟩

theorem act_untouched (other : a ≠ c.self) (h : w.act c action = .ok o) : Untouched a w o.world := by
  cases act_outcome h with
  | registry performed => exact setRegistry_untouched other _
  | feed answer => exact ⟨rfl, rfl, rfl, rfl, rfl, rfl⟩
  | oracle approved changed => exact setOracle_untouched other _
  | receipt outcome =>
    cases outcome with
    | issued paid issued => exact issue_untouched issued
    | minted minted => exact (mint_only minted).untouched a
    | burned burned => exact (burn_only burned).untouched a
    | added | removed => exact setReceipt_untouched other _
  | market outcome =>
    cases outcome with
    | created | set | switched => exact setMarket_untouched other _
    | acted done =>
      obtain ⟨_, _, _, _, _, delivered⟩ := actOnPool_eq_ok done
      exact (setMarket_untouched other _).trans (delivered.only.untouched a)

theorem Founded.untouched {blueprint : Blueprint} (other : a ≠ r) (h : Founded w r blueprint w') : Untouched a w w' := by
  cases h with
  | registry registry established => exact setRegistry_untouched other registry
  | feed => exact ⟨rfl, rfl, rfl, rfl, rfl, rfl⟩
  | oracle => exact setOracle_untouched other _
  | receipt => exact setReceipt_untouched other _
  | market market established => exact setMarket_untouched other market

theorem deploy_untouched {deployer : Address} {blueprint : Blueprint} (other : a ≠ r)
    (h : w.deploy deployer r blueprint = .ok w') : Untouched a w w' := by
  obtain ⟨w₁, founded, rfl⟩ := deploy_outcome h
  have fresh := founded.untouched other
  exact ⟨(put_of_ne _ _ _ other).trans fresh.kind, (put_of_ne _ _ _ other).trans fresh.deployer, fresh.registry,
    fresh.oracle, fresh.minters, fresh.market⟩

theorem requireApproved_of_only (only : w.TokensOnly w') :
    w'.requireApproved r caller a = w.requireApproved r caller a := by
  unfold requireApproved contact
  rw [only.kind, only.registry]

theorem askFeed_of_only (only : w.TokensOnly w') : w'.askFeed = w.askFeed := by
  funext a
  unfold askFeed contact
  rw [only.kind, only.feed]

/-! ### Moves -/

/-- A contract acts where the payments have arrived, and leaves the world to be. -/
theorem carriesOut_elim (h : m.CarriesOut w caller a action) :
    ∃ payments w₁ o, w.TokensOnly w₁ ∧ w₁.accept ⟨caller, a, payments⟩ action = .ok () ∧
      w₁.act ⟨caller, a, payments⟩ action = .ok o ∧ w.after m = o.world := by
  obtain ⟨payments, o, rfl, success⟩ := h
  obtain ⟨w₁, paid, accepted, done⟩ := call_act_eq_ok_iff.1 success
  exact ⟨payments, w₁, o, (transferAll_only paid).1, accepted, done, after_call_ok success⟩

/-- A contract that carries nothing out is left as it is, whatever else happens. -/
theorem after_untouched (there : w.kind a ≠ none) (idle : ∀ caller action, ¬m.CarriesOut w caller a action) :
    Untouched a w (w.after m) := by
  have outcome := w.after_outcome m
  generalize w.after m = w' at outcome ⊢
  cases outcome with
  | called done =>
    cases call_outcome done with
    | asked paid => exact (transferAll_only paid).1.untouched a
    | @acted caller target action payments w₁ _ paid _ acted =>
      have elsewhere : a ≠ target := by
        rintro rfl
        exact idle caller action ⟨payments, _, rfl, done⟩
      exact ((transferAll_only paid).1.untouched a).trans (act_untouched elsewhere acted)
  | sent done => exact (transfer_only done).1.untouched a
  | deployed free done =>
    refine deploy_untouched ?_ done
    rintro rfl
    exact there free
  | refused | unsent | undeployed => exact .refl a w
  | waited => exact ⟨rfl, rfl, rfl, rfl, rfl, rfl⟩

theorem untouched_or_carriesOut (there : w.kind a ≠ none) (m : Move) :
    Untouched a w (w.after m) ∧ (∀ caller action, ¬m.CarriesOut w caller a action) ∨
      ∃ caller action, m.CarriesOut w caller a action := by
  by_cases busy : ∃ caller action, m.CarriesOut w caller a action
  · exact .inr busy
  · simp only [not_exists] at busy
    exact .inl ⟨after_untouched there busy, busy⟩

/-- The action that a move has the contract at `self` carry out. -/
def carried? (self : Address) (w : World) : Move → Option Action
  | .call ⟨caller, target, .act action, payments⟩ =>
      if target = self then
        match w.call ⟨caller, target, .act action, payments⟩ with
        | .ok _ => some action
        | .error _ => none
      else none
  | _ => none

def carried (self : Address) (w : World) : List Move → List Action
  | [] => []
  | m :: rest => (w.carried? self m).toList ++ carried self (w.after m) rest

theorem carried?_eq_some_iff : w.carried? self m = some action ↔ ∃ caller, m.CarriesOut w caller self action := by
  constructor
  · intro h
    unfold carried? at h
    split at h
    · next caller target request payments =>
      split at h
      · next here =>
        subst here
        split at h
        · next o success =>
          cases h
          exact ⟨caller, payments, o, rfl, success⟩
        · cases h
      · cases h
    · cases h
  · rintro ⟨caller, payments, o, rfl, success⟩
    simp [carried?, success]

theorem carried?_of_idle (idle : ∀ caller action, ¬m.CarriesOut w caller self action) : w.carried? self m = none := by
  rw [Option.eq_none_iff_forall_not_mem]
  intro action told
  obtain ⟨caller, carries⟩ := carried?_eq_some_iff.1 told
  exact idle caller action carries

theorem play_untouched {moves : List Move} (there : w.kind a ≠ none)
    (idle : ∀ m ∈ moves, ∀ w caller action, ¬m.CarriesOut w caller a action) : Untouched a w (w.play moves) := by
  induction moves generalizing w with
  | nil => exact .refl a w
  | cons m rest ih =>
    have step := after_untouched there (idle m List.mem_cons_self w)
    have rest := ih (w := w.after m) (by rwa [step.kind]) fun m' member => idle m' (List.mem_cons_of_mem m member)
    exact step.trans rest

end World

end TermLending
