import TermLending.Proofs.Pool.Arithmetic
import TermLending.Proofs.World.Storage

/-!
# Arithmetic along a run

No call on a market or an oracle meets a division by zero or a negative difference in the code of these contracts,
whatever has happened before. The one difference that can be negative is taken elsewhere: by a receipt contract that is
to destroy more units than it counts.
-/

namespace TermLending.World

variable {self caller source target a r owner : Address} {w w' : World} {m : Move} {moves : List Move} {p : Pool}
  {t : Transition} {token : Token} {n id : Nat} {fault : Fault} {payments : List Payment} {log : List LogEntry}

/-! ### Tokens -/

theorem debit_defined (w : World) (a : Address) (token : Token) (n : Nat) : Defined (w.debit a token n) := by
  refine .given ?_ fun _ => .pure _
  unfold shortage
  split <;> rfl

theorem transfer_defined (w : World) (source target : Address) (token : Token) (n : Nat) :
    Defined (w.transfer source target token n) :=
  (debit_defined w source token n).map

theorem transferAll_defined (w : World) (source target : Address) (payments : List Payment) :
    Defined (w.transferAll source target payments) := by
  induction payments generalizing w with
  | nil => exact .ok w
  | cons payment rest ih => exact (transfer_defined w source target _ _).bind fun w₁ _ => ih w₁

theorem send_defined (w : World) (source target : Address) (token : Token) (n : Nat) :
    Defined (w.send source target token n) :=
  .ite (fun _ => .ok w) fun _ => transfer_defined w source target token n

/-! ### Receipts -/

theorem issued_defined (receipt : Receipt) : Defined receipt.issued := by
  unfold Receipt.issued
  split
  · exact .ok _
  · exact .error rfl

theorem mint_defined (w : World) (r minter owner : Address) (n : Nat) : Defined (w.mint r minter owner n) := by
  refine Defined.bind ?_ fun _ _ => .given rfl fun _ => .pure _
  exact .given rfl fun _ => .given rfl fun _ => .given rfl fun _ => (issued_defined _).map

theorem issueReceipts_defined (w : World) (self r owner : Address) (n : Nat) :
    Defined (w.issueReceipts self r owner n) := by
  refine .ite (fun _ => .ok _) fun _ => ?_
  split
  · exact .ok _
  · exact mint_defined w r self owner n
  · exact .error rfl

theorem contact_defined (w : World) (a : Address) (kind : Kind) : Defined (w.contact a kind) := by
  unfold contact
  split
  · exact .error rfl
  · exact .demand rfl

theorem receiptToken_defined (w : World) (r : Address) : Defined (w.receiptToken r) :=
  (contact_defined w r .receipt).map

/-! ### The count of a receipt contract -/

theorem uncount_definedUnless (receipt : Receipt) (n : Nat) : DefinedUnless (receipt.supply < n) (receipt.uncount n) := by
  refine DefinedUnless.bind ?_ fun _ _ => (Defined.pure _).unless _
  by_cases counted : n ≤ receipt.supply
  · exact (difference_defined counted).unless _
  · intro fault failed _
    unfold difference at failed
    rw [if_neg counted] at failed
    cases failed
    exact ⟨rfl, Nat.lt_of_not_le counted⟩

theorem redeem_defined (receipt : Receipt) (minter : Address) (n : Nat) (attached : List Payment) :
    Defined (receipt.redeem minter n (soleToken attached)) := by
  refine .given rfl fun _ => .given rfl fun _ => (issued_defined receipt).bind fun _ _ => ?_
  exact (Scene.soleToken_defined attached).bind fun _ _ => .given rfl fun _ => .given rfl fun _ => .pure _

theorem burn_definedUnless (w : World) (r minter owner : Address) (n : Nat) (attached : List Payment) :
    DefinedUnless ((w.receipt r).supply < n) (w.burn r minter owner n attached) := by
  refine ((redeem_defined (w.receipt r) minter n attached).unless _).bind fun token _ => ?_
  refine ((Defined.demand rfl).unless _).bind fun _ _ => ?_
  refine ((debit_defined w r token n).unless _).bind fun w₁ taken => ?_
  obtain ⟨_, rfl⟩ := debit_eq_ok_iff.1 taken
  exact (uncount_definedUnless (w.receipt r) n).bind fun _ _ => (Defined.pure _).unless _

theorem returnReceipts_definedUnless (w : World) (self r owner : Address) (n : Nat) :
    DefinedUnless ((w.receipt r).supply < n) (w.returnReceipts self r owner n) := by
  unfold returnReceipts
  split
  · exact (Defined.ok _).unless _
  · refine ((receiptToken_defined w r).unless _).bind fun token _ => ?_
    refine ((transfer_defined w self r token n).unless _).bind fun w₁ sent => ?_
    rw [← (transfer_only sent).2]
    exact burn_definedUnless w₁ r self owner n _

/-- The receipts of a payout outnumber what a receipt contract counts. -/
def Miscounted (w : World) (terms : Terms) (out : Payout) : Prop :=
  (w.receipt terms.lendReceipt).supply < out.burnLend ∨ (w.receipt terms.borrowReceipt).supply < out.burnBorrow

theorem deliver_definedUnless {terms : Terms} (apart : terms.lendReceipt ≠ terms.borrowReceipt) (w : World)
    (self : Address) (out : Payout) : DefinedUnless (w.Miscounted terms out) (w.deliver self terms out) := by
  refine ((returnReceipts_definedUnless w self _ _ _).mono .inl).bind fun ⟨w₁, log₁⟩ lendBurned => ?_
  have same := returnReceipts_supply lendBurned terms.borrowReceipt
  rw [if_neg apart.symm, Nat.add_zero] at same
  refine DefinedUnless.bind ?_ fun ⟨w₂, log₂⟩ _ => ?_
  · apply (returnReceipts_definedUnless w₁ self _ _ _).mono
    rw [same]
    exact .inr
  · refine ((send_defined w₂ self _ _ _).bind fun w₃ _ => ?_).unless _
    refine (issueReceipts_defined w₃ self _ _ _).bind fun ⟨w₄, log₄⟩ _ => ?_
    refine (issueReceipts_defined w₄ self _ _ _).bind fun ⟨w₅, log₅⟩ _ => ?_
    exact (send_defined w₅ self _ _ _).map

/-! ### What contracts ask each other -/

theorem requireApproved_defined (w : World) (registry caller target : Address) :
    Defined (w.requireApproved registry caller target) :=
  (contact_defined w registry .registry).bind fun _ _ => .demand rfl

theorem gate_defined (w : World) (gated : Bool) (registry caller target : Address) :
    Defined (w.gate gated registry caller target) :=
  .ite (fun _ => requireApproved_defined w registry caller target) fun _ => .ok ()

theorem idPrice_defined {oracle : Oracle} (positive : 0 < oracle.divisor) (w : World) (id : Nat) :
    Defined (oracle.idPrice w.askFeed id) := by
  refine .ite (fun _ => .ok _) fun _ => ?_
  split
  · exact .ok _
  · next config _ =>
    refine ((contact_defined w config.feed .feed).map).bind fun feed _ => ?_
    exact Defined.map (.of_ok (if_neg (Nat.ne_of_gt positive)))

theorem prices_defined (sound : w.Sound) (oracle : Address) (terms : Terms) : Defined (w.prices oracle terms) := by
  have price (token : Token) : Defined (w.tokenPrice oracle token) := by
    refine (contact_defined w oracle .oracle).bind fun _ there => ?_
    unfold contact at there
    split at there
    · cases there
    · next other known =>
      have kind : w.kind oracle = some .oracle := by rw [known, demand_eq_ok_iff.1 there]
      exact idPrice_defined (sound.oracles oracle kind) w _
  exact (price _).bind fun _ _ => (price _).map

theorem scene_sound (sound : w.Sound) (market : w.kind a = some .market) (caller : Address) (attached : List Payment)
    (id : Nat) (p : Pool) : (w.scene a caller attached id p).Sound where
  fees := (sound.markets a market).fees
  prices := prices_defined sound _ _
  lendToken := receiptToken_defined w _
  borrowToken := receiptToken_defined w _

/-! ### Actions -/

theorem actOnPool_definedUnless (sound : w.Sound) (market : w.kind a = some .market) (caller : Address)
    (attached : List Payment) (id : Nat) (action : Pool.Action) :
    DefinedUnless
      (∃ p t, (w.market a).pool? id = some p ∧ p.act (w.scene a caller attached id p) action = .ok t ∧
        w.Miscounted t.pool.toTerms t.payout)
      (w.actOnPool ⟨caller, a, attached⟩ id action) := by
  refine ((gate_defined w _ _ _ _).unless _).bind fun _ _ => ?_
  have known : Defined ((w.market a).pool id) := by
    unfold Market.pool
    split
    · exact .ok _
    · exact .error rfl
  refine (known.unless _).bind fun p read => ?_
  rw [Market.pool_eq_ok_iff] at read
  have fit := (sound.markets a market).pools p (Market.mem_of_pool? read)
  have scene := scene_sound sound market caller attached id p
  refine ((Pool.act_defined fit scene action).unless _).bind fun t accepted => ?_
  have terms := (Pool.act_sound fit accepted).terms
  refine DefinedUnless.bind ?_ fun _ _ => (Defined.pure _).unless _
  apply (deliver_definedUnless terms.apart (w.setMarket a _) a t.payout).mono
  intro miscounted
  exact ⟨p, t, read, accepted, miscounted⟩

theorem checkTerms_defined (terms : Terms) : Defined (Market.checkTerms terms) := by
  refine .given rfl fun _ => .given rfl fun _ => .given rfl fun _ => .given rfl fun _ => ?_
  exact .given rfl fun _ => .given rfl fun _ => .given rfl fun _ => .demand rfl

theorem create_defined (market : Market) (terms : Terms) : Defined (market.create terms) := by
  have free (receipts : Roster Address) (r : Address) : Defined (Market.bindReceipt receipts r) :=
    .given rfl fun _ => .pure _
  exact (checkTerms_defined terms).bind fun _ _ => (free _ _).bind fun _ _ => (free _ _).map

theorem set_defined (market : Market) (setting : Market.Setting) : Defined (market.set setting) := by
  cases setting with
  | oracle | fees | feeAddress => exact .given rfl fun _ => .pure _
  | minDeposit | paused => exact .pure _

theorem resolve_defined (oracle : Oracle) (token : Token) : Defined (oracle.resolve token) :=
  .given rfl fun _ => .ite (fun _ => .pure _) fun _ => .pure _

theorem setEach_defined (oracle : Oracle) (prices : List (Token × Nat)) : Defined (oracle.setEach prices) := by
  induction prices generalizing oracle with
  | nil => exact .ok _
  | cons first rest ih => exact ((resolve_defined oracle _).map).bind fun next _ => (ih next.1).map

theorem oracleAfter_defined (oracle : Oracle) (action : Oracle.Action) : Defined (oracleAfter oracle action) := by
  have storeFeed (oracle : Oracle) (id : Nat) (config : FeedConfig) : Defined (oracle.storeFeed id config) :=
    .given rfl fun _ => .pure _
  cases action with
  | setPrice token price => exact ((resolve_defined oracle token).map).map
  | setPrices tokens prices => exact .given rfl fun _ => setEach_defined oracle _
  | setIdPrice id price => exact Defined.map (.given rfl fun _ => .pure _)
  | setFeed token config => exact Defined.map ((resolve_defined oracle token).bind fun _ _ => storeFeed _ _ _)
  | setIdFeed id config => exact Defined.map (.given rfl fun _ => storeFeed _ _ _)
  | setDivisor divisor => exact Defined.map (.given rfl fun _ => .pure _)
  | bindToken token id => exact Defined.map (.given rfl fun _ => .given rfl fun _ => .pure _)

/-! ### Calls -/

theorem checkWords_defined (words : List Word) : Defined (checkWords words) := by
  induction words with
  | nil => exact .ok ()
  | cons word rest ih => exact .given rfl fun _ => ih

theorem refusePayment_defined (attached : List Payment) : Defined (refusePayment attached) := by
  unfold refusePayment
  split
  · exact .ok ()
  · exact .ite (fun _ => .demand rfl) fun _ => .error rfl
  · exact .error rfl

theorem issuePrice_defined (attached : List Payment) : Defined (issuePrice attached) := by
  unfold issuePrice
  split
  · exact .ok _
  · exact .ite (fun _ => .ok _) fun _ => .error rfl
  · exact .error rfl

theorem checkPayment_defined (attached : List Payment) (action : Action) : Defined (checkPayment attached action) := by
  unfold checkPayment
  split
  · exact refusePayment_defined attached
  · exact (issuePrice_defined attached).map
  · exact .ok ()

theorem accept_defined (w : World) (c : Context) (action : Action) : Defined (w.accept c action) :=
  .given rfl fun _ => (checkPayment_defined _ _).bind fun _ _ => .given rfl fun _ => checkWords_defined _

theorem Sound.of_only (sound : w.Sound) (only : w.TokensOnly w') : w'.Sound where
  markets := by
    rw [only.kind, only.market]
    exact sound.markets
  oracles := by
    rw [only.kind, only.oracle]
    exact sound.oracles

theorem askMarket_defined (sound : w.Sound) (market : w.kind a = some .market) (query : Market.Query) :
    Defined (w.askMarket a query) := by
  cases query with
  | onPool id query =>
    unfold askMarket
    dsimp only
    split
    · next p read =>
      have fit := (sound.markets a market).pools p (Market.mem_of_pool? read)
      exact Pool.answer_defined fit (scene_sound sound market .zero [] id p) query
    · unfold answerWithoutPool
      split
      · exact .ok _
      · exact .ok _
      · exact .ok _
      · exact .ok _
      · exact .error rfl
  | _ => exact .pure _

theorem mapM_defined {α β : Type} {f : α → Except Fault β} (each : ∀ x, Defined (f x)) (items : List α) :
    Defined (items.mapM f) := by
  induction items with
  | nil => exact .pure _
  | cons first rest ih =>
    rw [List.mapM_cons]
    exact (each first).bind fun _ _ => ih.map

theorem askOracle_defined {oracle : Oracle} (positive : 0 < oracle.divisor) (w : World) (query : Oracle.Query) :
    Defined (w.askOracle oracle query) := by
  cases query with
  | price token => exact (idPrice_defined positive w _).map
  | prices tokens => exact (mapM_defined (fun token => idPrice_defined positive w (oracle.idOf token)) tokens).map
  | idPrice id => exact (idPrice_defined positive w id).map
  | _ => exact .pure _

theorem ask_defined (sound : w.Sound) (served : w.kind a = some .market ∨ w.kind a = some .oracle) (query : Query)
    (attached : List Payment) : Defined (w.ask a query attached) := by
  have payment := refusePayment_defined attached
  unfold ask
  rcases served with market | oracle
  · rw [market]
    refine .given rfl fun known => payment.bind fun _ _ => (checkWords_defined _).bind fun _ _ => ?_
    cases query with
    | market query => exact askMarket_defined sound market query
    | registryAddress => exact .pure _
    | _ => cases known
  · rw [oracle]
    refine .given rfl fun known => payment.bind fun _ _ => (checkWords_defined _).bind fun _ _ => ?_
    cases query with
    | oracle query => exact askOracle_defined (sound.oracles a oracle) w query
    | registryAddress => exact .pure _
    | _ => cases known

/-- The pool accepts the errand, but a receipt contract counts fewer units than the errand brings to be destroyed. -/
def Overdrawn (w : World) (home : Address) (m : Move) : Prop :=
  ∃ e t, errand? home m = some e ∧ w.transitionOf home e = .ok t ∧ w.Miscounted t.pool.toTerms t.payout

theorem call_definedUnless (sound : w.Sound) (c : Call)
    (served : w.kind c.target = some .market ∨ w.kind c.target = some .oracle) :
    DefinedUnless (w.Overdrawn c.target (.call c)) (w.call c) := by
  obtain ⟨caller, target, request, payments⟩ := c
  dsimp only at served
  refine ((transferAll_defined w caller target payments).unless _).bind fun w₁ paid => ?_
  obtain ⟨only, receipts⟩ := transferAll_only paid
  have sound₁ := sound.of_only only
  have served₁ : w₁.kind target = some .market ∨ w₁.kind target = some .oracle := by rwa [only.kind]
  cases request with
  | ask query => exact (ask_defined sound₁ served₁ query payments).map.unless _
  | act action =>
    refine ((accept_defined w₁ _ action).unless _).bind fun _ accepted => ?_
    have kind := kind_of_accept accepted
    dsimp only at kind
    rw [kind] at served₁
    cases action with
    | oracle request =>
      refine Defined.unless ((requireApproved_defined w₁ _ _ _).bind fun _ _ => ?_) _
      exact (oracleAfter_defined _ request).map
    | market request =>
      cases request with
      | create terms =>
        refine Defined.unless ((requireApproved_defined w₁ _ _ _).bind fun _ _ => ?_) _
        exact (create_defined _ terms).map
      | set setting =>
        refine Defined.unless ((requireApproved_defined w₁ _ _ _).bind fun _ _ => ?_) _
        exact (set_defined _ setting).map
      | switch paused => exact (Defined.pure _).unless _
      | onPool id request =>
        apply (actOnPool_definedUnless sound₁ kind caller payments id request).mono
        rintro ⟨p, t, read, transition, miscounted⟩
        refine ⟨⟨caller, id, request, payments⟩, t, if_pos rfl, ?_, ?_⟩
        · refine bind_eq_ok_iff.2 ⟨w₁, paid, bind_eq_ok_iff.2 ⟨p, ?_, transition⟩⟩
          exact Market.pool_eq_ok_iff.2 read
        · unfold Miscounted at miscounted ⊢
          rwa [← receipts]
    | registry request | feed answer | receipt request =>
      rcases served₁ with market | oracle
      · cases market
      · cases oracle

/-! ### After any run -/

/--
Whatever has happened since before the first market and the first oracle, no call on one of them divides by zero, and
none takes a larger number from a smaller one, but where a receipt contract counts fewer units than it is to destroy.
Each pool computes at any time, at any prices, and for anybody, whether its oracle is one of these or not.
-/
theorem arithmetic_has_values (blank : ∀ a, w.kind a ≠ some .market ∧ w.kind a ≠ some .oracle) :
    let w' := w.play moves
    (∀ c fault, w'.kind c.target = some .market ∨ w'.kind c.target = some .oracle → w'.call c = .error fault →
      fault ≠ .divisionByZero ∧ (fault = .negativeDifference → w'.Overdrawn c.target (.call c))) ∧
    ∀ a id p s, w'.kind a = some .market → (w'.market a).pool? id = some p → s.fees = (w'.market a).fees →
      Defined s.prices → Defined s.lendToken → Defined s.borrowToken →
        (∀ action, Defined (p.act s action)) ∧ ∀ query, Defined (p.answer s query) := by
  intro w'
  have sound : w'.Sound := (sound_of_blank blank).play moves
  constructor
  · intro c fault served failed
    have cause := call_definedUnless sound c served fault failed
    constructor
    · rintro rfl
      cases (cause rfl).1
    · rintro rfl
      exact (cause rfl).2
  · intro a id p s market read fees prices lendToken borrowToken
    have fit := (sound.markets a market).pools p (Market.mem_of_pool? read)
    have scene : s.Sound := ⟨fees ▸ (sound.markets a market).fees, prices, lendToken, borrowToken⟩
    exact ⟨Pool.act_defined fit scene, Pool.answer_defined fit scene⟩

/-- The town before it had an oracle. -/
def bareTown : World := { town with kind := put town.kind (someone 2) none }

theorem bareTown_blank (a : Address) : bareTown.kind a ≠ some .market ∧ bareTown.kind a ≠ some .oracle := by
  unfold bareTown town put
  dsimp only
  split
  · simp
  · split
    · simp
    · split <;> simp

/-- An oracle without prices, and the loan of the town up to its settlement. -/
def pricelessTown : List Move := [
  .deploy (someone 8) (someone 2) (.oracle (someone 1)),
  .deploy (someone 8) (someone 5) (.market (someone 1) (someone 2) (someone 8))] ++ townDue

/-- Where prices are missing settlement is refused before it divides by them. -/
theorem pricelessTown_refuses :
    let settling : Call := ⟨someone 8, someone 5, .act (.market (.onPool 1 .settle)), []⟩
    (bareTown.play pricelessTown).call settling = .error .priceUnavailable ∧
      Fault.priceUnavailable ≠ .divisionByZero := by
  intro settling
  have failed : (bareTown.play pricelessTown).call settling = .error .priceUnavailable :=
    fault?_eq_some_iff.1 (by decide +kernel)
  have market : (bareTown.play pricelessTown).kind settling.target = some .market := by decide +kernel
  exact ⟨failed, ((arithmetic_has_values bareTown_blank).1 settling _ (.inl market) failed).1⟩

end TermLending.World
