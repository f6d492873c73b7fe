import TermLending.Proofs.Batch
import TermLending.Proofs.World.Books
import TermLending.Proofs.World.Storage

/-!
# Prices of tokens

An oracle never confuses its numbers. Two tokens have the same price for a reason: one of them was filed by hand, after
it was filed in any other way. So a new price is the price of those tokens alone that are meant to share it.
-/

namespace TermLending

/-- The tokens that an action gives a price or a feed, in order. -/
def Oracle.Action.tokens : Oracle.Action → List Token
  | setPrice token _ | setFeed token _ => [token]
  | setPrices tokens _ => tokens
  | _ => []

open World

variable {a caller deployer registry : Address} {before w w' : World} {m : Move} {moves : List Move} {o o' : Oracle}
  {T T' : Token} {events : List Event} {action : Oracle.Action} {payments : List Payment} {out : Outcome} {price : Nat}

/-- The move files the token at the oracle under a number of somebody's choice. -/
def Move.BindsByHand (m : Move) (w : World) (a : Address) (T : Token) : Prop :=
  ∃ caller id, m.CarriesOut w caller a (.oracle (.bindToken T id))

/-- The move files the token, by hand or because it has no number yet. -/
def Move.Binds (m : Move) (w : World) (a : Address) (T : Token) : Prop :=
  m.BindsByHand w a T ∨ ((w.after m).oracle a).idOf T ≠ (w.oracle a).idOf T

namespace World

/-! ### One action -/

theorem oracleAfter_extends (c : o.Consistent) (h : oracleAfter o action = .ok (o', events))
    (automatic : ∀ T id, action ≠ .bindToken T id) : o.Extends o' := by
  cases oracleAfter_outcome h with
  | priced done => exact Oracle.setPrice_extends c done
  | row lengths done => exact Oracle.setEach_extends c done
  | pricedById done => exact Oracle.setIdPrice_extends c done
  | fed done => exact Oracle.setFeed_extends c done
  | fedById done => exact Oracle.setIdFeed_extends c done
  | divided done => exact Oracle.setDivisor_extends c done
  | bound done => exact absurd rfl (automatic _ _)

theorem oracleAfter_bindToken {id : Nat} (c : o.Consistent)
    (h : oracleAfter o (.bindToken T id) = .ok (o', events)) :
    o'.Consistent ∧ o.usedIds ⊆ o'.usedIds ∧ o'.idOf = put o.idOf T id := by
  cases oracleAfter_outcome h with
  | bound done =>
    obtain ⟨consistent, used, idOf, _⟩ := Oracle.bindToken_cases c done
    exact ⟨consistent, used, idOf⟩

/-- Books stay consistent, and what is used stays so. -/
theorem oracleAfter_consistent (c : o.Consistent) (h : oracleAfter o action = .ok (o', events)) :
    o'.Consistent ∧ o.usedIds ⊆ o'.usedIds := by
  by_cases automatic : ∀ T id, action ≠ .bindToken T id
  · have extended := oracleAfter_extends c h automatic
    exact ⟨extended.consistent, extended.used⟩
  · simp only [ne_eq, not_forall, not_not] at automatic
    obtain ⟨T, id, rfl⟩ := automatic
    obtain ⟨consistent, used, _⟩ := oracleAfter_bindToken c h
    exact ⟨consistent, used⟩

/-- A token gets the least number that is not used, and that no token before it in the same action gets. -/
theorem oracleAfter_allots {earlier later : List Token} (c : o.Consistent)
    (h : oracleAfter o action = .ok (o', events)) (row : action.tokens = earlier ++ T :: later) (first : T ∉ earlier)
    (unbound : o.idOf T = 0) :
    IsLeast {n | 0 < n ∧ n ∉ o.usedIds ∧ ∀ T' ∈ earlier, n ≠ o'.idOf T'} (o'.idOf T) := by
  cases oracleAfter_outcome h with
  | @priced token price _ event done =>
    have each : o.setEach [(token, price)] = .ok (o', [event]) := by
      unfold Oracle.setEach
      rw [done]
      rfl
    exact Oracle.setEach_allots c each row first unbound
  | @row tokens prices _ _ lengths each =>
    have row : (tokens.zip prices).map Prod.fst = earlier ++ T :: later := by
      rw [List.map_fst_zip lengths.le]
      exact row
    exact Oracle.setEach_allots c each row first unbound
  | fed done =>
    cases earlier with
    | nil =>
      obtain ⟨here, _⟩ := List.cons.inj row
      subst here
      rw [Oracle.setFeed_allots c done unbound]
      simpa using Oracle.isLeast_nextId c
    | cons head tail => simp [Oracle.Action.tokens] at row
  | _ => exact absurd row.symm (List.append_ne_nil_of_right_ne_nil _ (List.cons_ne_nil _ _))

/-! ### Who filed a token -/

/-- The last move of a run that filed the token did so by hand. -/
def LastBoundByHand (a : Address) (T : Token) (w : World) (moves : List Move) : Prop :=
  ∃ earlier m later, moves = earlier ++ m :: later ∧ m.BindsByHand (w.play earlier) a T ∧
    ∀ before m' after, later = before ++ m' :: after → ¬m'.Binds (w.play (earlier ++ m :: before)) a T

theorem LastBoundByHand.now (h : m.BindsByHand (w.play moves) a T) : LastBoundByHand a T w (moves ++ [m]) := by
  refine ⟨moves, m, [], rfl, h, ?_⟩
  intro before m' after none
  exact absurd none.symm (List.append_ne_nil_of_right_ne_nil _ (List.cons_ne_nil _ _))

theorem LastBoundByHand.concat (h : LastBoundByHand a T w moves) (other : ¬m.Binds (w.play moves) a T) :
    LastBoundByHand a T w (moves ++ [m]) := by
  obtain ⟨earlier, first, later, rfl, bound, last⟩ := h
  refine ⟨earlier, first, later ++ [m], by simp, bound, ?_⟩
  intro before m' after split
  rcases List.eq_nil_or_concat after with rfl | ⟨after, m'', rfl⟩
  · obtain ⟨rfl, same⟩ := List.append_inj' split rfl
    cases same
    exact other
  · rw [List.concat_eq_append, ← List.cons_append, ← List.append_assoc] at split
    exact last before m' after (List.append_inj' split rfl).1

/-- The books of an oracle, wherever a run has led. -/
structure Filed (a : Address) (w : World) (moves : List Move) : Prop where
  kind : (w.play moves).kind a = some .oracle
  consistent : ((w.play moves).oracle a).Consistent
  shared : ∀ T T', T ≠ T' → ((w.play moves).oracle a).idOf T = ((w.play moves).oracle a).idOf T' →
    ((w.play moves).oracle a).idOf T ≠ 0 → LastBoundByHand a T w moves ∨ LastBoundByHand a T' w moves

theorem filed_of_deploy (deployed : before.deploy deployer a (.oracle registry) = .ok w) : Filed a w [] := by
  have fresh := oracle_of_new deployed
  refine ⟨?_, ?_, ?_⟩
  · show w.kind a = _
    rw [deploy_kind deployed, put_self]
    rfl
  · show (w.oracle a).Consistent
    rw [fresh]
    exact Oracle.consistent_of_blank (fun _ => rfl) (fun _ => rfl) (fun _ => rfl) rfl rfl
  · intro T T' _ _ bound
    change (w.oracle a).idOf T ≠ 0 at bound
    rw [fresh] at bound
    exact absurd rfl bound

theorem Filed.concat (h : Filed a w moves) (m : Move) : Filed a w (moves ++ [m]) := by
  have after : w.play (moves ++ [m]) = (w.play moves).after m := play_append w moves [m]
  have kind := (after_kind (by simp [h.kind]) m).trans h.kind
  rcases oracle_turn h.kind m with ⟨same, idle⟩ | ⟨caller, action, events, carries, changed⟩
  · refine ⟨?_, ?_, ?_⟩
    · rwa [after]
    · rw [after, same]
      exact h.consistent
    · intro T T' apart shared bound
      have kept (T : Token) : ¬m.Binds (w.play moves) a T := by
        rintro (⟨caller, id, carries⟩ | moved)
        · exact idle _ _ carries
        · exact moved (by rw [same])
      rw [after, same] at shared bound
      exact (h.shared T T' apart shared bound).imp (·.concat (kept T)) (·.concat (kept T'))
  · refine ⟨?_, ?_, ?_⟩
    · rwa [after]
    · rw [after]
      exact (oracleAfter_consistent h.consistent changed).1
    · intro T T' apart shared bound
      rw [after] at shared bound
      -- A number is shared by tokens that shared it before, or by one that this very move has filed by hand.
      by_cases automatic : ∀ T id, action ≠ .bindToken T id
      · have extended := oracleAfter_extends h.consistent changed automatic
        obtain ⟨shared, bound⟩ := extended.apart T T' apart shared bound
        have kept {T : Token} (bound : ((w.play moves).oracle a).idOf T ≠ 0) : ¬m.Binds (w.play moves) a T := by
          rintro (⟨caller', id, byHand⟩ | moved)
          · obtain ⟨_, _, same⟩ := byHand.unique carries
            exact automatic T id (Action.oracle.inj same)
          · exact moved (extended.kept T bound)
        exact (h.shared T T' apart shared bound).imp (·.concat (kept bound)) (·.concat (kept (shared ▸ bound)))
      · simp only [ne_eq, not_forall, not_not] at automatic
        obtain ⟨T₀, id, rfl⟩ := automatic
        obtain ⟨_, _, idOf⟩ := oracleAfter_bindToken h.consistent changed
        have now : LastBoundByHand a T₀ w (moves ++ [m]) := .now ⟨caller, id, carries⟩
        have kept {T : Token} (other : T ≠ T₀) : ¬m.Binds (w.play moves) a T := by
          rintro (⟨caller', id', byHand⟩ | moved)
          · obtain ⟨_, _, same⟩ := byHand.unique carries
            cases same
            exact other rfl
          · exact moved (by rw [idOf, put_of_ne _ _ _ other])
        by_cases first : T = T₀
        · exact .inl (first ▸ now)
        · by_cases second : T' = T₀
          · exact .inr (second ▸ now)
          · rw [idOf, put_of_ne _ _ _ first] at shared bound
            rw [put_of_ne _ _ _ second] at shared
            exact (h.shared T T' apart shared bound).imp (·.concat (kept first)) (·.concat (kept second))

theorem filed_along (deployed : before.deploy deployer a (.oracle registry) = .ok w) (moves : List Move) :
    Filed a w moves := by
  induction moves using List.reverseRecOn with
  | nil => exact filed_of_deploy deployed
  | append_singleton moves m ih => exact ih.concat m

/-- What is used stays so, whatever comes. -/
theorem Filed.used (h : Filed a w moves) (later : List Move) :
    ((w.play moves).oracle a).usedIds ⊆ (((w.play moves).play later).oracle a).usedIds := by
  induction later generalizing moves with
  | nil => exact List.Subset.refl _
  | cons m rest ih =>
    have next := ih (h.concat m)
    rw [show w.play (moves ++ [m]) = (w.play moves).after m from play_append w moves [m]] at next
    refine List.Subset.trans ?_ next
    rcases oracle_turn h.kind m with ⟨same, _⟩ | ⟨_, _, _, _, changed⟩
    · rw [same]
      exact List.Subset.refl _
    · exact (oracleAfter_consistent h.consistent changed).2

/-! ### What a new price changes -/

/-- What the oracle at `a` answers when it is asked for the price of a token. -/
def quote (w : World) (a : Address) (T : Token) : Except Fault Reply := w.ask a (.oracle (.price T))

theorem quote_eq (kind : w.kind a = some .oracle) (T : Token) :
    w.quote a T = (do return .number (← (w.oracle a).tokenPrice w.askFeed T) : Except Fault Reply) := ask_eq kind rfl

/--
The oracle has a new price for the token. It is the price of all tokens under the same number and of no others, unless a
feed is asked for that number; then all answers are as before. A token that had no number does not share the price.
-/
structure Repriced (a : Address) (T : Token) (price : Nat) (w w' : World) : Prop where
  shared : (w'.oracle a).feedOf ((w'.oracle a).idOf T) = none → ∀ T',
    ((w'.oracle a).idOf T' = (w'.oracle a).idOf T → w'.quote a T' = .ok (.number price)) ∧
      ((w'.oracle a).idOf T' ≠ (w'.oracle a).idOf T → w'.quote a T' = w.quote a T')
  fed : (w'.oracle a).feedOf ((w'.oracle a).idOf T) ≠ none → ∀ T', w'.quote a T' = w.quote a T'
  first : (w.oracle a).idOf T = 0 →
    w'.quote a T = .ok (.number price) ∧ ∀ T', T' ≠ T → w'.quote a T' = w.quote a T'

theorem repriced_of_call (kind : w.kind a = some .oracle) (c : (w.oracle a).Consistent)
    (done : w.call ⟨caller, a, .act (.oracle (.setPrice T price)), payments⟩ = .ok out) :
    Repriced a T price w out.world := by
  obtain ⟨w₁, paid, _, acted⟩ := call_act_eq_ok_iff.1 done
  have only := (transferAll_only paid).1
  obtain ⟨oracle, event, stored, changed⟩ : ∃ oracle event, out.world = w₁.setOracle a oracle ∧
      (w₁.oracle a).setPrice T price = .ok (oracle, event) := by
    cases act_outcome acted with
    | oracle approved changed =>
      cases oracleAfter_outcome changed with
      | priced priced => exact ⟨_, _, rfl, priced⟩
  rw [only.oracle] at changed
  obtain ⟨id, priced⟩ := Oracle.priced_of_setPrice c changed
  have now : out.world.oracle a = oracle := by rw [stored, setOracle_oracle]
  have feeds : out.world.askFeed = w.askFeed := by
    rw [stored]
    show w₁.askFeed = _
    exact askFeed_of_only only
  have kind' : out.world.kind a = some .oracle := by
    rw [stored]
    exact (congrFun only.kind a).trans kind
  have quotes (T' : Token) :
      out.world.quote a T' = (do return .number (← oracle.tokenPrice w.askFeed T') : Except Fault Reply) := by
    rw [quote_eq kind', now, feeds]
  have same {T' : Token} (equal : oracle.tokenPrice w.askFeed T' = (w.oracle a).tokenPrice w.askFeed T') :
      out.world.quote a T' = w.quote a T' := by
    rw [quotes, quote_eq kind, equal]
  have new {T' : Token} (equal : oracle.tokenPrice w.askFeed T' = .ok price) :
      out.world.quote a T' = .ok (.number price) := by
    rw [quotes, equal]
    rfl
  refine ⟨?_, ?_, ?_⟩
  · intro plain T'
    rw [now, priced.own] at plain ⊢
    rw [priced.feedOf] at plain
    exact ⟨fun filed => new (priced.shared plain filed), fun other => same (priced.elsewhere other)⟩
  · intro fed T'
    rw [now, priced.own, priced.feedOf] at fed
    exact same (priced.behind_feed c fed T')
  · intro unbound
    obtain ⟨plain, others⟩ := priced.alone c unbound
    exact ⟨new (priced.shared plain priced.own), fun T' apart => same (priced.elsewhere (others T' apart))⟩

/-! ### Along a run -/

/--
The numbers of an oracle are never confused, wherever a run has led. What is filed under a number marks it as used for
good, and so do numbers handed out. The scan for a new number ends, at the least number that is not used, and this is
what a token gets that is priced or fed for the first time. Tokens share a number only if one of them was last filed by
hand, and a new price changes the answers for those tokens alone.
-/
theorem numbers_are_never_confused (deployed : before.deploy deployer a (.oracle registry) = .ok w)
    (moves : List Move) :
    let w' := w.play moves
    let o := w'.oracle a
    (∀ id, o.Known id → id ≠ 0 ∧ id ∈ o.usedIds) ∧
    (∀ id, 0 < id → id ≤ o.lastId → id ∈ o.usedIds) ∧
    (∀ later, o.usedIds ⊆ ((w'.play later).oracle a).usedIds) ∧
    (∀ tries, o.usedIds.length ≤ tries → Oracle.leastUnused o.usedIds (o.lastId + 1) tries = o.nextId) ∧
    IsLeast {n | 0 < n ∧ n ∉ o.usedIds} o.nextId ∧
    (∀ n, 0 < n → n ≤ maxU64 → n ∉ o.usedIds → o.nextId ≤ maxU64) ∧
    (∀ T : Token, T.isValid = true → o.idOf T = 0 → ∃ o', o.resolve T = .ok (o', o.nextId)) ∧
    (∀ m caller action, m.CarriesOut w' caller a (.oracle action) → ∀ earlier T later,
      action.tokens = earlier ++ T :: later → T ∉ earlier → o.idOf T = 0 →
        let o' := (w'.after m).oracle a
        IsLeast {n | 0 < n ∧ n ∉ o.usedIds ∧ ∀ T' ∈ earlier, n ≠ o'.idOf T'} (o'.idOf T)) ∧
    (∀ T T', T ≠ T' → o.idOf T = o.idOf T' → o.idOf T ≠ 0 →
      LastBoundByHand a T w moves ∨ LastBoundByHand a T' w moves) ∧
    ∀ caller T price payments out, w'.call ⟨caller, a, .act (.oracle (.setPrice T price)), payments⟩ = .ok out →
      Repriced a T price w' out.world := by
  intro w' o
  have filed := filed_along deployed moves
  have c : o.Consistent := filed.consistent
  have least := Oracle.isLeast_nextId c
  refine ⟨?_, c.handed, filed.used, ?_, least, ?_, ?_, ?_, filed.shared, ?_⟩
  · intro id known
    have member := c.known id known
    exact ⟨fun zero => c.positive (zero ▸ member), member⟩
  · exact fun tries enough => Oracle.leastUnused_of_enough enough _
  · exact fun n some fits unused => (least.2 ⟨some, unused⟩).trans fits
  · exact fun T valid unbound => Oracle.resolve_succeeds valid unbound
  · intro m caller action carries earlier T later row first unbound
    rcases oracle_turn filed.kind m with ⟨_, idle⟩ | ⟨caller', action', events, carries', changed⟩
    · exact absurd carries (idle _ _)
    · obtain ⟨_, _, same⟩ := carries.unique carries'
      cases same
      exact oracleAfter_allots c changed row first unbound
  · exact fun caller T price payments out done => repriced_of_call filed.kind c done

/-- The town has an oracle of its own at 9. -/
def exchange : World :=
  { town.setOracle (someone 9) { registry := someone 1, divisor := Oracle.defaultDivisor } with
    kind := put town.kind (someone 9) (some .oracle)
    deployer := put town.deployer (someone 9) (someone 8) }

theorem exchange_deployed : town.deploy (someone 8) (someone 9) (.oracle (someone 1)) = .ok exchange := rfl

def quotation (action : Oracle.Action) : Move := .call ⟨someone 8, someone 9, .act (.oracle action), []⟩

/-- The second number is taken by hand before a row of first prices, and the third is shared afterwards. -/
def quotations : List Move := [
  quotation (.setPrice (coin 0x53) 5),
  quotation (.bindToken (coin 0x50) 2),
  quotation (.setPrices [coin 0x51, coin 0x52] [1, 2]),
  quotation (.bindToken (coin 0x54) 3)]

/-- Two tokens share the third number, one of them by hand, and both have the new price of the other. -/
theorem exchange_shares_on_purpose :
    let w := exchange.play quotations
    (w.oracle (someone 9)).idOf (coin 0x51) = 3 ∧ (w.oracle (someone 9)).idOf (coin 0x52) = 4 ∧
      (LastBoundByHand (someone 9) (coin 0x51) exchange quotations ∨
        LastBoundByHand (someone 9) (coin 0x54) exchange quotations) ∧
      ∃ out, w.call ⟨someone 8, someone 9, .act (.oracle (.setPrice (coin 0x51) 7)), []⟩ = .ok out ∧
        out.world.quote (someone 9) (coin 0x54) = .ok (.number 7) := by
  intro w
  obtain ⟨_, _, _, _, _, _, _, _, shared, repriced⟩ := numbers_are_never_confused exchange_deployed quotations
  have accepted : (w.call ⟨someone 8, someone 9, .act (.oracle (.setPrice (coin 0x51) 7)), []⟩).toOption.map
      (fun out => ((out.world.oracle (someone 9)).feedOf 3, (out.world.oracle (someone 9)).idOf (coin 0x51),
        (out.world.oracle (someone 9)).idOf (coin 0x54))) = some (none, 3, 3) := by decide +kernel
  refine ⟨by decide +kernel, by decide +kernel, ?_, ?_⟩
  · exact shared (coin 0x51) (coin 0x54) (by decide) (by decide +kernel) (by decide +kernel)
  · cases done : w.call ⟨someone 8, someone 9, .act (.oracle (.setPrice (coin 0x51) 7)), []⟩ with
    | error fault =>
      rw [done] at accepted
      cases accepted
    | ok out =>
      rw [done] at accepted
      obtain ⟨plain, rest⟩ := Prod.mk.inj (Option.some.inj accepted)
      obtain ⟨own, other⟩ := Prod.mk.inj rest
      have told := repriced (someone 8) (coin 0x51) 7 [] out done
      exact ⟨out, rfl, ((told.shared (own ▸ plain) (coin 0x54)).1 (other.trans own.symm))⟩

end World

end TermLending
