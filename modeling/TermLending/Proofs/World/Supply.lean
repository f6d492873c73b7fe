import TermLending.Proofs.World.Arithmetic
import TermLending.Proofs.World.Exits
import TermLending.Proofs.World.Minting

/-!
# The supply of a receipt token

A receipt contract never asks who holds its token, and holders never ask the contract before they pass it on. Still its
count is always what all accounts hold together: units come and go with the count alone, and in between they only change
hands.
-/

namespace TermLending.World

open Finset

variable {w w' v : World} {r x actor minter owner account deployer : Address} {T T' : Token} {n : Nat}
  {log : List LogEntry} {payments attached : List Payment} {c : Context} {m : Move} {moves : List Move}
  {ticker : List UInt8} {price : Nat} {blueprint : Blueprint}

/-- Among receipt contracts the one at `r` has the token `T`, and it has no other. -/
def Belongs (r : Address) (T : Token) (w : World) : Prop :=
  ∀ x T', w.kind x = some .receipt → (w.receipt x).token = some T' → (T' = T ↔ x = r)

theorem Belongs.token_iff (belongs : Belongs r T w) (contract : w.kind x = some .receipt)
    (issued : (w.receipt x).token = some T') : (w.receipt x).token = some T ↔ x = r := by
  rw [issued, Option.some.injEq]
  exact belongs x T' contract issued

theorem Belongs.of_same (belongs : Belongs r T w) (kind : w'.kind = w.kind)
    (token : ∀ x, (w'.receipt x).token = (w.receipt x).token) : Belongs r T w' := by
  intro x T' contract issued
  rw [kind] at contract
  rw [token] at issued
  exact belongs x T' contract issued

/-! ### Units -/

theorem mint_units (h : w.mint r minter owner n = .ok (w', log)) (T : Token) :
    w'.units T = w.units T + (if (w.receipt r).token = some T then n else 0) := by
  have created (a : Address) : w'.balance a T + (if a = owner then 0 else 0) =
      w.balance a T + (if a = owner then (if (w.receipt r).token = some T then n else 0) else 0) := by
    rw [ite_self, mint_balance h a T, ite_and, Nat.add_zero]
  exact units_of_balance created

theorem burn_units (h : w.burn r minter owner n attached = .ok (w', log)) (T : Token) :
    w'.units T + (if (w.receipt r).token = some T then n else 0) = w.units T := by
  have destroyed (a : Address) : w'.balance a T + (if a = r then (if (w.receipt r).token = some T then n else 0) else 0) =
      w.balance a T + (if a = r then 0 else 0) := by
    rw [ite_self, ← burn_balance h a T, ite_and, Nat.add_zero]
  exact units_of_balance destroyed

/-- The units of a token change by what its contract announces. -/
theorem Course.units (h : Course actor w v log) (belongs : Belongs r T w) :
    v.units T + tally log r Event.destroyed = w.units T + tally log r Event.created := by
  induction h with
  | start => rfl
  | moved before sent ih =>
    rw [transfer_units sent]
    exact ih
  | stored before ih => exact ih
  | minted before contract done ih =>
    have created := mint_units done T
    obtain ⟨_, _, _, _, issued, _, _, rfl⟩ := mint_eq_ok_iff.1 done
    have here := (belongs.of_same before.kind fun x => (before.sameIssuers x).1).token_iff contract issued
    rw [tally_append, tally_append, tally_single, tally_single, created]
    simp only [here, eq_comm (a := r), Event.created, Event.destroyed, ite_self]
    omega
  | burned before contract done ih =>
    have destroyed := burn_units done T
    obtain ⟨_, _, _, issued, _, _, _, _, _, _, rfl⟩ := burn_eq_ok_iff.1 done
    have here := (belongs.of_same before.kind fun x => (before.sameIssuers x).1).token_iff contract issued
    rw [tally_append, tally_append, tally_single, tally_single]
    simp only [here] at destroyed
    simp only [eq_comm (a := r), Event.created, Event.destroyed, ite_self]
    omega

/-! ### Circulation within a call -/

/-- There is a receipt contract at `r`, and it has a token. -/
def Active (r : Address) (w : World) : Prop := w.kind r = some .receipt ∧ (w.receipt r).token ≠ none

/-- All units of `T` are counted by `r`, which counts none before it has a token. -/
structure Circulates (r : Address) (T : Token) (w : World) : Prop where
  counted : (w.receipt r).supply = w.units T
  idle : ¬Active r w → (w.receipt r).supply = 0

/-- A count changes for a minter alone, and where there is something to count. -/
theorem Course.changed (h : Course actor w v log) (changed : (v.receipt r).supply ≠ (w.receipt r).supply) :
    Active r w ∧ actor ∈ (w.receipt r).minters ∧ ∃ entry ∈ log, entry.source = r := by
  have loud : ¬Quiet r log := by
    intro quiet
    obtain ⟨created, destroyed⟩ := quiet.tally
    have supply := h.supply r
    omega
  unfold Quiet at loud
  push Not at loud
  obtain ⟨entry, logged, rfl, named⟩ := loud
  obtain ⟨minter, named⟩ := Option.ne_none_iff_exists'.1 named
  obtain ⟨_, isMinter, contract, T, issued⟩ := h.authorized logged named
  exact ⟨⟨contract, by simp [issued]⟩, isMinter, entry, logged, rfl⟩

theorem Course.circulates (h : Course actor w v log) (belongs : Belongs r T w) (start : Circulates r T w) :
    Circulates r T v := by
  have supply := h.supply r
  have units := h.units belongs
  have counted := start.counted
  refine ⟨by omega, fun inactive => ?_⟩
  unfold Active at inactive
  rw [h.kind, (h.sameIssuers r).1] at inactive
  rw [← start.idle inactive]
  by_contra changed
  exact inactive (h.changed changed).1

/-! ### Names of tokens -/

/-- An issue names the token of one contract, which had none, and counts nothing. -/
theorem issue_receipt (h : w.issue x ticker price = .ok w') :
    w'.kind = w.kind ∧ (w.receipt x).token = none ∧ (w'.receipt x).token = some (Receipt.tokenName x ticker) ∧
      (∀ a, a ≠ x → (w'.receipt a).token = (w.receipt a).token) ∧
      ∀ a, (w'.receipt a).supply = (w.receipt a).supply := by
  simp only [issue, bind_eq_ok_iff, demand_eq_ok_iff, exists_const, debit_eq_ok_iff, pure_eq_ok_iff] at h
  obtain ⟨fresh, _, ⟨_, rfl⟩, rfl⟩ := h
  let named : Receipt := { w.receipt x with token := some (Receipt.tokenName x ticker) }
  refine ⟨rfl, fresh, congrArg Receipt.token (put_self w.receipt x named), ?_, ?_⟩
  · intro a other
    exact congrArg Receipt.token (put_of_ne w.receipt x named other)
  · exact put_agree (f := w.receipt) (b := named) (g := Receipt.supply) rfl

/-- Whoever held a token by the new name holds nothing of it now, and no other token is lost. -/
theorem issue_units (notCoin : T ≠ .native) (other : Receipt.tokenName x ticker ≠ T)
    (h : w.issue x ticker price = .ok w') : w'.units T = w.units T := by
  refine sum_congr rfl fun a _ => ?_
  rw [issue_balance h, if_neg fun here => other here.2.symm, if_neg fun here => notCoin here.2]

theorem issue_circulates (notCoin : T ≠ .native) (contract : w.kind x = some .receipt)
    (h : w.issue x ticker price = .ok w') (belongs : Belongs r T w') (start : Circulates r T w) : Circulates r T w' := by
  obtain ⟨kind, fresh, named, token, supply⟩ := issue_receipt h
  by_cases ours : x = r
  · subst ours
    have none := start.idle fun active => active.2 fresh
    have empty : w.units T = 0 := start.counted ▸ none
    have still : w'.units T ≤ w.units T := by
      refine sum_le_sum fun a _ => ?_
      rw [issue_balance h, if_neg (c := a = x ∧ T = .native) fun here => notCoin here.2]
      split
      · exact Nat.zero_le _
      · exact Nat.le_refl _
    have count := supply x
    exact ⟨by omega, fun _ => by omega⟩
  · have other : Receipt.tokenName x ticker ≠ T := fun same => ours ((belongs x _ (kind ▸ contract) named).1 same)
    refine ⟨?_, ?_⟩
    · rw [supply, issue_units notCoin other h]
      exact start.counted
    · unfold Active
      rw [kind, token r (Ne.symm ours), supply]
      exact start.idle

theorem Dealing.token (h : Dealing w c w' log) (issued : (w.receipt x).token = some T) :
    (w'.receipt x).token = some T := by
  cases h with
  | direct course own => rw [(course.sameIssuers x).1, issued]
  | onBehalf market course events => rw [(course.sameIssuers x).1, issued]
  | issued contract ticker price done =>
    obtain ⟨_, fresh, _, token, _⟩ := issue_receipt done
    by_cases here : x = c.self
    · rw [here, fresh] at issued
      cases issued
    · rw [token x here, issued]
  | none same quiet => rw [same.token, issued]

/-! ### Circulation after an action -/

/-- There may be a receipt contract at `r` one day, if there is not yet. -/
def Serving (r : Address) (w : World) : Prop := w.kind r = none ∨ w.kind r = some .receipt

theorem Dealing.supply (h : Dealing w c w' log) (serving : Serving r w) :
    (w'.receipt r).supply + tally log r Event.destroyed = (w.receipt r).supply + tally log r Event.created := by
  cases h with
  | direct course own => exact course.supply r
  | onBehalf market course events =>
    obtain ⟨created, destroyed⟩ := (quiet_of_kind market nofun serving events).tally
    rw [tally_append, tally_append, created, destroyed]
    exact course.supply r
  | issued contract ticker price done =>
    obtain ⟨_, _, _, _, supply⟩ := issue_receipt done
    rw [supply]
    rfl
  | none same quiet =>
    obtain ⟨created, destroyed⟩ := (quiet r serving).tally
    rw [same.supply, created, destroyed]

theorem Dealing.circulates (h : Dealing w c w' log) (notCoin : T ≠ .native) (belongs : Belongs r T w)
    (belongs' : Belongs r T w') (start : Circulates r T w) : Circulates r T w' := by
  cases h with
  | direct course own => exact course.circulates belongs start
  | onBehalf market course events => exact course.circulates belongs start
  | issued contract ticker price done => exact issue_circulates notCoin contract done belongs' start
  | none same quiet =>
    refine ⟨?_, ?_⟩
    · unfold units
      rw [same.supply, same.balance]
      exact start.counted
    · unfold Active
      rw [same.kind, same.token, same.supply]
      exact start.idle

/-! ### Moves -/

/-- A move that creates no receipts and destroys none. A contract that comes into being counts none. -/
structure Uneventful (w : World) (m : Move) : Prop where
  silent : w.announced m = []
  units : ∀ T, (w.after m).units T = w.units T
  receipt : ∀ a, (w.after m).receipt a = w.receipt a ∨ w.kind a = none ∧ ((w.after m).receipt a).supply = 0

theorem Uneventful.of_same (silent : w.announced m = []) (same : w.after m = w) : Uneventful w m :=
  ⟨silent, fun _ => by rw [same], fun _ => .inl (by rw [same])⟩

/-- A move is uneventful, or a call that succeeds. -/
theorem uneventful_or_called (w : World) (m : Move) :
    Uneventful w m ∨
      ∃ caller target request payments o, m = .call ⟨caller, target, request, payments⟩ ∧
        w.call ⟨caller, target, request, payments⟩ = .ok o := by
  obtain ⟨w', after⟩ : ∃ w', w.after m = w' := ⟨_, rfl⟩
  have outcome := w.after_outcome m
  rw [after] at outcome
  cases outcome with
  | called done => exact .inr ⟨_, _, _, _, _, rfl, done⟩
  | refused failed => exact .inl (.of_same (announced_error failed) after)
  | unsent | undeployed => exact .inl (.of_same rfl after)
  | sent done =>
    refine .inl ⟨rfl, fun T => ?_, fun a => .inl ?_⟩
    · rw [after, transfer_units done]
    · rw [after, (transfer_only done).2]
  | deployed free done =>
    obtain ⟨w₁, founded, rfl⟩ := deploy_outcome done
    obtain ⟨_, balance, _, receipts⟩ := founded.frame
    refine .inl ⟨rfl, fun T => ?_, fun a => ?_⟩
    · rw [after, units, units, balance]
    · rw [after]
      refine (receipts a).imp_right ?_
      rintro ⟨rfl, none⟩
      exact ⟨free, none⟩
  | waited => exact .inl ⟨rfl, fun _ => rfl, fun _ => .inl rfl⟩

/-- The token of a receipt contract is set once and for all. -/
theorem after_token (contract : w.kind x = some .receipt) (issued : (w.receipt x).token = some T) (m : Move) :
    ((w.after m).receipt x).token = some T := by
  rcases uneventful_or_called w m with quiet | ⟨caller, target, request, payments, o, rfl, done⟩
  · rcases quiet.receipt x with same | ⟨absent, _⟩
    · rw [same, issued]
    · rw [contract] at absent
      cases absent
  · obtain ⟨w₁, paid, dealing⟩ := call_dealing done
    rw [after_call_ok done]
    apply dealing.token
    rw [(transferAll_only paid).2, issued]

theorem belongs_of_after (belongs : Belongs r T (w.after m)) : Belongs r T w := by
  intro x T' contract issued
  apply belongs x T' _ (after_token contract issued m)
  rw [after_kind (by simp [contract]), contract]

theorem serving_of_after (serving : Serving r (w.after m)) : Serving r w := by
  by_cases absent : w.kind r = none
  · exact .inl absent
  · unfold Serving at serving
    rwa [after_kind absent] at serving

theorem play_belongs (belongs : Belongs r T (w.play moves)) (serving : Serving r (w.play moves)) :
    Belongs r T w ∧ Serving r w := by
  induction moves generalizing w with
  | nil => exact ⟨belongs, serving⟩
  | cons m rest ih =>
    obtain ⟨belongs', serving'⟩ := ih belongs serving
    exact ⟨belongs_of_after belongs', serving_of_after serving'⟩

/-- One move keeps the count in step with what it announces. -/
theorem after_supply (start : Circulates r T w) (serving : Serving r w) (m : Move) :
    ((w.after m).receipt r).supply + tally (w.announced m) r Event.destroyed =
      (w.receipt r).supply + tally (w.announced m) r Event.created := by
  rcases uneventful_or_called w m with quiet | ⟨caller, target, request, payments, o, rfl, done⟩
  · rw [quiet.silent]
    rcases quiet.receipt r with same | ⟨absent, none⟩
    · rw [same]
      rfl
    · have idle := start.idle fun active => by simp [active.1] at absent
      rw [none, idle]
      rfl
  · obtain ⟨w₁, paid, dealing⟩ := call_dealing done
    obtain ⟨only, receipts⟩ := transferAll_only paid
    rw [after_call_ok done, announced_ok done, ← receipts]
    apply dealing.supply
    unfold Serving
    rw [only.kind]
    exact serving

theorem Circulates.after (start : Circulates r T w) (notCoin : T ≠ .native) (belongs : Belongs r T w)
    (belongs' : Belongs r T (w.after m)) : Circulates r T (w.after m) := by
  rcases uneventful_or_called w m with quiet | ⟨caller, target, request, payments, o, rfl, done⟩
  · have units := quiet.units T
    have counted := start.counted
    rcases quiet.receipt r with same | ⟨absent, none⟩
    · refine ⟨by rw [same]; omega, fun inactive => ?_⟩
      rw [same]
      refine start.idle fun active => inactive ⟨?_, ?_⟩
      · rw [after_kind (by simp [active.1]), active.1]
      · rw [same]
        exact active.2
    · have idle := start.idle fun active => by simp [active.1] at absent
      exact ⟨by omega, fun _ => none⟩
  · obtain ⟨w₁, paid, dealing⟩ := call_dealing done
    have moved : Course caller w w₁ [] := Course.start.transferAll paid
    rw [after_call_ok done] at belongs' ⊢
    have belongs₁ := belongs.of_same moved.kind fun x => (moved.sameIssuers x).1
    exact dealing.circulates notCoin belongs₁ belongs' (moved.circulates belongs start)

theorem play_circulates (start : Circulates r T w) (notCoin : T ≠ .native) (belongs : Belongs r T (w.play moves))
    (serving : Serving r (w.play moves)) :
    Circulates r T (w.play moves) ∧
      ((w.play moves).receipt r).supply + tally (w.announcements moves) r Event.destroyed =
        (w.receipt r).supply + tally (w.announcements moves) r Event.created := by
  induction moves generalizing w with
  | nil => exact ⟨start, rfl⟩
  | cons m rest ih =>
    change Belongs r T ((w.after m).play rest) at belongs
    change Serving r ((w.after m).play rest) at serving
    obtain ⟨belongs', serving'⟩ := play_belongs belongs serving
    have next := start.after notCoin (belongs_of_after belongs') belongs'
    obtain ⟨circulates, counted⟩ := ih next belongs serving
    have step := after_supply start (serving_of_after serving') m
    refine ⟨circulates, ?_⟩
    change ((w.after m).play rest |>.receipt r).supply + tally (w.announced m ++ _) r _ = _ + tally (_ ++ _) r _
    rw [tally_append, tally_append]
    omega

/-! ### Burns -/

/-- What is destroyed has arrived before, and what a contract holds of its token is counted. -/
theorem burn_defined (covered : ∀ T, (w.receipt r).token = some T → w.balance r T ≤ (w.receipt r).supply) :
    Defined (w.burn r minter owner n attached) := by
  refine (redeem_defined (w.receipt r) minter n attached).bind fun token redeemed => ?_
  refine .given rfl fun _ => (debit_defined w r token n).bind fun w₁ taken => ?_
  obtain ⟨⟨held, _⟩, rfl⟩ := debit_eq_ok_iff.1 taken
  obtain ⟨_, _, issued, _⟩ := Receipt.redeem_eq_ok_iff.1 redeemed
  have counted : n ≤ (w.receipt r).supply := held.trans (covered token issued)
  exact Defined.bind (difference_defined counted).map fun _ _ => .pure _

theorem Circulates.burn_defined (h : Circulates r T v) (belongs : Belongs r T v) (contract : v.kind r = some .receipt) :
    Defined (v.burn r minter owner n attached) := by
  apply World.burn_defined
  intro T' issued
  rw [(belongs r T' contract issued).2 rfl, h.counted]
  exact balance_le_units v r T

/-- A minter pays for a burn with the units to be destroyed, and nobody else pays. -/
theorem burn_takes (belongs : Belongs r T v) (contract : v.kind r = some .receipt)
    (paid : v.transferAll minter r payments = .ok w) (burned : w.burn r minter owner n payments = .ok (w', log)) :
    minter ∈ (v.receipt r).minters ∧ payments = [⟨T, n⟩] ∧
      ∀ a T', w'.balance a T' + (if a = minter ∧ T' = T then n else 0) = v.balance a T' := by
  have destroyed (a : Address) (T' : Token) := burn_balance burned a T'
  obtain ⟨token, isMinter, _, issued, _, attached, _⟩ := burn_eq_ok_iff.1 burned
  rw [(transferAll_only paid).2] at isMinter issued
  cases (belongs r token contract issued).2 rfl
  refine ⟨isMinter, attached, fun a T' => ?_⟩
  have moved := transferAll_balance paid a T'
  have lost := destroyed a T'
  rw [(transferAll_only paid).2, issued] at lost
  rw [attached] at moved
  simp only [World.paid, Nat.add_zero, ← ite_and, Option.some.injEq, eq_comm (a := T)] at moved lost ⊢
  omega

/-! ### The whole run -/

/-- A supply is changed by a minter: the caller of the contract, or a market that is called. -/
theorem changed_by_minter (contract : w.kind r = some .receipt)
    (changed : ((w.after m).receipt r).supply ≠ (w.receipt r).supply) :
    ∃ caller target request payments o, m = .call ⟨caller, target, request, payments⟩ ∧
      w.call ⟨caller, target, request, payments⟩ = .ok o ∧
      (target = r ∧ caller ∈ (w.receipt r).minters ∨
        w.kind target = some .market ∧ target ∈ (w.receipt r).minters) := by
  rcases uneventful_or_called w m with quiet | ⟨caller, target, request, payments, o, rfl, done⟩
  · rcases quiet.receipt r with same | ⟨absent, _⟩
    · exact absurd (congrArg Receipt.supply same) changed
    · rw [contract] at absent
      cases absent
  · refine ⟨caller, target, request, payments, o, rfl, done, ?_⟩
    obtain ⟨w₁, paid, dealing⟩ := call_dealing done
    obtain ⟨only, receipts⟩ := transferAll_only paid
    rw [after_call_ok done, ← receipts] at changed
    rw [← receipts, ← only.kind]
    obtain ⟨w', reply, log⟩ := o
    cases dealing with
    | direct course own =>
      obtain ⟨_, isMinter, entry, logged, here⟩ := course.changed changed
      exact .inl ⟨(own entry logged).symm.trans here, isMinter⟩
    | onBehalf market course events => exact .inr ⟨market, (course.changed changed).2.1⟩
    | issued contract ticker price done => exact absurd ((issue_receipt done).2.2.2.2 r) changed
    | none same quiet => exact absurd (same.supply r) changed

/--
What a receipt contract says there is of its token is what all accounts hold together, and what it created less what it
destroyed. So whatever a call has done so far, there is always enough counted for a burn, which takes the units from
the minter that asks for it alone; and only minters ever change the count.
-/
theorem supply_is_circulation (notCoin : T ≠ .native) (uncounted : (w.receipt r).supply = 0)
    (unheld : ∀ a, w.balance a T = 0) (contract : (w.play moves).kind r = some .receipt)
    (belongs : Belongs r T (w.play moves)) :
    let w' := w.play moves
    let supply := (w'.receipt r).supply
    w'.ask r (.receipt .supply) = .ok (.number supply) ∧
    supply = ∑ a, w'.balance a T ∧
    supply + tally (w.announcements moves) r Event.destroyed = tally (w.announcements moves) r Event.created ∧
    (∀ actor v log, Course actor w' v log → ∀ minter owner n payments,
      v.burn r minter owner n payments ≠ .error .negativeDifference ∧
      ∀ v₁ v₂ log₂, v.transferAll minter r payments = .ok v₁ → v₁.burn r minter owner n payments = .ok (v₂, log₂) →
        minter ∈ (v.receipt r).minters ∧ payments = [⟨T, n⟩] ∧
        ∀ a T', v₂.balance a T' + (if a = minter ∧ T' = T then n else 0) = v.balance a T') ∧
    ∀ m, ((w'.after m).receipt r).supply ≠ supply →
      ∃ caller target request payments o, m = .call ⟨caller, target, request, payments⟩ ∧
        w'.call ⟨caller, target, request, payments⟩ = .ok o ∧
        (target = r ∧ caller ∈ (w'.receipt r).minters ∨
          w'.kind target = some .market ∧ target ∈ (w'.receipt r).minters) := by
  intro w' supply
  have start : Circulates r T w := by
    refine ⟨?_, fun _ => uncounted⟩
    simp [units, unheld, uncounted]
  obtain ⟨circulates, counted⟩ := play_circulates start notCoin belongs (.inr contract)
  rw [uncounted, Nat.zero_add] at counted
  refine ⟨?_, circulates.counted, counted, ?_, fun m changed => changed_by_minter contract changed⟩
  · unfold ask
    rw [contract]
    rfl
  · intro actor v log course minter owner n payments
    have circulates' := course.circulates belongs circulates
    have belongs' := belongs.of_same course.kind fun x => (course.sameIssuers x).1
    have contract' : v.kind r = some .receipt := by rw [course.kind, contract]
    refine ⟨fun failed => ?_, fun v₁ v₂ log₂ paid burned => burn_takes belongs' contract' paid burned⟩
    have undefined := circulates'.burn_defined belongs' contract' _ failed
    cases undefined

/-- Of the 60 receipts that lenders of the town were given, 30 are left with whoever holds them. -/
theorem town_counts_receipts :
    ∑ a, (marketTown.play townLoan).balance a (coin 0x33) = 30 ∧
      30 + tally (marketTown.announcements townLoan) (someone 3) Event.destroyed =
        tally (marketTown.announcements townLoan) (someone 3) Event.created := by
  have supply : ((marketTown.play townLoan).receipt (someone 3)).supply = 30 := by decide +kernel
  have same : SameIssuers marketTown (marketTown.play townLoan) := play_sameIssuers (by decide)
  have belongs : Belongs (someone 3) (coin 0x33) (marketTown.play townLoan) := by
    intro x T' _ issued
    rw [(same x).1] at issued
    rcases town_issued issued with ⟨rfl, rfl⟩ | ⟨rfl, rfl⟩
    · decide
    · decide
  obtain ⟨_, held, counted, _⟩ := supply_is_circulation (by decide) (by decide) (town_unheld (r := someone 3) rfl)
    (by decide +kernel) belongs
  rw [supply] at held counted
  exact ⟨held.symm, counted⟩

end TermLending.World
