import TermLending.Proofs.World.Books
import TermLending.Proofs.World.Service

/-!
# The minters of a receipt contract

Those who may create and destroy receipts are on a list. A newcomer goes to its end, and when somebody leaves, the last one
moves to the free place. So the list has no gaps and nobody twice, and it is what the actions of the contract have made of
an empty one. All that the contract says of its minters is read off it.
-/

namespace TermLending.World

variable {self deployer registry caller a : Address} {w w' before : World} {m : Move} {minters : List Address}
  {action : Action} {c : Context} {o out : Outcome} {payments : List Payment}

/-! ### The list -/

/-- The minters after an action. Most actions are not about minters. -/
def rollAfter (minters : List Address) : Action → List Address
  | .receipt (.addMinter a) => if a ∈ minters then minters else minters ++ [a]
  | .receipt (.removeMinter a) =>
      if a ∈ minters then (minters.set (minters.idxOf a) (minters.getLastD a)).dropLast else minters
  | _ => minters

theorem rollAfter_addMinter (r : Roster Address) (a : Address) :
    rollAfter r.items (.receipt (.addMinter a)) = (r.insert a).items := (r.items_insert a).symm

theorem rollAfter_removeMinter (r : Roster Address) (a : Address) :
    rollAfter r.items (.receipt (.removeMinter a)) = (r.erase a).items := (r.items_erase a).symm

/-- Of the minters that stay, the last one takes the place of the leaver, and all others keep theirs. -/
theorem rollAfter_places (distinct : minters.Nodup) {i : Nat} (place : minters[i]? = some a) :
    let rest := rollAfter minters (.receipt (.removeMinter a))
    rest.length + 1 = minters.length ∧
      ∀ j < rest.length, rest[j]? = if j = i then minters.getLast? else minters[j]? := by
  have erased := rollAfter_removeMinter ⟨minters⟩ a
  dsimp only at erased ⊢
  rw [erased]
  exact ⟨Roster.length_erase (List.mem_of_getElem? place), fun j stays => Roster.getElem?_erase distinct place stays⟩

/-- There is a receipt contract at `a`, and these are its minters, each of them somebody and nobody twice. -/
structure Enlists (a : Address) (w : World) (minters : List Address) : Prop where
  kind : w.kind a = some .receipt
  listed : (w.receipt a).minters.items = minters
  distinct : minters.Nodup
  somebody : .zero ∉ minters

theorem Enlists.of_untouched (h : Enlists self w minters) (untouched : Untouched self w w') :
    Enlists self w' minters := by
  refine ⟨untouched.kind.trans h.kind, ?_, h.distinct, h.somebody⟩
  rw [untouched.minters, h.listed]

theorem enlists_of_roster {roster : Roster Address} (kind : w.kind self = some .receipt) (distinct : roster.items.Nodup)
    (somebody : .zero ∉ roster) :
    Enlists self (w.setReceipt self { w.receipt self with minters := roster }) roster.items := by
  refine ⟨kind, ?_, distinct, somebody⟩
  rw [setReceipt_receipt]

theorem Enlists.added (h : Enlists self w minters) (somebody : a ≠ .zero) :
    Enlists self (w.setReceipt self { w.receipt self with minters := (w.receipt self).minters.insert a })
      (rollAfter minters (.receipt (.addMinter a))) := by
  obtain ⟨kind, rfl, distinct, others⟩ := h
  rw [rollAfter_addMinter]
  apply enlists_of_roster kind (Roster.nodup_insert distinct)
  rw [Roster.mem_insert_of_ne _ somebody.symm]
  exact others

theorem Enlists.removed (h : Enlists self w minters) (a : Address) :
    Enlists self (w.setReceipt self { w.receipt self with minters := (w.receipt self).minters.erase a })
      (rollAfter minters (.receipt (.removeMinter a))) := by
  obtain ⟨kind, rfl, distinct, others⟩ := h
  rw [rollAfter_removeMinter]
  apply enlists_of_roster kind (Roster.nodup_erase distinct)
  rw [Roster.mem_erase distinct]
  exact fun listed => others listed.2

theorem Enlists.act {request : Receipt.Action} (h : Enlists c.self w minters)
    (outcome : w.ReceiptOutcome c request o) : Enlists c.self o.world (rollAfter minters (.receipt request)) := by
  cases outcome with
  | issued paid issued => exact h.of_untouched (issue_untouched issued)
  | minted minted => exact h.of_untouched ((mint_only minted).untouched c.self)
  | burned burned => exact h.of_untouched ((burn_only burned).untouched c.self)
  | added approved added =>
    obtain ⟨somebody, rfl, _⟩ := Receipt.addMinter_eq_ok_iff.1 added
    exact h.added somebody
  | @removed a _ _ approved removed =>
    cases (Receipt.removeMinter_eq _ _).symm.trans removed
    exact h.removed a

/-! ### Along a run -/

theorem Enlists.after (h : Enlists self w minters) (m : Move) :
    Enlists self (w.after m) ((w.carried? self m).toList.foldl rollAfter minters) := by
  have there : w.kind self ≠ none := by simp [h.kind]
  rcases untouched_or_carriesOut there m with ⟨untouched, idle⟩ | ⟨caller, action, carries⟩
  · rw [carried?_of_idle idle]
    exact h.of_untouched untouched
  · obtain ⟨payments, w₁, o, only, accepted, done, after⟩ := carriesOut_elim carries
    have known := kind_of_accept accepted
    rw [only.kind, h.kind] at known
    rw [carried?_eq_some_iff.2 ⟨caller, carries⟩, after]
    cases act_outcome done with
    | receipt outcome => exact (h.of_untouched (only.untouched self)).act outcome
    | _ => cases known

theorem Enlists.play (h : Enlists self w minters) (moves : List Move) :
    Enlists self (w.play moves) ((w.carried self moves).foldl rollAfter minters) := by
  induction moves generalizing w minters with
  | nil => exact h
  | cons m rest ih =>
    rw [carried, List.foldl_append]
    exact ih (h.after m)

theorem enlists_of_deploy (deployed : before.deploy deployer self (.receipt registry) = .ok w) : Enlists self w [] := by
  obtain ⟨_, ⟨⟩, rfl⟩ := deploy_outcome deployed
  refine ⟨put_self _ _ _, ?_, List.nodup_nil, List.not_mem_nil⟩
  show ((before.setReceipt self { registry }).receipt self).minters.items = []
  rw [setReceipt_receipt]

/-! ### Questions and requests -/

theorem Enlists.ask (h : Enlists self w minters) :
    w.ask self (.receipt .minters) = .ok (.addresses minters) ∧
    w.ask self (.receipt .minterCount) = .ok (.number minters.length) ∧
    (∀ i, w.ask self (.receipt (.minter i)) =
      if i ≤ maxU32 then
        match minters[i]? with
        | some a => .ok (.address a)
        | none => .error .indexOutOfBounds
      else .error (.argumentTooLong "index")) ∧
    ∀ a, w.ask self (.receipt (.isMinter a)) = .ok (.flag (a ∈ minters)) := by
  obtain ⟨kind, rfl, _, _⟩ := h
  refine ⟨ask_eq kind rfl, ask_eq kind rfl, ?_, fun a => ask_eq kind rfl⟩
  intro i
  rw [ask_eq kind rfl]
  split
  · next fits =>
    have words : checkWords (Query.receipt (.minter i)).words = .ok () :=
      checkWords_eq_ok_iff.2 (List.forall_mem_singleton.2 fits)
    rw [words]
    rfl
  · next long =>
    have word : (u32 "index" i).check = .error (.argumentTooLong "index") := demand_of_false long
    show ((_ >>= _) >>= _) = _
    rw [word]
    rfl

def appointing (caller self a : Address) (payments : List Payment) : Call :=
  ⟨caller, self, .act (.receipt (.addMinter a)), payments⟩

def dismissing (caller self a : Address) (payments : List Payment) : Call :=
  ⟨caller, self, .act (.receipt (.removeMinter a)), payments⟩

/-- A request without a machine word that anybody may make comes before the contract if it takes what is paid. -/
theorem call_receipt_eq_ok_iff {request : Receipt.Action} (kind : w.kind self = some .receipt)
    (anybody : (Action.receipt request).isDeployerOnly = false) (fits : (Action.receipt request).words = []) :
    w.call ⟨caller, self, .act (.receipt request), payments⟩ = .ok out ↔
      ∃ w₁, w.transferAll caller self payments = .ok w₁ ∧ checkPayment payments (.receipt request) = .ok () ∧
        w₁.actOnReceipt ⟨caller, self, payments⟩ request = .ok out := by
  rw [call_act_eq_ok_iff]
  refine exists_congr fun w₁ => and_congr_right fun paid => ?_
  have there : w₁.kind self = some .receipt := by
    rw [(transferAll_only paid).1.kind]
    exact kind
  rw [accept_eq_ok_iff anybody, fits, and_assoc, and_assoc]
  refine (and_iff_right there).trans (and_congr_right fun _ => ?_)
  exact and_iff_right (List.forall_mem_nil _)

/-- What comes of a request about minters. The caller is told whether it changed anything, and only then others are. -/
def relisted (w : World) (self : Address) (roster : Roster Address) (changed : Prop) [Decidable changed]
    (event : Event) : Outcome where
  world := w.setReceipt self { w.receipt self with minters := roster }
  reply := .flag changed
  log := if changed then [⟨self, event⟩] else []

theorem relisted_eq (w : World) (self : Address) (roster : Roster Address) (changed : Prop) [Decidable changed]
    (event : Event) :
    w.relisted self roster changed event = {
      world := w.setReceipt self { w.receipt self with minters := roster }
      reply := .flag !(if changed then [event] else []).isEmpty
      log := (if changed then [event] else []).map (⟨self, ·⟩) } := by
  unfold relisted
  split <;>
    · next told => simp [told]

theorem call_appointing_eq_ok_iff (kind : w.kind self = some .receipt) :
    w.call (appointing caller self a payments) = .ok out ↔
      ∃ w₁, w.transferAll caller self payments = .ok w₁ ∧ refusePayment payments = .ok () ∧
        w.requireApproved (w.receipt self).registry caller self = .ok () ∧ a ≠ .zero ∧
        out = w₁.relisted self ((w.receipt self).minters.insert a) (a ∉ (w.receipt self).minters) (.minterAdded a) := by
  unfold appointing
  rw [call_receipt_eq_ok_iff kind rfl rfl]
  refine exists_congr fun w₁ => and_congr_right fun paid => and_congr_right fun _ => ?_
  obtain ⟨only, receipts⟩ := transferAll_only paid
  simp only [actOnReceipt, bind_eq_ok_iff, pure_eq_ok_iff, Prod.exists, Receipt.addMinter_eq_ok_iff, relisted_eq,
    requireApproved_of_only only, receipts]
  constructor
  · rintro ⟨_, approved, _, _, ⟨somebody, rfl, rfl⟩, rfl⟩
    exact ⟨approved, somebody, rfl⟩
  · rintro ⟨approved, somebody, rfl⟩
    exact ⟨_, approved, _, _, ⟨somebody, rfl, rfl⟩, rfl⟩

theorem call_dismissing_eq_ok_iff (kind : w.kind self = some .receipt) :
    w.call (dismissing caller self a payments) = .ok out ↔
      ∃ w₁, w.transferAll caller self payments = .ok w₁ ∧ refusePayment payments = .ok () ∧
        w.requireApproved (w.receipt self).registry caller self = .ok () ∧
        out = w₁.relisted self ((w.receipt self).minters.erase a) (a ∈ (w.receipt self).minters) (.minterRemoved a) := by
  unfold dismissing
  rw [call_receipt_eq_ok_iff kind rfl rfl]
  refine exists_congr fun w₁ => and_congr_right fun paid => and_congr_right fun _ => ?_
  obtain ⟨only, receipts⟩ := transferAll_only paid
  simp only [actOnReceipt, bind_eq_ok_iff, pure_eq_ok_iff, Receipt.removeMinter_eq, relisted_eq,
    requireApproved_of_only only, receipts]
  exact Unique.exists_iff

theorem appointing_succeeds_iff (kind : w.kind self = some .receipt) :
    (∃ out, w.call (appointing caller self a []) = .ok out) ↔
      w.requireApproved (w.receipt self).registry caller self = .ok () ∧ a ≠ .zero := by
  constructor
  · rintro ⟨out, done⟩
    obtain ⟨_, _, _, approved, somebody, _⟩ := (call_appointing_eq_ok_iff kind).1 done
    exact ⟨approved, somebody⟩
  · rintro ⟨approved, somebody⟩
    exact ⟨_, (call_appointing_eq_ok_iff kind).2 ⟨w, rfl, rfl, approved, somebody, rfl⟩⟩

theorem dismissing_succeeds_iff (kind : w.kind self = some .receipt) :
    (∃ out, w.call (dismissing caller self a []) = .ok out) ↔
      w.requireApproved (w.receipt self).registry caller self = .ok () := by
  constructor
  · rintro ⟨out, done⟩
    obtain ⟨_, _, _, approved, _⟩ := (call_dismissing_eq_ok_iff kind).1 done
    exact approved
  · intro approved
    exact ⟨_, (call_dismissing_eq_ok_iff kind).2 ⟨w, rfl, rfl, approved, rfl⟩⟩

theorem Enlists.of_call {request : Receipt.Action} (h : Enlists self w minters)
    (done : w.call ⟨caller, self, .act (.receipt request), payments⟩ = .ok out) :
    Enlists self out.world (rollAfter minters (.receipt request)) := by
  have next := h.after (.call ⟨caller, self, .act (.receipt request), payments⟩)
  rwa [carried?_eq_some_iff.2 ⟨caller, payments, out, rfl, done⟩, after_call_ok done] at next

/--
A receipt contract is deployed. Wherever a run has led, its minters are what the actions that it has carried out make of
nobody, one after the other; none of them is the address of zeros or comes twice, and what is asked about them is answered
from the list. An approved caller may appoint anybody and dismiss anybody. Whoever is new goes to the end of the list.
Whoever was on it and leaves is replaced by the last one, and the others stay where they are.
-/
theorem minters_are_enumerated (deployed : before.deploy deployer self (.receipt registry) = .ok w)
    (moves : List Move) :
    let w' := w.play moves
    let minters := (w.carried self moves).foldl rollAfter []
    minters.Nodup ∧ .zero ∉ minters ∧
    w'.ask self (.receipt .minters) = .ok (.addresses minters) ∧
    w'.ask self (.receipt .minterCount) = .ok (.number minters.length) ∧
    (∀ i, w'.ask self (.receipt (.minter i)) =
      if i ≤ maxU32 then
        match minters[i]? with
        | some a => .ok (.address a)
        | none => .error .indexOutOfBounds
      else .error (.argumentTooLong "index")) ∧
    (∀ a, w'.ask self (.receipt (.isMinter a)) = .ok (.flag (a ∈ minters))) ∧
    (∀ caller a,
      ((∃ out, w'.call (appointing caller self a []) = .ok out) ↔
        w'.requireApproved (w'.receipt self).registry caller self = .ok () ∧ a ≠ .zero) ∧
      ((∃ out, w'.call (dismissing caller self a []) = .ok out) ↔
        w'.requireApproved (w'.receipt self).registry caller self = .ok ())) ∧
    (∀ caller a payments out, w'.call (appointing caller self a payments) = .ok out →
      out.reply = .flag (a ∉ minters) ∧
      let next := rollAfter minters (.receipt (.addMinter a))
      out.world.ask self (.receipt .minters) = .ok (.addresses next) ∧
        next = if a ∈ minters then minters else minters ++ [a]) ∧
    ∀ caller a payments out, w'.call (dismissing caller self a payments) = .ok out →
      out.reply = .flag (a ∈ minters) ∧
      let next := rollAfter minters (.receipt (.removeMinter a))
      out.world.ask self (.receipt .minters) = .ok (.addresses next) ∧
        (a ∉ minters → next = minters) ∧
        ∀ i, minters[i]? = some a → next.length + 1 = minters.length ∧
          ∀ j < next.length, next[j]? = if j = i then minters.getLast? else minters[j]? := by
  intro w' minters
  have now : Enlists self w' minters := (enlists_of_deploy deployed).play moves
  obtain ⟨listed, counted, placed, known⟩ := now.ask
  have onList (a : Address) : a ∈ (w'.receipt self).minters ↔ a ∈ minters := by
    rw [Roster.mem_iff, now.listed]
  refine ⟨now.distinct, now.somebody, listed, counted, placed, known,
    fun caller a => ⟨appointing_succeeds_iff now.kind, dismissing_succeeds_iff now.kind⟩, ?_, ?_⟩
  · intro caller a payments out done
    have next := now.of_call done
    obtain ⟨w₁, _, _, _, _, rfl⟩ := (call_appointing_eq_ok_iff now.kind).1 done
    refine ⟨?_, next.ask.1, rfl⟩
    simp only [relisted, onList]
  · intro caller a payments out done
    have next := now.of_call done
    obtain ⟨w₁, _, _, _, rfl⟩ := (call_dismissing_eq_ok_iff now.kind).1 done
    refine ⟨?_, next.ask.1, fun absent => if_neg absent, fun i place => rollAfter_places now.distinct place⟩
    simp only [relisted, onList]

/-- The town gets another receipt contract at 9, without minters. -/
def guild : World :=
  { town.setReceipt (someone 9) { registry := someone 1 } with
    kind := put town.kind (someone 9) (some .receipt)
    deployer := put town.deployer (someone 9) (someone 8) }

theorem guild_deployed : town.deploy (someone 8) (someone 9) (.receipt (someone 1)) = .ok guild := rfl

/-- Of the minters 5, 6 and 7, the first leaves and comes back. Nobody is appointed twice, and 4 has never been one. -/
def appointments : List Move := [
  .call (appointing (someone 8) (someone 9) (someone 5) []),
  .call (appointing (someone 8) (someone 9) (someone 6) []),
  .call (appointing (someone 8) (someone 9) (someone 5) []),
  .call (appointing (someone 8) (someone 9) (someone 7) []),
  .call (dismissing (someone 8) (someone 9) (someone 5) []),
  .call (dismissing (someone 8) (someone 9) (someone 4) []),
  .call (appointing (someone 8) (someone 9) .zero []),
  .call (appointing (someone 8) (someone 9) (someone 5) [])]

/-- When 7 leaves the head of the list, 5 goes there from its end. -/
theorem guild_is_enumerated :
    let w := guild.play appointments
    w.ask (someone 9) (.receipt .minters) = .ok (.addresses [someone 7, someone 6, someone 5]) ∧
      w.ask (someone 9) (.receipt (.minter 2)) = .ok (.address (someone 5)) ∧
      w.ask (someone 9) (.receipt (.minter 3)) = .error .indexOutOfBounds ∧
      ∃ out, w.call (dismissing (someone 8) (someone 9) (someone 7) []) = .ok out ∧ out.reply = .flag true ∧
        out.world.ask (someone 9) (.receipt .minters) = .ok (.addresses [someone 5, someone 6]) := by
  intro w
  have roll : (guild.carried (someone 9) appointments).foldl rollAfter [] = [someone 7, someone 6, someone 5] := by
    decide +kernel
  obtain ⟨_, _, listed, _, placed, _, decides, _, dismissed⟩ := minters_are_enumerated guild_deployed appointments
  rw [roll] at listed placed dismissed
  have approved : w.requireApproved (w.receipt (someone 9)).registry (someone 8) (someone 9) = .ok () := by
    decide +kernel
  obtain ⟨out, done⟩ := (decides (someone 8) (someone 7)).2.2 approved
  obtain ⟨told, left, _⟩ := dismissed _ _ _ _ done
  exact ⟨listed, placed 2, placed 3, out, done, told, left⟩

end TermLending.World
