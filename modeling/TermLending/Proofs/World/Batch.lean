import TermLending.Proofs.World.Prices

/-!
# Many prices at once

A row of prices in one call is the same as one call for each price, one after the other. Either all of them are set or
none is.
-/

namespace TermLending.World

variable {a caller : Address} {w : World} {o : Oracle} {tokens : List Token} {prices : List Nat} {out : Outcome}

/-- Carries out calls one after the other, as long as all succeed. -/
def callAll (w : World) : List Call → Except Fault (World × List LogEntry)
  | [] => .ok (w, [])
  | c :: rest => do
      let out ← w.call c
      let (w, log) ← out.world.callAll rest
      return (w, out.log ++ log)

/-- A call of an oracle that brings no payment. -/
def asking (caller a : Address) (action : Oracle.Action) : Call := ⟨caller, a, .act (.oracle action), []⟩

/-- The oracle lets the caller change it. -/
structure Admits (w : World) (a caller : Address) : Prop where
  kind : w.kind a = some .oracle
  approved : w.requireApproved (w.oracle a).registry caller a = .ok ()

theorem Admits.setOracle (h : Admits w a caller) (registry : o.registry = (w.oracle a).registry) :
    Admits (w.setOracle a o) a caller where
  kind := h.kind
  approved := by
    rw [setOracle_oracle, registry]
    exact h.approved

/-- Nothing but the oracle itself has a say when the caller is approved and all arguments fit. -/
theorem call_asking {action : Oracle.Action} (h : Admits w a caller) (fits : (Action.oracle action).words = []) :
    w.call (asking caller a action) = (do
      let (o, events) ← oracleAfter (w.oracle a) action
      return { world := w.setOracle a o, log := events.map (⟨a, ·⟩) } : Except Fault Outcome) := by
  have accepted : w.accept ⟨caller, a, []⟩ (.oracle action) = .ok () := by
    refine (accept_eq_ok_iff rfl).2 ⟨h.kind, checkPayment_nil _, ?_⟩
    rw [fits]
    exact List.forall_mem_nil _
  show (w.accept ⟨caller, a, []⟩ (.oracle action) >>= fun _ => w.actOnOracle ⟨caller, a, []⟩ action) = _
  rw [accepted]
  show (w.requireApproved (w.oracle a).registry caller a >>= fun _ => _) = _
  rw [h.approved]
  rfl

/-- Single calls make the same way as the row. -/
theorem callAll_eq_setEach (h : Admits w a caller) (prices : List (Token × Nat)) :
    w.callAll (prices.map fun q => asking caller a (.setPrice q.1 q.2)) = (do
      let (o, events) ← (w.oracle a).setEach prices
      return (w.setOracle a o, events.map (⟨a, ·⟩)) : Except Fault (World × List LogEntry)) := by
  induction prices generalizing w with
  | nil =>
    show Except.ok (w, []) = .ok (w.setOracle a (w.oracle a), [])
    unfold setOracle
    rw [put_same]
  | cons head rest ih =>
    obtain ⟨T, price⟩ := head
    rw [List.map_cons]
    unfold callAll Oracle.setEach
    rw [call_asking h rfl]
    show ((oracleAfter.announceOne ((w.oracle a).setPrice T price) >>= _) >>= _) = _
    unfold oracleAfter.announceOne
    cases priced : (w.oracle a).setPrice T price with
    | error fault => rfl
    | ok result =>
      obtain ⟨o, event⟩ := result
      have next := ih (h.setOracle (Oracle.setPrice_quotes priced).registry)
      rw [setOracle_oracle] at next
      show (((w.setOracle a o).callAll _) >>= _) = ((o.setEach rest >>= _) >>= _)
      rw [next]
      cases o.setEach rest with
      | error fault => rfl
      | ok result =>
        obtain ⟨last, events⟩ := result
        have stored : (w.setOracle a o).setOracle a last = w.setOracle a last := by
          unfold setOracle
          rw [put_put]
        show Except.ok ((w.setOracle a o).setOracle a last, _) = _
        rw [stored]
        rfl

/-- With as many prices as tokens, the row is carried out as single calls are. -/
theorem call_setPrices (h : Admits w a caller) (lengths : tokens.length = prices.length) :
    w.call (asking caller a (.setPrices tokens prices)) = (do
      let (w', log) ← w.callAll ((tokens.zip prices).map fun q => asking caller a (.setPrice q.1 q.2))
      return { world := w', log } : Except Fault Outcome) := by
  rw [call_asking h rfl, callAll_eq_setEach h]
  show (((demand _ _ >>= fun _ => (w.oracle a).setEach _) >>= _) : Except Fault Outcome) = _
  rw [demand_of_true lengths]
  show ((w.oracle a).setEach _ >>= _) = _
  cases (w.oracle a).setEach (tokens.zip prices) <;> rfl

theorem call_setPrices_eq_ok_iff (h : Admits w a caller) :
    w.call (asking caller a (.setPrices tokens prices)) = .ok out ↔
      tokens.length = prices.length ∧ ∃ o events, (w.oracle a).setEach (tokens.zip prices) = .ok (o, events) ∧
        out = { world := w.setOracle a o, log := events.map (⟨a, ·⟩) } := by
  rw [call_asking h rfl, bind_eq_ok_iff]
  unfold oracleAfter Oracle.setPrices
  simp only [bind_eq_ok_iff, demand_eq_ok_iff, exists_const, pure_eq_ok_iff, Prod.exists]
  constructor
  · rintro ⟨o, events, ⟨lengths, each⟩, stored⟩
    exact ⟨lengths, o, events, each, stored⟩
  · rintro ⟨lengths, o, events, each, stored⟩
    exact ⟨o, events, ⟨lengths, each⟩, stored⟩

theorem call_setPrices_succeeds_iff (h : Admits w a caller) (tokens : List Token) (prices : List Nat) :
    (∃ out, w.call (asking caller a (.setPrices tokens prices)) = .ok out) ↔
      tokens.length = prices.length ∧ ∀ T ∈ tokens, T.isValid = true := by
  have row (lengths : tokens.length = prices.length) :
      (∃ o events, (w.oracle a).setEach (tokens.zip prices) = .ok (o, events)) ↔ ∀ T ∈ tokens, T.isValid = true := by
    rw [Oracle.setEach_succeeds_iff, List.map_fst_zip lengths.le]
  constructor
  · rintro ⟨out, done⟩
    obtain ⟨lengths, o, events, each, _⟩ := (call_setPrices_eq_ok_iff h).1 done
    exact ⟨lengths, (row lengths).1 ⟨o, events, each⟩⟩
  · rintro ⟨lengths, valid⟩
    obtain ⟨o, events, each⟩ := (row lengths).2 valid
    exact ⟨_, (call_setPrices_eq_ok_iff h).2 ⟨lengths, o, events, each, rfl⟩⟩

/-- What a row of prices leaves: events in order, the last prices, and new numbers in order. -/
structure RowSet (a : Address) (tokens : List Token) (prices : List Nat) (o o' : Oracle) (log : List LogEntry) : Prop where
  log : log = (tokens.zip prices).map fun q => ⟨a, .priceSet (o'.idOf q.1) q.2⟩
  last : ∀ earlier T price later, tokens.zip prices = earlier ++ (T, price) :: later →
    (∀ q ∈ later, o'.idOf q.1 ≠ o'.idOf T) → o'.price (o'.idOf T) = price
  unpriced : ∀ id, (∀ T ∈ tokens, o'.idOf T ≠ id) → o'.price id = o.price id
  kept : ∀ T, o.idOf T ≠ 0 ∨ T ∉ tokens → o'.idOf T = o.idOf T
  allotted : ∀ earlier T later, tokens = earlier ++ T :: later → T ∉ earlier → o.idOf T = 0 →
    IsLeast {n ∈ o.free | ∀ T' ∈ earlier, o.idOf T' = 0 → n ≠ o'.idOf T'} (o'.idOf T)

theorem rowSet_of_setEach {o o' : Oracle} {events : List Event} (lengths : tokens.length = prices.length)
    (each : o.setEach (tokens.zip prices) = .ok (o', events)) :
    RowSet a tokens prices o o' (events.map (⟨a, ·⟩)) := by
  have row : (tokens.zip prices).map Prod.fst = tokens := List.map_fst_zip lengths.le
  refine ⟨?_, ?_, ?_, ?_, ?_⟩
  · rw [Oracle.setEach_events each, List.map_map]
    rfl
  · intro earlier T price later split
    rw [split] at each
    exact Oracle.setEach_price each
  · intro id none
    rw [← row, List.forall_mem_map] at none
    exact Oracle.setEach_price_of_unpriced each none
  · intro T other
    rw [← row] at other
    exact Oracle.setEach_idOf each other
  · intro earlier T later split first unbound
    exact Oracle.setEach_allots_free each (row.trans split) first unbound

/--
An approved caller sets a row of prices exactly if there is one for each token and all tokens are valid. It is then the
same, in the world and in the log, as setting them one after the other: the last price of a number is the one that it
keeps, and tokens that had no number get the least free ones in their order, so numbers fit a word as long as there is one
left that does. Else nothing changes.
-/
theorem row_is_set_one_by_one (kind : w.kind a = some .oracle)
    (approved : w.requireApproved (w.oracle a).registry caller a = .ok ()) (tokens : List Token) (prices : List Nat) :
    let batch := asking caller a (.setPrices tokens prices)
    let row := (tokens.zip prices).map fun q => asking caller a (.setPrice q.1 q.2)
    ((∃ out, w.call batch = .ok out) ↔ tokens.length = prices.length ∧ ∀ T ∈ tokens, T.isValid = true) ∧
    (tokens.length = prices.length →
      w.call batch = (do let (w', log) ← w.callAll row; return { world := w', log } : Except Fault Outcome)) ∧
    (∀ out, w.call batch = .ok out → w.callAll row = .ok (out.world, out.log) ∧
      RowSet a tokens prices (w.oracle a) (out.world.oracle a) out.log) ∧
    (¬(tokens.length = prices.length ∧ ∀ T ∈ tokens, T.isValid = true) → w.after (.call batch) = w) := by
  intro batch row
  have admits : Admits w a caller := ⟨kind, approved⟩
  have decides := call_setPrices_succeeds_iff admits tokens prices
  refine ⟨decides, call_setPrices admits, ?_, ?_⟩
  · intro out done
    obtain ⟨lengths, o', events, each, rfl⟩ := (call_setPrices_eq_ok_iff admits).1 done
    constructor
    · unfold row
      rw [callAll_eq_setEach admits, each]
      rfl
    · dsimp only
      rw [setOracle_oracle]
      exact rowSet_of_setEach lengths each
  · intro refused
    cases done : w.call batch with
    | ok out => exact absurd (decides.1 ⟨out, done⟩) refused
    | error fault => exact after_call_error done

/-- Two new tokens in one row, one of them twice, at an oracle whose second number is taken by hand. -/
theorem exchange_sets_a_row :
    let w := exchange.play [quotation (.bindToken (coin 0x50) 2)]
    let row := [(coin 0x55, 1), (coin 0x56, 2), (coin 0x55, 3)].map fun q =>
      asking (someone 8) (someone 9) (.setPrice q.1 q.2)
    ∃ out : Outcome, w.callAll row = .ok (out.world, out.log) ∧ out.log.length = 3 ∧
      (out.world.oracle (someone 9)).idOf (coin 0x55) = 1 ∧ (out.world.oracle (someone 9)).idOf (coin 0x56) = 3 ∧
      (out.world.oracle (someone 9)).price 1 = 3 := by
  intro w row
  have numbers : (w.callAll row).toOption.map (fun r =>
      ((r.1.oracle (someone 9)).idOf (coin 0x55), (r.1.oracle (someone 9)).idOf (coin 0x56))) = some (1, 3) := by
    decide +kernel
  have kind : w.kind (someone 9) = some .oracle := by decide +kernel
  have approved : w.requireApproved (w.oracle (someone 9)).registry (someone 8) (someone 9) = .ok () := by
    decide +kernel
  obtain ⟨decides, _, same, _⟩ :=
    row_is_set_one_by_one kind approved [coin 0x55, coin 0x56, coin 0x55] [1, 2, 3]
  obtain ⟨out, done⟩ := decides.2 ⟨rfl, by decide⟩
  obtain ⟨alike, set⟩ := same out done
  change w.callAll row = _ at alike
  rw [alike] at numbers
  obtain ⟨first, second⟩ := Prod.mk.inj (Option.some.inj numbers)
  have last := set.last [(coin 0x55, 1), (coin 0x56, 2)] (coin 0x55) 3 [] rfl (fun q none => absurd none List.not_mem_nil)
  refine ⟨out, alike, ?_, first, second, first ▸ last⟩
  rw [set.log]
  rfl

end TermLending.World
