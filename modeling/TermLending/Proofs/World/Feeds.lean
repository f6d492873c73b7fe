import TermLending.Proofs.Arith.Shifts
import TermLending.Proofs.World.Prices

/-!
# Prices from feeds

The answer of a feed is divided once and then counted in other units twice, and each of the three may drop a fraction. So a
price never says more than the answer does, whether the feed and the token count more or fewer than eighteen decimals, and
it says the same where neither counts more and the division leaves nothing.
-/

namespace TermLending

namespace Oracle

variable {answer answer' divisor divisor' feedDecimals tokenDecimals price price' : Nat}

theorem normalize_eq_ok_iff : normalize answer divisor feedDecimals tokenDecimals = .ok price ↔
    divisor ≠ 0 ∧
      price = shiftDecimals (shiftDecimals (answer / divisor) feedDecimals priceDecimals) tokenDecimals priceDecimals := by
  unfold normalize
  simp only [bind_eq_ok_iff, quotient_eq_ok_iff, pure_eq_ok_iff]
  constructor
  · rintro ⟨_, ⟨nonzero, rfl⟩, rfl⟩
    exact ⟨nonzero, rfl⟩
  · rintro ⟨nonzero, rfl⟩
    exact ⟨_, ⟨nonzero, rfl⟩, rfl⟩

theorem normalize_succeeds (positive : 0 < divisor) (answer feedDecimals tokenDecimals : Nat) :
    ∃ price, normalize answer divisor feedDecimals tokenDecimals = .ok price :=
  ⟨_, normalize_eq_ok_iff.2 ⟨Nat.ne_of_gt positive, rfl⟩⟩

/-- Each of the three steps, multiplied out, says no more than the one before. -/
theorem normalize_mul_le (priced : normalize answer divisor feedDecimals tokenDecimals = .ok price) :
    price * divisor * 10 ^ (feedDecimals + tokenDecimals) ≤ answer * 10 ^ (2 * priceDecimals) := by
  obtain ⟨_, rfl⟩ := normalize_eq_ok_iff.1 priced
  have divided := Nat.div_mul_le_self answer divisor
  have counted := shiftDecimals_mul_le (answer / divisor) feedDecimals priceDecimals
  generalize answer / divisor = raw at divided counted ⊢
  have lifted := shiftDecimals_mul_le (shiftDecimals raw feedDecimals priceDecimals) tokenDecimals priceDecimals
  generalize shiftDecimals raw feedDecimals priceDecimals = value at counted lifted ⊢
  generalize shiftDecimals value tokenDecimals priceDecimals = price at lifted ⊢
  calc price * divisor * 10 ^ (feedDecimals + tokenDecimals)
      = price * 10 ^ tokenDecimals * (10 ^ feedDecimals * divisor) := by ring
    _ ≤ value * 10 ^ priceDecimals * (10 ^ feedDecimals * divisor) := Nat.mul_le_mul_right _ lifted
    _ = value * 10 ^ feedDecimals * (10 ^ priceDecimals * divisor) := by ring
    _ ≤ raw * 10 ^ priceDecimals * (10 ^ priceDecimals * divisor) := Nat.mul_le_mul_right _ counted
    _ = raw * divisor * 10 ^ (2 * priceDecimals) := by ring
    _ ≤ answer * 10 ^ (2 * priceDecimals) := Nat.mul_le_mul_right _ divided

/-- Who divides a greater answer by less gets no smaller price. -/
theorem normalize_mono (le : answer ≤ answer') (ge : divisor' ≤ divisor)
    (priced : normalize answer divisor feedDecimals tokenDecimals = .ok price)
    (priced' : normalize answer' divisor' feedDecimals tokenDecimals = .ok price') : price ≤ price' := by
  obtain ⟨_, rfl⟩ := normalize_eq_ok_iff.1 priced
  obtain ⟨nonzero, rfl⟩ := normalize_eq_ok_iff.1 priced'
  have quotients : answer / divisor ≤ answer' / divisor' := Nat.div_le_div le ge nonzero
  exact shiftDecimals_mono (shiftDecimals_mono quotients _ _) _ _

/-- No fraction is dropped where both count at most eighteen decimals. -/
theorem normalize_of_le (feed : feedDecimals ≤ priceDecimals) (token : tokenDecimals ≤ priceDecimals)
    (priced : normalize answer divisor feedDecimals tokenDecimals = .ok price) :
    price = answer / divisor * 10 ^ (2 * priceDecimals - (feedDecimals + tokenDecimals)) := by
  obtain ⟨_, rfl⟩ := normalize_eq_ok_iff.1 priced
  rw [shiftDecimals_of_le feed, shiftDecimals_of_le token, Nat.mul_assoc, ← Nat.pow_add]
  congr 2
  omega

/-- Then the price says all that the answer says, if the division leaves nothing. -/
theorem normalize_mul_eq (feed : feedDecimals ≤ priceDecimals) (token : tokenDecimals ≤ priceDecimals)
    (whole : divisor ∣ answer) (priced : normalize answer divisor feedDecimals tokenDecimals = .ok price) :
    price * divisor * 10 ^ (feedDecimals + tokenDecimals) = answer * 10 ^ (2 * priceDecimals) := by
  have both : feedDecimals + tokenDecimals ≤ 2 * priceDecimals := by omega
  rw [normalize_of_le feed token priced, Nat.mul_right_comm _ _ divisor, Nat.div_mul_cancel whole, Nat.mul_assoc,
    ← Nat.pow_add, Nat.sub_add_cancel both]

end Oracle

open World

variable {a : Address} {w : World} {T : Token} {config : FeedConfig} {feed : Feed}

namespace World

theorem divisor_along (kind : w.kind a = some .oracle) (positive : 0 < (w.oracle a).divisor) (moves : List Move) :
    0 < ((w.play moves).oracle a).divisor := by
  induction moves generalizing w with
  | nil => exact positive
  | cons m rest ih => exact ih ((after_kind (by simp [kind]) m).trans kind) (oracle_divisor_after kind positive m)

end World

/-- A number with a feed is a number, so the feed is asked. -/
theorem Oracle.tokenPrice_of_feed {o : Oracle} {ask : Address → Except Fault Feed} (c : o.Consistent)
    (configured : o.feedOf (o.idOf T) = some config) (answers : ask config.feed = .ok feed) :
    o.tokenPrice ask T = normalize feed.answer o.divisor feed.decimals config.tokenDecimals := by
  have used : o.idOf T ∈ o.usedIds := c.known _ (.inr (.inl (by simp [configured])))
  have numbered : o.idOf T ≠ 0 := fun zero => c.positive (zero ▸ used)
  unfold tokenPrice idPrice
  rw [if_neg numbered, configured]
  dsimp only
  rw [answers]
  rfl

namespace World

/--
A price from a feed never overstates. Multiplied by the divisor and counted in the units of the feed and of the token, it is
at most the answer; a greater answer has no smaller price, and a greater divisor no greater one; and if the divisor leaves no
rest and neither the feed nor the token counts more than eighteen decimals, the price is exact. Wherever a run has led, the
divisor of an oracle is positive, so whatever a feed answers is priced.
-/
theorem feed_prices_never_overstate :
    (∀ answer divisor f t, 0 < divisor → ∃ price, Oracle.normalize answer divisor f t = .ok price ∧
      price * divisor * 10 ^ (f + t) ≤ answer * 10 ^ 36 ∧
      (∀ answer' price', answer ≤ answer' → Oracle.normalize answer' divisor f t = .ok price' → price ≤ price') ∧
      (∀ divisor' price', divisor ≤ divisor' → Oracle.normalize answer divisor' f t = .ok price' → price' ≤ price) ∧
      (divisor ∣ answer → f ≤ 18 → t ≤ 18 →
        price = answer / divisor * 10 ^ (36 - (f + t)) ∧ price * divisor * 10 ^ (f + t) = answer * 10 ^ 36)) ∧
    ∀ (before w : World) (deployer a registry : Address) (moves : List Move),
      before.deploy deployer a (.oracle registry) = .ok w →
      let w' := w.play moves
      let o := w'.oracle a
      0 < o.divisor ∧ ∀ T config feed, o.feedOf (o.idOf T) = some config → ∃ price,
        Oracle.normalize feed.answer o.divisor feed.decimals config.tokenDecimals = .ok price ∧
        (∀ ask, ask config.feed = .ok feed → o.tokenPrice ask T = .ok price) ∧
        (w'.askFeed config.feed = .ok feed → w'.quote a T = .ok (.number price)) := by
  constructor
  · intro answer divisor f t positive
    obtain ⟨price, priced⟩ := Oracle.normalize_succeeds positive answer f t
    refine ⟨price, priced, Oracle.normalize_mul_le priced, ?_, ?_, ?_⟩
    · exact fun answer' price' le priced' => Oracle.normalize_mono le Nat.le.refl priced priced'
    · exact fun divisor' price' le priced' => Oracle.normalize_mono Nat.le.refl le priced' priced
    · exact fun whole feed token =>
        ⟨Oracle.normalize_of_le feed token priced, Oracle.normalize_mul_eq feed token whole priced⟩
  · intro before w deployer a registry moves deployed w' o
    have filed := filed_along deployed moves
    have positive : 0 < o.divisor := divisor_along (filed_of_deploy deployed).kind (oracle_of_deployed rfl deployed) moves
    refine ⟨positive, fun T config feed configured => ?_⟩
    obtain ⟨price, priced⟩ := Oracle.normalize_succeeds positive feed.answer feed.decimals config.tokenDecimals
    refine ⟨price, priced, ?_, ?_⟩
    · intro ask answers
      rw [Oracle.tokenPrice_of_feed filed.consistent configured answers, priced]
    · intro answers
      rw [quote_eq filed.kind, Oracle.tokenPrice_of_feed filed.consistent configured answers, priced]
      rfl

/-- The exchange prices a token of six decimals by a feed of eight, whose answers count hundredths. -/
def feeding : List Move := [
  .deploy (someone 8) (someone 10) (.feed 8 123456789),
  quotation (.setFeed (coin 0x53) ⟨someone 10, 6⟩),
  quotation (.setDivisor 100)]

/-- The last two digits of the answer are dropped, and nothing else is. -/
theorem exchange_asks_a_feed :
    let w := exchange.play feeding
    0 < (w.oracle (someone 9)).divisor ∧ ∃ price, w.quote (someone 9) (coin 0x53) = .ok (.number price) ∧
      price * 100 * 10 ^ 14 ≤ 123456789 * 10 ^ 36 := by
  intro w
  obtain ⟨priced, along⟩ := feed_prices_never_overstate
  obtain ⟨positive, answered⟩ := along town exchange (someone 8) (someone 9) (someone 1) feeding exchange_deployed
  obtain ⟨price, normalized, _, quoted⟩ := answered (coin 0x53) ⟨someone 10, 6⟩ ⟨8, 123456789⟩ (by decide +kernel)
  obtain ⟨price', normalized', bounded, _⟩ := priced 123456789 100 8 6 (by decide)
  have divisor : (w.oracle (someone 9)).divisor = 100 := by decide +kernel
  have same : price' = price := by
    rw [divisor] at normalized
    exact Except.ok.inj (normalized'.symm.trans normalized)
  exact ⟨positive, price, quoted (by decide +kernel), same ▸ bounded⟩

end World

end TermLending
