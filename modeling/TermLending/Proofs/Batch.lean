import TermLending.Proofs.Oracle

/-!
# Rows of prices

What a row of first and later prices leaves in an oracle, whatever was in it before: the numbers of the tokens in order,
and for each number the last price that the row has for it.
-/

namespace TermLending.Oracle

variable {o o' : Oracle} {T T' : Token} {id price : Nat} {event : Event} {events : List Event}
  {prices : List (Token × Nat)} {before after : List Token}

/-! ### One price -/

/-- A priced token has a number, the least free one if it had none, and this number has the price. -/
structure Quotes (o o' : Oracle) (T : Token) (price : Nat) (event : Event) : Prop where
  filed : o'.idOf T ≠ 0
  kept : ∀ T', o.idOf T' ≠ 0 ∨ T' ≠ T → o'.idOf T' = o.idOf T'
  event : event = .priceSet (o'.idOf T) price
  price : o'.price = put o.price (o'.idOf T) price
  least : o.idOf T = 0 → IsLeast o.free (o'.idOf T)
  free : ∀ n, n ∈ o'.free ↔ n ∈ o.free ∧ (o.idOf T = 0 → n ≠ o'.idOf T)
  registry : o'.registry = o.registry

theorem quotes_of_new (unbound : o.idOf T = 0) (price : Nat) :
    let o' := { o.markUsed o.nextId with lastId := o.nextId, idOf := put o.idOf T o.nextId }
    o.Quotes (o'.storePrice o.nextId price).1 T price (o'.storePrice o.nextId price).2 := by
  intro o'
  have marked : o' =
      { o with usedIds := (o.markUsed o.nextId).usedIds, lastId := o.nextId, idOf := put o.idOf T o.nextId } := by
    unfold o'
    rw [markUsed_eq]
  have own : put o.idOf T o.nextId T = o.nextId := put_self _ _ _
  have least := isLeast_free o
  have above : o.lastId < o.nextId := least.1.1
  rw [marked]
  refine ⟨?filed, ?kept, ?event, ?price, ?least, ?free, rfl⟩
  case filed =>
    show put o.idOf T o.nextId T ≠ 0
    rw [own]
    exact Nat.ne_of_gt (Nat.zero_lt_of_lt above)
  case kept =>
    intro T' other
    apply put_of_ne
    rintro rfl
    exact other.elim (absurd unbound) (absurd rfl)
  case event =>
    show Event.priceSet o.nextId price = .priceSet (put o.idOf T o.nextId T) price
    rw [own]
  case price =>
    show put o.price o.nextId price = put o.price (put o.idOf T o.nextId T) price
    rw [own]
  case least =>
    intro _
    show IsLeast o.free (put o.idOf T o.nextId T)
    rw [own]
    exact least
  case free =>
    intro n
    show o.nextId < n ∧ n ∉ (o.markUsed o.nextId).usedIds ↔
      (o.lastId < n ∧ n ∉ o.usedIds) ∧ (o.idOf T = 0 → n ≠ put o.idOf T o.nextId T)
    rw [mem_markUsed, not_or, own]
    constructor
    · rintro ⟨later, unused, other⟩
      exact ⟨⟨above.trans later, unused⟩, fun _ => other⟩
    · rintro ⟨free, other⟩
      exact ⟨lt_of_le_of_ne (least.2 free) (other unbound).symm, free.2, other unbound⟩

theorem setPrice_quotes (h : o.setPrice T price = .ok (o', event)) : o.Quotes o' T price event := by
  obtain ⟨⟨o₁, id⟩, resolve, h⟩ := bind_eq_ok_iff.1 h
  cases pure_eq_ok_iff.1 h
  rcases resolve_cases resolve with ⟨bound, rfl, rfl⟩ | ⟨unbound, rfl, rfl⟩
  · refine ⟨bound, fun _ _ => rfl, rfl, rfl, fun unbound => absurd unbound bound, ?_, rfl⟩
    exact fun n => (and_iff_left fun unbound => absurd unbound bound).symm
  · exact quotes_of_new unbound price

/-- Who has no number yet after the first price. -/
theorem Quotes.unfiled_iff (h : o.Quotes o' T price event) : o'.idOf T' = 0 ↔ o.idOf T' = 0 ∧ T' ≠ T := by
  constructor
  · intro unfiled
    have apart : T' ≠ T := by
      rintro rfl
      exact h.filed unfiled
    exact ⟨(h.kept T' (.inr apart)).symm.trans unfiled, apart⟩
  · rintro ⟨unfiled, apart⟩
    exact (h.kept T' (.inr apart)).trans unfiled

theorem setPrice_succeeds_iff : (∃ o' event, o.setPrice T price = .ok (o', event)) ↔ T.isValid = true := by
  constructor
  · rintro ⟨o', event, h⟩
    obtain ⟨_, resolve, _⟩ := bind_eq_ok_iff.1 h
    obtain ⟨_, valid, _⟩ := bind_eq_ok_iff.1 resolve
    exact demand_eq_ok_iff.1 valid
  · intro valid
    by_cases unbound : o.idOf T = 0
    · obtain ⟨o₁, resolve⟩ := resolve_succeeds valid unbound
      exact ⟨_, _, bind_eq_ok_iff.2 ⟨_, resolve, rfl⟩⟩
    · have resolve : o.resolve T = .ok (o, o.idOf T) := by
        unfold resolve
        rw [demand_of_true valid]
        exact if_pos unbound
      exact ⟨_, _, bind_eq_ok_iff.2 ⟨_, resolve, rfl⟩⟩

/-! ### A row of prices -/

theorem setEach_succeeds_iff :
    (∃ o' events, o.setEach prices = .ok (o', events)) ↔ ∀ T ∈ prices.map Prod.fst, T.isValid = true := by
  induction prices generalizing o with
  | nil => exact ⟨fun _ _ member => absurd member List.not_mem_nil, fun _ => ⟨o, [], rfl⟩⟩
  | cons head rest ih =>
    obtain ⟨T, price⟩ := head
    rw [List.map_cons, List.forall_mem_cons]
    constructor
    · rintro ⟨o', events, h⟩
      obtain ⟨o₁, event, later, one, others, _⟩ := setEach_cons h
      exact ⟨setPrice_succeeds_iff.1 ⟨o₁, event, one⟩, ih.1 ⟨o', later, others⟩⟩
    · rintro ⟨valid, rest⟩
      obtain ⟨o₁, event, one⟩ : ∃ o₁ event, o.setPrice T price = .ok (o₁, event) := setPrice_succeeds_iff.2 valid
      obtain ⟨o', later, others⟩ := (ih (o := o₁)).2 rest
      exact ⟨o', event :: later, bind_eq_ok_iff.2 ⟨_, one, bind_eq_ok_iff.2 ⟨_, others, rfl⟩⟩⟩

/-- Numbers stay, and only tokens of the row get new ones. -/
theorem setEach_idOf (h : o.setEach prices = .ok (o', events)) (other : o.idOf T ≠ 0 ∨ T ∉ prices.map Prod.fst) :
    o'.idOf T = o.idOf T := by
  induction prices generalizing o events with
  | nil =>
    cases h
    rfl
  | cons head rest ih =>
    obtain ⟨T₀, price⟩ := head
    obtain ⟨o₁, event, later, one, others, rfl⟩ := setEach_cons h
    have quotes := setPrice_quotes one
    rw [List.map_cons, List.mem_cons, not_or] at other
    have first : o₁.idOf T = o.idOf T := quotes.kept T (other.imp id And.left)
    rw [← first] at other ⊢
    exact ih others (other.imp id And.right)

/-- Each price is announced, under the number that its token has in the end. -/
theorem setEach_events (h : o.setEach prices = .ok (o', events)) :
    events = prices.map fun q => .priceSet (o'.idOf q.1) q.2 := by
  induction prices generalizing o events with
  | nil =>
    cases h
    rfl
  | cons head rest ih =>
    obtain ⟨T, price⟩ := head
    obtain ⟨o₁, event, later, one, others, rfl⟩ := setEach_cons h
    have quotes := setPrice_quotes one
    rw [List.map_cons, ← ih others, quotes.event, setEach_idOf others (.inl quotes.filed)]

theorem setEach_price_of_unpriced (h : o.setEach prices = .ok (o', events)) (none : ∀ q ∈ prices, o'.idOf q.1 ≠ id) :
    o'.price id = o.price id := by
  induction prices generalizing o events with
  | nil =>
    cases h
    rfl
  | cons head rest ih =>
    obtain ⟨T, price⟩ := head
    obtain ⟨o₁, event, later, one, others, rfl⟩ := setEach_cons h
    obtain ⟨other, none⟩ := List.forall_mem_cons.1 none
    have quotes := setPrice_quotes one
    rw [setEach_idOf others (.inl quotes.filed)] at other
    rw [ih others none, quotes.price, put_of_ne _ _ _ other.symm]

/-- The last price of a number is the one that it keeps. -/
theorem setEach_price {earlier later : List (Token × Nat)}
    (h : o.setEach (earlier ++ (T, price) :: later) = .ok (o', events))
    (last : ∀ q ∈ later, o'.idOf q.1 ≠ o'.idOf T) : o'.price (o'.idOf T) = price := by
  induction earlier generalizing o events with
  | nil =>
    obtain ⟨o₁, event, rest, one, others, rfl⟩ := setEach_cons h
    have quotes := setPrice_quotes one
    rw [setEach_price_of_unpriced others last, quotes.price, setEach_idOf others (.inl quotes.filed), put_self]
  | cons head earlier ih =>
    obtain ⟨o₁, event, rest, one, others, rfl⟩ := setEach_cons h
    exact ih others

/-- New tokens get free numbers in their order, each the least that is left. -/
theorem setEach_allots_free (h : o.setEach prices = .ok (o', events)) (row : prices.map Prod.fst = before ++ T :: after)
    (first : T ∉ before) (unbound : o.idOf T = 0) :
    IsLeast {n ∈ o.free | ∀ T' ∈ before, o.idOf T' = 0 → n ≠ o'.idOf T'} (o'.idOf T) := by
  induction prices generalizing o events before with
  | nil => exact absurd row.symm (List.append_ne_nil_of_right_ne_nil _ (List.cons_ne_nil _ _))
  | cons head rest ih =>
    obtain ⟨T₀, price⟩ := head
    obtain ⟨o₁, event, later, one, others, rfl⟩ := setEach_cons h
    have quotes := setPrice_quotes one
    have keeps : o'.idOf T₀ = o₁.idOf T₀ := setEach_idOf others (.inl quotes.filed)
    rw [List.map_cons] at row
    cases before with
    | nil =>
      obtain ⟨here, _⟩ := List.cons.inj row
      change T₀ = T at here
      subst here
      rw [keeps]
      simpa using quotes.least unbound
    | cons T₁ before =>
      obtain ⟨here, tail⟩ := List.cons.inj row
      change T₀ = T₁ at here
      subst here
      obtain ⟨other, first⟩ := not_or.1 (List.mem_cons.not.1 first)
      have least := ih others tail first ((quotes.kept T (.inr other)).trans unbound)
      -- What is left for the tokens after the first one is what was left for all of them, without its number.
      convert least using 1
      ext n
      show n ∈ o.free ∧ (∀ T' ∈ T₀ :: before, _) ↔ n ∈ o₁.free ∧ _
      rw [List.forall_mem_cons, keeps, quotes.free, and_assoc]
      simp only [quotes.unfiled_iff]
      refine and_congr_right fun _ => and_congr_right fun own => ?_
      constructor
      · exact fun taken T' member unfiled => taken T' member unfiled.1
      · intro taken T' member unfiled
        by_cases apart : T' = T₀
        · subst apart
          exact keeps ▸ own unfiled
        · exact taken T' member ⟨unfiled, apart⟩

/-- Where the books are consistent, the numbers left are all that are not used. -/
theorem setEach_allots (c : o.Consistent) (h : o.setEach prices = .ok (o', events))
    (row : prices.map Prod.fst = before ++ T :: after) (first : T ∉ before) (unbound : o.idOf T = 0) :
    IsLeast {n | 0 < n ∧ n ∉ o.usedIds ∧ ∀ T' ∈ before, n ≠ o'.idOf T'} (o'.idOf T) := by
  convert setEach_allots_free h row first unbound using 1
  ext n
  show 0 < n ∧ n ∉ o.usedIds ∧ _ ↔ n ∈ o.free ∧ _
  rw [c.mem_free_iff, and_assoc]
  refine and_congr_right fun _ => and_congr_right fun unused => ?_
  constructor
  · exact fun taken T' member _ => taken T' member
  · intro taken T' member
    by_cases unfiled : o.idOf T' = 0
    · exact taken T' member unfiled
    · rw [setEach_idOf h (.inl unfiled)]
      rintro rfl
      exact unused (c.bound unfiled)

end TermLending.Oracle
