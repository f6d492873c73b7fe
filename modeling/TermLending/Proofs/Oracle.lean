import Mathlib.Order.Interval.Finset.Nat
import TermLending.Oracle
import TermLending.Proofs.Pool.Acceptance

/-!
# The numbers of an oracle

Whatever is filed under a number, the number is marked as used, and so are all numbers up to the last one handed out. So
a new token gets a number that nothing is filed under, the least there is, and shares it with no other token.
-/

namespace TermLending.Oracle

variable {o o' : Oracle} {T T' : Token} {id start tries price : Nat} {used : List Nat} {config : FeedConfig}
  {event : Event} {events : List Event} {prices : List (Token × Nat)} {ask : Address → Except Fault Feed}

/-! ### The scan for an unused number -/

theorem le_leastUnused (used : List Nat) (start tries : Nat) : start ≤ leastUnused used start tries := by
  induction tries generalizing start with
  | zero => exact Nat.le_refl _
  | succ tries ih =>
    unfold leastUnused
    split
    · exact Nat.le_of_succ_le (ih (start + 1))
    · exact Nat.le_refl _

theorem mem_of_lt_leastUnused {i : Nat} (above : start ≤ i) (below : i < leastUnused used start tries) : i ∈ used := by
  induction tries generalizing start with
  | zero => exact absurd below (Nat.not_lt.2 above)
  | succ tries ih =>
    unfold leastUnused at below
    split at below
    · next taken =>
      rcases Nat.eq_or_lt_of_le above with rfl | later
      · exact taken
      · exact ih later below
    · exact absurd below (Nat.not_lt.2 above)

/-- The scan gives up on a used number only after all of its tries. -/
theorem leastUnused_of_mem (taken : leastUnused used start tries ∈ used) :
    leastUnused used start tries = start + tries := by
  induction tries generalizing start with
  | zero => rfl
  | succ tries ih =>
    unfold leastUnused at taken ⊢
    split at taken
    · next here =>
      rw [if_pos here, ih taken]
      omega
    · next free => exact absurd taken free

/-- As many tries as there are used numbers are enough: so many numbers and one more cannot all be used. -/
theorem leastUnused_unused (start : Nat) (enough : used.length ≤ tries) : leastUnused used start tries ∉ used := by
  intro taken
  have last := leastUnused_of_mem taken
  have all : Finset.Icc start (start + tries) ⊆ used.toFinset := by
    intro i member
    obtain ⟨low, high⟩ := Finset.mem_Icc.1 member
    rw [List.mem_toFinset]
    rcases Nat.eq_or_lt_of_le high with rfl | lower
    · rwa [← last]
    · exact mem_of_lt_leastUnused low (last ▸ lower)
  have more := (Finset.card_le_card all).trans used.toFinset_card_le
  rw [Nat.card_Icc] at more
  omega

/-- More tries find the same number. -/
theorem leastUnused_of_enough (enough : used.length ≤ tries) (start : Nat) :
    leastUnused used start tries = leastUnused used start used.length := by
  have free := leastUnused_unused start enough
  have free' := leastUnused_unused start (Nat.le_refl used.length)
  rcases Nat.lt_trichotomy (leastUnused used start tries) (leastUnused used start used.length) with less | same | more
  · exact absurd (mem_of_lt_leastUnused (le_leastUnused used start tries) less) free
  · exact same
  · exact absurd (mem_of_lt_leastUnused (le_leastUnused used start used.length) more) free'

/-- The numbers that may still be handed out. -/
def free (o : Oracle) : Set Nat := {n | o.lastId < n ∧ n ∉ o.usedIds}

theorem isLeast_free (o : Oracle) : IsLeast o.free o.nextId := by
  refine ⟨⟨le_leastUnused _ _ _, leastUnused_unused _ (Nat.le_refl _)⟩, ?_⟩
  rintro n ⟨above, unused⟩
  by_contra below
  exact unused (mem_of_lt_leastUnused above (Nat.not_le.1 below))

/-! ### Consistent books -/

/-- Something is filed under the number. -/
def Known (o : Oracle) (id : Nat) : Prop :=
  o.price id ≠ 0 ∨ o.feedOf id ≠ none ∨ ∃ token, o.idOf token ≠ 0 ∧ o.idOf token = id

structure Consistent (o : Oracle) : Prop where
  known : ∀ id, o.Known id → id ∈ o.usedIds
  handed : ∀ id, 0 < id → id ≤ o.lastId → id ∈ o.usedIds
  positive : 0 ∉ o.usedIds

theorem consistent_of_blank (price : ∀ id, o.price id = 0) (feedOf : ∀ id, o.feedOf id = none)
    (idOf : ∀ token, o.idOf token = 0) (lastId : o.lastId = 0) (usedIds : o.usedIds = []) : o.Consistent where
  known id known := by
    rcases known with priced | fed | ⟨token, bound, _⟩
    · exact absurd (price id) priced
    · exact absurd (feedOf id) fed
    · exact absurd (idOf token) bound
  handed id some below := by omega
  positive := by simp [usedIds]

theorem Consistent.bound (c : o.Consistent) (bound : o.idOf T ≠ 0) : o.idOf T ∈ o.usedIds :=
  c.known _ (.inr (.inr ⟨T, bound, rfl⟩))

theorem Consistent.mem_free_iff (c : o.Consistent) : id ∈ o.free ↔ 0 < id ∧ id ∉ o.usedIds := by
  constructor
  · rintro ⟨above, unused⟩
    exact ⟨Nat.zero_lt_of_lt above, unused⟩
  · rintro ⟨some, unused⟩
    exact ⟨Nat.lt_of_not_le fun below => unused (c.handed id some below), unused⟩

theorem isLeast_nextId (c : o.Consistent) : IsLeast {n | 0 < n ∧ n ∉ o.usedIds} o.nextId := by
  convert isLeast_free o using 1
  ext n
  exact c.mem_free_iff.symm

theorem nextId_pos (c : o.Consistent) : 0 < o.nextId := (isLeast_nextId c).1.1

theorem nextId_unused (c : o.Consistent) : o.nextId ∉ o.usedIds := (isLeast_nextId c).1.2

/-! ### Marking and storing -/

@[simp]
theorem mem_markUsed {i : Nat} : i ∈ (o.markUsed id).usedIds ↔ i ∈ o.usedIds ∨ i = id := by
  unfold markUsed
  split
  · next taken =>
    constructor
    · exact .inl
    · rintro (member | rfl)
      · exact member
      · exact taken
  · simp

/-- Marking a number changes nothing else. -/
theorem markUsed_eq (o : Oracle) (id : Nat) : o.markUsed id = { o with usedIds := (o.markUsed id).usedIds } := by
  unfold markUsed
  split <;> rfl

theorem Consistent.markUsed (c : o.Consistent) (some : id ≠ 0) : (o.markUsed id).Consistent := by
  refine ⟨?_, ?_, ?_⟩
  · intro i known
    rw [markUsed_eq] at known
    exact mem_markUsed.2 (.inl (c.known i known))
  · intro i positive below
    rw [markUsed_eq] at below
    exact mem_markUsed.2 (.inl (c.handed i positive below))
  · rw [mem_markUsed]
    rintro (member | zero)
    · exact c.positive member
    · exact some zero.symm

theorem Consistent.storePrice (c : o.Consistent) (marked : id ∈ o.usedIds) (price : Nat) :
    (o.storePrice id price).1.Consistent := by
  refine ⟨?_, c.handed, c.positive⟩
  rintro i (priced | known)
  · by_cases here : i = id
    · exact here ▸ marked
    · exact c.known i (.inl ((put_of_ne o.price id price here) ▸ priced))
  · exact c.known i (.inr known)

theorem Consistent.storeFeed (c : o.Consistent) (marked : id ∈ o.usedIds)
    (h : o.storeFeed id config = .ok (o', event)) : o'.Consistent := by
  obtain ⟨_, _, h⟩ := bind_eq_ok_iff.1 h
  cases pure_eq_ok_iff.1 h
  refine ⟨?_, c.handed, c.positive⟩
  rintro i (priced | fed | bound)
  · exact c.known i (.inl priced)
  · by_cases here : i = id
    · exact here ▸ marked
    · exact c.known i (.inr (.inl ((put_of_ne o.feedOf id _ here) ▸ fed)))
  · exact c.known i (.inr (.inr bound))

theorem Consistent.file (c : o.Consistent) (marked : id ∈ o.usedIds) (T : Token) :
    { o with idOf := put o.idOf T id }.Consistent := by
  refine ⟨?_, c.handed, c.positive⟩
  rintro i (priced | fed | ⟨T', bound, same⟩)
  · exact c.known i (.inl priced)
  · exact c.known i (.inr (.inl fed))
  · change put o.idOf T id T' ≠ 0 at bound
    change put o.idOf T id T' = i at same
    by_cases here : T' = T
    · rw [here, put_self] at same
      exact same ▸ marked
    · rw [put_of_ne _ _ _ here] at bound same
      exact same ▸ c.bound bound

/-! ### Handing out numbers -/

/-- What a first pricing may do to the files: it gives numbers of their own to tokens that had none. -/
structure Extends (o o' : Oracle) : Prop where
  consistent : o'.Consistent
  used : o.usedIds ⊆ o'.usedIds
  kept : ∀ T, o.idOf T ≠ 0 → o'.idOf T = o.idOf T
  apart : ∀ T T', T ≠ T' → o'.idOf T = o'.idOf T' → o'.idOf T ≠ 0 → o.idOf T = o.idOf T' ∧ o.idOf T ≠ 0

theorem Extends.of_same (c : o'.Consistent) (used : o.usedIds ⊆ o'.usedIds) (same : o'.idOf = o.idOf) :
    Extends o o' := by
  refine ⟨c, used, ?_, ?_⟩
  · intro T _
    rw [same]
  · intro T T' _ shared bound
    rw [same] at shared bound
    exact ⟨shared, bound⟩

theorem Extends.trans {o'' : Oracle} (h : Extends o o') (h' : Extends o' o'') : Extends o o'' := by
  refine ⟨h'.consistent, fun _ member => h'.used (h.used member), ?_, ?_⟩
  · intro T bound
    have same := h.kept T bound
    rw [← same] at bound
    exact (h'.kept T bound).trans same
  · intro T T' apart shared bound
    obtain ⟨shared, bound⟩ := h'.apart T T' apart shared bound
    exact h.apart T T' apart shared bound

theorem resolve_cases (h : o.resolve T = .ok (o', id)) :
    o.idOf T ≠ 0 ∧ id = o.idOf T ∧ o' = o ∨
      o.idOf T = 0 ∧ id = o.nextId ∧ o' = { o.markUsed id with lastId := id, idOf := put o.idOf T id } := by
  obtain ⟨_, _, h⟩ := bind_eq_ok_iff.1 h
  split at h
  · next bound =>
    cases pure_eq_ok_iff.1 h
    exact .inl ⟨bound, rfl, rfl⟩
  · next unbound =>
    cases pure_eq_ok_iff.1 h
    exact .inr ⟨not_not.1 unbound, rfl, rfl⟩

/-- A valid token always gets a number. -/
theorem resolve_succeeds (valid : T.isValid = true) (unbound : o.idOf T = 0) :
    ∃ o', o.resolve T = .ok (o', o.nextId) := by
  unfold resolve
  rw [demand_of_true valid]
  show ∃ o', (if o.idOf T ≠ 0 then _ else _) = _
  rw [if_neg (not_not.2 unbound)]
  exact ⟨_, rfl⟩

theorem resolve_extends (c : o.Consistent) (h : o.resolve T = .ok (o', id)) : Extends o o' := by
  rcases resolve_cases h with ⟨_, _, rfl⟩ | ⟨unbound, fresh, rfl⟩
  · exact .of_same c (List.Subset.refl _) rfl
  · have some : id ≠ 0 := fresh ▸ (nextId_pos c).ne'
    have marked := c.markUsed some
    have here : id ∈ (o.markUsed id).usedIds := mem_markUsed.2 (.inr rfl)
    have idOf : (o.markUsed id).idOf = o.idOf := by rw [markUsed_eq]
    have virgin {T' : Token} (bound : o.idOf T' ≠ 0) : o.idOf T' ≠ id := fun same =>
      nextId_unused c (fresh ▸ same ▸ c.bound bound)
    rw [← idOf]
    refine ⟨⟨(marked.file here T).known, ?_, marked.positive⟩, ?_, ?_, ?_⟩
    · intro i positive below
      rcases Nat.eq_or_lt_of_le below with rfl | below
      · exact here
      · refine mem_markUsed.2 (.inl ?_)
        rcases Nat.lt_or_ge o.lastId i with after | before
        · exact mem_of_lt_leastUnused after (fresh ▸ below)
        · exact c.handed i positive before
    · exact fun i member => mem_markUsed.2 (.inl member)
    · intro T' bound
      have other : T' ≠ T := by
        rintro rfl
        exact bound unbound
      show put (o.markUsed id).idOf T id T' = o.idOf T'
      rw [put_of_ne _ _ _ other, idOf]
    · intro T₁ T₂ apart shared bound
      change put (o.markUsed id).idOf T id T₁ = put (o.markUsed id).idOf T id T₂ at shared
      change put (o.markUsed id).idOf T id T₁ ≠ 0 at bound
      rw [idOf] at shared bound
      by_cases first : T₁ = T
      · subst first
        rw [put_self, put_of_ne _ _ _ apart.symm] at shared
        exact absurd shared.symm (virgin (shared ▸ some))
      · rw [put_of_ne _ _ _ first] at shared bound
        by_cases second : T₂ = T
        · rw [second, put_self] at shared
          exact absurd shared (virgin bound)
        · rw [put_of_ne _ _ _ second] at shared
          exact ⟨shared, bound⟩

/-- The files after a token got its number. Prices, feeds and the other tokens are as they were. -/
structure Resolved (o o' : Oracle) (T : Token) (id : Nat) : Prop where
  idOf : o'.idOf = put o.idOf T id
  marked : id ∈ o'.usedIds
  price : o'.price = o.price
  feedOf : o'.feedOf = o.feedOf
  divisor : o'.divisor = o.divisor

theorem resolved_of_resolve (c : o.Consistent) (h : o.resolve T = .ok (o', id)) : Resolved o o' T id := by
  rcases resolve_cases h with ⟨bound, rfl, rfl⟩ | ⟨_, rfl, rfl⟩
  · exact ⟨(put_same _ _).symm, c.bound bound, rfl, rfl, rfl⟩
  · rw [markUsed_eq]
    exact ⟨rfl, mem_markUsed.2 (.inr rfl), rfl, rfl, rfl⟩

theorem Resolved.own (h : Resolved o o' T id) : o'.idOf T = id := by
  rw [h.idOf, put_self]

theorem setPrice_cases (h : o.setPrice T price = .ok (o', event)) :
    ∃ o₁ id, o.resolve T = .ok (o₁, id) ∧ o' = (o₁.storePrice id price).1 := by
  obtain ⟨⟨o₁, id⟩, resolved, h⟩ := bind_eq_ok_iff.1 h
  cases pure_eq_ok_iff.1 h
  exact ⟨o₁, id, resolved, rfl⟩

theorem setPrice_extends (c : o.Consistent) (h : o.setPrice T price = .ok (o', event)) : Extends o o' := by
  obtain ⟨o₁, id, resolved, rfl⟩ := setPrice_cases h
  have first := resolve_extends c resolved
  have marked := (resolved_of_resolve c resolved).marked
  exact first.trans (.of_same (first.consistent.storePrice marked price) (List.Subset.refl _) rfl)

theorem setEach_cons {rest : List (Token × Nat)} (h : o.setEach ((T, price) :: rest) = .ok (o', events)) :
    ∃ o₁ event later, o.setPrice T price = .ok (o₁, event) ∧ o₁.setEach rest = .ok (o', later) ∧
      events = event :: later := by
  obtain ⟨⟨o₁, event⟩, one, h⟩ := bind_eq_ok_iff.1 h
  obtain ⟨⟨last, later⟩, others, h⟩ := bind_eq_ok_iff.1 h
  cases pure_eq_ok_iff.1 h
  exact ⟨o₁, event, later, one, others, rfl⟩

theorem setEach_extends (c : o.Consistent) (h : o.setEach prices = .ok (o', events)) : Extends o o' := by
  induction prices generalizing o events with
  | nil =>
    cases h
    exact .of_same c (List.Subset.refl _) rfl
  | cons first rest ih =>
    obtain ⟨o₁, event, later, one, others, rfl⟩ := setEach_cons h
    have extended := setPrice_extends c one
    exact extended.trans (ih extended.consistent others)

theorem storeFeed_extends (c : o.Consistent) (marked : id ∈ o.usedIds)
    (h : o.storeFeed id config = .ok (o', event)) : Extends o o' := by
  have consistent := c.storeFeed marked h
  obtain ⟨_, _, h⟩ := bind_eq_ok_iff.1 h
  cases pure_eq_ok_iff.1 h
  exact .of_same consistent (List.Subset.refl _) rfl

theorem setFeed_extends (c : o.Consistent) (h : o.setFeed T config = .ok (o', event)) : Extends o o' := by
  obtain ⟨⟨o₁, id⟩, resolved, h⟩ := bind_eq_ok_iff.1 h
  have first := resolve_extends c resolved
  exact first.trans (storeFeed_extends first.consistent (resolved_of_resolve c resolved).marked h)

theorem markUsed_extends (c : o.Consistent) (some : id ≠ 0) : Extends o (o.markUsed id) := by
  refine .of_same (c.markUsed some) (fun i member => mem_markUsed.2 (.inl member)) ?_
  rw [markUsed_eq]

theorem setIdPrice_extends (c : o.Consistent) (h : o.setIdPrice id price = .ok (o', event)) : Extends o o' := by
  obtain ⟨_, some, h⟩ := bind_eq_ok_iff.1 h
  cases pure_eq_ok_iff.1 h
  have first := markUsed_extends c (demand_eq_ok_iff.1 some)
  have marked : id ∈ (o.markUsed id).usedIds := mem_markUsed.2 (.inr rfl)
  exact first.trans (.of_same (first.consistent.storePrice marked price) (List.Subset.refl _) rfl)

theorem setIdFeed_extends (c : o.Consistent) (h : o.setIdFeed id config = .ok (o', event)) : Extends o o' := by
  obtain ⟨_, some, h⟩ := bind_eq_ok_iff.1 h
  have first := markUsed_extends c (demand_eq_ok_iff.1 some)
  exact first.trans (storeFeed_extends first.consistent (mem_markUsed.2 (.inr rfl)) h)

theorem setDivisor_extends {divisor : Nat} (c : o.Consistent) (h : o.setDivisor divisor = .ok (o', event)) :
    Extends o o' := by
  obtain ⟨_, _, h⟩ := bind_eq_ok_iff.1 h
  cases pure_eq_ok_iff.1 h
  exact .of_same ⟨c.known, c.handed, c.positive⟩ (List.Subset.refl _) rfl

/-- Filing by hand keeps the books consistent. -/
theorem bindToken_cases (c : o.Consistent) (h : o.bindToken T id = .ok o') :
    o'.Consistent ∧ o.usedIds ⊆ o'.usedIds ∧ o'.idOf = put o.idOf T id ∧ id ≠ 0 := by
  obtain ⟨_, _, h⟩ := bind_eq_ok_iff.1 h
  obtain ⟨_, some, h⟩ := bind_eq_ok_iff.1 h
  cases pure_eq_ok_iff.1 h
  have some := demand_eq_ok_iff.1 some
  have marked : id ∈ (o.markUsed id).usedIds := mem_markUsed.2 (.inr rfl)
  have idOf : (o.markUsed id).idOf = o.idOf := by rw [markUsed_eq]
  have filed := (c.markUsed some).file marked T
  rw [idOf] at filed
  exact ⟨filed, fun i member => mem_markUsed.2 (.inl member), rfl, some⟩

/-! ### Which number a token gets -/

theorem setFeed_allots (c : o.Consistent) (h : o.setFeed T config = .ok (o', event)) (unbound : o.idOf T = 0) :
    o'.idOf T = o.nextId := by
  obtain ⟨⟨o₁, id⟩, resolve, h⟩ := bind_eq_ok_iff.1 h
  have fresh : id = o.nextId := by
    rcases resolve_cases resolve with ⟨bound, _⟩ | ⟨_, fresh, _⟩
    · exact absurd unbound bound
    · exact fresh
  have own := (resolved_of_resolve c resolve).own
  obtain ⟨_, _, h⟩ := bind_eq_ok_iff.1 h
  cases pure_eq_ok_iff.1 h
  exact own.trans fresh

/-! ### What a new price changes -/

/-- The token is filed under `id`, where it was before or where nothing was, and `id` has a new price of its own. -/
structure Priced (o o' : Oracle) (T : Token) (id price : Nat) : Prop where
  idOf : o'.idOf = put o.idOf T id
  price : o'.price = put o.price id price
  feedOf : o'.feedOf = o.feedOf
  divisor : o'.divisor = o.divisor
  some : id ≠ 0
  virgin : o.idOf T = id ∨ o.idOf T = 0 ∧ id ∉ o.usedIds

theorem priced_of_setPrice (c : o.Consistent) (h : o.setPrice T price = .ok (o', event)) :
    ∃ id, Priced o o' T id price := by
  obtain ⟨o₁, id, resolve, rfl⟩ := setPrice_cases h
  have resolved := resolved_of_resolve c resolve
  refine ⟨id, resolved.idOf, ?_, resolved.feedOf, resolved.divisor, ?_, ?_⟩
  · show put o₁.price id price = _
    rw [resolved.price]
  · rcases resolve_cases resolve with ⟨bound, rfl, _⟩ | ⟨_, rfl, _⟩
    · exact bound
    · exact (nextId_pos c).ne'
  · rcases resolve_cases resolve with ⟨_, rfl, _⟩ | ⟨unbound, rfl, _⟩
    · exact .inl rfl
    · exact .inr ⟨unbound, nextId_unused c⟩

namespace Priced

theorem own (h : Priced o o' T id price) : o'.idOf T = id := by
  rw [h.idOf, put_self]

theorem other (h : Priced o o' T id price) (other : T' ≠ T) : o'.idOf T' = o.idOf T' := by
  rw [h.idOf, put_of_ne _ _ _ other]

/-- Where no feed is asked, everything that is filed under the number has the new price. -/
theorem shared (h : Priced o o' T id price) (plain : o.feedOf id = none) (filed : o'.idOf T' = id) :
    o'.tokenPrice ask T' = .ok price := by
  unfold tokenPrice idPrice
  rw [filed, if_neg h.some, h.feedOf, plain, h.price, put_self]

/-- Nothing else has another price than before. -/
theorem elsewhere (h : Priced o o' T id price) (other : o'.idOf T' ≠ id) :
    o'.tokenPrice ask T' = o.tokenPrice ask T' := by
  have apart : T' ≠ T := by
    rintro rfl
    exact other h.own
  rw [h.other apart] at other
  unfold tokenPrice idPrice
  rw [h.other apart, h.feedOf, h.price, h.divisor, put_of_ne _ _ _ other]

/-- Where a feed is asked, the new price is nobody's. -/
theorem behind_feed (h : Priced o o' T id price) (c : o.Consistent) (fed : o.feedOf id ≠ none) (T' : Token) :
    o'.tokenPrice ask T' = o.tokenPrice ask T' := by
  by_cases filed : o'.idOf T' = id
  · have bound : o.idOf T = id :=
      h.virgin.resolve_right fun ⟨_, unused⟩ => unused (c.known id (.inr (.inl fed)))
    have same : o'.idOf = o.idOf := by rw [h.idOf, ← bound, put_same]
    unfold tokenPrice idPrice
    rw [← same, filed, if_neg h.some, if_neg h.some, h.feedOf, h.divisor]
    cases asked : o.feedOf id with
    | none => exact absurd asked fed
    | some config => rfl
  · exact h.elsewhere filed

/-- A token that is priced for the first time does not share its price. -/
theorem alone (h : Priced o o' T id price) (c : o.Consistent) (unbound : o.idOf T = 0) :
    o.feedOf id = none ∧ ∀ T', T' ≠ T → o'.idOf T' ≠ id := by
  obtain ⟨_, unused⟩ := h.virgin.resolve_left fun here => h.some (here.symm.trans unbound)
  constructor
  · by_contra fed
    exact unused (c.known id (.inr (.inl fed)))
  · intro T' apart filed
    rw [h.other apart] at filed
    have bound : o.idOf T' ≠ 0 := filed ▸ h.some
    exact unused (filed ▸ c.bound bound)

end Priced

end TermLending.Oracle
