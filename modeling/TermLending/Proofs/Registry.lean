import Mathlib.Data.Nat.Find
import Mathlib.Order.Bounds.Defs
import TermLending.Proofs.Rosters
import TermLending.World.Message

/-!
# The history of a registry

A registry is what its deeds make of it: submits open applications, and of all that a signer says of an application the
last word counts.
-/

namespace TermLending

namespace Registry

/-- An action that a registry has carried out for somebody. -/
structure Deed where
  caller : Address
  action : Action

/-- The digest under which a deed opens an application. -/
def Deed.opens (d : Deed) : Option Digest :=
  match d.action with
  | .submit target => some (.ofPair d.caller target)
  | .sign .. | .revoke .. => none

/-- What a deed says of the user's signature on an application: that it is given, or that it is taken back. -/
def Deed.word (d : Deed) (user : Address) (digest : Digest) (index : Nat) : Option Bool :=
  match d.action with
  | .submit _ => none
  | .sign digest' place => if d.caller = user ∧ digest' = digest ∧ place.getD 0 = index then some true else none
  | .revoke digest' place => if d.caller = user ∧ digest' = digest ∧ place.getD 0 = index then some false else none

/-- Those who opened applications under a digest, in order. -/
def openers (deeds : List Deed) (digest : Digest) : List Address :=
  (deeds.filter fun d => d.opens = some digest).map fun d => d.caller

def lastWord (deeds : List Deed) (user : Address) (digest : Digest) (index : Nat) : Option Bool :=
  (deeds.filterMap fun d => d.word user digest index).getLast?

/-- The signers whose last word on an application is a signature. -/
def backers (signers : List Address) (deeds : List Deed) (digest : Digest) (index : Nat) : List Address :=
  signers.filter fun user => lastWord deeds user digest index = some true

def perform (r : Registry) (d : Deed) : Except Fault (Registry × Nat) :=
  match d.action with
  | .submit target => r.submit d.caller target
  | .sign digest index => r.sign d.caller digest index
  | .revoke digest index => r.revoke d.caller digest index

variable {r r' : Registry} {d : Deed} {deeds : List Deed} {signers : List Address} {threshold index start n : Nat}
  {digest : Digest} {user : Address} {filed : List Application} {application : Application} {given : Bool}

/-! ### What a deed does -/

theorem locate_eq_ok {place : Option Nat} (h : r.locate user digest place = .ok (index, application)) :
    user ∈ r.signers ∧ place.getD 0 = index ∧ (r.applications digest)[index]? = some application := by
  obtain ⟨signer, h⟩ := demand_bind_eq_ok_iff.1 h
  dsimp only at h
  split at h
  · next found =>
    cases h
    exact ⟨signer, rfl, found⟩
  · cases h

/-- The deed is a word on an application, which keeps its place and its applicant. -/
structure Marks (r : Registry) (d : Deed) (r' : Registry) (digest : Digest) (index : Nat) (application : Application)
    (signatures : Roster Address) (given : Bool) : Prop where
  silent : d.opens = none
  signer : d.caller ∈ r.signers
  filed : (r.applications digest)[index]? = some application
  refiled : r' = r.refile digest index { application with signatures }
  word : ∀ user digest' index', d.word user digest' index' =
    if d.caller = user ∧ digest = digest' ∧ index = index' then some given else none
  distinct : application.signatures.items.Nodup → signatures.items.Nodup
  signed : application.signatures.items.Nodup →
    ∀ user, user ∈ signatures ↔ if d.caller = user then given = true else user ∈ application.signatures

theorem sign_marks {place : Option Nat} (h : r.sign user digest place = .ok (r', n)) :
    ∃ index application signatures, r.Marks ⟨user, .sign digest place⟩ r' digest index application signatures true := by
  obtain ⟨⟨index, application⟩, located, h⟩ := bind_eq_ok_iff.1 h
  obtain ⟨_, h⟩ := demand_bind_eq_ok_iff.1 h
  cases h
  obtain ⟨signer, rfl, filed⟩ := locate_eq_ok located
  refine ⟨_, application, _, rfl, signer, filed, rfl, fun _ _ _ => rfl, Roster.nodup_insert, fun _ u => ?_⟩
  rw [Roster.mem_insert]
  by_cases same : user = u
  · simp [same]
  · simp [same, Ne.symm same]

theorem revoke_marks {place : Option Nat} (h : r.revoke user digest place = .ok (r', n)) :
    ∃ index application signatures, r.Marks ⟨user, .revoke digest place⟩ r' digest index application signatures false := by
  obtain ⟨⟨index, application⟩, located, h⟩ := bind_eq_ok_iff.1 h
  obtain ⟨_, h⟩ := demand_bind_eq_ok_iff.1 h
  cases h
  obtain ⟨signer, rfl, filed⟩ := locate_eq_ok located
  refine ⟨_, application, _, rfl, signer, filed, rfl, fun _ _ _ => rfl, Roster.nodup_erase, fun distinct u => ?_⟩
  rw [Roster.mem_erase distinct]
  by_cases same : user = u
  · simp [same]
  · simp [same, Ne.symm same]

/-! ### One more deed -/

theorem openers_append (earlier later : List Deed) (digest : Digest) :
    openers (earlier ++ later) digest = openers earlier digest ++ openers later digest := by
  unfold openers
  rw [List.filter_append, List.map_append]

theorem openers_cons (d : Deed) (later : List Deed) (digest : Digest) :
    openers (d :: later) digest = (if d.opens = some digest then [d.caller] else []) ++ openers later digest := by
  unfold openers
  by_cases opened : d.opens = some digest
  · simp [opened]
  · simp [opened]

theorem openers_concat (deeds : List Deed) (d : Deed) (digest : Digest) :
    openers (deeds ++ [d]) digest = openers deeds digest ++ if d.opens = some digest then [d.caller] else [] := by
  rw [openers_append, openers_cons]
  exact congrArg _ (List.append_nil _)

theorem lastWord_concat (deeds : List Deed) (d : Deed) (user : Address) (digest : Digest) (index : Nat) :
    lastWord (deeds ++ [d]) user digest index = (d.word user digest index).or (lastWord deeds user digest index) := by
  unfold lastWord
  rw [List.filterMap_append, List.getLast?_append]
  cases said : d.word user digest index with
  | none => simp [said]
  | some given => simp [said]

theorem word_of_opens (opened : d.opens = some digest) (user : Address) (digest' : Digest) (index : Nat) :
    d.word user digest' index = none := by
  obtain ⟨caller, action⟩ := d
  cases action with
  | submit target => rfl
  | sign _ _ => cases opened
  | revoke _ _ => cases opened

/-! ### Applications under one digest -/

/-- The applications filed under a digest are those that the deeds tell of. -/
structure Files (signers : List Address) (deeds : List Deed) (digest : Digest) (filed : List Application) : Prop where
  applicants : filed.map (fun application => application.applicant) = openers deeds digest
  distinct : ∀ application ∈ filed, application.signatures.items.Nodup
  signed : ∀ index application, filed[index]? = some application →
    ∀ user, user ∈ application.signatures ↔ lastWord deeds user digest index = some true
  /-- Only signers are heard, and only on applications that have been opened. -/
  heard : ∀ user index given, lastWord deeds user digest index = some given → user ∈ signers ∧ index < filed.length

theorem Files.elsewhere (h : Files signers deeds digest filed) (unopened : d.opens ≠ some digest)
    (silent : ∀ user index, d.word user digest index = none) : Files signers (deeds ++ [d]) digest filed where
  applicants := by
    rw [openers_concat, if_neg unopened, List.append_nil]
    exact h.applicants
  distinct := h.distinct
  signed index application read user := by
    rw [lastWord_concat, silent, Option.none_or]
    exact h.signed index application read user
  heard user index given said := by
    rw [lastWord_concat, silent, Option.none_or] at said
    exact h.heard user index given said

theorem Files.opened (h : Files signers deeds digest filed) (opened : d.opens = some digest) :
    Files signers (deeds ++ [d]) digest (filed ++ [{ applicant := d.caller }]) where
  applicants := by
    rw [openers_concat, if_pos opened, List.map_append, h.applicants]
    rfl
  distinct application member := by
    rcases List.mem_append.1 member with old | new
    · exact h.distinct application old
    · rw [List.mem_singleton.1 new]
      exact List.nodup_nil
  signed index application read user := by
    rw [lastWord_concat, word_of_opens opened, Option.none_or]
    rcases Nat.lt_or_ge index filed.length with old | new
    · rw [List.getElem?_append_left old] at read
      exact h.signed index application read user
    · -- Nothing has been said of the new application.
      rw [List.getElem?_append_right new] at read
      have blank : application = { applicant := d.caller } := List.mem_singleton.1 (List.mem_of_getElem? read)
      subst blank
      constructor
      · nofun
      · intro said
        have early := (h.heard user index true said).2
        omega
  heard user index given said := by
    rw [lastWord_concat, word_of_opens opened, Option.none_or] at said
    obtain ⟨signer, early⟩ := h.heard user index given said
    rw [List.length_append]
    exact ⟨signer, by omega⟩

theorem Files.marked {signatures : Roster Address} (h : Files r.signers.items deeds digest (r.applications digest))
    (marks : r.Marks d r' digest index application signatures given) :
    Files r.signers.items (deeds ++ [d]) digest
      ((r.applications digest).set index { application with signatures }) where
  applicants := by
    rw [openers_concat, marks.silent, if_neg nofun, List.append_nil, ← h.applicants]
    exact map_set_of_same marks.filed rfl
  distinct other member := by
    rcases List.mem_or_eq_of_mem_set member with old | rfl
    · exact h.distinct other old
    · exact marks.distinct (h.distinct application (List.mem_of_getElem? marks.filed))
  signed index' other found user := by
    have distinct := h.distinct application (List.mem_of_getElem? marks.filed)
    have bound : index < (r.applications digest).length := (List.getElem?_eq_some_iff.1 marks.filed).1
    rw [lastWord_concat, marks.word]
    by_cases here : index = index'
    · subst here
      rw [List.getElem?_set_self bound] at found
      cases found
      rw [marks.signed distinct]
      by_cases same : d.caller = user
      · simp [same]
      · simpa [same] using h.signed index application marks.filed user
    · rw [List.getElem?_set_ne here] at found
      simpa [here] using h.signed index' other found user
  heard user index' given' said := by
    rw [lastWord_concat, marks.word] at said
    rw [List.length_set]
    by_cases spoken : d.caller = user ∧ digest = digest ∧ index = index'
    · obtain ⟨rfl, _, rfl⟩ := spoken
      exact ⟨marks.signer, (List.getElem?_eq_some_iff.1 marks.filed).1⟩
    · rw [if_neg spoken, Option.none_or] at said
      exact h.heard user index' given' said

/-! ### Along a history -/

/-- The registry has the signers and the threshold it was made with, and otherwise what the deeds tell. -/
structure Reflects (r : Registry) (signers : List Address) (threshold : Nat) (deeds : List Deed) : Prop where
  enrolled : r.signers.items = signers
  distinct : signers.Nodup
  required : r.threshold = threshold
  files : ∀ digest, Files signers deeds digest (r.applications digest)

theorem enroll_eq_ok {roster roster' : Roster Address} (h : enroll roster signers = .ok roster')
    (distinct : roster.items.Nodup) : roster'.items = roster.items ++ signers ∧ roster'.items.Nodup := by
  induction signers generalizing roster with
  | nil =>
    cases h
    exact ⟨(List.append_nil _).symm, distinct⟩
  | cons signer rest ih =>
    obtain ⟨_, h⟩ := demand_bind_eq_ok_iff.1 h
    obtain ⟨new, h⟩ := demand_bind_eq_ok_iff.1 h
    obtain ⟨items, distinct'⟩ := ih h (Roster.nodup_insert distinct)
    rw [items, Roster.items_insert_of_not_mem new, List.append_assoc]
    exact ⟨rfl, by simpa [items, Roster.items_insert_of_not_mem new] using distinct'⟩

theorem establish_eq_ok (h : establish threshold signers = .ok r) :
    1 ≤ threshold ∧ threshold ≤ signers.length ∧ r.Reflects signers threshold [] := by
  obtain ⟨_, h⟩ := demand_bind_eq_ok_iff.1 h
  obtain ⟨roster, enrolled, h⟩ := bind_eq_ok_iff.1 h
  obtain ⟨⟨positive, within⟩, h⟩ := demand_bind_eq_ok_iff.1 h
  cases h
  obtain ⟨items, distinct⟩ := enroll_eq_ok enrolled List.nodup_nil
  rw [List.nil_append] at items
  rw [Roster.size, items] at within
  rw [items] at distinct
  exact ⟨positive, within, items, distinct, rfl, fun digest => ⟨rfl, nofun, nofun, nofun⟩⟩

theorem Reflects.marked {signatures : Roster Address} (h : r.Reflects signers threshold deeds)
    (marks : r.Marks d r' digest index application signatures given) :
    r'.Reflects signers threshold (deeds ++ [d]) := by
  obtain ⟨rfl, distinct, required, files⟩ := h
  rw [marks.refiled]
  refine ⟨rfl, distinct, required, fun digest' => ?_⟩
  dsimp only [refile]
  by_cases here : digest' = digest
  · subst here
    rw [put_self]
    exact (files digest').marked marks
  · rw [put_of_ne _ _ _ here]
    apply (files digest').elsewhere
    · simp [marks.silent]
    · intro user index'
      rw [marks.word, if_neg (fun spoken => here spoken.2.1.symm)]

theorem Reflects.perform (h : r.Reflects signers threshold deeds) (done : r.perform d = .ok (r', n)) :
    r'.Reflects signers threshold (deeds ++ [d]) := by
  obtain ⟨caller, action⟩ := d
  cases action with
  | submit target =>
    obtain ⟨_, done⟩ := demand_bind_eq_ok_iff.1 done
    cases done
    refine ⟨h.enrolled, h.distinct, h.required, fun digest => ?_⟩
    dsimp only
    by_cases here : digest = .ofPair caller target
    · subst here
      rw [put_self]
      exact (h.files _).opened rfl
    · rw [put_of_ne _ _ _ here]
      refine (h.files digest).elsewhere ?_ fun _ _ => rfl
      intro opened
      exact here (Option.some.inj opened).symm
  | sign digest place =>
    obtain ⟨_, _, _, marks⟩ := sign_marks done
    exact h.marked marks
  | revoke digest place =>
    obtain ⟨_, _, _, marks⟩ := revoke_marks done
    exact h.marked marks

/-! ### Approval -/

theorem Reflects.size (h : r.Reflects signers threshold deeds)
    (read : (r.applications digest)[index]? = some application) :
    application.signatures.size = (backers signers deeds digest index).length := by
  have files := h.files digest
  apply List.Perm.length_eq
  unfold backers
  rw [List.perm_ext_iff_of_nodup (files.distinct application (List.mem_of_getElem? read)) (h.distinct.filter _)]
  intro user
  rw [List.mem_filter, decide_eq_true_iff]
  constructor
  · intro signed
    have said := (files.signed index application read user).1 signed
    exact ⟨(files.heard user index true said).1, said⟩
  · rintro ⟨_, said⟩
    exact (files.signed index application read user).2 said

theorem Reflects.count (h : r.Reflects signers threshold deeds) (digest : Digest) :
    r.count digest = (openers deeds digest).length := by
  rw [← (h.files digest).applicants, List.length_map]
  rfl

theorem Reflects.isApproved (h : r.Reflects signers threshold deeds)
    (read : (r.applications digest)[index]? = some application) :
    r.isApproved application = true ↔ threshold ≤ (backers signers deeds digest index).length := by
  rw [Registry.isApproved, decide_eq_true_iff, h.required, h.size read]

theorem findIdx?_eq_some_iff_isLeast {α : Type} {items : List α} {p : α → Bool} {i : Nat} :
    items.findIdx? p = some i ↔ IsLeast {j | ∃ item, items[j]? = some item ∧ p item = true} i := by
  rw [List.findIdx?_eq_some_iff_getElem]
  constructor
  · rintro ⟨bound, found, first⟩
    refine ⟨⟨items[i], List.getElem?_eq_getElem bound, found⟩, ?_⟩
    rintro j ⟨item, read, holds⟩
    by_contra early
    obtain ⟨_, rfl⟩ := List.getElem?_eq_some_iff.1 read
    exact first j (Nat.lt_of_not_le early) holds
  · rintro ⟨⟨item, read, holds⟩, least⟩
    obtain ⟨bound, rfl⟩ := List.getElem?_eq_some_iff.1 read
    refine ⟨bound, holds, fun j early found => ?_⟩
    have late := least ⟨_, List.getElem?_eq_getElem (Nat.lt_trans early bound), found⟩
    omega

theorem firstApproved_eq_some_iff : r.firstApproved digest start = some index ↔
    IsLeast {i | start ≤ i ∧ ∃ application, (r.applications digest)[i]? = some application ∧
      r.isApproved application = true} index := by
  unfold firstApproved
  simp only [Option.map_eq_some_iff, findIdx?_eq_some_iff_isLeast, List.getElem?_drop]
  constructor
  · rintro ⟨j, ⟨found, least⟩, rfl⟩
    refine ⟨⟨Nat.le_add_right start j, found⟩, ?_⟩
    rintro i ⟨late, approved⟩
    rw [← Nat.add_sub_cancel' late] at approved
    have shifted : j ≤ i - start := least approved
    omega
  · rintro ⟨⟨late, found⟩, least⟩
    refine ⟨index - start, ⟨?_, ?_⟩, Nat.add_sub_cancel' late⟩
    · rw [← Nat.add_sub_cancel' late] at found
      exact found
    · intro j approved
      have shifted := least ⟨Nat.le_add_right start j, approved⟩
      omega

/-- An approval names the first application that enough signers back. -/
theorem Reflects.approval (h : r.Reflects signers threshold deeds) (source target : Address) :
    r.approval source target start = index + 1 ↔
      IsLeast {i | start ≤ i ∧ i < (openers deeds (.ofPair source target)).length ∧
        threshold ≤ (backers signers deeds (.ofPair source target) i).length} index := by
  have approved (i : Nat) : (∃ application, (r.applications (.ofPair source target))[i]? = some application ∧
      r.isApproved application = true) ↔ i < (openers deeds (.ofPair source target)).length ∧
        threshold ≤ (backers signers deeds (.ofPair source target) i).length := by
    rw [← h.count (.ofPair source target), Registry.count]
    constructor
    · rintro ⟨application, read, enough⟩
      exact ⟨(List.getElem?_eq_some_iff.1 read).1, (h.isApproved read).1 enough⟩
    · rintro ⟨bound, enough⟩
      have read := List.getElem?_eq_getElem bound
      exact ⟨_, read, (h.isApproved read).2 enough⟩
  simp only [← approved, ← firstApproved_eq_some_iff]
  unfold Registry.approval
  split
  · next found => simp [found]
  · next missing => simp [missing]

theorem Reflects.approval_eq_zero_iff (h : r.Reflects signers threshold deeds) (source target : Address) :
    r.approval source target start = 0 ↔
      ∀ i, start ≤ i → i < (openers deeds (.ofPair source target)).length →
        (backers signers deeds (.ofPair source target) i).length < threshold := by
  constructor
  · intro zero i late opened
    by_contra enough
    have some : ∃ i, start ≤ i ∧ i < (openers deeds (.ofPair source target)).length ∧
        threshold ≤ (backers signers deeds (.ofPair source target) i).length := ⟨i, late, opened, Nat.le_of_not_lt enough⟩
    classical
    have named := (h.approval source target).2 ⟨Nat.find_spec some, fun _ => Nat.find_min' some⟩
    omega
  · intro none
    cases named : r.approval source target start with
    | zero => rfl
    | succ index =>
      obtain ⟨⟨late, opened, enough⟩, _⟩ := (h.approval source target).1 named
      have short := none index late opened
      omega

/-! ### Vouching -/

/-- The caller has opened an application for the target, and enough signers back it. -/
def Vouched (signers : List Address) (threshold : Nat) (deeds : List Deed) (caller target : Address) : Prop :=
  ∃ earlier later, deeds = earlier ++ ⟨caller, .submit target⟩ :: later ∧
    threshold ≤ (backers signers deeds (.ofPair caller target) (openers earlier (.ofPair caller target)).length).length

/-- The place of an application tells how many were opened before it. -/
theorem exists_deed_of_opened (opened : index < (openers deeds digest).length) :
    ∃ earlier d later, deeds = earlier ++ d :: later ∧ d.opens = some digest ∧
      (openers earlier digest).length = index := by
  induction deeds generalizing index with
  | nil => cases opened
  | cons d deeds ih =>
    rw [openers_cons, List.length_append] at opened
    by_cases opens : d.opens = some digest
    · rw [if_pos opens, List.length_singleton] at opened
      cases index with
      | zero => exact ⟨[], d, deeds, rfl, opens, rfl⟩
      | succ index =>
        have within : index < (openers deeds digest).length := by omega
        obtain ⟨earlier, d', later, rfl, opens', rfl⟩ := ih within
        refine ⟨d :: earlier, d', later, rfl, opens', ?_⟩
        rw [openers_cons, if_pos opens, List.length_append, List.length_singleton, Nat.add_comm]
    · rw [if_neg opens, List.length_nil, Nat.zero_add] at opened
      obtain ⟨earlier, d', later, rfl, opens', rfl⟩ := ih opened
      refine ⟨d :: earlier, d', later, rfl, opens', ?_⟩
      rw [openers_cons, if_neg opens, List.nil_append]

theorem submit_of_opens (opens : d.opens = some digest) :
    ∃ target, d = ⟨d.caller, .submit target⟩ ∧ Digest.ofPair d.caller target = digest := by
  obtain ⟨caller, action⟩ := d
  cases action with
  | submit target => exact ⟨target, rfl, Option.some.inj opens⟩
  | sign _ _ => cases opens
  | revoke _ _ => cases opens

/-- Unless digests collide, approval is vouching. -/
theorem Reflects.vouched_iff (h : r.Reflects signers threshold deeds) {caller target : Address}
    (apart : ∀ caller' target', ⟨caller', .submit target'⟩ ∈ deeds →
      Digest.ofPair caller' target' = .ofPair caller target → caller' = caller ∧ target' = target) :
    Vouched signers threshold deeds caller target ↔ 0 < r.approval caller target 0 := by
  rw [Nat.pos_iff_ne_zero, Ne, h.approval_eq_zero_iff]
  constructor
  · rintro ⟨earlier, later, split, enough⟩ short
    have opens : Deed.opens ⟨caller, .submit target⟩ = some (.ofPair caller target) := rfl
    refine Nat.not_lt_of_le enough (short _ (Nat.zero_le _) ?_)
    rw [split, openers_append, openers_cons, if_pos opens]
    simp
  · intro approved
    simp only [not_forall, Nat.not_lt] at approved
    obtain ⟨i, _, opened, enough⟩ := approved
    obtain ⟨earlier, d, later, split, opens, rfl⟩ := exists_deed_of_opened opened
    obtain ⟨target', written, same⟩ := submit_of_opens opens
    have member : ⟨d.caller, .submit target'⟩ ∈ deeds := by
      rw [← written, split]
      exact List.mem_append_right earlier List.mem_cons_self
    obtain ⟨rfl, rfl⟩ := apart d.caller target' member same
    exact ⟨earlier, later, written ▸ split, enough⟩

end Registry

end TermLending
