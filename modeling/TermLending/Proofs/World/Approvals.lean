import TermLending.Proofs.Registry
import TermLending.Proofs.World.Books
import TermLending.Proofs.World.Service

/-!
# Registries along a run

The deeds of a registry are the actions that it carries out. Whatever else happens, its storage tells of them and of
nothing else, and so do its answers.
-/

namespace TermLending.World

open Registry

variable {self deployer : Address} {w before : World} {m : Move} {moves : List Move} {signers : List Address}
  {threshold : Nat} {history : List Deed} {action : Registry.Action} {c : Context} {o : Outcome} {d : Deed}

/-- What a move has the registry at `self` do. -/
def deed? (self : Address) (w : World) (m : Move) : Option Deed :=
  match m with
  | .call ⟨caller, target, .act (.registry action), payments⟩ =>
      if target = self then
        match w.call ⟨caller, target, .act (.registry action), payments⟩ with
        | .ok _ => some ⟨caller, action⟩
        | .error _ => none
      else none
  | _ => none

def deeds (self : Address) (w : World) : List Move → List Deed
  | [] => []
  | m :: rest => (w.deed? self m).toList ++ deeds self (w.after m) rest

theorem deed?_eq_some_iff : w.deed? self m = some d ↔ m.CarriesOut w d.caller self (.registry d.action) := by
  constructor
  · intro h
    unfold deed? at h
    split at h
    · next caller target action payments =>
      split at h
      · next here =>
        subst here
        split at h
        · next o success =>
          cases h
          exact ⟨payments, o, rfl, success⟩
        · cases h
      · cases h
    · cases h
  · rintro ⟨payments, o, rfl, success⟩
    simp [deed?, success]

/-! ### One move -/

/-- There is a registry at `a`, and it reflects a history. -/
structure Keeps (a : Address) (w : World) (signers : List Address) (threshold : Nat) (history : List Deed) : Prop where
  kind : w.kind a = some .registry
  reflects : (w.registry a).Reflects signers threshold history

theorem Keeps.after (h : Keeps self w signers threshold history) (m : Move) :
    Keeps self (w.after m) signers threshold (history ++ (w.deed? self m).toList) := by
  have there : w.kind self ≠ none := by simp [h.kind]
  rcases untouched_or_carriesOut there m with ⟨untouched, idle⟩ | ⟨caller, action, carries⟩
  · have silent : w.deed? self m = none := by
      rw [Option.eq_none_iff_forall_not_mem]
      intro d told
      exact idle _ _ (deed?_eq_some_iff.1 told)
    rw [silent, Option.toList_none, List.append_nil]
    exact ⟨untouched.kind.trans h.kind, untouched.registry ▸ h.reflects⟩
  · obtain ⟨payments, w₁, o, only, accepted, done, after⟩ := carriesOut_elim carries
    have known := kind_of_accept accepted
    rw [only.kind, h.kind] at known
    cases act_outcome done with
    | @registry action r _ _ _ performed =>
      have told : w.deed? self m = some ⟨caller, action⟩ := deed?_eq_some_iff.2 carries
      rw [only.registry] at performed
      rw [told, after]
      refine ⟨(congrFun only.kind self).trans h.kind, ?_⟩
      have stored : (w₁.setRegistry self r).registry self = r := put_self _ _ _
      rw [stored]
      exact h.reflects.perform performed
    | _ => cases known

/-! ### Along a run -/

theorem Keeps.play (h : Keeps self w signers threshold history) (moves : List Move) :
    Keeps self (w.play moves) signers threshold (history ++ w.deeds self moves) := by
  induction moves generalizing w history with
  | nil =>
    rw [deeds, List.append_nil]
    exact h
  | cons m rest ih =>
    rw [deeds, ← List.append_assoc]
    exact ih (h.after m)

theorem keeps_of_deploy (deployed : before.deploy deployer self (.registry threshold signers) = .ok w) :
    1 ≤ threshold ∧ threshold ≤ signers.length ∧ Keeps self w signers threshold [] := by
  obtain ⟨_, founded, rfl⟩ := deploy_outcome deployed
  cases founded with
  | registry r established =>
    obtain ⟨positive, within, reflects⟩ := establish_eq_ok established
    have stored : (before.setRegistry self r).registry self = r := put_self _ _ _
    exact ⟨positive, within, put_self _ _ _, stored.symm ▸ reflects⟩

theorem keeps_along (deployed : before.deploy deployer self (.registry threshold signers) = .ok w) (moves : List Move) :
    Keeps self (w.play moves) signers threshold (w.deeds self moves) := by
  have keeps := (keeps_of_deploy deployed).2.2.play moves
  rwa [List.nil_append] at keeps

theorem Keeps.ask (h : Keeps self w signers threshold history) (query : Registry.Query)
    (fits : checkWords (Query.registry query).words = .ok ()) :
    w.ask self (.registry query) = askRegistry (w.registry self) query := by
  rw [ask_eq h.kind rfl, fits]
  rfl

/-- What is answered about an application: who opened it, and the signers whose last word on it is a signature. -/
theorem askRegistry_application {r : Registry} (reflects : r.Reflects signers threshold history) (digest : Digest)
    (index : Nat) :
    match (openers history digest)[index]? with
    | none => askRegistry r (.application digest index) = .error .indexOutOfBounds
    | some applicant => ∃ signatures : Roster Address,
        askRegistry r (.application digest index) = .ok (.application { applicant, signatures }) ∧
          signatures.items.Nodup ∧
          ∀ user, user ∈ signatures ↔ user ∈ signers ∧ lastWord history user digest index = some true := by
  have files := reflects.files digest
  rw [← files.applicants, List.getElem?_map]
  cases read : (r.applications digest)[index]? with
  | none => simp only [Option.map_none, askRegistry, read]
  | some application =>
    refine ⟨application.signatures, ?_, files.distinct application (List.mem_of_getElem? read), ?_⟩
    · simp only [askRegistry, read]
    · intro user
      rw [files.signed index application read]
      constructor
      · intro said
        exact ⟨(files.heard user index true said).1, said⟩
      · exact And.right

/--
A registry is deployed, and whatever happens in the world, all its answers tell the history of its deeds. Arguments that
do not fit their words are refused before they reach it.
-/
theorem registry_tells_its_history (deployed : before.deploy deployer self (.registry threshold signers) = .ok w)
    (moves : List Move) :
    let history := w.deeds self moves
    let answer := askRegistry ((w.play moves).registry self)
    (∀ query, checkWords (Query.registry query).words = .ok () →
      (w.play moves).ask self (.registry query) = answer query) ∧
    1 ≤ threshold ∧ threshold ≤ signers.length ∧ signers.Nodup ∧
    answer .signers = .ok (.addresses signers) ∧
    answer .threshold = .ok (.number threshold) ∧
    (∀ digest, answer (.count digest) = .ok (.number (openers history digest).length)) ∧
    (∀ digest index,
      match (openers history digest)[index]? with
      | none => answer (.application digest index) = .error .indexOutOfBounds
      | some applicant => ∃ signatures : Roster Address,
          answer (.application digest index) = .ok (.application { applicant, signatures }) ∧ signatures.items.Nodup ∧
            ∀ user, user ∈ signatures ↔ user ∈ signers ∧ lastWord history user digest index = some true) ∧
    ∀ source target start, ∃ n, answer (.approval source target start) = .ok (.number n) ∧
      (∀ index, n = index + 1 ↔ IsLeast {i | start ≤ i ∧ i < (openers history (.ofPair source target)).length ∧
        threshold ≤ (backers signers history (.ofPair source target) i).length} index) ∧
      (n = 0 ↔ ∀ i, start ≤ i → i < (openers history (.ofPair source target)).length →
        (backers signers history (.ofPair source target) i).length < threshold) := by
  intro history answer
  obtain ⟨positive, within, _⟩ := keeps_of_deploy deployed
  have now := keeps_along deployed moves
  have reflects := now.reflects
  refine ⟨now.ask, positive, within, reflects.distinct, ?_, ?_, ?_, askRegistry_application reflects, ?_⟩
  · show Except.ok (Reply.addresses _) = _
    rw [reflects.enrolled]
  · show Except.ok (Reply.number _) = _
    rw [reflects.required]
  · intro digest
    show Except.ok (Reply.number _) = _
    rw [reflects.count]
  · intro source target start
    exact ⟨_, rfl, fun index => reflects.approval source target, reflects.approval_eq_zero_iff source target⟩

/-! ### A small hall -/

/-- The oracle at 2 obeys a registry at 1, which is not there yet. -/
def square : World where
  kind := put (fun _ => none) (someone 2) (some .oracle)
  oracle _ := { registry := someone 1, divisor := 1 }

/-- Two of the signers 7, 8 and 9 approve together. -/
def hall : World :=
  { square.setRegistry (someone 1) { signers := ⟨[someone 7, someone 8, someone 9]⟩, threshold := 2 } with
    kind := put square.kind (someone 1) (some .registry)
    deployer := put square.deployer (someone 1) (someone 7) }

theorem hall_deployed :
    square.deploy (someone 7) (someone 1) (.registry 2 [someone 7, someone 8, someone 9]) = .ok hall := rfl

def petition (user : UInt8) (action : Registry.Action) : Move :=
  .call ⟨someone user, someone 1, .act (.registry action), []⟩

/-- The account 6 wants to act on the oracle. Its second application gets two signatures; of the two words of 7 on the
first one, the last takes back the other. -/
def petitions : List Move :=
  let plea := Digest.ofPair (someone 6) (someone 2)
  [ petition 6 (.submit (someone 2)),
    petition 6 (.submit (someone 2)),
    petition 7 (.sign plea none),
    petition 7 (.sign plea (some 1)),
    petition 7 (.sign plea (some 1)),
    petition 8 (.sign plea (some 1)),
    petition 7 (.revoke plea none)]

theorem hall_tells :
    ((hall.play petitions).registry (someone 1)).approval (someone 6) (someone 2) 0 = 2 ∧
      let history := hall.deeds (someone 1) petitions
      let plea := Digest.ofPair (someone 6) (someone 2)
      IsLeast {i | 0 ≤ i ∧ i < (openers history plea).length ∧
        2 ≤ (backers [someone 7, someone 8, someone 9] history plea i).length} 1 := by
  have second : ((hall.play petitions).registry (someone 1)).approval (someone 6) (someone 2) 0 = 2 := by
    decide +kernel
  obtain ⟨_, _, _, _, _, _, _, _, tells⟩ := registry_tells_its_history hall_deployed petitions
  obtain ⟨n, answered, first, _⟩ := tells (someone 6) (someone 2) 0
  have same := Reply.number.inj (Except.ok.inj answered)
  exact ⟨second, (first 1).1 (same.symm.trans second)⟩

end TermLending.World
