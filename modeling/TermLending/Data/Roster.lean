/-!
# Rosters

A roster is a set with positions. A new member goes to the end; when a member leaves, the last one takes its place
and the others keep theirs.
-/

namespace TermLending

structure Roster (α : Type) where
  items : List α := []
  deriving DecidableEq, Repr

namespace Roster

variable {α : Type} [DecidableEq α]

instance : Membership α (Roster α) := ⟨fun r a => a ∈ r.items⟩

instance (a : α) (r : Roster α) : Decidable (a ∈ r) := inferInstanceAs (Decidable (a ∈ r.items))

def size (r : Roster α) : Nat := r.items.length

def get? (r : Roster α) (i : Nat) : Option α := r.items[i]?

def insert (r : Roster α) (a : α) : Roster α :=
  if a ∈ r then r else ⟨r.items ++ [a]⟩

/-- The last member moves into the place of `a`. -/
def erase (r : Roster α) (a : α) : Roster α :=
  if a ∈ r then
    match r.items.getLast? with
    | some last => ⟨r.items.dropLast.replace a last⟩
    | none => r
  else r

omit [DecidableEq α] in
theorem mem_iff {r : Roster α} {a : α} : a ∈ r ↔ a ∈ r.items := Iff.rfl

theorem insert_of_mem {r : Roster α} {a : α} (h : a ∈ r) : r.insert a = r := if_pos h

theorem items_insert_of_not_mem {r : Roster α} {a : α} (h : a ∉ r) : (r.insert a).items = r.items ++ [a] := by
  rw [insert, if_neg h]

theorem mem_insert {r : Roster α} {a b : α} : b ∈ r.insert a ↔ b = a ∨ b ∈ r := by
  by_cases h : a ∈ r
  · rw [insert_of_mem h]
    exact ⟨.inr, by rintro (rfl | hb) <;> assumption⟩
  · simp [mem_iff, items_insert_of_not_mem h, or_comm]

theorem erase_of_not_mem {r : Roster α} {a : α} (h : a ∉ r) : r.erase a = r := if_neg h

/-- A member that was just added leaves no trace when it leaves. -/
theorem erase_insert {r : Roster α} {a : α} (h : a ∉ r) : (r.insert a).erase a = r := by
  have hmem : a ∈ r.insert a := mem_insert.2 (.inl rfl)
  rw [erase, if_pos hmem]
  have hlast : (r.insert a).items.getLast? = some a := by simp [items_insert_of_not_mem h]
  have hrest : (r.insert a).items.dropLast = r.items := by simp [items_insert_of_not_mem h]
  simp only [hlast, hrest]
  have hstay : r.items.replace a a = r.items := List.replace_of_not_mem h
  rw [hstay]

end Roster

end TermLending
