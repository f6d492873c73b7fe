import Mathlib.Data.List.Perm.Basic
import TermLending.Data.Roster

/-!
# Rosters without repetition

A roster holds each member once. A member that leaves hands its place to the last one. So those that stay are known up
to order, and all places but one are as before.
-/

namespace TermLending

variable {α : Type} [DecidableEq α] {a b : α}

theorem replace_perm {items : List α} (member : a ∈ items) : (items.replace a b).Perm (b :: items.erase a) := by
  induction items with
  | nil => cases member
  | cons head tail ih =>
    by_cases same : head = a
    · subst same
      simp
    · have later : a ∈ tail := (List.mem_cons.1 member).resolve_left (Ne.symm same)
      rw [List.replace_cons, beq_false_of_ne (Ne.symm same), List.erase_cons_tail (by simpa using same)]
      exact ((ih later).cons head).trans (.swap b head _)

theorem replace_eq_set (items : List α) (a b : α) : items.replace a b = items.set (items.idxOf a) b := by
  induction items with
  | nil => rfl
  | cons head tail ih =>
    by_cases same : a = head
    · subst same
      simp
    · rw [List.replace_cons, beq_false_of_ne same, List.idxOf_cons_ne tail (Ne.symm same), List.set_cons_succ, ← ih]

omit [DecidableEq α] in
/-- An item that gives way to another of the same kind. -/
theorem map_set_of_same {β : Type} {f : α → β} {items : List α} {i : Nat} (read : items[i]? = some a)
    (same : f b = f a) : (items.set i b).map f = items.map f := by
  obtain ⟨bound, rfl⟩ := List.getElem?_eq_some_iff.1 read
  have mapped : i < (items.map f).length := by simpa using bound
  rw [List.map_set, same, ← List.getElem_map f (h := mapped), List.set_getElem_self]

namespace Roster

variable {r : Roster α}

/-- The item that takes the place of another is the last one. -/
theorem items_erase_of_mem (member : a ∈ r) : ∃ front last, r.items = front ++ [last] ∧
    (r.erase a).items = front.replace a last ∧ (a ∉ front → last = a) := by
  rcases List.eq_nil_or_concat r.items with empty | ⟨front, last, split⟩
  · rw [mem_iff, empty] at member
    cases member
  · rw [List.concat_eq_append] at split
    refine ⟨front, last, split, ?_, ?_⟩
    · simp [erase, member, split]
    · intro late
      rw [mem_iff, split, List.mem_append] at member
      simpa [late, eq_comm] using member

theorem items_erase_perm (r : Roster α) (a : α) : (r.erase a).items.Perm (r.items.erase a) := by
  by_cases member : a ∈ r
  · obtain ⟨front, last, split, erased, leaver⟩ := items_erase_of_mem member
    rw [erased, split]
    by_cases early : a ∈ front
    · rw [List.erase_append_left _ early]
      exact (replace_perm early).trans (List.perm_append_singleton last _).symm
    · rw [List.erase_append_right _ early, List.replace_of_not_mem early, leaver early]
      simp
  · rw [erase_of_not_mem member, List.erase_of_not_mem member]

theorem nodup_insert (distinct : r.items.Nodup) : (r.insert a).items.Nodup := by
  by_cases member : a ∈ r
  · rwa [insert_of_mem member]
  · rw [items_insert_of_not_mem member]
    exact (List.perm_append_singleton a r.items).nodup_iff.2 (List.nodup_cons.2 ⟨member, distinct⟩)

theorem nodup_erase (distinct : r.items.Nodup) : (r.erase a).items.Nodup :=
  (items_erase_perm r a).nodup_iff.2 (distinct.erase a)

theorem mem_erase (distinct : r.items.Nodup) : b ∈ r.erase a ↔ b ≠ a ∧ b ∈ r := by
  rw [mem_iff, (items_erase_perm r a).mem_iff, distinct.mem_erase_iff]
  rfl

theorem mem_erase_of_ne (r : Roster α) (other : b ≠ a) : b ∈ r.erase a ↔ b ∈ r := by
  rw [mem_iff, (items_erase_perm r a).mem_iff, List.mem_erase_of_ne other]
  rfl

theorem mem_insert_of_ne (r : Roster α) (other : b ≠ a) : b ∈ r.insert a ↔ b ∈ r := by
  rw [mem_insert, or_iff_right other]

/-! ### Places -/

theorem items_insert (r : Roster α) (a : α) :
    (r.insert a).items = if a ∈ r.items then r.items else r.items ++ [a] := by
  unfold insert
  split <;>
    · next listed =>
      rw [mem_iff] at listed
      simp [listed]

/-- The last item is put where the leaver was, and its own place goes. -/
theorem items_erase (r : Roster α) (a : α) : (r.erase a).items =
    if a ∈ r.items then (r.items.set (r.items.idxOf a) (r.items.getLastD a)).dropLast else r.items := by
  split
  · next member =>
    obtain ⟨front, last, split, erased, leaver⟩ := items_erase_of_mem member
    rw [erased, split, replace_eq_set]
    by_cases early : a ∈ front
    · have place : front.idxOf a < front.length := List.idxOf_lt_length_iff.2 early
      simp [List.idxOf_append_of_mem early, place]
    · -- The leaver is the last item itself.
      have place : front.idxOf a = front.length := List.idxOf_eq_length early
      rw [place, List.set_eq_of_length_le (Nat.le_refl _)]
      simp [List.idxOf_append, early, leaver early]
  · next absent => rw [erase_of_not_mem absent]

theorem length_erase (member : a ∈ r) : (r.erase a).items.length + 1 = r.items.length := by
  have some : 0 < r.items.length := List.length_pos_of_mem member
  rw [items_erase, if_pos (mem_iff.1 member), List.length_dropLast, List.length_set]
  omega

/-- Of those that stay, all but the last one keep their places. -/
theorem getElem?_erase (distinct : r.items.Nodup) {i j : Nat} (place : r.items[i]? = some a)
    (stays : j < (r.erase a).items.length) :
    (r.erase a).items[j]? = if j = i then r.items.getLast? else r.items[j]? := by
  have member : a ∈ r := List.mem_of_getElem? place
  obtain ⟨bound, rfl⟩ := List.getElem?_eq_some_iff.1 place
  have shorter := length_erase member
  have last : r.items.getLast? = some (r.items.getLastD r.items[i]) := by
    rw [List.getLastD_eq_getLast?, List.getLast?_eq_getElem?, List.getElem?_eq_getElem (by omega), Option.getD_some]
  rw [items_erase, if_pos (mem_iff.1 member), distinct.idxOf_getElem, List.getElem?_dropLast, List.length_set,
    if_pos (by omega), List.getElem?_set, last]
  by_cases here : j = i
  · rw [if_pos here.symm, if_pos here, if_pos bound]
  · rw [if_neg (Ne.symm here), if_neg here]

end Roster

end TermLending
