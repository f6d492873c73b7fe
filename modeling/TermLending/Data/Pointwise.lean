/-!
# Changing a function at one point

Storage is a function from keys to values whose untouched keys hold a default. `put` writes one key. Two storages
are equal when they answer every key alike, whatever the order of the writes that made them.
-/

namespace TermLending

/-- The function that is `b` at `a` and `f` elsewhere. -/
def put {α β : Type} [DecidableEq α] (f : α → β) (a : α) (b : β) : α → β :=
  fun x => if x = a then b else f x

variable {α β : Type} [DecidableEq α] (f : α → β) (a : α) (b c : β)

@[simp] theorem put_self : put f a b a = b := if_pos rfl

theorem put_of_ne {x : α} (h : x ≠ a) : put f a b x = f x := if_neg h

@[simp] theorem put_put : put (put f a b) a c = put f a c := by
  funext x; unfold put; split <;> rfl

@[simp] theorem put_same : put f a (f a) = f := by
  funext x; unfold put; split <;> simp_all

theorem put_comm {a' : α} (h : a ≠ a') : put (put f a b) a' c = put (put f a' c) a b := by
  funext x; unfold put; by_cases hx : x = a <;> by_cases hy : x = a' <;> simp_all

end TermLending
