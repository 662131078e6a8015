import Mathlib.Logic.Basic

/-!
# Values that are written once

A value starts blank and is set once. `Below blank x y` says that `y` is what `x` may have
become; two values are compatible when both may become the same one.
-/

namespace KarpenterIBM.WriteOnce

variable {α : Type} (blank : α)

def Below (first second : α) : Prop := first = blank ∨ first = second

def Compatible (first second : α) : Prop := first = blank ∨ second = blank ∨ first = second

def fill [DecidableEq α] (first second : α) : α := if first = blank then second else first

variable {blank} {first second third : α}

theorem Below.refl (value : α) : Below blank value value := .inr rfl

theorem below_blank (value : α) : Below blank blank value := .inl rfl

theorem Below.trans (left : Below blank first second) (right : Below blank second third) :
    Below blank first third := by
  rcases left with unset | rfl
  · exact .inl unset
  · exact right

theorem Below.eq (below : Below blank first second) (set : first ≠ blank) : first = second :=
  below.resolve_left set

theorem Below.eq_blank (below : Below blank first blank) : first = blank := below.elim id id

theorem Below.compatible (left : Below blank first third) (right : Below blank second third) :
    Compatible blank first second := by
  rcases left with unset | rfl
  · exact .inl unset
  · exact .inr (right.imp id Eq.symm)

theorem compatible_iff :
    Compatible blank first second ↔ ¬ (first ≠ blank ∧ second ≠ blank ∧ first ≠ second) := by
  simp only [Compatible, not_and_or, ne_eq, not_not]

variable [DecidableEq α]

theorem below_fill_left (first second : α) : Below blank first (fill blank first second) := by
  unfold fill
  split
  · exact .inl ‹_›
  · exact .inr rfl

theorem Compatible.below_fill_right (compatible : Compatible blank first second) :
    Below blank second (fill blank first second) := by
  unfold fill
  split
  · exact .inr rfl
  rcases compatible with unset | unset | same
  · exact absurd unset ‹_›
  · exact .inl unset
  · exact .inr same.symm

theorem Below.fill_eq (below : Below blank second first) : fill blank first second = first := by
  unfold fill
  split
  · rename_i unset
    rcases below with blankToo | same
    · rw [blankToo, unset]
    · exact same
  · rfl

theorem Below.fill_eq_right (below : Below blank first second) :
    fill blank first second = second := by
  unfold fill
  split
  · rfl
  · exact below.eq ‹_›

end KarpenterIBM.WriteOnce
