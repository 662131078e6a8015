import Mathlib.Data.List.Basic

/-!
# Memory behind references

Cells that are only reached by reference. A new cell comes behind all others, and a write
changes the cell it names.
-/

namespace KarpenterIBM.Memory

variable {α : Type}

abbrev Reference := Nat

structure Arena (α : Type) where
  cells : List α

variable (arena : Arena α)

namespace Arena

/-- There is a cell behind the reference. -/
def Holds (reference : Reference) : Prop :=
  reference < arena.cells.length

instance (arena : Arena α) (reference : Reference) : Decidable (arena.Holds reference) :=
  inferInstanceAs (Decidable (reference < arena.cells.length))

def read [Inhabited α] (arena : Arena α) (reference : Reference) : α :=
  arena.cells.getD reference default

def alloc (value : α) : Reference × Arena α :=
  (arena.cells.length, ⟨arena.cells ++ [value]⟩)

def write (reference : Reference) (value : α) : Arena α :=
  ⟨arena.cells.set reference value⟩

section
variable {arena : Arena α} {reference other : Reference} {value : α}

@[simp] theorem holds_write : (arena.write reference value).Holds other ↔ arena.Holds other := by
  simp [Holds, write]

theorem holds_alloc : (arena.alloc value).2.Holds (arena.alloc value).1 := by simp [Holds, alloc]

theorem not_holds_alloc : ¬ arena.Holds (arena.alloc value).1 := Nat.lt_irrefl _

variable [Inhabited α]

theorem read_write_self (holds : arena.Holds reference) :
    (arena.write reference value).read reference = value := by
  unfold Holds at holds
  simp [read, write, List.getD, holds]

theorem read_write_of_ne (differ : other ≠ reference) :
    (arena.write reference value).read other = arena.read other := by
  simp [read, write, List.getD, List.getElem?_set_ne (Ne.symm differ)]

end

/-- Every cell is still there, with what was in it. -/
structure Extends [Inhabited α] (after before : Arena α) : Prop where
  holds : ∀ reference, before.Holds reference → after.Holds reference
  read : ∀ reference, before.Holds reference → after.read reference = before.read reference

namespace Extends

variable [Inhabited α] {first second third : Arena α}

protected theorem refl : arena.Extends arena :=
  ⟨fun _ holds => holds, fun _ _ => rfl⟩

protected theorem trans (later : third.Extends second) (earlier : second.Extends first) :
    third.Extends first where
  holds reference held := later.holds reference (earlier.holds reference held)
  read reference held :=
    (later.read reference (earlier.holds reference held)).trans (earlier.read reference held)

protected theorem alloc (value : α) : (arena.alloc value).2.Extends arena where
  holds reference held := by
    simp only [Holds, Arena.alloc, List.length_append, List.length_singleton]
    exact Nat.lt_succ_of_lt held
  read reference held := by
    unfold Holds at held
    simp [Arena.read, Arena.alloc, List.getD, List.getElem?_append_left held]

protected theorem write (grown : second.Extends first) {reference : Reference}
    (fresh : ¬ first.Holds reference) (value : α) :
    (second.write reference value).Extends first where
  holds other held := holds_write.mpr (grown.holds other held)
  read other held := by
    have differ : other ≠ reference := by
      rintro rfl
      exact fresh held
    rw [read_write_of_ne differ, grown.read other held]

theorem map_read (grown : second.Extends first) {references : List Reference}
    (held : ∀ reference ∈ references, first.Holds reference) :
    references.map second.read = references.map first.read :=
  List.map_congr_left fun reference mem => grown.read reference (held reference mem)

end Extends

end Arena

end KarpenterIBM.Memory
