import Mathlib.Logic.Relation
import Mathlib.Logic.Function.Basic

/-!
# Programs over an external interface

A program is a tree of calls to an external interface. The interface answers each call and the
program continues with the answer; it ends with a value or with an error.
-/

namespace KarpenterIBM.EffectProgram

/-- The calls of an interface and the type of the answer to each of them. -/
structure Signature where
  Op : Type
  Res : Op → Type

/-- A program over `S` that returns an `α` or fails with an `ε`. -/
inductive Prog (S : Signature) (ε α : Type) where
  | pure (value : α) : Prog S ε α
  | fail (error : ε) : Prog S ε α
  | call (op : S.Op) (next : S.Res op → Prog S ε α) : Prog S ε α

section
variable {S : Signature} {ε α β γ : Type}

def Prog.bind : Prog S ε α → (α → Prog S ε β) → Prog S ε β
  | .pure value, next => next value
  | .fail error, _ => .fail error
  | .call op rest, next => .call op (fun answer => (rest answer).bind next)

instance : Monad (Prog S ε) where
  pure := .pure
  bind := Prog.bind

def Prog.attempt : Prog S ε α → Prog S ε (Except ε α)
  | .pure value => .pure (.ok value)
  | .fail error => .pure (.error error)
  | .call op rest => .call op (fun answer => (rest answer).attempt)

def Prog.mapError (change : ε → ε) : Prog S ε α → Prog S ε α
  | .pure value => .pure value
  | .fail error => .fail (change error)
  | .call op rest => .call op (fun answer => (rest answer).mapError change)

def ofExcept : Except ε α → Prog S ε α
  | .ok value => .pure value
  | .error error => .fail error

def forEach (body : α → Prog S ε Unit) : List α → Prog S ε Unit
  | [] => .pure ()
  | item :: rest => (body item).bind (fun _ => forEach body rest)

@[simp] theorem pure_ctor_bind (value : α) (next : α → Prog S ε β) :
    (Prog.pure value >>= next) = next value := rfl

@[simp] theorem call_bind (op : S.Op) (rest : S.Res op → Prog S ε α) (next : α → Prog S ε β) :
    (Prog.call op rest >>= next) = .call op (fun answer => rest answer >>= next) := rfl

theorem ofExcept_ok_bind (value : α) (next : α → Prog S ε β) :
    (ofExcept (.ok value) >>= next) = next value := rfl

theorem bind_assoc (p : Prog S ε α) (next : α → Prog S ε β) (last : β → Prog S ε γ) :
    (p >>= next) >>= last = p >>= fun value => next value >>= last := by
  induction p with
  | pure value | fail error => rfl
  | call op rest ih =>
    simp only [call_bind]
    exact congrArg _ (funext ih)

theorem except_bind_eq_ok {first : Except ε α} {next : α → Except ε β} {result : β}
    (succeeds : (first >>= next) = .ok result) :
    ∃ value, first = .ok value ∧ next value = .ok result := by
  cases first with
  | error error => cases succeeds
  | ok value => exact ⟨value, rfl, succeeds⟩

end

/-! ## Traces -/

variable {S : Signature} {ε α β : Type}

/-- One call of the interface together with its answer. -/
abbrev Signature.Exchange (S : Signature) : Type := (op : S.Op) × S.Res op

/-- The program ends after exactly these exchanges, with this outcome. -/
def Runs : Prog S ε α → List S.Exchange → Except ε α → Prop
  | .pure value, trace, outcome => trace = [] ∧ outcome = .ok value
  | .fail error, trace, outcome => trace = [] ∧ outcome = .error error
  | .call op rest, trace, outcome =>
    ∃ answer later, trace = ⟨op, answer⟩ :: later ∧ Runs (rest answer) later outcome

/-- After these exchanges the program has this rest left to run. -/
inductive Reaches : Prog S ε α → List S.Exchange → Prog S ε α → Prop where
  | here (program : Prog S ε α) : Reaches program [] program
  | step (op : S.Op) (answer : S.Res op) {rest : S.Res op → Prog S ε α}
      {later : List S.Exchange} {final : Prog S ε α}
      (reached : Reaches (rest answer) later final) :
      Reaches (.call op rest) (⟨op, answer⟩ :: later) final

/-- The first program ends with some result, and the second goes on from that. -/
theorem runs_bind_iff (p : Prog S ε α) (next : α → Prog S ε β)
    (trace : List S.Exchange) (out : Except ε β) :
    Runs (p >>= next) trace out ↔ ∃ result first later, trace = first ++ later ∧
      Runs p first result ∧ Runs (ofExcept result >>= next) later out := by
  induction p generalizing trace with
  | pure value | fail error =>
    constructor
    · intro run
      exact ⟨_, [], trace, rfl, ⟨rfl, rfl⟩, run⟩
    · rintro ⟨result, first, later, rfl, ⟨rfl, rfl⟩, run⟩
      exact run
  | call op rest ih =>
    constructor
    · rintro ⟨answer, later, rfl, run⟩
      obtain ⟨result, first, last, rfl, before, after⟩ := (ih answer later).mp run
      exact ⟨result, ⟨op, answer⟩ :: first, last, rfl, ⟨answer, first, rfl, before⟩, after⟩
    · rintro ⟨result, _, last, rfl, ⟨answer, first, rfl, before⟩, after⟩
      exact ⟨answer, first ++ last, rfl, (ih answer _).mpr
        ⟨result, first, last, rfl, before, after⟩⟩

theorem runs_attempt_iff (p : Prog S ε α) (trace : List S.Exchange) (out : Except ε (Except ε α)) :
    Runs p.attempt trace out ↔ ∃ inner, Runs p trace inner ∧ out = .ok inner := by
  induction p generalizing trace with
  | pure value | fail error =>
    constructor
    · rintro ⟨rfl, rfl⟩
      exact ⟨_, ⟨rfl, rfl⟩, rfl⟩
    · rintro ⟨inner, ⟨rfl, rfl⟩, rfl⟩
      exact ⟨rfl, rfl⟩
  | call op rest ih =>
    constructor
    · rintro ⟨answer, later, rfl, run⟩
      obtain ⟨inner, ran, same⟩ := (ih answer later).mp run
      exact ⟨inner, ⟨answer, later, rfl, ran⟩, same⟩
    · rintro ⟨inner, ⟨answer, later, rfl, ran⟩, same⟩
      exact ⟨answer, later, rfl, (ih answer later).mpr ⟨inner, ran, same⟩⟩

variable {program : Prog S ε α} {trace : List S.Exchange}

theorem runs_bind_ok {next : α → Prog S ε β} {final : β}
    (run : Runs (program >>= next) trace (.ok final)) :
    ∃ value first later, trace = first ++ later ∧ Runs program first (.ok value) ∧
      Runs (next value) later (.ok final) := by
  obtain ⟨result, first, later, split, ran, ended⟩ := (runs_bind_iff program next trace _).mp run
  cases result with
  | ok value => exact ⟨value, first, later, split, ran, ended⟩
  | error error => cases ended.2

theorem runs_mapError_ok {change : ε → ε} {result : α}
    (run : Runs (program.mapError change) trace (.ok result)) :
    Runs program trace (.ok result) := by
  induction program generalizing trace with
  | pure value => exact run
  | fail error => cases run.2
  | call op rest ih =>
    obtain ⟨answer, later, rfl, ran⟩ := run
    exact ⟨answer, later, rfl, ih answer ran⟩

@[simp] theorem runs_ofExcept_ok (out : Except ε α) (trace : List S.Exchange) (result : α) :
    Runs (ofExcept out : Prog S ε α) trace (.ok result) ↔ trace = [] ∧ out = .ok result := by
  cases out with
  | ok value =>
    constructor
    · rintro ⟨rfl, same⟩
      exact ⟨rfl, same.symm⟩
    · rintro ⟨rfl, same⟩
      exact ⟨rfl, same.symm⟩
  | error error =>
    constructor
    · rintro ⟨_, ⟨⟩⟩
    · rintro ⟨_, ⟨⟩⟩

variable {op : S.Op}

theorem runs_call_ofExcept_ok {decode : S.Res op → Except ε α} {result : α}
    (run : Runs (.call op fun answer => ofExcept (decode answer) : Prog S ε α) trace (.ok result)) :
    ∃ answer, trace = [⟨op, answer⟩] ∧ decode answer = .ok result := by
  obtain ⟨answer, later, rfl, ended⟩ := run
  obtain ⟨rfl, same⟩ := (runs_ofExcept_ok _ _ _).mp ended
  exact ⟨answer, rfl, same⟩

/-! ## The call a program comes to -/

/-- After these exchanges the program makes this call. -/
def Makes : Prog S ε α → List S.Exchange → S.Op → Prop
  | .pure _, _, _ | .fail _, _, _ => False
  | .call first rest, trace, op => trace = [] ∧ first = op ∨
      ∃ answer later, trace = ⟨first, answer⟩ :: later ∧ Makes (rest answer) later op

theorem Reaches.makes {rest : S.Res op → Prog S ε α}
    (reaches : Reaches program trace (.call op rest)) : Makes program trace op := by
  generalize final : Prog.call op rest = last at reaches
  induction reaches with
  | here =>
    subst final
    exact .inl ⟨rfl, rfl⟩
  | step first answer _ ih => exact .inr ⟨answer, _, rfl, ih final⟩

section
variable {first : S.Op}

theorem makes_other {body : S.Res first → Prog S ε α} (makes : Makes (.call first body) trace op)
    (other : first ≠ op) :
    ∃ answer later, trace = ⟨first, answer⟩ :: later ∧ Makes (body answer) later op :=
  makes.resolve_left fun here => other here.2

theorem makes_ask_bind {decode : S.Res first → Except ε α} {next : α → Prog S ε β}
    (makes : Makes (.call first (fun answer => ofExcept (decode answer)) >>= next) trace op)
    (other : first ≠ op) :
    ∃ answer value later, trace = ⟨first, answer⟩ :: later ∧ decode answer = .ok value ∧
      Makes (next value) later op := by
  obtain ⟨answer, later, rfl, made⟩ := makes_other makes other
  dsimp only at made
  cases decoded : decode answer with
  | error error =>
    rw [decoded] at made
    cases made
  | ok value =>
    rw [decoded] at made
    exact ⟨answer, value, later, rfl, decoded, made⟩

end

theorem makes_bind {next : α → Prog S ε β} (makes : Makes (program >>= next) trace op) :
    Makes program trace op ∨ ∃ value first later, trace = first ++ later ∧
      Runs program first (.ok value) ∧ Makes (next value) later op := by
  induction program generalizing trace with
  | pure value => exact .inr ⟨value, [], trace, rfl, ⟨rfl, rfl⟩, makes⟩
  | fail error => cases makes
  | call first body ih =>
    rcases makes with here | ⟨answer, later, rfl, made⟩
    · exact .inl (.inl here)
    rcases ih answer made with inside | ⟨value, before, last, rfl, ran, after⟩
    · exact .inl (.inr ⟨answer, later, rfl, inside⟩)
    · exact .inr ⟨value, ⟨first, answer⟩ :: before, last, rfl, ⟨answer, before, rfl, ran⟩, after⟩

theorem makes_attempt (makes : Makes program.attempt trace op) : Makes program trace op := by
  induction program generalizing trace with
  | pure value | fail error => exact makes
  | call first body ih =>
    exact makes.imp_right fun ⟨answer, later, same, made⟩ => ⟨answer, later, same, ih answer made⟩

theorem Reaches.bind {final : Prog S ε α} (reaches : Reaches program trace final)
    (next : α → Prog S ε β) : Reaches (program >>= next) trace (final >>= next) := by
  induction reaches with
  | here program => exact .here _
  | step op answer _ ih => exact .step op answer ih

theorem Reaches.attempt {final : Prog S ε α} (reaches : Reaches program trace final) :
    Reaches program.attempt trace final.attempt := by
  induction reaches with
  | here program => exact .here _
  | step op answer _ ih => exact .step op answer ih

end KarpenterIBM.EffectProgram
