import KarpenterIBM.Lib.EffectProgram

/-!
# Protocols and the programs that follow them

A protocol is an automaton over the calls of an interface. It says which calls a phase permits
and how the answer moves the phase.
-/

namespace KarpenterIBM.EffectProgram

open List

structure Protocol (S : Signature) where
  Phase : Type
  permits : Phase → S.Op → Prop
  next : Phase → (op : S.Op) → S.Res op → Phase

section
variable {S : Signature} {ε α β : Type} (P : Protocol S)

/-- Every call of the program is permitted where it is made, and `post` holds of
the outcome and the phase it ends in. -/
def Follows (post : Except ε α → P.Phase → Prop) : P.Phase → Prog S ε α → Prop
  | phase, .pure value => post (.ok value) phase
  | phase, .fail error => post (.error error) phase
  | phase, .call op rest =>
    P.permits phase op ∧ ∀ answer, Follows post (P.next phase op answer) (rest answer)

variable {P} {post : Except ε α → P.Phase → Prop} {phase : P.Phase}

@[simp] theorem follows_call (op : S.Op) (rest : S.Res op → Prog S ε α) :
    Follows P post phase (.call op rest) ↔ P.permits phase op ∧
        ∀ answer, Follows P post (P.next phase op answer) (rest answer) := Iff.rfl

theorem follows_perform {op : S.Op} {next : S.Res op → Prog S ε α} (allowed : P.permits phase op)
    (goes : ∀ answer, Follows P post (P.next phase op answer) (next answer)) :
    Follows P post phase (.call op .pure >>= next) :=
  ⟨allowed, goes⟩

theorem follows_ite {condition : Prop} [Decidable condition] {first second : Prog S ε α}
    (one : condition → Follows P post phase first)
    (other : ¬ condition → Follows P post phase second) :
    Follows P post phase (if condition then first else second) := by
  by_cases holds : condition
  · rw [if_pos holds]
    exact one holds
  · rw [if_neg holds]
    exact other holds

theorem follows_of_free (free : ∀ phase op, P.permits phase op) (phase : P.Phase)
    (program : Prog S ε α) : Follows P (fun _ _ => True) phase program := by
  induction program generalizing phase with
  | pure value | fail error => exact trivial
  | call op rest ih => exact ⟨free phase op, fun answer => ih answer _⟩

theorem Follows.mono {program : Prog S ε α} {weaker : Except ε α → P.Phase → Prop}
    (follows : Follows P post phase program)
    (implies : ∀ out final, post out final → weaker out final) :
    Follows P weaker phase program := by
  induction program generalizing phase with
  | pure value | fail error => exact implies _ _ follows
  | call op rest ih => exact ⟨follows.1, fun answer => ih answer (follows.2 answer)⟩

theorem follows_bind_iff (program : Prog S ε β) (next : β → Prog S ε α) :
    Follows P post phase (program >>= next) ↔ Follows P (fun out final =>
          match out with
          | .ok value => Follows P post final (next value)
          | .error error => post (.error error) final)
        phase program := by
  induction program generalizing phase with
  | pure value | fail error => exact Iff.rfl
  | call op rest ih =>
    simp only [call_bind, follows_call]
    exact and_congr_right fun _ => forall_congr' fun answer => ih answer

theorem Follows.bind {program : Prog S ε β} {next : β → Prog S ε α}
    {mid : Except ε β → P.Phase → Prop}
    (first : Follows P mid phase program)
    (second : ∀ value final, mid (.ok value) final → Follows P post final (next value))
    (failure : ∀ error final, mid (.error error) final → post (.error error) final) :
    Follows P post phase (program >>= next) := by
  rw [follows_bind_iff]
  refine first.mono ?_
  intro out final holds
  cases out with
  | ok value => exact second value final holds
  | error error => exact failure error final holds

theorem follows_attempt_iff {post : Except ε (Except ε β) → P.Phase → Prop} (program : Prog S ε β) :
    Follows P post phase program.attempt ↔
      Follows P (fun out final => post (.ok out) final) phase program := by
  induction program generalizing phase with
  | pure value | fail error => exact Iff.rfl
  | call op rest ih =>
    simp only [Prog.attempt, follows_call]
    exact and_congr_right fun _ => forall_congr' fun answer => ih answer

theorem Follows.attempt_bind {program : Prog S ε β} {next : Except ε β → Prog S ε α}
    {mid : Except ε β → P.Phase → Prop}
    (first : Follows P mid phase program)
    (second : ∀ out final, mid out final → Follows P post final (next out)) :
    Follows P post phase (program.attempt >>= next) := by
  rw [follows_bind_iff, follows_attempt_iff]
  exact first.mono second

theorem follows_mapError_iff (change : ε → ε) (program : Prog S ε α) :
    Follows P post phase (program.mapError change) ↔
      Follows P (fun out final => post (out.mapError change) final) phase program := by
  induction program generalizing phase with
  | pure value | fail error => exact Iff.rfl
  | call op rest ih =>
    simp only [Prog.mapError, follows_call]
    exact and_congr_right fun _ => forall_congr' fun answer => ih answer

/-- The phase after a trace. -/
def Protocol.after (P : Protocol S) : P.Phase → List S.Exchange → P.Phase
  | phase, [] => phase
  | phase, ⟨op, answer⟩ :: later => P.after (P.next phase op answer) later

theorem Follows.reaches {program rest : Prog S ε α} {trace : List S.Exchange}
    (follows : Follows P post phase program) (reaches : Reaches program trace rest) :
    Follows P post (P.after phase trace) rest := by
  induction reaches generalizing phase with
  | here program => exact follows
  | step op answer reached ih => exact ih (follows.2 answer)

theorem follows_ofExcept_iff (out : Except ε α) :
    Follows P post phase (ofExcept out) ↔ post out phase := by
  cases out <;> exact Iff.rfl

end

/-! ## Programs that stay inside a set of calls -/

section
variable {S : Signature} {ε α β : Type}

/-- Every call the program can make satisfies `allowed`, and every outcome `ends`. -/
def Uses (allowed : S.Op → Prop) (ends : Except ε α → Prop) : Prog S ε α → Prop
  | .pure value => ends (.ok value)
  | .fail error => ends (.error error)
  | .call op rest => allowed op ∧ ∀ answer, Uses allowed ends (rest answer)

variable {allowed : S.Op → Prop} {ends : Except ε α → Prop}

@[simp] theorem uses_ofExcept (outcome : Except ε α) :
    Uses allowed ends (ofExcept outcome) ↔ ends outcome := by
  cases outcome <;> exact Iff.rfl

theorem Uses.bind {program : Prog S ε β} {next : β → Prog S ε α} {mid : Except ε β → Prop}
    (first : Uses allowed mid program)
    (second : ∀ value, mid (.ok value) → Uses allowed ends (next value))
    (failure : ∀ error, mid (.error error) → ends (.error error)) :
    Uses allowed ends (program >>= next) := by
  induction program with
  | pure value => exact second value first
  | fail error => exact failure error first
  | call op rest ih => exact ⟨first.1, fun answer => ih answer (first.2 answer)⟩

variable {program : Prog S ε α}

theorem Uses.attempt {ends : Except ε (Except ε α) → Prop}
    (uses : Uses allowed (fun out => ends (.ok out)) program) :
    Uses allowed ends program.attempt := by
  induction program with
  | pure value | fail error => exact uses
  | call op rest ih => exact ⟨uses.1, fun answer => ih answer (uses.2 answer)⟩

theorem Uses.mapError (change : ε → ε)
    (uses : Uses allowed (fun out => ends (out.mapError change)) program) :
    Uses allowed ends (program.mapError change) := by
  induction program with
  | pure value | fail error => exact uses
  | call op rest ih => exact ⟨uses.1, fun answer => ih answer (uses.2 answer)⟩

theorem Uses.mono {wider : S.Op → Prop} {weaker : Except ε α → Prop}
    (uses : Uses allowed ends program) (widens : ∀ op, allowed op → wider op)
    (implies : ∀ out, ends out → weaker out) : Uses wider weaker program := by
  induction program with
  | pure value | fail error => exact implies _ uses
  | call op rest ih => exact ⟨widens op uses.1, fun answer => ih answer (uses.2 answer)⟩

theorem Uses.follows {P : Protocol S} (keeps : P.Phase → Prop) {phase : P.Phase}
    (uses : Uses allowed ends program)
    (stays : ∀ op phase, allowed op → keeps phase →
      P.permits phase op ∧ ∀ answer, keeps (P.next phase op answer)) (kept : keeps phase) :
    Follows P (fun out final => ends out ∧ keeps final) phase program := by
  induction program generalizing phase with
  | pure value | fail error => exact ⟨uses, kept⟩
  | call op rest ih =>
    obtain ⟨permitted, unmoved⟩ := stays op phase uses.1 kept
    exact ⟨permitted, fun answer => ih answer (uses.2 answer) (unmoved answer)⟩

variable {trace : List S.Exchange}

section
variable (uses : Uses allowed ends program)

include uses

theorem Uses.allowed_of_mem {out : Except ε α} (run : Runs program trace out)
    {exchange : S.Exchange} (member : exchange ∈ trace) : allowed exchange.1 := by
  induction program generalizing trace with
  | pure value | fail error => simp [run.1] at member
  | call op rest ih =>
    obtain ⟨answer, later, rfl, ran⟩ := run
    rcases mem_cons.mp member with rfl | member
    · exact uses.1
    · exact ih answer (uses.2 answer) ran member

theorem Uses.ends_of_runs {outcome : Except ε α} (run : Runs program trace outcome) :
    ends outcome := by
  induction program generalizing trace with
  | pure value | fail error =>
    obtain ⟨_, rfl⟩ := run
    exact uses
  | call op rest ih =>
    obtain ⟨answer, later, _, ran⟩ := run
    exact ih answer (uses.2 answer) ran

theorem Uses.allowed_of_makes {op : S.Op} (makes : Makes program trace op) : allowed op := by
  induction program generalizing trace with
  | pure value | fail error => cases makes
  | call first body ih =>
    rcases makes with ⟨_, rfl⟩ | ⟨answer, later, _, made⟩
    · exact uses.1
    · exact ih answer (uses.2 answer) made

end

/-- Every call the program can make satisfies `allowed`. -/
def Only (allowed : S.Op → Prop) (program : Prog S ε α) : Prop :=
  Uses allowed (fun _ => True) program

/-- The program never makes the call `op`. -/
def Avoids (program : Prog S ε α) (op : S.Op) : Prop :=
  Only (· ≠ op) program

theorem Only.bind {program : Prog S ε β} {next : β → Prog S ε α} (first : Only allowed program)
    (second : ∀ value, Only allowed (next value)) : Only allowed (program >>= next) :=
  Uses.bind first (fun value _ => second value) fun _ _ => trivial

theorem Only.attempt (only : Only allowed program) : Only allowed program.attempt :=
  Uses.attempt only

theorem Only.mapError (only : Only allowed program) (change : ε → ε) :
    Only allowed (program.mapError change) :=
  Uses.mapError change only

theorem Avoids.makes_bind {program : Prog S ε β} {next : β → Prog S ε α} {op : S.Op}
    (avoids : Avoids program op) (makes : Makes (program >>= next) trace op) :
    ∃ value first later, trace = first ++ later ∧ Runs program first (.ok value) ∧
      Makes (next value) later op :=
  (EffectProgram.makes_bind makes).resolve_left fun inside =>
    Uses.allowed_of_makes avoids inside rfl

theorem Only.avoids {op : S.Op} (only : Only allowed program) (banned : ¬ allowed op) :
    Avoids program op :=
  Uses.mono only (fun _ ok same => banned (same ▸ ok)) fun _ => id

theorem only_ofExcept (out : Except ε α) : Only allowed (ofExcept out : Prog S ε α) :=
  (uses_ofExcept out).mpr trivial

theorem only_call {op : S.Op} {rest : S.Res op → Prog S ε α} (ok : allowed op)
    (later : ∀ answer, Only allowed (rest answer)) : Only allowed (.call op rest) :=
  ⟨ok, later⟩

theorem only_ask {op : S.Op} {decode : S.Res op → Except ε α} (ok : allowed op) :
    Only allowed (.call op fun answer => ofExcept (decode answer)) :=
  ⟨ok, fun _ => only_ofExcept _⟩

theorem only_ite {condition : Prop} [Decidable condition] {first second : Prog S ε α}
    (one : Only allowed first) (other : Only allowed second) :
    Only allowed (if condition then first else second) := by
  by_cases holds : condition
  · rw [if_pos holds]
    exact one
  · rw [if_neg holds]
    exact other

theorem only_forEach {body : β → Prog S ε Unit} (items : List β)
    (only : ∀ item, Only allowed (body item)) : Only allowed (forEach body items) := by
  induction items with
  | nil => exact trivial
  | cons item rest ih => exact (only item).bind fun _ => ih

theorem Only.follows_runs {P : Protocol S} (noted : List S.Exchange → P.Phase)
    (records : ∀ trace op, allowed op → P.permits (noted trace) op ∧
      ∀ answer, P.next (noted trace) op answer = noted (trace ++ [⟨op, answer⟩]))
    (only : Only allowed program) (trace : List S.Exchange) :
    Follows P (fun out final => ∃ segment, Runs program segment out ∧
      final = noted (trace ++ segment)) (noted trace) program := by
  induction program generalizing trace with
  | pure value | fail error => exact ⟨[], ⟨rfl, rfl⟩, by rw [append_nil]⟩
  | call op rest ih =>
    obtain ⟨permitted, next⟩ := records trace op only.1
    refine ⟨permitted, fun answer => ?_⟩
    rw [next answer]
    refine (ih answer (only.2 answer) (trace ++ [⟨op, answer⟩])).mono ?_
    rintro out final ⟨segment, run, rfl⟩
    refine ⟨⟨op, answer⟩ :: segment, ⟨answer, segment, rfl, run⟩, ?_⟩
    rw [append_assoc, singleton_append]

end

/-! ## Relying on credible answers

A protocol may mark a phase as broken when an answer contradicts what the world is
known to give.  A broken phase stays broken and permits everything, so a program
only has to keep to the protocol while the answers are credible. -/

structure Reliance {S : Signature} (P : Protocol S) where
  broken : P.Phase → Prop
  permits : ∀ phase op, broken phase → P.permits phase op
  next : ∀ phase op answer, broken phase → broken (P.next phase op answer)

section
variable {S : Signature} {ε α β : Type} {P : Protocol S} (R : Reliance P)

def Meets (spec : Except ε α → P.Phase → Prop) (phase : P.Phase) (program : Prog S ε α) : Prop :=
  Follows P (fun outcome final => R.broken final ∨ spec outcome final) phase program

variable {R} {spec : Except ε α → P.Phase → Prop} {phase : P.Phase}

theorem meets_of_broken (broken : R.broken phase) (program : Prog S ε α) :
    Meets R spec phase program := by
  induction program generalizing phase with
  | pure value | fail error => exact Or.inl broken
  | call op rest ih =>
    exact ⟨R.permits phase op broken, fun answer => ih answer (R.next phase op answer broken)⟩

theorem meets_pure {value : α} (holds : spec (.ok value) phase) :
    Meets R spec phase (.pure value) := Or.inr holds

theorem meets_fail {error : ε} (holds : spec (.error error) phase) :
    Meets R spec phase (.fail error) := Or.inr holds

theorem meets_ite {condition : Prop} [Decidable condition] {first second : Prog S ε α}
    (one : condition → Meets R spec phase first) (other : ¬ condition → Meets R spec phase second) :
    Meets R spec phase (if condition then first else second) :=
  follows_ite one other

theorem meets_ofExcept {out : Except ε α} (holds : spec out phase) :
    Meets R spec phase (ofExcept out) :=
  (follows_ofExcept_iff out).mpr (Or.inr holds)

theorem meets_outcome (out : Except ε α) (phase : P.Phase) :
    Meets R (fun result final => result = out ∧ final = phase) phase (ofExcept out) :=
  meets_ofExcept ⟨rfl, rfl⟩

theorem meets_call {op : S.Op} {rest : S.Res op → Prog S ε α} (allowed : P.permits phase op)
    (goes : ∀ answer, ¬ R.broken (P.next phase op answer) →
      Meets R spec (P.next phase op answer) (rest answer)) :
    Meets R spec phase (.call op rest) := by
  refine ⟨allowed, fun answer => ?_⟩
  by_cases broken : R.broken (P.next phase op answer)
  · exact meets_of_broken broken _
  · exact goes answer broken

theorem Meets.mono {program : Prog S ε α} {weaker : Except ε α → P.Phase → Prop}
    (meets : Meets R spec phase program)
    (implies : ∀ out final, spec out final → weaker out final) :
    Meets R weaker phase program :=
  Follows.mono meets fun out final => Or.imp_right (implies out final)

theorem Meets.bind {program : Prog S ε β} {next : β → Prog S ε α}
    {mid : Except ε β → P.Phase → Prop} (first : Meets R mid phase program)
    (second : ∀ value final, mid (.ok value) final → Meets R spec final (next value))
    (failure : ∀ error final, mid (.error error) final → spec (.error error) final) :
    Meets R spec phase (program >>= next) := by
  refine Follows.bind first ?_ ?_
  · rintro value final (broken | holds)
    · exact meets_of_broken broken _
    · exact second value final holds
  · intro error final
    exact Or.imp_right (failure error final)

theorem Meets.attempt_bind {program : Prog S ε β} {next : Except ε β → Prog S ε α}
    {mid : Except ε β → P.Phase → Prop} (first : Meets R mid phase program)
    (second : ∀ out final, mid out final → Meets R spec final (next out)) :
    Meets R spec phase (program.attempt >>= next) := by
  refine Follows.attempt_bind first ?_
  rintro out final (broken | holds)
  · exact meets_of_broken broken _
  · exact second out final holds

theorem Meets.mapError {program : Prog S ε α} (change : ε → ε)
    (meets : Meets R (fun out final => spec (out.mapError change) final) phase program) :
    Meets R spec phase (program.mapError change) :=
  (follows_mapError_iff change program).mpr meets

end

/-! ## Permission by history

The protocol whose phase is everything exchanged so far. A call is permitted by what stands
before it in the trace, so following this protocol is a statement about every prefix of every
run. -/

section
variable {S : Signature} {ε α : Type}

/-- A call is permitted by the exchanges before it. -/
def Protocol.history (permits : List S.Exchange → S.Op → Prop) : Protocol S where
  Phase := List S.Exchange
  permits := permits
  next := fun history op answer => history ++ [⟨op, answer⟩]

variable {permits : List S.Exchange → S.Op → Prop}

theorem history_after (history trace : List S.Exchange) :
    (Protocol.history permits).after history trace = history ++ trace := by
  induction trace generalizing history with
  | nil => exact (append_nil history).symm
  | cons exchange later ih =>
    obtain ⟨op, answer⟩ := exchange
    exact (ih (history ++ [⟨op, answer⟩])).trans (append_cons ..).symm

theorem Follows.permits_of_reaches {post : Except ε α → List S.Exchange → Prop}
    {program : Prog S ε α} (follows : Follows (Protocol.history permits) post [] program)
    {trace : List S.Exchange} {op : S.Op} {rest : S.Res op → Prog S ε α}
    (reaches : Reaches program trace (.call op rest)) : permits trace op := by
  have reached := Follows.reaches follows reaches
  rw [history_after, nil_append] at reached
  exact reached.1

theorem Uses.extends_history {allowed : S.Op → Prop} {ends : Except ε α → Prop}
    {program : Prog S ε α} (uses : Uses allowed ends program)
    (free : ∀ history op, allowed op → permits history op) (history : List S.Exchange) :
    Follows (Protocol.history permits) (fun out final => ends out ∧ history <+: final)
      history program := by
  refine Uses.follows (P := Protocol.history permits) (history <+: ·) uses ?_
    (prefix_refl history)
  intro op phase ok extended
  exact ⟨free phase op ok, fun answer => extended.trans (prefix_append _ _)⟩

theorem Follows.weaken_history {weaker : List S.Exchange → S.Op → Prop}
    {post : Except ε α → List S.Exchange → Prop} {program : Prog S ε α}
    {history : List S.Exchange}
    (follows : Follows (Protocol.history permits) post history program)
    (implies : ∀ history op, permits history op → weaker history op) :
    Follows (Protocol.history weaker) post history program := by
  induction program generalizing history with
  | pure value | fail error => exact follows
  | call op rest ih =>
    exact ⟨implies history op follows.1, fun answer => ih answer (follows.2 answer)⟩

end

/-! ## Interfaces side by side

Programs over different interfaces share a world through the sum of the interfaces. -/

def Signature.sum (S T : Signature) : Signature := ⟨S.Op ⊕ T.Op, Sum.elim S.Res T.Res⟩

variable {S T : Signature} {ε α : Type}

def Prog.onLeft (T : Signature) : Prog S ε α → Prog (S.sum T) ε α
  | .pure value => .pure value
  | .fail error => .fail error
  | .call op rest => .call (.inl op) fun answer => (rest answer).onLeft T

def Prog.onRight (S : Signature) : Prog T ε α → Prog (S.sum T) ε α
  | .pure value => .pure value
  | .fail error => .fail error
  | .call op rest => .call (.inr op) fun answer => (rest answer).onRight S

def Protocol.left (P : Protocol (S.sum T)) : Protocol S where
  Phase := P.Phase
  permits := fun phase op => P.permits phase (.inl op)
  next := fun phase op answer => P.next phase (.inl op) answer

def Protocol.right (P : Protocol (S.sum T)) : Protocol T where
  Phase := P.Phase
  permits := fun phase op => P.permits phase (.inr op)
  next := fun phase op answer => P.next phase (.inr op) answer

variable {P : Protocol (S.sum T)} {post : Except ε α → P.Phase → Prop} {phase : P.Phase}

theorem follows_onLeft {program : Prog S ε α} (follows : Follows P.left post phase program) :
    Follows P post phase (program.onLeft T) := by
  induction program generalizing phase with
  | pure value | fail error => exact follows
  | call op rest ih => exact ⟨follows.1, fun answer => ih answer (follows.2 answer)⟩

theorem follows_onRight {program : Prog T ε α} (follows : Follows P.right post phase program) :
    Follows P post phase (program.onRight S) := by
  induction program generalizing phase with
  | pure value | fail error => exact follows
  | call op rest ih => exact ⟨follows.1, fun answer => ih answer (follows.2 answer)⟩

end KarpenterIBM.EffectProgram
