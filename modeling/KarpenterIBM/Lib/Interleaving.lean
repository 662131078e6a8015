import KarpenterIBM.Lib.Protocol

/-!
# Interleaved processes over a shared world

Any number of processes run programs over one interface. A step is a call of one process, the
start of a process, the crash of a process after any of its calls, or a move of the environment.
-/

namespace KarpenterIBM.EffectProgram

open Function

structure System (S : Signature) (ε : Type) where
  World : Type
  initial : World → Prop
  /-- The programs a process may be started with. -/
  spawns : Prog S ε Unit → Prop
  /-- In this world, this process may get this answer, leaving that world. -/
  answers : World → Nat → (op : S.Op) → S.Res op → World → Prop
  /-- What the crash of a process does to the world. -/
  crash : World → Nat → World
  environment : World → World → Prop

inductive Proc (S : Signature) (ε : Type) where
  | unused
  | running (rest : Prog S ε Unit)
  | crashed

variable {S : Signature} {ε : Type}

structure Config (Y : System S ε) where
  world : Y.World
  procs : Nat → Proc S ε

variable {Y : System S ε}

inductive Config.Step : Config Y → Config Y → Prop where
  | spawn (config : Config Y) (pid : Nat) (program : Prog S ε Unit)
      (free : config.procs pid = .unused) (spawned : Y.spawns program) :
      Step config ⟨config.world, update config.procs pid (.running program)⟩
  | act (config : Config Y) (pid : Nat) (op : S.Op) (rest : S.Res op → Prog S ε Unit)
      (answer : S.Res op) (world : Y.World)
      (atCall : config.procs pid = .running (.call op rest))
      (answered : Y.answers config.world pid op answer world) :
      Step config ⟨world, update config.procs pid (.running (rest answer))⟩
  | crash (config : Config Y) (pid : Nat) (rest : Prog S ε Unit)
      (alive : config.procs pid = .running rest) :
      Step config ⟨Y.crash config.world pid, update config.procs pid .crashed⟩
  | environment (config : Config Y) (world : Y.World)
      (moved : Y.environment config.world world) :
      Step config ⟨world, config.procs⟩

def Config.Initial (config : Config Y) : Prop :=
  Y.initial config.world ∧ ∀ pid, config.procs pid = .unused

def Config.Reachable (config : Config Y) : Prop :=
  ∃ start : Config Y, start.Initial ∧ Relation.ReflTransGen Config.Step start config

/-- One process and the environment can run on, while the other processes stand still,
until `goal` holds of the rest of the program and of the world. -/
inductive Leads (Y : System S ε) (pid : Nat) (goal : Prog S ε Unit → Y.World → Prop) :
    Prog S ε Unit → Y.World → Prop where
  | reached {rest : Prog S ε Unit} {world : Y.World} (arrived : goal rest world) :
      Leads Y pid goal rest world
  | step (op : S.Op) (answer : S.Res op) {rest : S.Res op → Prog S ε Unit}
      {world middle : Y.World} (answered : Y.answers world pid op answer middle)
      (later : Leads Y pid goal (rest answer) middle) :
      Leads Y pid goal (.call op rest) world
  | outside {rest : Prog S ε Unit} {world middle : Y.World}
      (moved : Y.environment world middle) (later : Leads Y pid goal rest middle) :
      Leads Y pid goal rest world

variable {goal : Prog S ε Unit → Y.World → Prop}

theorem Leads.steps {pid : Nat} {program : Prog S ε Unit} {world : Y.World}
    (leads : Leads Y pid goal program world) (procs : Nat → Proc S ε) :
    ∃ final last, goal final last ∧ Relation.ReflTransGen Config.Step
      (⟨world, update procs pid (.running program)⟩ : Config Y)
      ⟨last, update procs pid (.running final)⟩ := by
  induction leads with
  | @reached rest world arrived => exact ⟨rest, world, arrived, .refl⟩
  | @step op answer rest world mid answered later ih =>
    obtain ⟨final, last, arrived, steps⟩ := ih
    have step := Config.Step.act
      (⟨world, update procs pid (.running (.call op rest))⟩ : Config Y) pid op rest
      answer mid (update_self ..) answered
    rw [update_idem] at step
    exact ⟨final, last, arrived, .head step steps⟩
  | @outside rest world mid moved later ih =>
    obtain ⟨final, last, arrived, steps⟩ := ih
    have step := Config.Step.environment
      (⟨world, update procs pid (.running rest)⟩ : Config Y) mid moved
    exact ⟨final, last, arrived, .head step steps⟩

theorem Leads.started {pid : Nat} {program : Prog S ε Unit} {world : Y.World}
    (leads : Leads Y pid goal program world) (spawned : Y.spawns program) (procs : Nat → Proc S ε)
    (free : procs pid = .unused) :
    ∃ final last, goal final last ∧ Relation.ReflTransGen Config.Step
      (⟨world, procs⟩ : Config Y) ⟨last, update procs pid (.running final)⟩ := by
  obtain ⟨final, last, arrived, steps⟩ := leads.steps procs
  exact ⟨final, last, arrived, .head (.spawn ⟨world, procs⟩ pid program free spawned) steps⟩

def Proc.Conforms (P : Protocol S) (start : P.Phase) : Proc S ε → P.Phase → Prop
  | .unused, phase => phase = start
  | .running rest, phase => Follows P (fun _ _ => True) phase rest
  | .crashed, _ => True

structure Certificate (Y : System S ε) (P : Protocol S) where
  start : P.Phase
  crashed : P.Phase → P.Phase
  inv : Y.World → (Nat → P.Phase) → Prop
  follows : ∀ program, Y.spawns program → Follows P (fun _ _ => True) start program
  initial : ∀ world, Y.initial world → inv world (fun _ => start)
  answers : ∀ world phases pid op answer world', inv world phases →
    P.permits (phases pid) op → Y.answers world pid op answer world' →
    inv world' (update phases pid (P.next (phases pid) op answer))
  crash : ∀ world phases pid, inv world phases →
    inv (Y.crash world pid) (update phases pid (crashed (phases pid)))
  environment : ∀ world phases world', inv world phases → Y.environment world world' →
    inv world' phases

/-- The invariant of a certificate holds of this configuration at these phases. -/
structure Certificate.Holds {P : Protocol S} (C : Certificate Y P) (config : Config Y)
    (phases : Nat → P.Phase) : Prop where
  conforms : ∀ pid, (config.procs pid).Conforms P C.start (phases pid)
  inv : C.inv config.world phases

variable {P : Protocol S}

theorem conforms_update (start : P.Phase) {procs : Nat → Proc S ε} {phases : Nat → P.Phase}
    (conforms : ∀ pid, (procs pid).Conforms P start (phases pid))
    (pid : Nat) {proc : Proc S ε} {phase : P.Phase} (moved : proc.Conforms P start phase)
    (other : Nat) :
    (update procs pid proc other).Conforms P start
      (update phases pid phase other) := by
  by_cases same : other = pid
  · subst same
    simpa using moved
  · simpa [same] using conforms other

variable (C : Certificate Y P) {config : Config Y}

theorem Certificate.holds_step {config' : Config Y} {phases : Nat → P.Phase}
    (holds : C.Holds config phases) (step : config.Step config') :
    ∃ phases', C.Holds config' phases' := by
  cases step with
  | spawn pid program free spawned =>
    refine ⟨phases, ?_, holds.inv⟩
    have atStart : phases pid = C.start := by simpa [free, Proc.Conforms] using holds.conforms pid
    have follows : (Proc.running program).Conforms P C.start (phases pid) := by
      rw [atStart]
      exact C.follows program spawned
    have started := conforms_update C.start holds.conforms pid follows
    simpa using started
  | act pid op rest answer world atCall answered =>
    have allowed : P.permits (phases pid) op ∧ ∀ answer,
        Follows P (fun _ _ => True) (P.next (phases pid) op answer) (rest answer) := by
      simpa [atCall, Proc.Conforms] using holds.conforms pid
    exact ⟨update phases pid (P.next (phases pid) op answer),
      conforms_update C.start holds.conforms pid (allowed.2 answer),
      C.answers _ _ _ _ _ _ holds.inv allowed.1 answered⟩
  | crash pid rest alive =>
    exact ⟨update phases pid (C.crashed (phases pid)),
      conforms_update C.start holds.conforms pid trivial, C.crash _ _ _ holds.inv⟩
  | environment world moved => exact ⟨phases, holds.conforms, C.environment _ _ _ holds.inv moved⟩

theorem Certificate.holds_of_reachable (reachable : config.Reachable) :
    ∃ phases, C.Holds config phases := by
  obtain ⟨start, ⟨initial, unused⟩, steps⟩ := reachable
  induction steps with
  | refl =>
    refine ⟨fun _ => C.start, fun pid => ?_, C.initial _ initial⟩
    simp [unused pid, Proc.Conforms]
  | tail _ step ih =>
    obtain ⟨phases, holds⟩ := ih
    exact C.holds_step holds step

theorem Certificate.permits_of_reachable (reachable : config.Reachable) {pid : Nat} {op : S.Op}
    {rest : S.Res op → Prog S ε Unit} (atCall : config.procs pid = .running (.call op rest)) :
    ∃ phases, C.inv config.world phases ∧ P.permits (phases pid) op := by
  obtain ⟨phases, holds⟩ := C.holds_of_reachable reachable
  refine ⟨phases, holds.inv, ?_⟩
  have follows := holds.conforms pid
  rw [atCall] at follows
  exact follows.1

end KarpenterIBM.EffectProgram
