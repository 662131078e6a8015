import Mathlib.Data.List.Basic
import Mathlib.Order.Basic

/-!
# Objects behind a lock

The calls of an object run in steps, each under a lock and at its own time.
-/

namespace KarpenterIBM.Locked

open Function List

structure Span (T : Type) [LE T] where
  began : T
  ended : T
  ordered : began ≤ ended

structure Object (Op Answer Work σ T : Type) [LE T] where
  begin : σ → Span T → Op → σ × (Answer ⊕ Work)
  finish : σ → Span T → Work → σ × Answer
  maintain : σ → Span T → σ

structure Ideal (Op Answer ι T : Type) [LE T] where
  act : ι → Span T → Op → ι × Answer

inductive Event (τ Op T : Type) [LE T] where
  | call (thread : τ) (op : Op) (span : Span T)
  | resume (thread : τ) (span : Span T)
  | maintain (span : Span T)

structure Pending (Op Work : Type) where
  op : Op
  called : Nat
  work : Work

/-- A call that has been answered; the steps of a run are counted from zero. -/
structure Done (τ Op Answer : Type) where
  thread : τ
  op : Op
  called : Nat
  returned : Nat
  answer : Answer

structure Config (τ Op Answer Work σ T : Type) where
  state : σ
  clock : T
  steps : Nat
  pending : τ → Option (Pending Op Work)
  done : List (Done τ Op Answer)

def Config.initial {τ Op Answer Work σ T : Type} (state : σ) (clock : T) :
    Config τ Op Answer Work σ T :=
  ⟨state, clock, 0, fun _ => none, []⟩

section
variable {τ Op Answer Work σ ι T : Type} [PartialOrder T]

/-- The ideal object only sees the calls. -/
def Ideal.step (ideal : Ideal Op Answer ι T) (state : ι) : Event τ Op T → ι
  | .call _ op span => (ideal.act state span op).1
  | .resume _ _ => state
  | .maintain _ => state

def Ideal.after (ideal : Ideal Op Answer ι T) (state : ι) (events : List (Event τ Op T)) : ι :=
  events.foldl ideal.step state

/-- The ideal object gives this answer to the call at this place of the run. -/
def Ideal.Answers (ideal : Ideal Op Answer ι T) (start : ι) (events : List (Event τ Op T))
    (thread : τ) (op : Op) (place : Nat) (answer : Answer) : Prop :=
  ∃ span, events[place]? = some (.call thread op span) ∧
    (ideal.act (ideal.after start (events.take place)) span op).2 = answer

/-- The call was answered as the ideal object answers it at some point of the call. -/
def Ideal.Explains (ideal : Ideal Op Answer ι T) (start : ι) (events : List (Event τ Op T))
    (call : Done τ Op Answer) : Prop :=
  call.returned < events.length ∧ ∃ point, call.called ≤ point ∧ point ≤ call.returned ∧
    ideal.Answers start events call.thread call.op point call.answer

section
variable {ideal : Ideal Op Answer ι T} {start : ι} {events : List (Event τ Op T)}

theorem Ideal.after_append (event : Event τ Op T) :
    ideal.after start (events ++ [event]) = ideal.step (ideal.after start events) event := by
  rw [Ideal.after, foldl_append]
  rfl

theorem Ideal.Answers.lt_length {thread : τ} {op : Op} {place : Nat} {answer : Answer}
    (answers : ideal.Answers start events thread op place answer) : place < events.length := by
  obtain ⟨span, found, _⟩ := answers
  exact (List.getElem?_eq_some_iff.mp found).1

theorem Ideal.Answers.append {thread : τ} {op : Op} {place : Nat} {answer : Answer}
    (answers : ideal.Answers start events thread op place answer) (event : Event τ Op T) :
    ideal.Answers start (events ++ [event]) thread op place answer := by
  have inside := answers.lt_length
  obtain ⟨span, found, given⟩ := answers
  refine ⟨span, ?_, ?_⟩
  · rw [List.getElem?_append_left inside, found]
  · rw [take_append_of_le_length (Nat.le_of_lt inside), given]

theorem Ideal.answers_last (thread : τ) (op : Op) (span : Span T) :
    ideal.Answers start (events ++ [.call thread op span]) thread op events.length
      (ideal.act (ideal.after start events) span op).2 := by
  refine ⟨span, ?_, ?_⟩
  · simp
  · rw [take_left]

theorem Ideal.Explains.append {call : Done τ Op Answer}
    (explains : ideal.Explains start events call) (event : Event τ Op T) :
    ideal.Explains start (events ++ [event]) call := by
  obtain ⟨inside, point, called, returned, answers⟩ := explains
  refine ⟨?_, point, called, returned, answers.append event⟩
  rw [length_append, length_singleton]
  omega

end

/-! ## Runs -/

variable [DecidableEq τ]

/-- One step; no step begins before the one before it has ended, and a thread makes one call
at a time. -/
inductive Step (object : Object Op Answer Work σ T) (config : Config τ Op Answer Work σ T) :
    Event τ Op T → Config τ Op Answer Work σ T → Prop where
  | answered {thread : τ} {op : Op} {span : Span T} {state : σ} {answer : Answer}
      (later : config.clock ≤ span.began) (free : config.pending thread = none)
      (outcome : object.begin config.state span op = (state, .inl answer)) :
      Step object config (.call thread op span)
        { config with
          state := state
          clock := span.ended
          steps := config.steps + 1
          done := ⟨thread, op, config.steps, config.steps, answer⟩ :: config.done }
  | deferred {thread : τ} {op : Op} {span : Span T} {state : σ} {work : Work}
      (later : config.clock ≤ span.began) (free : config.pending thread = none)
      (outcome : object.begin config.state span op = (state, .inr work)) :
      Step object config (.call thread op span)
        { config with
          state := state
          clock := span.ended
          steps := config.steps + 1
          pending := update config.pending thread (some ⟨op, config.steps, work⟩) }
  | resumed {thread : τ} {span : Span T} {waiting : Pending Op Work}
      (later : config.clock ≤ span.began) (waits : config.pending thread = some waiting) :
      Step object config (.resume thread span)
        { config with
          state := (object.finish config.state span waiting.work).1
          clock := span.ended
          steps := config.steps + 1
          pending := update config.pending thread none
          done := ⟨thread, waiting.op, waiting.called, config.steps,
            (object.finish config.state span waiting.work).2⟩ :: config.done }
  | maintained {span : Span T} (later : config.clock ≤ span.began) :
      Step object config (.maintain span)
        { config with
          state := object.maintain config.state span
          clock := span.ended
          steps := config.steps + 1 }

/-- A run, its events in the order they happened. -/
inductive Runs (object : Object Op Answer Work σ T) (start : Config τ Op Answer Work σ T) :
    List (Event τ Op T) → Config τ Op Answer Work σ T → Prop where
  | nil : Runs object start [] start
  | snoc {events : List (Event τ Op T)} {event : Event τ Op T}
      {config next : Config τ Op Answer Work σ T} (earlier : Runs object start events config)
      (step : Step object config event next) : Runs object start (events ++ [event]) next

/-! ## What holds along a run -/

/-- One step of the object keeps pace with the ideal one.  Left work owes the answer that the
ideal object gave. -/
structure Simulation (object : Object Op Answer Work σ T) (ideal : Ideal Op Answer ι T)
    (related : T → σ → ι → Prop) (owes : T → Work → Answer → Prop) : Prop where
  later : ∀ {now next state other}, related now state other → now ≤ next →
    related next state other
  owesLater : ∀ {now next work answer}, owes now work answer → now ≤ next →
    owes next work answer
  answered : ∀ {state other op next answer} (span : Span T), related span.began state other →
    object.begin state span op = (next, .inl answer) →
      related span.ended next (ideal.act other span op).1 ∧
        (ideal.act other span op).2 = answer
  deferred : ∀ {state other op next work} (span : Span T), related span.began state other →
    object.begin state span op = (next, .inr work) →
      related span.ended next (ideal.act other span op).1 ∧
        owes span.ended work (ideal.act other span op).2
  resumed : ∀ {state other work answer} (span : Span T), related span.began state other →
    owes span.began work answer →
      related span.ended (object.finish state span work).1 other ∧
        answer = (object.finish state span work).2
  maintained : ∀ {state other} (span : Span T), related span.began state other →
    related span.ended (object.maintain state span) other

variable {object : Object Op Answer Work σ T} {ideal : Ideal Op Answer ι T}
  {related : T → σ → ι → Prop} {owes : T → Work → Answer → Prop}

/-- The two objects keep pace, every waiting call is owed the ideal answer and every other one
has got it. -/
structure Paced (ideal : Ideal Op Answer ι T) (related : T → σ → ι → Prop)
    (owes : T → Work → Answer → Prop) (start : ι) (events : List (Event τ Op T))
    (config : Config τ Op Answer Work σ T) : Prop where
  related : related config.clock config.state (ideal.after start events)
  steps : config.steps = events.length
  waiting : ∀ thread waiting, config.pending thread = some waiting →
    ∃ answer, owes config.clock waiting.work answer ∧
      ideal.Answers start events thread waiting.op waiting.called answer
  done : ∀ call ∈ config.done, ideal.Explains start events call

variable {start : ι} {events : List (Event τ Op T)} {config : Config τ Op Answer Work σ T}

omit [DecidableEq τ] in
theorem Paced.still_owed (sim : Simulation object ideal related owes)
    (paced : Paced ideal related owes start events config) {next : T}
    (passed : config.clock ≤ next) (event : Event τ Op T) {thread : τ}
    {waiting : Pending Op Work} (waits : config.pending thread = some waiting) :
    ∃ answer, owes next waiting.work answer ∧
      ideal.Answers start (events ++ [event]) thread waiting.op waiting.called answer := by
  obtain ⟨answer, owed, answers⟩ := paced.waiting thread waiting waits
  exact ⟨answer, sim.owesLater owed passed, answers.append event⟩

theorem Paced.step (sim : Simulation object ideal related owes)
    (paced : Paced ideal related owes start events config) {event : Event τ Op T}
    {next : Config τ Op Answer Work σ T} (step : Step object config event next) :
    Paced ideal related owes start (events ++ [event]) next := by
  have counted : (events ++ [event]).length = config.steps + 1 := by
    rw [length_append, length_singleton, paced.steps]
  have stillDone := fun call mem => (paced.done call mem).append event
  cases step with
  | @answered thread op span state answer later free out =>
    have begun := sim.later paced.related later
    obtain ⟨together, same⟩ := sim.answered span begun out
    constructor
    · rw [Ideal.after_append]
      exact together
    · exact counted.symm
    · intro other waiting waits
      exact paced.still_owed sim (later.trans span.ordered) _ waits
    intro call mem
    rcases mem_cons.mp mem with rfl | before
    · refine ⟨?_, config.steps, Nat.le_refl _, Nat.le_refl _, ?_⟩
      · rw [counted]
        exact Nat.lt_succ_self _
      dsimp only
      rw [paced.steps, ← same]
      exact Ideal.answers_last thread op span
    · exact stillDone call before
  | @deferred thread op span state work later free out =>
    have begun := sim.later paced.related later
    obtain ⟨together, owed⟩ := sim.deferred span begun out
    constructor
    · rw [Ideal.after_append]
      exact together
    · exact counted.symm
    · intro other waiting waits
      dsimp only at waits
      by_cases mine : other = thread
      · subst mine
        rw [update_self] at waits
        cases waits
        refine ⟨_, owed, ?_⟩
        dsimp only
        rw [paced.steps]
        exact Ideal.answers_last other op span
      · rw [update_of_ne mine] at waits
        exact paced.still_owed sim (later.trans span.ordered) _ waits
    · exact stillDone
  | @resumed thread span mine later waits =>
    have begun := sim.later paced.related later
    obtain ⟨answer, owed, answers⟩ := paced.waiting thread mine waits
    obtain ⟨together, same⟩ := sim.resumed span begun (sim.owesLater owed later)
    constructor
    · rw [Ideal.after_append]
      exact together
    · exact counted.symm
    · intro other waiting waits
      dsimp only at waits
      by_cases same : other = thread
      · subst same
        rw [update_self] at waits
        cases waits
      · rw [update_of_ne same] at waits
        exact paced.still_owed sim (later.trans span.ordered) _ waits
    · intro call mem
      rcases mem_cons.mp mem with rfl | before
      · -- the point is the first step, where the ideal object answered
        have inside := answers.lt_length
        rw [← paced.steps] at inside
        refine ⟨?_, mine.called, Nat.le_refl _, Nat.le_of_lt inside, ?_⟩
        · rw [counted]
          exact Nat.lt_succ_self _
        dsimp only
        rw [← same]
        exact answers.append _
      · exact stillDone call before
  | @maintained span later =>
    have begun := sim.later paced.related later
    constructor
    · rw [Ideal.after_append]
      exact sim.maintained span begun
    · exact counted.symm
    · intro other waiting waits
      exact paced.still_owed sim (later.trans span.ordered) _ waits
    · exact stillDone

theorem Simulation.paced (sim : Simulation object ideal related owes) {state : σ}
    {clock : T} (begins : related clock state start)
    (runs : Runs object (Config.initial state clock) events config) :
    Paced ideal related owes start events config := by
  induction runs with
  | nil => exact ⟨begins, rfl, fun _ _ no => (nomatch no), fun _ no => (nomatch no)⟩
  | snoc _ step ih => exact ih.step sim step

end

/-! ## Refinement -/

variable {Op Answer Work σ ι T : Type} [PartialOrder T]
  {object : Object Op Answer Work σ T} {ideal : Ideal Op Answer ι T}

/-- However many threads use the object and however their steps interleave: every answer is
the one of the ideal object at some point of the call, and the states agree at the end. -/
def Refines (object : Object Op Answer Work σ T) (ideal : Ideal Op Answer ι T)
    (agree : T → σ → ι → Prop) (state : σ) (start : ι) : Prop :=
  ∀ (τ : Type) [DecidableEq τ] (clock : T) (events : List (Event τ Op T))
    (config : Config τ Op Answer Work σ T),
    Runs object (Config.initial state clock) events config →
      (∀ call ∈ config.done, ideal.Explains start events call) ∧
        agree config.clock config.state (ideal.after start events)

theorem Simulation.refines {related : T → σ → ι → Prop} {owes : T → Work → Answer → Prop}
    (sim : Simulation object ideal related owes) {agree : T → σ → ι → Prop}
    (agrees : ∀ {now state other}, related now state other → agree now state other) {state : σ}
    {start : ι} (begins : ∀ clock, related clock state start) :
    Refines object ideal agree state start := by
  intro τ _ clock events config runs
  have paced := sim.paced (begins clock) runs
  exact ⟨paced.done, agrees paced.related⟩

end KarpenterIBM.Locked
