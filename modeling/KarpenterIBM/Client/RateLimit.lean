import KarpenterIBM.Errors
import KarpenterIBM.Lib.Protocol

/-!
# Retrying rate-limited requests

`DoWithRateLimitRetry` of `pkg/cloudprovider/ibm`.
-/

namespace KarpenterIBM.RateLimit

open EffectProgram Errors List Text

/-! ## Durations -/

/-- Arithmetic on `int64` wraps around. -/
def wrap64 (value : Int) : Int := value.bmod 18446744073709551616

/-- `time.Until` stops at the ends of the range. -/
def saturate64 (value : Int) : Int :=
  max (-9223372036854775808) (min value 9223372036854775807)

def second : Int := 1000000000

def initialBackoff : Int := 100000000

def maxBackoff : Int := 30 * second

def maxAttempts : Nat := 5

/-! ## The calls -/

/-- `core.DetailedResponse`: the Retry-After header is empty when it is missing. -/
structure DetailedResponse where
  statusCode : Int
  retryAfter : String

/-- What the function answers. -/
structure Answer (α : Type) where
  result : α
  response : Option DetailedResponse
  error : Option GoError

/-- The calls of a retry: the function, the clock in nanoseconds, and a timer that a
cancelled context interrupts. -/
inductive RetryCall where
  | fn
  | now
  | sleep (delay : Int)

def RetryCall.Answered (α : Type) : RetryCall → Type
  | .fn => Answer α
  | .now => Int
  | .sleep _ => Except GoError Unit

abbrev retrying (α : Type) : Signature := ⟨RetryCall, RetryCall.Answered α⟩

abbrev Retry (α β : Type) : Type := Prog (retrying α) Empty β

section

-- `parseTime` is `http.ParseTime`, `zero` the zero value of the result
variable {α : Type} (parseTime : String → Option Int) (zero : α)

/-- The Retry-After header of a 429; none for any other answer. -/
def Answer.rateLimited (answer : Answer α) : Option String :=
  match answer.response with
  | some response => if response.statusCode = 429 then some response.retryAfter else none
  | none => none

def dateDelay (backoff : Int) (header : String) : Retry α Int :=
  match parseTime header with
  | some time => do
    let now ← (.call .now .pure : Retry α Int)
    pure (if 0 < saturate64 (time - now) then saturate64 (time - now) else backoff)
  | none => pure backoff

def retryDelay (backoff : Int) (header : String) : Retry α Int :=
  if header = "" then pure backoff
  else
    match atoi header with
    | some secs =>
      if 0 < secs then pure (wrap64 (secs * second)) else dateDelay parseTime backoff header
    | none => dateDelay parseTime backoff header

def capped (delay : Int) : Int := if maxBackoff < delay then maxBackoff else delay

def nextBackoff (backoff : Int) : Int := min (wrap64 (backoff * 2)) maxBackoff

def retryLoop : Nat → Int → Retry α (α × Option GoError)
  | 0, _ => pure (zero, some (.plain "rate limited after 5 attempts"))
  | attempts + 1, backoff => do
    let answer ← (.call .fn .pure : Retry α (Answer α))
    match answer.rateLimited with
    | none => pure (answer.result, answer.error)
    | some header => do
      let delay ← retryDelay parseTime backoff header
      let fired ← (.call (.sleep (capped delay)) .pure : Retry α (Except GoError Unit))
      match fired with
      | .error error => pure (zero, some error)
      | .ok _ => retryLoop attempts (nextBackoff backoff)

def doWithRateLimitRetry : Retry α (α × Option GoError) :=
  retryLoop parseTime zero maxAttempts initialBackoff

end

/-! ## One round -/

variable {secs delay : Int}

section
variable {α : Type} {parseTime : String → Option Int} {zero : α} {attempts : Nat}
  {backoff : Int} {trace : List (retrying α).Exchange}

structure Moderate (backoff : Int) : Prop where
  positive : 0 < backoff
  bounded : backoff ≤ maxBackoff

theorem moderate_initialBackoff : Moderate initialBackoff := ⟨by decide, by decide⟩

theorem wrap64_of_small {value : Int} (low : 0 ≤ value) (high : value < 9223372036854775808) :
    wrap64 value = value := by
  unfold wrap64
  rw [Int.bmod_def]
  omega

theorem Moderate.next (moderate : Moderate backoff) : Moderate (nextBackoff backoff) := by
  obtain ⟨positive, bounded⟩ := moderate
  unfold nextBackoff
  unfold maxBackoff second at *
  rw [wrap64_of_small (by omega) (by omega)]
  exact ⟨by omega, by unfold maxBackoff second; omega⟩

theorem Moderate.capped (positive : 0 < delay) : Moderate (RateLimit.capped delay) := by
  unfold RateLimit.capped maxBackoff second
  split
  · exact ⟨by decide, by decide⟩
  · exact ⟨positive, by unfold maxBackoff second; omega⟩

/-- The header names a positive number of seconds. -/
def Names (header : String) (secs : Int) : Prop := atoi header = some secs ∧ 0 < secs

variable {header : String}

theorem retryDelay_of_names (parseTime : String → Option Int) (backoff : Int)
    (names : Names header secs) :
    (retryDelay parseTime backoff header : Retry α Int) = .pure (wrap64 (secs * second)) := by
  have ne : header ≠ "" := by
    rintro rfl
    have unread : atoi "" = none := by decide
    rw [Names, unread] at names
    cases names.1
  unfold retryDelay
  rw [if_neg ne, names.1]
  exact if_pos names.2

theorem runs_retryDelay_of_names (names : Names header secs)
    (run : Runs (retryDelay parseTime backoff header : Retry α Int) trace (.ok delay)) :
    trace = [] ∧ delay = wrap64 (secs * second) := by
  rw [retryDelay_of_names parseTime backoff names] at run
  exact ⟨run.1, Except.ok.inj run.2⟩

theorem dateDelay_uses (parseTime : String → Option Int) (moderate : Moderate backoff)
    (header : String) :
    Uses (· = RetryCall.now) (fun outcome => ∀ delay, outcome = .ok delay → 0 < delay)
      (dateDelay parseTime backoff header : Retry α Int) := by
  unfold dateDelay
  cases parseTime header with
  | none =>
    rintro delay same
    obtain rfl := Except.ok.inj same
    exact moderate.positive
  | some time =>
    refine ⟨rfl, fun now delay same => ?_⟩
    obtain rfl := Except.ok.inj same
    split
    · assumption
    · exact moderate.positive

theorem retryDelay_uses (moderate : Moderate backoff) (header : String) : Uses (· = RetryCall.now)
      (fun outcome => ∀ delay, outcome = .ok delay → 0 < delay ∨ ∃ secs, Names header secs)
      (retryDelay parseTime backoff header : Retry α Int) := by
  have dated := (dateDelay_uses (α := α) parseTime moderate header).mono (fun _ now => now)
    fun outcome positive (delay : Int) same =>
      (Or.inl (positive delay same) : 0 < delay ∨ ∃ secs, Names header secs)
  unfold retryDelay
  by_cases empty : header = ""
  · rw [if_pos empty]
    rintro delay same
    obtain rfl := Except.ok.inj same
    exact .inl moderate.positive
  rw [if_neg empty]
  cases read : atoi header with
  | none => exact dated
  | some secs =>
    dsimp only
    by_cases positive : 0 < secs
    · rw [if_pos positive]
      exact fun _ _ => .inr ⟨secs, read, positive⟩
    · rw [if_neg positive]
      exact dated

variable {outcome : Except Empty (α × Option GoError)}

theorem runs_retryLoop_succ
    (run : Runs (retryLoop parseTime zero (attempts + 1) backoff) trace outcome) :
    ∃ (answer : Answer α) (later : List (retrying α).Exchange), trace = ⟨.fn, answer⟩ :: later ∧
      (answer.rateLimited = none ∧ later = [] ∨
        ∃ header asked delay fired rest, answer.rateLimited = some header ∧
          later = asked ++ ⟨.sleep (capped delay), fired⟩ :: rest ∧
          Runs (retryDelay parseTime backoff header : Retry α Int) asked (.ok delay) ∧
          (rest = [] ∨
            Runs (retryLoop parseTime zero attempts (nextBackoff backoff)) rest outcome)) := by
  obtain ⟨answer, later, rfl, run⟩ := run
  refine ⟨answer, later, rfl, ?_⟩
  cases limited : answer.rateLimited with
  | none =>
    simp only [Prog.bind, limited] at run
    exact .inl ⟨rfl, run.1⟩
  | some header =>
    simp only [Prog.bind, limited] at run
    obtain ⟨error | delay, asked, after, rfl, waited, ended⟩ := (runs_bind_iff _ _ _ _).mp run
    · cases error
    obtain ⟨fired, rest, rfl, ran⟩ := ended
    refine .inr ⟨header, asked, delay, fired, rest, rfl, rfl, waited, ?_⟩
    cases fired with
    | error error => exact .inl ran.1
    | ok _ => exact .inr ran

/-! ## Whole runs -/

def isAttempt (exchange : (retrying α).Exchange) : Bool :=
  match exchange.1 with
  | .fn => true
  | _ => false

/-- The function is called at most five times, every sleep is positive and at most thirty
seconds, and a header that names seconds is followed by a sleep of as many, up to thirty. -/
structure DelaysExact (trace : List (retrying α).Exchange) : Prop where
  attempts : trace.countP isAttempt ≤ 5
  bounded : ∀ delay fired, ⟨.sleep delay, fired⟩ ∈ trace → 0 < delay ∧ delay ≤ 30 * second
  named : ∀ (answer : Answer α) later, ⟨.fn, answer⟩ :: later <:+ trace →
    ∀ header secs, answer.rateLimited = some header → Names header secs →
      ∃ fired rest, later = ⟨.sleep (min secs 30 * second), fired⟩ :: rest

/-- So many seconds do not wrap around below the cap. -/
def Fits (secs : Int) : Prop := secs < 30 ∨ 30 * second ≤ wrap64 (secs * second)

theorem capped_wrap64_iff (positive : 0 < secs) :
    capped (wrap64 (secs * second)) = min secs 30 * second ↔ Fits secs := by
  by_cases small : secs < 30
  · refine iff_of_true ?_ (.inl small)
    unfold capped maxBackoff second
    rw [wrap64_of_small (by omega) (by omega), if_neg (by omega)]
    omega
  have thirty : min secs 30 = 30 := by omega
  rw [thirty, Fits, capped, maxBackoff]
  split <;> omega

theorem not_fn_of_asked {asked : List (retrying α).Exchange} (moderate : Moderate backoff)
    (run : Runs (retryDelay parseTime backoff header : Retry α Int) asked (.ok delay))
    {exchange : (retrying α).Exchange} (mem : exchange ∈ asked) : exchange.1 = .now :=
  (retryDelay_uses moderate header).allowed_of_mem run mem

theorem suffix_of_not_mem {γ : Type} {item : γ} {later before after : List γ}
    (suffix : item :: later <:+ before ++ after) (absent : item ∉ before) :
    item :: later <:+ after := by
  induction before with
  | nil => exact suffix
  | cons head rest ih =>
    rcases suffix_cons_iff.mp suffix with same | inRest
    · obtain rfl := (List.cons.inj same).1
      exact absurd mem_cons_self absent
    · exact ih inRest fun mem => absent (mem_cons_of_mem _ mem)

variable (moderate : Moderate backoff)
  (run : Runs (retryLoop parseTime zero attempts backoff) trace outcome)

include moderate run

theorem countP_le_attempts : trace.countP isAttempt ≤ attempts := by
  induction attempts generalizing backoff trace with
  | zero =>
    obtain ⟨rfl, _⟩ := run
    exact le_rfl
  | succ attempts ih =>
    obtain ⟨answer, later, rfl, ⟨_, rfl⟩ | ⟨header, asked, delay, fired, rest, _, rfl, waited,
      ended⟩⟩ := runs_retryLoop_succ run
    · simp [isAttempt]
    have quiet : asked.countP isAttempt = 0 := by
      rw [countP_eq_zero]
      intro exchange mem
      simp [isAttempt, not_fn_of_asked moderate waited mem]
    have restLe : rest.countP isAttempt ≤ attempts := by
      rcases ended with rfl | ran
      · exact Nat.zero_le _
      · exact ih moderate.next ran
    rw [countP_cons_of_pos rfl, countP_append, quiet,
      countP_cons_of_neg Bool.false_ne_true]
    omega

theorem sleep_of_named {answer : Answer α} {later : List (retrying α).Exchange}
    (suffix : ⟨.fn, answer⟩ :: later <:+ trace) (limited : answer.rateLimited = some header)
    (names : Names header secs) :
    ∃ fired rest, later = ⟨.sleep (capped (wrap64 (secs * second))), fired⟩ :: rest := by
  induction attempts generalizing backoff trace with
  | zero =>
    obtain ⟨rfl, _⟩ := run
    cases suffix_nil.mp suffix
  | succ attempts ih =>
    obtain ⟨first, after, rfl, round⟩ := runs_retryLoop_succ run
    rcases suffix_cons_iff.mp suffix with same | inAfter
    · -- the answer of this round
      cases same
      rcases round with
        ⟨unlimited, _⟩ | ⟨other, asked, delay, fired, rest, isOther, rfl, waited, _⟩
      · cases unlimited.symm.trans limited
      rw [isOther] at limited
      obtain rfl := Option.some.inj limited
      obtain ⟨rfl, rfl⟩ := runs_retryDelay_of_names names waited
      exact ⟨fired, rest, rfl⟩
    · -- an answer of a later round
      rcases round with ⟨_, rfl⟩ | ⟨other, asked, delay, fired, rest, _, rfl, waited, ended⟩
      · cases suffix_nil.mp inAfter
      have inSlept := suffix_of_not_mem inAfter fun mem => by
        cases not_fn_of_asked moderate waited mem
      rcases suffix_cons_iff.mp inSlept with same | inRest
      · cases same
      rcases ended with rfl | ran
      · cases suffix_nil.mp inRest
      · exact ih moderate.next ran inRest

theorem sleep_bounded (fits : ∀ answer : Answer α, ⟨.fn, answer⟩ ∈ trace → ∀ header secs,
      answer.rateLimited = some header → Names header secs → Fits secs)
    {fired : Except GoError Unit} (mem : ⟨.sleep delay, fired⟩ ∈ trace) : Moderate delay := by
  induction attempts generalizing backoff trace with
  | zero =>
    obtain ⟨rfl, _⟩ := run
    cases mem
  | succ attempts ih =>
    obtain ⟨answer, later, rfl, ⟨_, rfl⟩ | ⟨header, asked, waits, woken, rest, limited, rfl,
      waited, ended⟩⟩ := runs_retryLoop_succ run
    · cases mem_singleton.mp mem
    simp only [mem_cons, mem_append] at mem
    rcases mem with other | inAsked | same | inRest
    · cases other
    · cases not_fn_of_asked moderate waited inAsked
    · cases same
      rcases (retryDelay_uses moderate header).ends_of_runs waited waits rfl with
        positive | ⟨secs, names⟩
      · exact .capped positive
      obtain ⟨_, rfl⟩ := runs_retryDelay_of_names names waited
      have fit := fits answer mem_cons_self header secs limited names
      have positive := names.2
      rw [(capped_wrap64_iff positive).mpr fit]
      unfold second
      exact ⟨by omega, by unfold maxBackoff second; omega⟩
    · rcases ended with rfl | ran
      · cases inRest
      · refine ih moderate.next ran (fun answer inside => fits answer ?_) inRest
        simp [inside]

end

/-- In every run the delays are exact if and only if no Retry-After header of a
rate-limited answer wraps around below the cap. -/
theorem delays_exact_iff {α : Type} (parseTime : String → Option Int) (zero : α)
    {trace : List (retrying α).Exchange} {outcome : Except Empty (α × Option GoError)}
    (run : Runs (doWithRateLimitRetry parseTime zero) trace outcome) :
    DelaysExact trace ↔ ∀ answer : Answer α, ⟨.fn, answer⟩ ∈ trace → ∀ header secs,
        answer.rateLimited = some header → Names header secs → Fits secs := by
  constructor
  · intro precise answer member header secs limited names
    obtain ⟨before, after, rfl⟩ := append_of_mem member
    have suffix : ⟨.fn, answer⟩ :: after <:+ before ++ ⟨.fn, answer⟩ :: after :=
      suffix_append _ _
    obtain ⟨_, _, slept⟩ := sleep_of_named moderate_initialBackoff run suffix limited names
    obtain ⟨_, _, wanted⟩ := precise.named answer after suffix header secs limited names
    have same := congrArg Sigma.fst (List.cons.inj (slept.symm.trans wanted)).1
    exact (capped_wrap64_iff names.2).mp (RetryCall.sleep.inj same)
  · intro fits
    refine ⟨countP_le_attempts moderate_initialBackoff run, ?_, ?_⟩
    · intro delay fired member
      obtain ⟨positive, bounded⟩ := sleep_bounded moderate_initialBackoff run fits member
      exact ⟨positive, bounded⟩
    intro answer later suffix header secs limited names
    have fit := fits answer (suffix.subset mem_cons_self) header secs limited names
    rw [← (capped_wrap64_iff names.2).mpr fit]
    exact sleep_of_named moderate_initialBackoff run suffix limited names

/-! ## A header that wraps around -/

/-- A rate-limited answer with this header. -/
def limitedBy (header : String) : Answer Unit := ⟨(), some ⟨429, header⟩, none⟩

def answered : Answer Unit := ⟨(), some ⟨200, ""⟩, none⟩

def answerOf (answer : Answer Unit) : (retrying Unit).Exchange := ⟨.fn, answer⟩

def sleepOf (delay : Int) : (retrying Unit).Exchange := ⟨.sleep delay, .ok ()⟩

theorem runs_limited {header : String} (names : Names header secs) :
    Runs (doWithRateLimitRetry (fun _ => none) ())
      [answerOf (limitedBy header), sleepOf (capped (wrap64 (secs * second))),
        answerOf answered] (.ok ((), none)) := by
  refine ⟨limitedBy header, _, rfl, ?_⟩
  change Runs (retryDelay (fun _ => none) initialBackoff header >>= _) _ _
  rw [retryDelay_of_names _ _ names]
  exact ⟨.ok (), _, rfl, answered, [], rfl, rfl, rfl⟩

theorem names_two : Names "2" 2 := ⟨by decide, by decide⟩

theorem delays_exact_iff_two :
    DelaysExact [answerOf (limitedBy "2"), sleepOf (capped (wrap64 (2 * second))),
        answerOf answered] ↔
      ∀ answer : Answer Unit, ⟨.fn, answer⟩ ∈ [answerOf (limitedBy "2"),
          sleepOf (capped (wrap64 (2 * second))), answerOf answered] → ∀ header secs,
        answer.rateLimited = some header → Names header secs → Fits secs :=
  delays_exact_iff (fun _ => none) () (runs_limited names_two)

theorem names_wrapping : Names "9223372037" 9223372037 := ⟨by decide, by decide⟩

/-- Asked to wait for some three centuries, the retry sleeps for a negative time. -/
theorem delay_wraps_around :
    ∃ trace, Runs (doWithRateLimitRetry (fun _ => none) ()) trace (.ok ((), none)) ∧
      sleepOf (-9223372036709551616) ∈ trace ∧ ¬ DelaysExact trace := by
  refine ⟨_, runs_limited names_wrapping, ?_, fun precise => ?_⟩
  · have delay : capped (wrap64 (9223372037 * second)) = -9223372036709551616 := by decide
    simp [delay]
  obtain ⟨positive, _⟩ := precise.bounded (capped (wrap64 (9223372037 * second))) (.ok ())
    (by simp [sleepOf])
  exact absurd positive (by decide)

end KarpenterIBM.RateLimit
