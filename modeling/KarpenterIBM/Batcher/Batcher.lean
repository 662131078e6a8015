import KarpenterIBM.Errors
import Mathlib.Logic.Relation

/-!
# The request batcher

`pkg/batcher`.
-/

namespace KarpenterIBM.Batcher

open Errors Function

structure Result (U : Type) where
  output : Option U
  err : Option GoError
deriving DecidableEq

/-- The limits and the hash function of a batcher, the latter by the call whose input is
hashed. -/
structure Options (ι H : Type) where
  maxItems : Int
  maxRequestWorkers : Int
  requestHasher : ι → Except GoError H

section
variable {ι H U : Type}

/-- Where an `Add` call is. -/
inductive Call (U : Type) where
  | unstarted
  | rejected (result : Result U)
  /-- Between the append and the trigger. -/
  | appended
  /-- The trigger is sent; the call waits for its result. -/
  | waiting
  | returned (result : Result U)
deriving DecidableEq

/-- The request of the call was appended and the call has not returned. -/
def Call.Outstanding : Call U → Prop
  | .appended | .waiting => True
  | _ => False

/-- The request of the call was appended. -/
def Call.Accepted : Call U → Prop
  | .appended | .waiting | .returned _ => True
  | _ => False

def Call.isAppended : Call U → Bool
  | .appended => true
  | _ => false

inductive Loop (ι : Type) where
  | selecting
  /-- In `waitForIdle`, with the number of triggers taken. -/
  | idling (count : Int)
  | swapping
  /-- Handing out the taken buckets. -/
  | dispatching (pending : List (List ι))
deriving DecidableEq

def Loop.collecting : Loop ι → Bool
  | .idling _ | .swapping => true
  | _ => false

def Loop.pending : Loop ι → List (List ι)
  | .dispatching pending => pending
  | _ => []

/-- A run of `runCalls`. -/
inductive Worker (ι U : Type) where
  | running (batch : List ι)
  | delivering (batch : List ι) (results : List (Result U)) (requestIdx : Nat)
deriving DecidableEq

def Worker.unserved : Worker ι U → List ι
  | .running batch => batch
  | .delivering batch _ requestIdx => batch.drop requestIdx

def Worker.unexecuted : Worker ι U → Option (List ι)
  | .running batch => some batch
  | .delivering _ _ _ => none

structure State (ι H U : Type) where
  call : ι → Call U
  requests : List (H × List ι)
  /-- The trigger channel holds one token at most. -/
  trigger : Bool
  loop : Loop ι
  workers : List (Worker ι U)
  /-- The requestor channels, of capacity one. -/
  requestor : ι → Option (Result U)
  /-- The batches taken so far. -/
  taken : List (List ι)
  /-- The batches whose executor has answered, with the answer. -/
  answered : List (List ι × List (Result U))

def State.initial : State ι H U where
  call _ := .unstarted
  requests := []
  trigger := false
  loop := .selecting
  workers := []
  requestor _ := none
  taken := []
  answered := []

/-! ## The pieces of the steps -/

def hashingError (error : GoError) : Result U :=
  ⟨none, some (.wrap "hashing request: " error "")⟩

def fewerResults (requestIdx expected : Nat) : Result U :=
  ⟨none, some (.plain ("batch executor returned fewer results than requests: got " ++
    toString requestIdx ++ ", expected " ++ toString expected))⟩

/-- What `runCalls` sends to the request at this position. -/
def resultAt (batch : List ι) (results : List (Result U)) (requestIdx : Nat) : Result U :=
  results[requestIdx]?.getD (fewerResults requestIdx batch.length)

theorem resultAt_cases (batch : List ι) (results : List (Result U)) (requestIdx : Nat) :
    results[requestIdx]? = some (resultAt batch results requestIdx) ∨
      results.length ≤ requestIdx ∧
        resultAt batch results requestIdx = fewerResults requestIdx batch.length ∧
        (resultAt batch results requestIdx).err ≠ none := by
  rw [resultAt]
  cases found : results[requestIdx]? with
  | none => exact .inr ⟨List.getElem?_eq_none_iff.mp found, rfl, nofun⟩
  | some result => exact .inl rfl

/-- `b.requests[hash] = append(b.requests[hash], request)`. -/
def appendRequest [DecidableEq H] (hash : H) (request : ι) :
    List (H × List ι) → List (H × List ι)
  | [] => [(hash, [request])]
  | (key, bucket) :: rest =>
    if key = hash then (key, bucket ++ [request]) :: rest
    else (key, bucket) :: appendRequest hash request rest

/-- `SetLimit`: a negative limit is none. -/
def Options.workerLimit (options : Options ι H) : Int :=
  if options.maxRequestWorkers ≠ 0 then options.maxRequestWorkers else 100

/-- `requestWorkers.Go` does not block. -/
def Options.MayStart (options : Options ι H) (active : Nat) : Prop :=
  options.workerLimit < 0 ∨ (active : Int) < options.workerLimit

/-- `waitForIdle` still takes triggers. -/
def Options.Collects (options : Options ι H) (count : Int) : Prop :=
  options.maxItems = 0 ∨ count < options.maxItems

def State.swapped (state : State ι H U) : State ι H U :=
  { state with
    loop := .dispatching (state.requests.map Prod.snd)
    requests := []
    taken := state.taken ++ state.requests.map Prod.snd }

/-! ## Steps -/

variable [DecidableEq ι] [DecidableEq H]

/-- The start of an `Add` call, up to and including its append. -/
inductive Begin (options : Options ι H) : State ι H U → State ι H U → Prop where
  | reject (state : State ι H U) (request : ι) (error : GoError)
      (fresh : state.call request = .unstarted)
      (hashed : options.requestHasher request = .error error) :
      Begin options state
        { state with call := update state.call request (.rejected (hashingError error)) }
  | append (state : State ι H U) (request : ι) (hash : H)
      (fresh : state.call request = .unstarted)
      (hashed : options.requestHasher request = .ok hash) :
      Begin options state
        { state with
          call := update state.call request .appended
          requests := appendRequest hash request state.requests }

inductive Proceed (options : Options ι H) : State ι H U → State ι H U → Prop where
  | send (state : State ι H U) (request : ι) (atTrigger : state.call request = .appended)
      (room : state.trigger = false) :
      Proceed options state
        { state with call := update state.call request .waiting, trigger := true }
  | receive (state : State ι H U) (request : ι) (result : Result U)
      (waits : state.call request = .waiting)
      (sent : state.requestor request = some result) :
      Proceed options state
        { state with
          call := update state.call request (.returned result)
          requestor := update state.requestor request none }
  | wake (state : State ι H U) (atSelect : state.loop = .selecting)
      (triggered : state.trigger = true) :
      Proceed options state { state with loop := .idling 1, trigger := false }
  | collect (state : State ι H U) (count : Int) (atIdle : state.loop = .idling count)
      (collects : options.Collects count) (triggered : state.trigger = true) :
      Proceed options state { state with loop := .idling (count + 1), trigger := false }
  | settle (state : State ι H U) (count : Int) (atIdle : state.loop = .idling count) :
      Proceed options state { state with loop := .swapping }
  | swap (state : State ι H U) (atSwap : state.loop = .swapping) :
      Proceed options state state.swapped
  | dispatch (state : State ι H U) (before after : List (List ι)) (batch : List ι)
      (atDispatch : state.loop = .dispatching (before ++ batch :: after))
      (starts : options.MayStart state.workers.length) :
      Proceed options state
        { state with
          loop := .dispatching (before ++ after)
          workers := .running batch :: state.workers }
  | turn (state : State ι H U) (atEnd : state.loop = .dispatching []) :
      Proceed options state { state with loop := .selecting }
  | execute (state : State ι H U) (before after : List (Worker ι U)) (batch : List ι)
      (results : List (Result U))
      (active : state.workers = before ++ .running batch :: after)
      (bounded : results.length ≤ batch.length) :
      Proceed options state
        { state with
          workers := before ++ .delivering batch results 0 :: after
          answered := (batch, results) :: state.answered }
  | deliver (state : State ι H U) (before after : List (Worker ι U)) (batch : List ι)
      (results : List (Result U)) (requestIdx : Nat) (request : ι)
      (active : state.workers = before ++ .delivering batch results requestIdx :: after)
      (next : batch[requestIdx]? = some request)
      (room : state.requestor request = none) :
      Proceed options state
        { state with
          workers := before ++ .delivering batch results (requestIdx + 1) :: after
          requestor := update state.requestor request
            (some (resultAt batch results requestIdx)) }
  | finish (state : State ι H U) (before after : List (Worker ι U)) (batch : List ι)
      (results : List (Result U)) (requestIdx : Nat)
      (active : state.workers = before ++ .delivering batch results requestIdx :: after)
      (done : batch.length ≤ requestIdx) :
      Proceed options state { state with workers := before ++ after }

/-- One step of the whole. -/
def Step (options : Options ι H) (state next : State ι H U) : Prop :=
  Begin options state next ∨ Proceed options state next

/-- Some interleaving leads here. -/
def Reachable (options : Options ι H) (state : State ι H U) : Prop :=
  Relation.ReflTransGen (Step options) State.initial state

end

end KarpenterIBM.Batcher
