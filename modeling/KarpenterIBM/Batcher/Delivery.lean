import KarpenterIBM.Batcher.Batcher
import Mathlib.Data.List.Nodup
import Mathlib.Data.List.Flatten
import Mathlib.Data.List.Pairwise
import Mathlib.Order.WellFounded

/-!
# Every request is served exactly once

Every accepted request stands in one place: a bucket, a taken batch that is not handed out, a
worker that has not sent its result, or its own requestor channel.
-/

namespace KarpenterIBM.Batcher

open Errors Function List

variable {ι H U : Type}

/-! ## Places -/

def bucketed (requests : List (H × List ι)) : List ι :=
  (requests.map Prod.snd).flatten

namespace State

variable (state : State ι H U)

def unserved : List ι :=
  bucketed state.requests ++ (state.loop.pending.flatten ++
    state.workers.flatMap Worker.unserved)

/-- The requests that were appended. -/
def accepted : List ι :=
  state.taken.flatten ++ bucketed state.requests

def unexecuted : List (List ι) :=
  state.loop.pending ++ state.workers.filterMap Worker.unexecuted

/-- The request was in a taken batch, at a position for which the executor's answer to
that batch gives this result. -/
def Answered (request : ι) (result : Result U) : Prop :=
  ∃ batch results requestIdx, (batch, results) ∈ state.answered ∧
    batch[requestIdx]? = some request ∧ result = resultAt batch results requestIdx

end State

structure Sound (options : Options ι H) (state : State ι H U) : Prop where
  unserved_nodup : state.unserved.Nodup
  mem_unserved : ∀ request, request ∈ state.unserved ↔
    (state.call request).Outstanding ∧ state.requestor request = none
  accepted_nodup : state.accepted.Nodup
  mem_accepted : ∀ request, request ∈ state.accepted ↔ (state.call request).Accepted
  nonempty : ∀ batch ∈ state.taken ++ state.requests.map Prod.snd, batch ≠ []
  executed : state.taken.Perm (state.answered.map Prod.fst ++ state.unexecuted)
  delivering : ∀ batch results requestIdx,
    Worker.delivering batch results requestIdx ∈ state.workers →
      (batch, results) ∈ state.answered
  sent : ∀ request result, state.requestor request = some result →
    (state.call request).Outstanding ∧ state.Answered request result
  returned : ∀ request result, state.call request = .returned result →
    state.Answered request result
  rejected : ∀ request result, state.call request = .rejected result →
    ∃ error, options.requestHasher request = .error error ∧ result = hashingError error
  seen : ∀ request ∈ bucketed state.requests, state.call request = .waiting →
    state.trigger = true ∨ state.loop.collecting = true

/-! ## Lists -/

theorem flatMap_unserved_middle (before after : List (Worker ι U)) (worker : Worker ι U) :
    ((before ++ worker :: after).flatMap Worker.unserved).Perm
      (worker.unserved ++ (before ++ after).flatMap Worker.unserved) := by
  rw [flatMap_append, flatMap_cons, flatMap_append]
  exact perm_append_comm_assoc ..

theorem filterMap_unexecuted_middle (before after : List (Worker ι U)) (worker : Worker ι U) :
    ((before ++ worker :: after).filterMap Worker.unexecuted).Perm
      (worker.unexecuted.toList ++ (before ++ after).filterMap Worker.unexecuted) := by
  rw [filterMap_append, filterMap_append]
  cases worker with
  | running batch => exact perm_middle
  | delivering batch results requestIdx => exact .refl _

theorem flatten_middle (before after : List (List ι)) (batch : List ι) :
    ((before ++ batch :: after).flatten).Perm (batch ++ (before ++ after).flatten) := by
  rw [flatten_append, flatten_cons, flatten_append]
  exact perm_append_comm_assoc ..

theorem bucketed_appendRequest [DecidableEq H] (hash : H) (request : ι)
    (requests : List (H × List ι)) :
    (bucketed (appendRequest hash request requests)).Perm (request :: bucketed requests) := by
  induction requests with
  | nil => exact .refl _
  | cons head rest ih =>
    obtain ⟨key, bucket⟩ := head
    unfold appendRequest
    by_cases same : key = hash
    · rw [if_pos same]
      change (bucket ++ [request] ++ bucketed rest).Perm (request :: (bucket ++ bucketed rest))
      rw [append_assoc]
      exact perm_middle
    rw [if_neg same]
    change (bucket ++ bucketed (appendRequest hash request rest)).Perm
      (request :: (bucket ++ bucketed rest))
    exact (ih.append_left bucket).trans perm_middle

theorem nonempty_appendRequest [DecidableEq H] {hash : H} {request : ι}
    {requests : List (H × List ι)} (ne : ∀ bucket ∈ requests.map Prod.snd, bucket ≠ []) :
    ∀ bucket ∈ (appendRequest hash request requests).map Prod.snd, bucket ≠ [] := by
  induction requests with
  | nil => simp [appendRequest]
  | cons head rest ih =>
    obtain ⟨key, bucket⟩ := head
    have later := ih fun other member => ne other (mem_cons_of_mem _ member)
    unfold appendRequest
    by_cases same : key = hash
    · rw [if_pos same]
      intro other member
      rcases mem_cons.mp member with rfl | member
      · simp
      · exact ne other (mem_cons_of_mem _ member)
    · rw [if_neg same]
      intro other member
      rcases mem_cons.mp member with rfl | member
      · exact ne _ (by simp)
      · exact later other member

theorem State.Answered.mono {state next : State ι H U} {request : ι} {result : Result U}
    (answered : state.Answered request result) (grows : state.answered ⊆ next.answered) :
    next.Answered request result := by
  obtain ⟨batch, results, requestIdx, entry, position, value⟩ := answered
  exact ⟨batch, results, requestIdx, grows entry, position, value⟩

/-! ## What each step keeps -/

section
variable {options : Options ι H} {state : State ι H U}

theorem sound_initial : Sound options (State.initial : State ι H U) where
  unserved_nodup := nodup_nil
  mem_unserved request := by simp [State.unserved, State.initial, bucketed, Loop.pending,
    Call.Outstanding]
  accepted_nodup := nodup_nil
  mem_accepted request := by simp [State.accepted, State.initial, bucketed, Call.Accepted]
  nonempty batch member := by simp [State.initial] at member
  executed := .refl _
  delivering batch results requestIdx member := by simp [State.initial] at member
  sent request result impossible := by simp [State.initial] at impossible
  returned request result impossible := by simp [State.initial] at impossible
  rejected request result impossible := by simp [State.initial] at impossible
  seen request member := by simp [State.initial, bucketed] at member

theorem Sound.loops (sound : Sound options state) {loop : Loop ι} (trigger : Bool)
    (pending : loop.pending = state.loop.pending)
    (seen : ∀ request ∈ bucketed state.requests, state.call request = .waiting →
      trigger = true ∨ loop.collecting = true) :
    Sound options { state with loop := loop, trigger := trigger } := by
  have unserved : State.unserved { state with loop := loop, trigger := trigger } =
      state.unserved := by
    simp only [State.unserved, pending]
  have unexecuted : State.unexecuted { state with loop := loop, trigger := trigger } =
      state.unexecuted := by
    simp only [State.unexecuted, pending]
  exact { sound with
    unserved_nodup := unserved ▸ sound.unserved_nodup
    mem_unserved := fun request => unserved ▸ sound.mem_unserved request
    executed := unexecuted ▸ sound.executed
    seen := seen }

theorem Sound.swaps (sound : Sound options state) (atSwap : state.loop = .swapping) :
    Sound options state.swapped := by
  have unserved : state.swapped.unserved = state.unserved := by
    simp [State.unserved, State.swapped, atSwap, Loop.pending, bucketed]
  have accepted : state.swapped.accepted = state.accepted := by
    simp [State.accepted, State.swapped, bucketed]
  have executed := sound.executed
  rw [State.unexecuted, atSwap] at executed
  exact { sound with
    unserved_nodup := unserved ▸ sound.unserved_nodup
    mem_unserved := fun request => unserved ▸ sound.mem_unserved request
    accepted_nodup := accepted ▸ sound.accepted_nodup
    mem_accepted := fun request => accepted ▸ sound.mem_accepted request
    nonempty := fun batch mem => sound.nonempty batch (by simpa [State.swapped] using mem)
    executed := by
      refine ((executed.append_right _).trans ?_)
      rw [append_assoc]
      exact perm_append_comm.append_left _
    seen := fun request mem => by simp [State.swapped, bucketed] at mem }

abbrev State.dispatched (state : State ι H U) (before after : List (List ι)) (batch : List ι) :
    State ι H U :=
  { state with
    loop := .dispatching (before ++ after)
    workers := .running batch :: state.workers }

theorem Sound.dispatches (sound : Sound options state) {before after : List (List ι)}
    {batch : List ι} (atDispatch : state.loop = .dispatching (before ++ batch :: after)) :
    Sound options (state.dispatched before after batch) := by
  have unserved : state.unserved.Perm (state.dispatched before after batch).unserved := by
    unfold State.unserved
    rw [atDispatch]
    refine List.Perm.append_left _ ?_
    refine ((flatten_middle before after batch).append_right _).trans ?_
    rw [append_assoc]
    exact perm_append_comm_assoc ..
  have unexecuted : state.unexecuted.Perm (state.dispatched before after batch).unexecuted := by
    unfold State.unexecuted
    rw [atDispatch]
    refine (perm_middle.append_right _).trans ?_
    exact perm_middle.symm
  have seen := sound.seen
  rw [atDispatch] at seen
  exact { sound with
    unserved_nodup := unserved.nodup_iff.mp sound.unserved_nodup
    mem_unserved := fun request => unserved.mem_iff.symm.trans (sound.mem_unserved request)
    executed := sound.executed.trans (unexecuted.append_left _)
    delivering := fun other results requestIdx mem =>
      sound.delivering other results requestIdx (by simpa using mem)
    seen := seen }

section
variable {before after : List (Worker ι U)} {batch : List ι} {results : List (Result U)}
  {requestIdx : Nat}
  (sound : Sound options state)

include sound

theorem Sound.still_delivering {worker now : Worker ι U}
    {answered : List (List ι × List (Result U))}
    (active : state.workers = before ++ worker :: after) (grows : state.answered ⊆ answered)
    (own : ∀ batch results requestIdx, now = .delivering batch results requestIdx →
      (batch, results) ∈ answered) :
    ∀ batch results requestIdx, Worker.delivering batch results requestIdx ∈
      before ++ now :: after → (batch, results) ∈ answered := by
  intro other otherResults index member
  simp only [mem_append, mem_cons] at member
  rcases member with member | same | member
  · exact grows (sound.delivering other otherResults index (by simp [active, member]))
  · exact own other otherResults index same.symm
  · exact grows (sound.delivering other otherResults index (by simp [active, member]))

theorem Sound.executes (results : List (Result U))
    (active : state.workers = before ++ .running batch :: after) :
    Sound options { state with
      workers := before ++ .delivering batch results 0 :: after
      answered := (batch, results) :: state.answered } := by
  have unserved : State.unserved { state with
      workers := before ++ .delivering batch results 0 :: after
      answered := (batch, results) :: state.answered } = state.unserved := by
    simp [State.unserved, active, Worker.unserved]
  have grows : state.answered ⊆ (batch, results) :: state.answered :=
    fun entry member => mem_cons_of_mem _ member
  have executed := sound.executed
  rw [State.unexecuted, active] at executed
  exact { sound with
    unserved_nodup := unserved ▸ sound.unserved_nodup
    mem_unserved := fun request => unserved ▸ sound.mem_unserved request
    executed := by
      refine executed.trans ?_
      have middle := filterMap_unexecuted_middle before after (.running batch)
      have answered := filterMap_unexecuted_middle before after (.delivering batch results 0)
      refine ((middle.append_left _).append_left _).trans ?_
      refine List.Perm.trans ?_ ((answered.symm.append_left _).append_left _)
      simp only [Worker.unexecuted, Option.toList_some, Option.toList_none, map_cons,
        nil_append, cons_append]
      exact (perm_middle.append_left _).trans perm_middle
    delivering := sound.still_delivering active grows (by rintro _ _ _ ⟨⟩; exact mem_cons_self)
    sent := fun request result found =>
      (sound.sent request result found).imp_right fun answered => answered.mono grows
    returned := fun request result found => (sound.returned request result found).mono grows }

theorem Sound.finishes
    (active : state.workers = before ++ .delivering batch results requestIdx :: after)
    (done : batch.length ≤ requestIdx) :
    Sound options { state with workers := before ++ after } := by
  have unserved : State.unserved { state with workers := before ++ after } = state.unserved := by
    simp [State.unserved, active, Worker.unserved, drop_eq_nil_of_le done]
  have unexecuted : State.unexecuted { state with workers := before ++ after } =
      state.unexecuted := by
    simp [State.unexecuted, active, filterMap_cons, Worker.unexecuted]
  exact { sound with
    unserved_nodup := unserved ▸ sound.unserved_nodup
    mem_unserved := fun request => unserved ▸ sound.mem_unserved request
    executed := unexecuted ▸ sound.executed
    delivering := by
      intro other otherResults index mem
      refine sound.delivering other otherResults index ?_
      rw [active]
      simp only [mem_append, mem_cons] at mem ⊢
      tauto }

end

/-! A call that goes on changes what is known of its own request only. -/

section
variable [DecidableEq ι] {request other : ι} {call target : Call U}

theorem call_of_update (found : update state.call request call other = target)
    (differs : call ≠ target) : state.call other = target := by
  by_cases same : other = request
  · subst same
    rw [update_self] at found
    exact absurd found differs
  · rwa [update_of_ne same] at found

theorem update_iff (property : Call U → Prop)
    (kept : property call ↔ property (state.call request)) (other : ι) :
    property (update state.call request call other) ↔ property (state.call other) := by
  by_cases same : other = request
  · subst same
    rw [update_self]
    exact kept
  · rw [update_of_ne same]

section
variable (sound : Sound options state)

include sound

theorem Sound.calls (trigger : Bool) (due : call.Outstanding ↔ (state.call request).Outstanding)
    (accepts : call.Accepted ↔ (state.call request).Accepted)
    (returns : ∀ result, call ≠ .returned result)
    (rejects : ∀ result, call = .rejected result →
      ∃ error, options.requestHasher request = .error error ∧ result = hashingError error)
    (seen : ∀ other ∈ bucketed state.requests, update state.call request call other = .waiting →
        trigger = true ∨ state.loop.collecting = true) :
    Sound options
      { state with call := update state.call request call, trigger := trigger } :=
  { sound with
    mem_unserved := fun other => (sound.mem_unserved other).trans
      (and_congr_left fun _ => (update_iff _ due other).symm)
    mem_accepted := fun other => (sound.mem_accepted other).trans (update_iff _ accepts other).symm
    sent := fun other result found =>
      (sound.sent other result found).imp_left (update_iff _ due other).mpr
    returned := fun other result found =>
      sound.returned other result (call_of_update found (returns result))
    rejected := by
      intro other result found
      dsimp only at found
      by_cases same : other = request
      · subst same
        rw [update_self] at found
        exact rejects result found
      · rw [update_of_ne same] at found
        exact sound.rejected other result found
    seen := seen }

theorem Sound.rejects {error : GoError} (fresh : state.call request = .unstarted)
    (hashed : options.requestHasher request = .error error) :
    Sound options
      { state with call := update state.call request (.rejected (hashingError error)) } := by
  refine sound.calls state.trigger ?_ ?_ nofun ?_ ?_
  · rw [fresh]
    exact Iff.rfl
  · rw [fresh]
    exact Iff.rfl
  · rintro result ⟨⟩
    exact ⟨error, hashed, rfl⟩
  · exact fun other mem found => sound.seen other mem (call_of_update found nofun)

theorem Sound.sends (atTrigger : state.call request = .appended) : Sound options
      { state with call := update state.call request .waiting, trigger := true } := by
  refine sound.calls true ?_ ?_ nofun nofun fun _ _ _ => .inl rfl
  · rw [atTrigger]
    exact Iff.rfl
  · rw [atTrigger]
    exact Iff.rfl

end

abbrev State.appended [DecidableEq H] (state : State ι H U) (hash : H) (request : ι) :
    State ι H U :=
  { state with
    call := update state.call request .appended
    requests := appendRequest hash request state.requests }

theorem Sound.appends [DecidableEq H] (sound : Sound options state) (hash : H)
    (fresh : state.call request = .unstarted) : Sound options (state.appended hash request) := by
  have buckets := bucketed_appendRequest hash request state.requests
  have unserved : (state.appended hash request).unserved.Perm (request :: state.unserved) :=
    buckets.append_right _
  have accepted : (state.appended hash request).accepted.Perm (request :: state.accepted) :=
    (buckets.append_left _).trans perm_middle
  have silent : state.requestor request = none := by
    cases found : state.requestor request with
    | none => rfl
    | some result =>
      have outstanding := (sound.sent request result found).1
      rw [fresh] at outstanding
      exact outstanding.elim
  have notUnserved : request ∉ state.unserved := by
    rw [sound.mem_unserved, fresh]
    exact fun both => both.1
  have notAccepted : request ∉ state.accepted := by
    rw [sound.mem_accepted, fresh]
    exact id
  exact { sound with
    unserved_nodup := unserved.nodup_iff.mpr
      (nodup_cons.mpr ⟨notUnserved, sound.unserved_nodup⟩)
    mem_unserved := by
      intro other
      rw [unserved.mem_iff, mem_cons, sound.mem_unserved]
      by_cases same : other = request
      · subst same
        simp [Call.Outstanding, silent]
      · simp [same]
    accepted_nodup :=
      accepted.nodup_iff.mpr (nodup_cons.mpr ⟨notAccepted, sound.accepted_nodup⟩)
    mem_accepted := by
      intro other
      rw [accepted.mem_iff, mem_cons, sound.mem_accepted]
      by_cases same : other = request
      · subst same
        simp [Call.Accepted]
      · simp [same]
    nonempty := by
      intro batch member
      rcases mem_append.mp member with member | member
      · exact sound.nonempty batch (mem_append_left _ member)
      exact nonempty_appendRequest
        (fun bucket inside => sound.nonempty bucket (mem_append_right _ inside))
        batch member
    sent := by
      intro other result found
      have before := sound.sent other result found
      have apart : other ≠ request := by
        rintro rfl
        cases silent.symm.trans found
      exact ⟨by simpa [update_of_ne apart] using before.1, before.2⟩
    returned := fun other result found => sound.returned other result (call_of_update found nofun)
    rejected := fun other result found => sound.rejected other result (call_of_update found nofun)
    seen := by
      intro other member found
      have waits := call_of_update found nofun
      have apart : other ≠ request := by
        rintro rfl
        cases fresh.symm.trans waits
      exact sound.seen other ((mem_cons.mp (buckets.mem_iff.mp member)).resolve_left apart)
        waits }

abbrev State.received (state : State ι H U) (request : ι) (result : Result U) : State ι H U :=
  { state with
    call := update state.call request (.returned result)
    requestor := update state.requestor request none }

theorem Sound.receives (sound : Sound options state) {result : Result U}
    (waits : state.call request = .waiting) (sent : state.requestor request = some result) :
    Sound options (state.received request result) := by
  have served : request ∉ state.unserved := by
    rw [sound.mem_unserved, sent]
    exact fun both => nomatch both.2
  have accepts : (Call.returned result).Accepted ↔ (state.call request).Accepted := by
    rw [waits]
    exact Iff.rfl
  exact { sound with
    mem_unserved := by
      intro other
      by_cases same : other = request
      · subst same
        simp only [update_self]
        exact ⟨fun mem => absurd mem served, fun both => both.1.elim⟩
      · simp only [update_of_ne same]
        exact sound.mem_unserved other
    mem_accepted := fun other => (sound.mem_accepted other).trans (update_iff _ accepts other).symm
    sent := by
      intro other received found
      by_cases same : other = request
      · subst same
        simp at found
      · simp only [update_of_ne same] at found ⊢
        exact sound.sent other received found
    returned := by
      intro other received found
      by_cases same : other = request
      · subst same
        simp only [update_self, Call.returned.injEq] at found
        exact found ▸ (sound.sent other result sent).2
      · simp only [update_of_ne same] at found
        exact sound.returned other received found
    rejected := fun other received found =>
      sound.rejected other received (call_of_update found nofun)
    seen := fun other mem found => sound.seen other mem (call_of_update found nofun) }

abbrev State.delivered (state : State ι H U) (before after : List (Worker ι U)) (batch : List ι)
    (results : List (Result U)) (requestIdx : Nat) (request : ι) : State ι H U :=
  { state with
    workers := before ++ .delivering batch results (requestIdx + 1) :: after
    requestor := update state.requestor request
      (some (resultAt batch results requestIdx)) }

variable {before after : List (Worker ι U)} {batch : List ι} {results : List (Result U)}
  {index : Nat}

theorem Sound.delivers (sound : Sound options state)
    (active : state.workers = before ++ .delivering batch results index :: after)
    (next : batch[index]? = some request) :
    Sound options (state.delivered before after batch results index request) := by
  obtain ⟨inside, position⟩ := List.getElem?_eq_some_iff.mp next
  have shorter : batch.drop index = request :: batch.drop (index + 1) := by
    rw [drop_eq_getElem_cons inside, position]
  have entry : (batch, results) ∈ state.answered :=
    sound.delivering batch results index (by simp [active])
  have unserved : state.unserved.Perm (request ::
      (state.delivered before after batch results index request).unserved) := by
    have worker : (state.workers.flatMap Worker.unserved).Perm
        (request :: (before ++ .delivering batch results (index + 1) :: after).flatMap
          Worker.unserved) := by
      rw [active]
      refine (flatMap_unserved_middle before after _).trans ?_
      refine List.Perm.trans ?_ ((flatMap_unserved_middle before after _).symm.cons _)
      simp only [Worker.unserved, shorter, cons_append]
      exact .refl _
    exact ((worker.append_left _).append_left _).trans
      ((perm_middle.append_left _).trans perm_middle)
  have unservedNow := unserved.nodup_iff.mp sound.unserved_nodup
  rw [nodup_cons] at unservedNow
  have outstanding := ((sound.mem_unserved request).mp (unserved.mem_iff.mpr (by simp))).1
  have unexecuted : (state.delivered before after batch results index request).unexecuted =
      state.unexecuted := by
    simp [State.unexecuted, active, filterMap_cons, Worker.unexecuted]
  exact { sound with
    unserved_nodup := unservedNow.2
    mem_unserved := by
      intro other
      by_cases same : other = request
      · subst same
        simp only [update_self]
        exact ⟨fun mem => absurd mem unservedNow.1, fun both => nomatch both.2⟩
      simp only [update_of_ne same]
      rw [← sound.mem_unserved other, unserved.mem_iff, mem_cons]
      simp [same]
    executed := unexecuted ▸ sound.executed
    delivering := sound.still_delivering active (List.Subset.refl _)
      (by rintro _ _ _ ⟨⟩; exact entry)
    sent := by
      intro other received found
      by_cases same : other = request
      · subst same
        simp only [update_self, Option.some.injEq] at found
        exact ⟨outstanding, batch, results, index, entry, next, found.symm⟩
      · simp only [update_of_ne same] at found
        exact sound.sent other received found }

end

theorem Sound.step [DecidableEq ι] [DecidableEq H] {next : State ι H U}
    (sound : Sound options state) (step : Step options state next) : Sound options next := by
  rcases step with begins | proceeds
  · cases begins with
    | reject request error fresh hashed => exact sound.rejects fresh hashed
    | append request hash fresh hashed => exact sound.appends hash fresh
  cases proceeds with
  | send request atTrigger room => exact sound.sends atTrigger
  | receive request result waits sent => exact sound.receives waits sent
  | wake atSelect triggered => exact sound.loops false (by rw [atSelect]; rfl) fun _ _ _ => .inr rfl
  | collect count atIdle collects triggered =>
    exact sound.loops false (by rw [atIdle]; rfl) fun _ _ _ => .inr rfl
  | settle count atIdle =>
    exact sound.loops state.trigger (by rw [atIdle]; rfl) fun _ _ _ => .inr rfl
  | swap atSwap => exact sound.swaps atSwap
  | dispatch before after batch atDispatch starts => exact sound.dispatches atDispatch
  | turn atEnd =>
    refine sound.loops state.trigger (by rw [atEnd]; rfl) fun request mem waits => ?_
    have seen := sound.seen request mem waits
    rw [atEnd] at seen
    exact seen
  | execute before after batch results active bounded => exact sound.executes results active
  | deliver before after batch results requestIdx request active next room =>
    exact sound.delivers active next
  | finish before after batch results requestIdx active done => exact sound.finishes active done

theorem sound_of_reachable [DecidableEq ι] [DecidableEq H] (reachable : Reachable options state) :
    Sound options state := by
  induction reachable with
  | refl => exact sound_initial
  | tail _ step ih => exact ih.step step

end

/-! ## Nothing is left waiting -/

section
variable {options : Options ι H} {state : State ι H U}

theorem Call.outstanding_cases {call : Call U} (due : call.Outstanding) :
    call = .appended ∨ call = .waiting := by
  cases call with
  | appended => exact .inl rfl
  | waiting => exact .inr rfl
  | _ => exact due.elim

theorem bucketed_eq_nil {requests : List (H × List ι)}
    (ne : ∀ bucket ∈ requests.map Prod.snd, bucket ≠ [])
    (empty : ∀ request, request ∉ bucketed requests) : requests = [] := by
  cases requests with
  | nil => rfl
  | cons head rest =>
    obtain ⟨request, mem⟩ := exists_mem_of_ne_nil _ (ne head.2 (by simp))
    exact absurd (mem_flatten.mpr ⟨head.2, by simp, mem⟩) (empty request)

theorem Sound.none_left (sound : Sound options state) (atSelect : state.loop = .selecting)
    (empty : state.trigger = false) (sentAll : ∀ request, state.call request ≠ .appended) :
    state.requests = [] := by
  refine bucketed_eq_nil (fun bucket mem => sound.nonempty bucket (mem_append_right _ mem)) ?_
  intro request mem
  have outstanding := ((sound.mem_unserved request).mp (mem_append_left _ mem)).1
  rcases Call.outstanding_cases outstanding with atTrigger | waits
  · exact sentAll request atTrigger
  have seen := sound.seen request mem waits
  rw [empty, atSelect] at seen
  rcases seen with impossible | impossible <;> cases impossible

theorem Options.mayStart_zero (options : Options ι H) : options.MayStart 0 := by
  unfold Options.MayStart Options.workerLimit
  split <;> omega

variable [DecidableEq ι]

def Quiet (options : Options ι H) (state : State ι H U) : Prop :=
  ∀ next, ¬ Proceed options state next

variable (sound : Sound options state) (quiet : Quiet options state)

include sound quiet

theorem Sound.workers_nil : state.workers = [] := by
  cases workers : state.workers with
  | nil => rfl
  | cons worker rest =>
    exfalso
    cases worker with
    | running batch => exact quiet _ (.execute state [] rest batch [] workers (Nat.zero_le _))
    | delivering batch results requestIdx =>
      cases next : batch[requestIdx]? with
      | none =>
        exact quiet _ (.finish state [] rest batch results requestIdx workers
          (List.getElem?_eq_none_iff.mp next))
      | some request =>
        have mem : request ∈ state.unserved := by
          obtain ⟨inside, position⟩ := List.getElem?_eq_some_iff.mp next
          have dropped : request ∈ batch.drop requestIdx := by
            rw [drop_eq_getElem_cons inside, position]
            exact mem_cons_self
          refine mem_append_right _ (mem_append_right _ ?_)
          rw [workers]
          exact mem_flatMap.mpr ⟨_, mem_cons_self, dropped⟩
        have room := ((sound.mem_unserved request).mp mem).2
        exact quiet _ (.deliver state [] rest batch results requestIdx request workers
          next room)

theorem Sound.loop_selecting : state.loop = .selecting := by
  cases atLoop : state.loop with
  | selecting => rfl
  | idling count => exact absurd (.settle state count atLoop) (quiet _)
  | swapping => exact absurd (.swap state atLoop) (quiet _)
  | dispatching pending =>
    cases pending with
    | nil => exact absurd (.turn state atLoop) (quiet _)
    | cons batch rest =>
      have starts : options.MayStart state.workers.length := by
        rw [sound.workers_nil quiet]
        exact options.mayStart_zero
      exact absurd (.dispatch state [] rest batch atLoop starts) (quiet _)

theorem Sound.all_served (request : ι) : ¬ (state.call request).Outstanding := by
  intro due
  have atSelect := sound.loop_selecting quiet
  have empty : state.trigger = false := by
    by_contra full
    exact quiet _ (.wake state atSelect (by simpa using full))
  have sentAll : ∀ other, state.call other ≠ .appended :=
    fun other atTrigger => quiet _ (.send state other atTrigger empty)
  have waits := (Call.outstanding_cases due).resolve_left (sentAll request)
  cases found : state.requestor request with
  | some result => exact quiet _ (.receive state request result waits found)
  | none =>
    have member := (sound.mem_unserved request).mpr ⟨due, found⟩
    rw [State.unserved, sound.none_left atSelect empty sentAll, atSelect,
      sound.workers_nil quiet] at member
    simp [bucketed, Loop.pending] at member

end

/-! ## Every interleaving without new calls ends -/

section

def Worker.work : Worker ι U → Nat
  | .running batch => 5 * batch.length
  | .delivering batch _ requestIdx => 3 * (batch.length - requestIdx) + 1

def workOf : List (Worker ι U) → Nat
  | [] => 0
  | worker :: rest => worker.work + workOf rest

def Loop.work : Loop ι → Nat
  | .selecting => 0
  | .dispatching pending => 1 + 6 * pending.flatten.length
  | .swapping => 2
  | .idling _ => 3

variable (state : State ι H U)

def State.untriggered : Nat :=
  state.accepted.countP fun request => (state.call request).isAppended

def State.unread : Nat :=
  state.accepted.countP fun request => (state.requestor request).isSome

def State.work : Nat :=
  5 * state.untriggered + state.unread + (if state.trigger then 4 else 0) + state.loop.work +
    6 * (bucketed state.requests).length + workOf state.workers

theorem countP_of_one {items : List ι} {item : ι} (holds holdsNow : ι → Bool)
    (nodup : items.Nodup) (mem : item ∈ items) (before : holds item = true)
    (after : holdsNow item = false) (same : ∀ other, other ≠ item → holdsNow other = holds other) :
    items.countP holds = items.countP holdsNow + 1 := by
  obtain ⟨front, back, rfl⟩ := append_of_mem mem
  have apart : ∀ other ∈ front ++ back, other ≠ item := by
    rintro other inside rfl
    rw [nodup_middle, nodup_cons] at nodup
    exact nodup.1 inside
  have unchanged : ∀ part : List ι, (∀ other ∈ part, other ≠ item) →
      part.countP holdsNow = part.countP holds := by
    intro part free
    exact countP_congr fun other inside => by rw [same other (free other inside)]
  rw [countP_append, countP_append, countP_cons, countP_cons, before, after,
    unchanged front fun other inside => apart other (mem_append_left _ inside),
    unchanged back fun other inside => apart other (mem_append_right _ inside)]
  simp only [if_true, Bool.false_eq_true, if_false]
  omega

theorem workOf_middle (before after : List (Worker ι U)) (worker : Worker ι U) :
    workOf (before ++ worker :: after) = worker.work + workOf (before ++ after) := by
  induction before with
  | nil => rfl
  | cons first before ih =>
    rw [cons_append, cons_append, workOf, workOf, ih]
    omega

variable {options : Options ι H} {state : State ι H U}

theorem Sound.pos_of_unexecuted (sound : Sound options state) {batch : List ι}
    (mem : batch ∈ state.unexecuted) : 0 < batch.length := by
  have taken : batch ∈ state.taken := sound.executed.mem_iff.mpr (mem_append_right _ mem)
  exact length_pos_of_ne_nil (sound.nonempty batch (mem_append_left _ taken))

variable [DecidableEq ι]

section
variable (sound : Sound options state)

include sound

theorem Sound.work_sends {request : ι} (atTrigger : state.call request = .appended)
    (room : state.trigger = false) :
    State.work { state with
      call := update state.call request .waiting, trigger := true } < state.work := by
  have mem : request ∈ state.accepted := by
    rw [sound.mem_accepted, atTrigger]
    trivial
  have fewer : state.untriggered = State.untriggered { state with
      call := update state.call request .waiting, trigger := true } + 1 := by
    refine countP_of_one _ _ sound.accepted_nodup mem ?_ ?_ ?_
    · rw [atTrigger]
      rfl
    · simp [Call.isAppended]
    · intro other apart
      simp only [update_of_ne apart]
  have unread : State.unread { state with
      call := update state.call request .waiting, trigger := true } = state.unread := rfl
  unfold State.work
  rw [fewer, unread, room]
  simp only [if_true, Bool.false_eq_true, if_false]
  omega

theorem Sound.work_receives {request : ι} {result : Result U}
    (waits : state.call request = .waiting) (sent : state.requestor request = some result) :
    (state.received request result).work < state.work := by
  have mem : request ∈ state.accepted := by
    rw [sound.mem_accepted, waits]
    trivial
  have untriggered : (state.received request result).untriggered = state.untriggered := by
    refine countP_congr fun other _ => ?_
    by_cases same : other = request
    · subst same
      simp [waits, Call.isAppended]
    · simp [update_of_ne same]
  have fewer : state.unread = (state.received request result).unread + 1 := by
    refine countP_of_one _ _ sound.accepted_nodup mem ?_ ?_ ?_
    · rw [sent]
      rfl
    · simp
    · intro other apart
      simp only [update_of_ne apart]
  unfold State.work
  rw [fewer, untriggered]
  dsimp only
  omega

theorem Sound.work_delivers {before after : List (Worker ι U)} {batch : List ι}
    {results : List (Result U)} {requestIdx : Nat} {request : ι}
    (active : state.workers = before ++ .delivering batch results requestIdx :: after)
    (next : batch[requestIdx]? = some request) (room : state.requestor request = none) :
    (state.delivered before after batch results requestIdx request).work < state.work := by
  obtain ⟨inside, position⟩ := List.getElem?_eq_some_iff.mp next
  have mem : request ∈ state.accepted := by
    have entry : (batch, results) ∈ state.answered :=
      sound.delivering batch results requestIdx (by simp [active])
    have taken : batch ∈ state.taken :=
      sound.executed.mem_iff.mpr (mem_append_left _ (mem_map_of_mem entry))
    have inBatch : request ∈ batch := position ▸ getElem_mem inside
    exact mem_append_left _ (mem_flatten.mpr ⟨batch, taken, inBatch⟩)
  have more : (state.delivered before after batch results requestIdx request).unread =
      state.unread + 1 := by
    refine countP_of_one _ _ sound.accepted_nodup mem ?_ ?_ ?_
    · simp
    · rw [room]
      rfl
    · intro other apart
      simp only [update_of_ne apart]
  have untriggered : (state.delivered before after batch results requestIdx request).untriggered =
      state.untriggered := rfl
  unfold State.work
  rw [more, untriggered, active]
  dsimp only
  rw [workOf_middle, workOf_middle]
  simp only [Worker.work]
  omega

theorem Sound.work_decreases {next : State ι H U} (proceeds : Proceed options state next) :
    next.work < state.work := by
  cases proceeds with
  | send request atTrigger room => exact sound.work_sends atTrigger room
  | receive request result waits sent => exact sound.work_receives waits sent
  | wake atSelect triggered =>
    change 5 * state.untriggered + state.unread + 0 + 3 + _ + _ < _
    unfold State.work
    rw [atSelect, triggered]
    simp only [Loop.work, if_true]
    omega
  | collect count atIdle collects triggered =>
    change 5 * state.untriggered + state.unread + 0 + 3 + _ + _ < _
    unfold State.work
    rw [atIdle, triggered]
    simp only [Loop.work, if_true]
    omega
  | settle count atIdle =>
    change 5 * state.untriggered + state.unread + _ + 2 + _ + _ < _
    unfold State.work
    rw [atIdle]
    simp only [Loop.work]
    omega
  | swap atSwap =>
    have accepted : state.swapped.accepted = state.accepted := by
      simp [State.accepted, State.swapped, bucketed]
    have untriggered : state.swapped.untriggered = state.untriggered := by
      rw [State.untriggered, accepted]
      rfl
    have unread : state.swapped.unread = state.unread := by
      rw [State.unread, accepted]
      rfl
    have trigger : state.swapped.trigger = state.trigger := rfl
    unfold State.work
    rw [untriggered, unread, trigger, atSwap]
    simp only [State.swapped, Loop.work, bucketed, map_nil, flatten_nil, length_nil]
    omega
  | dispatch before after batch atDispatch starts =>
    have positive := @Sound.pos_of_unexecuted _ _ _ _ _ sound batch
      (by simp [State.unexecuted, atDispatch, Loop.pending])
    change 5 * state.untriggered + state.unread + _ + _ + _ + _ < _
    unfold State.work
    rw [atDispatch]
    simp only [Loop.work, workOf, Worker.work,
      (flatten_middle before after batch).length_eq, length_append]
    omega
  | turn atEnd =>
    change 5 * state.untriggered + state.unread + _ + 0 + _ + _ < _
    unfold State.work
    rw [atEnd]
    simp only [Loop.work]
    omega
  | execute before after batch results active bounded =>
    have positive := @Sound.pos_of_unexecuted _ _ _ _ _ sound batch
      (by simp [State.unexecuted, active, Worker.unexecuted])
    change 5 * state.untriggered + state.unread + _ + _ + _ + _ < _
    unfold State.work
    rw [active, workOf_middle, workOf_middle]
    simp only [Worker.work]
    omega
  | deliver before after batch results requestIdx request active next room =>
    exact sound.work_delivers active next room
  | finish before after batch results requestIdx active done =>
    change 5 * state.untriggered + state.unread + _ + _ + _ + _ < _
    unfold State.work
    rw [active, workOf_middle]
    simp only [Worker.work]
    omega

end

theorem no_endless_run [DecidableEq H] (run : Nat → State ι H U)
    (reachable : Reachable options (run 0)) :
    ¬ ∀ index, Proceed options (run index) (run (index + 1)) := by
  intro proceeds
  have sound : ∀ index, Sound options (run index) := by
    intro index
    induction index with
    | zero => exact sound_of_reachable reachable
    | succ index ih => exact ih.step (.inr (proceeds index))
  have bound : ∀ index, (run index).work + index ≤ (run 0).work := by
    intro index
    induction index with
    | zero => exact Nat.le_refl _
    | succ index ih =>
      have less := (sound index).work_decreases (proceeds index)
      omega
  have beyond := bound ((run 0).work + 1)
  omega

end

/-! ## The batcher loses and duplicates nothing -/

/-- What is promised of a state. -/
structure ServesOnce [DecidableEq ι] (options : Options ι H) (state : State ι H U) : Prop where
  /-- An accepted request waits in a bucket or is in one taken batch, and there once. -/
  taken_once : ∀ request, (state.call request).Accepted →
    (state.taken.flatten ++ bucketed state.requests).count request = 1
  /-- A returned call has the result of its own position in the batch it was taken in, or an
  error where the executor returned fewer results. -/
  own_result : ∀ request result, state.call request = .returned result →
    ∃ batch ∈ state.taken, ∃ results requestIdx, (batch, results) ∈ state.answered ∧
      batch[requestIdx]? = some request ∧ (results[requestIdx]? = some result ∨
        results.length ≤ requestIdx ∧ result = fewerResults requestIdx batch.length ∧
          result.err ≠ none) ∧
      ∀ other ∈ state.taken, request ∈ other → other = batch
  /-- The executor is asked about a batch once. -/
  executed_once : (state.answered.map Prod.fst).Nodup
  /-- A call that is rejected is told why. -/
  rejected_for : ∀ request result, state.call request = .rejected result →
    ∃ error, options.requestHasher request = .error error ∧ result = hashingError error
  /-- No wake-up is lost. -/
  none_waits : state.loop = .selecting → state.trigger = false →
    (∀ request, state.call request ≠ .appended) → state.requests = []
  /-- Where nothing can go on, every accepted call has returned, taken in one batch. -/
  all_return : Quiet options state → ∀ request, (state.call request).Accepted →
    (∃ result, state.call request = .returned result) ∧
      state.taken.flatten.count request = 1
  /-- Nothing can go on forever without new calls. -/
  ends : ∀ run : Nat → State ι H U, run 0 = state →
    ¬ ∀ index, Proceed options (run index) (run (index + 1))

section
variable {options : Options ι H} {state : State ι H U}

theorem Sound.batch_unique (sound : Sound options state) {request : ι} {batch other : List ι}
    (taken : batch ∈ state.taken) (mem : request ∈ batch) (takenToo : other ∈ state.taken)
    (memberToo : request ∈ other) : other = batch := by
  by_contra differ
  have apart := (nodup_flatten.mp (nodup_append.mp sound.accepted_nodup).1).2
  have symm : Std.Symm (@List.Disjoint ι) := ⟨fun _ _ separate _ right left => separate left right⟩
  exact apart.forall takenToo taken differ memberToo mem

theorem Sound.executed_nodup (sound : Sound options state) :
    (state.answered.map Prod.fst).Nodup := by
  have taken : state.taken.Nodup := by
    have flat := nodup_flatten.mp (nodup_append.mp sound.accepted_nodup).1
    refine flat.2.imp_of_mem ?_
    rintro left right inLeft inRight disjoint rfl
    obtain ⟨request, mem⟩ := exists_mem_of_ne_nil _
      (sound.nonempty left (mem_append_left _ inLeft))
    exact disjoint mem mem
  exact (nodup_append.mp (sound.executed.nodup_iff.mp taken)).1

/-- In every state that any interleaving of any calls, the run loop and its workers can
reach, each request is taken in one batch, its caller gets the one result of its own
position, and no request is left waiting. -/
theorem batcher_serves_once [DecidableEq ι] [DecidableEq H]
    (reachable : Reachable options state) : ServesOnce options state := by
  have sound := sound_of_reachable reachable
  have once : ∀ request, (state.call request).Accepted → state.accepted.count request = 1 := by
    intro request accepted
    exact count_eq_one_of_mem sound.accepted_nodup ((sound.mem_accepted request).mpr accepted)
  refine ⟨once, ?_, sound.executed_nodup, sound.rejected, sound.none_left, ?_, ?_⟩
  · intro request result returned
    obtain ⟨batch, results, requestIdx, entry, position, value⟩ :=
      sound.returned request result returned
    have taken : batch ∈ state.taken :=
      sound.executed.mem_iff.mpr (mem_append_left _ (mem_map_of_mem entry))
    refine ⟨batch, taken, results, requestIdx, entry, position, value ▸ resultAt_cases .., ?_⟩
    intro other takenToo memberToo
    exact sound.batch_unique taken (mem_of_getElem? position) takenToo memberToo
  · intro quiet request accepted
    have served := sound.all_served quiet request
    have empty : bucketed state.requests = [] := by
      refine eq_nil_iff_forall_not_mem.mpr fun other member => ?_
      exact sound.all_served quiet other
        ((sound.mem_unserved other).mp (mem_append_left _ member)).1
    refine ⟨?_, ?_⟩
    · cases call : state.call request with
      | returned result => exact ⟨result, rfl⟩
      | appended | waiting => exact absurd (by rw [call]; trivial) served
      | unstarted | rejected result => exact absurd accepted (by rw [call]; exact id)
    · have counted := once request accepted
      rwa [State.accepted, empty, append_nil] at counted
  · intro run start
    exact no_endless_run run (start ▸ reachable)

end

/-! ## Two calls in one batch -/

def sampleOptions : Options Bool Unit where
  maxItems := 0
  maxRequestWorkers := 1
  requestHasher _ := .ok ()

theorem two_calls_run : ∃ state : State Bool Unit Nat,
    Reachable sampleOptions state ∧ state.taken = [[false, true]] ∧
      state.call false = .returned ⟨some 7, none⟩ ∧
      state.call true = .returned (fewerResults 1 2) := by
  have start : Reachable sampleOptions (State.initial : State Bool Unit Nat) := .refl
  have first := start.tail (.inl (.append _ false () rfl rfl))
  have second := first.tail (.inl (.append _ true () rfl rfl))
  have sent := second.tail (.inr (.send _ false rfl rfl))
  have woken := sent.tail (.inr (.wake _ rfl rfl))
  have settled := woken.tail (.inr (.settle _ 1 rfl))
  have swapped := settled.tail (.inr (.swap _ rfl))
  have dispatched := swapped.tail (.inr (.dispatch _ [] [] [false, true] rfl (.inr (by decide))))
  have sentToo := dispatched.tail (.inr (.send _ true rfl rfl))
  have executed := sentToo.tail
    (.inr (.execute _ [] [] [false, true] [⟨some 7, none⟩] rfl (by decide)))
  have delivered := executed.tail (.inr (.deliver _ [] [] _ _ 0 false rfl rfl rfl))
  have deliveredToo := delivered.tail (.inr (.deliver _ [] [] _ _ 1 true rfl rfl rfl))
  have received := deliveredToo.tail (.inr (.receive _ false _ rfl rfl))
  have receivedToo := received.tail (.inr (.receive _ true _ rfl rfl))
  exact ⟨_, receivedToo, rfl, rfl, rfl⟩

theorem batcher_serves_once_two_calls : ∃ state : State Bool Unit Nat,
    Reachable sampleOptions state ∧ state.call false = .returned ⟨some 7, none⟩ ∧
      ServesOnce sampleOptions state := by
  obtain ⟨state, reachable, -, returned, -⟩ := two_calls_run
  exact ⟨state, reachable, returned, batcher_serves_once reachable⟩

end KarpenterIBM.Batcher
