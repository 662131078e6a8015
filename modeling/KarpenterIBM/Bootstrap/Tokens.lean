import KarpenterIBM.Errors
import KarpenterIBM.Lib.GoText
import KarpenterIBM.Lib.Machine
import Mathlib.Data.List.Nodup

/-!
# Bootstrap tokens

`FindOrCreateBootstrapToken` of `pkg/providers/common/types` and `cleanupExpiredTokens` of the
token controller, over the secrets with the label of Karpenter.  Times are in nanoseconds; an
expiration is stored in whole seconds.  A call runs at one time, and any request may fail.
-/

namespace KarpenterIBM.BootstrapTokens

open Errors List Machine

def second : Int := 1000000000

def hour : Int := 3600 * second

def day : Int := 24 * hour

/-- A time as `time.RFC3339` writes it, in whole seconds. -/
def inSeconds (time : Int) : Int := time - time % second

def tokenType : String := "bootstrap.kubernetes.io/token"

structure Secret where
  name : String
  type : String
  tokenID : String
  tokenSecret : String
  expiration : Option Int
deriving DecidableEq

def Secret.token (secret : Secret) : String := secret.tokenID ++ "." ++ secret.tokenSecret

/-- The hexadecimal digits of random bytes, cut to the length. -/
def generateRandomString (length : Nat) (bytes : List UInt8) : String :=
  String.ofList ((bytes.flatMap fun byte =>
    [GoText.lowerHex (byte.toNat / 16), GoText.lowerHex (byte.toNat % 16)]).take length)

/-- What becomes of a write: it is applied, it is not, or it is and its response is lost. -/
inductive Write where
  | applied
  | refused (error : GoError)
  | lost (error : GoError)

/-- The random bytes and the write of one creation. -/
structure Creation where
  idBytes : List UInt8
  secretBytes : List UInt8
  write : Write
  three : idBytes.length = 3

def newSecret (now ttl : Int) (creation : Creation) : Secret :=
  let tokenID := generateRandomString 6 creation.idBytes
  let tokenSecret := tokenID ++ "." ++ generateRandomString 16 creation.secretBytes
  { name := "bootstrap-token-" ++ tokenID
    type := tokenType
    tokenID
    tokenSecret := String.ofList (tokenSecret.toList.drop 7)
    expiration := if 0 < ttl then some (inSeconds (now + ttl)) else none }

/-- The secrets after the creation, and its answer.  A name that is taken is refused. -/
def generateBootstrapToken (now ttl : Int) (creation : Creation) (store : List Secret) :
    List Secret × Except GoError String :=
  let secret := newSecret now ttl creation
  let token := secret.tokenID ++ "." ++ generateRandomString 16 creation.secretBytes
  let failed := fun error => .error (.wrap "creating bootstrap token secret: " error "")
  if store.any fun other => other.name = secret.name then (store, failed (.plain "already exists"))
  else
    match creation.write with
    | .applied => (secret :: store, .ok token)
    | .refused error => (store, failed error)
    | .lost error => (secret :: store, failed error)

/-- The secret can be handed out: it expires in more than an hour. -/
def Secret.usable (now : Int) (secret : Secret) : Bool :=
  secret.type = tokenType && secret.expiration.any fun expiration => now < expiration - hour

def Secret.expired (now : Int) (secret : Secret) : Bool :=
  secret.type = tokenType && secret.expiration.any fun expiration => expiration < now

/-- An answer to a list request: the secrets in some order, or an error. -/
structure Listing where
  outcome : List Secret → Except GoError (List Secret)
  listed : ∀ store secrets, outcome store = .ok secrets → secrets.Perm store

def findOrCreateBootstrapToken (now ttl : Int) (listing : Listing) (creation : Creation)
    (store : List Secret) : List Secret × Except GoError String :=
  match listing.outcome store with
  | .error error => (store, .error (.wrap "listing bootstrap tokens: " error ""))
  | .ok secrets =>
    match secrets.find? (Secret.usable now) with
    | some secret => (store, .ok secret.token)
    | none => generateBootstrapToken now ttl creation store

/-- The loop over the listed secrets.  A deletion that fails is only logged. -/
def deleteExpired (now : Int) (deletes : String → Bool) (secrets store : List Secret) :
    List Secret :=
  secrets.foldl (fun left secret =>
    if secret.expired now && deletes secret.name then
      left.filter fun other => other.name ≠ secret.name
    else left) store

def cleanupExpiredTokens (now : Int) (listing : Listing) (deletes : String → Bool)
    (store : List Secret) : List Secret :=
  match listing.outcome store with
  | .error _ => store
  | .ok secrets => deleteExpired now deletes secrets store

/-! ## Sequences of calls -/

inductive Call where
  | findOrCreate (listing : Listing) (creation : Creation)
  | cleanup (listing : Listing) (deletes : String → Bool)

structure Event where
  now : Int
  call : Call

def step (store : List Secret) (event : Event) : List Secret :=
  match event.call with
  | .findOrCreate listing creation =>
    (findOrCreateBootstrapToken event.now day listing creation store).1
  | .cleanup listing deletes => cleanupExpiredTokens event.now listing deletes store

/-- The token that the event returns. -/
def Returns (store : List Secret) (event : Event) (token : String) : Prop :=
  ∃ listing creation, event.call = .findOrCreate listing creation ∧
    (findOrCreateBootstrapToken event.now day listing creation store).2 = .ok token

/-! ## What one call does -/

variable {events : List Event}

variable {event : Event}

section
variable {now ttl : Int} {store : List Secret} {secret : Secret} {creation : Creation}

theorem inSeconds_bounds (time : Int) : time - second < inSeconds time ∧ inSeconds time ≤ time := by
  unfold inSeconds second
  omega

theorem length_hex (bytes : List UInt8) : (bytes.flatMap fun byte =>
    [GoText.lowerHex (byte.toNat / 16), GoText.lowerHex (byte.toNat % 16)]).length =
      2 * bytes.length := by
  induction bytes with
  | nil => rfl
  | cons byte rest ih =>
    rw [flatMap_cons, length_append, ih]
    simp
    omega

/-- The prefix that is cut off is the token ID and its dot. -/
theorem newSecret_token (now ttl : Int) (creation : Creation) : (newSecret now ttl creation).token =
      (newSecret now ttl creation).tokenID ++ "." ++
        generateRandomString 16 creation.secretBytes := by
  have six : (generateRandomString 6 creation.idBytes).toList.length = 6 := by
    rw [generateRandomString, String.toList_ofList, length_take, length_hex, creation.three]
    rfl
  unfold Secret.token newSecret
  simp only [← String.toList_inj, String.toList_append, String.toList_ofList]
  rw [drop_append_of_le_length (by simp [six]), drop_eq_nil_of_le (by simp [six])]
  rfl

/-- Two lifetimes of Karpenter tokens begin almost a day apart. -/
structure Sound (now : Int) (store : List Secret) : Prop where
  typed : ∀ secret ∈ store, secret.type = tokenType
  dated : ∀ secret ∈ store, ∃ expiration, secret.expiration = some expiration ∧
    expiration ≤ now + day
  spaced : store.Pairwise fun newer older => ∀ first last, older.expiration = some first →
    newer.expiration = some last → first + 22 * hour < last
  named : (store.map Secret.name).Nodup

theorem Sound.sublist {kept : List Secret} {later : Int} (sound : Sound now store)
    (sublist : kept.Sublist store) (le : now ≤ later) : Sound later kept where
  typed secret mem := sound.typed secret (sublist.mem mem)
  dated secret mem := by
    obtain ⟨expiration, stored, bound⟩ := sound.dated secret (sublist.mem mem)
    exact ⟨expiration, stored, by omega⟩
  spaced := sound.spaced.sublist sublist
  named := sound.named.sublist (sublist.map _)

theorem deleteExpired_sublist (deletes : String → Bool) (secrets : List Secret) :
    (deleteExpired now deletes secrets store).Sublist store := by
  unfold deleteExpired
  induction secrets generalizing store with
  | nil => exact .refl _
  | cons secret rest ih =>
    rw [foldl_cons]
    split
    · exact ih.trans filter_sublist
    · exact ih

theorem mem_deleteExpired {deletes : String → Bool} {secrets : List Secret}
    (alive : ∀ other ∈ secrets, other.name = secret.name → other.expired now = false)
    (mem : secret ∈ store) : secret ∈ deleteExpired now deletes secrets store := by
  unfold deleteExpired
  induction secrets generalizing store with
  | nil => exact mem
  | cons other rest ih =>
    rw [foldl_cons]
    refine ih (fun another inside => alive another (mem_cons_of_mem _ inside)) ?_
    split
    · rename_i gone
      rw [Bool.and_eq_true] at gone
      refine mem_filter.mpr ⟨mem, ?_⟩
      rw [decide_eq_true_eq]
      intro same
      rw [alive other mem_cons_self same.symm] at gone
      cases gone.1
    · exact mem

theorem Sound.cons (sound : Sound now store) (creation : Creation)
    (free : ∀ other ∈ store, other.name ≠ (newSecret now day creation).name)
    (unusable : ∀ other ∈ store, other.usable now = false) :
    Sound now (newSecret now day creation :: store) := by
  obtain ⟨above, below⟩ := inSeconds_bounds (now + day)
  have expires : (newSecret now day creation).expiration = some (inSeconds (now + day)) := rfl
  refine ⟨?_, ?_, pairwise_cons.mpr ⟨?_, sound.spaced⟩, ?_⟩
  · exact forall_mem_cons.mpr ⟨rfl, sound.typed⟩
  · exact forall_mem_cons.mpr ⟨⟨_, expires, below⟩, sound.dated⟩
  · intro older mem first last stored new
    rw [expires, Option.some.injEq] at new
    have late := unusable older mem
    rw [Secret.usable, sound.typed older mem, stored] at late
    simp only [decide_true, Bool.true_and, Option.any_some, decide_eq_false_iff_not] at late
    unfold day hour second at *
    omega
  · refine nodup_cons.mpr ⟨?_, sound.named⟩
    intro taken
    obtain ⟨other, mem, same⟩ := mem_map.mp taken
    exact free other mem same

/-- A call leaves the secrets, deletes expired ones, or adds one when none is usable. -/
theorem step_cases (store : List Secret) (event : Event) :
    (∃ listing deletes, event.call = .cleanup listing deletes) ∧ (step store event).Sublist store ∨
      step store event = store ∨
      ∃ creation, step store event = newSecret event.now day creation :: store ∧
        (∀ other ∈ store, other.name ≠ (newSecret event.now day creation).name) ∧
        ∀ other ∈ store, other.usable event.now = false := by
  unfold step
  cases event.call with
  | cleanup listing deletes =>
    refine .inl ⟨⟨listing, deletes, rfl⟩, ?_⟩
    dsimp only
    unfold cleanupExpiredTokens
    split
    · exact .refl _
    · exact deleteExpired_sublist deletes _
  | findOrCreate listing creation =>
    refine .inr ?_
    dsimp only
    unfold findOrCreateBootstrapToken
    split
    · exact .inl rfl
    rename_i secrets listed
    split
    · exact .inl rfl
    rename_i none
    have unusable : ∀ other ∈ store, other.usable event.now = false := by
      intro other mem
      have seen := (listing.listed store secrets listed).mem_iff.mpr mem
      simpa using List.find?_eq_none.mp none other seen
    unfold generateBootstrapToken
    dsimp only
    split
    · exact .inl rfl
    rename_i free
    have apart : ∀ other ∈ store, other.name ≠ (newSecret event.now day creation).name := by
      simpa using free
    split
    · exact .inr ⟨creation, rfl, apart, unusable⟩
    · exact .inl rfl
    · exact .inr ⟨creation, rfl, apart, unusable⟩

theorem Sound.after_step (sound : Sound now store) (le : now ≤ event.now) :
    Sound event.now (step store event) := by
  rcases step_cases store event with ⟨_, fewer⟩ | same | ⟨creation, added, free, unusable⟩
  · exact sound.sublist fewer le
  · rw [same]
    exact sound.sublist (.refl _) le
  · rw [added]
    exact (sound.sublist (.refl _) le).cons creation free unusable

theorem Sound.run (sound : Sound now store)
    (ordered : events.Pairwise fun earlier later => earlier.now ≤ later.now)
    (start : ∀ event ∈ events, now ≤ event.now) {later : Int} (le : now ≤ later)
    (past : ∀ event ∈ events, event.now ≤ later) : Sound later (run step store events) := by
  induction events generalizing now store with
  | nil => exact sound.sublist (.refl _) le
  | cons event rest ih =>
    have order := pairwise_cons.mp ordered
    exact ih (sound.after_step (start event mem_cons_self)) order.2 order.1
      (past event mem_cons_self) fun other mem => past other (mem_cons_of_mem _ mem)

/-- The secret of a token that is returned. -/
def Carries (store : List Secret) (now : Int) (token : String) (secret : Secret) : Prop :=
  secret ∈ store ∧ secret.token = token ∧
    ∃ expiration, secret.expiration = some expiration ∧ now + hour < expiration

variable (sound : Sound now store)

include sound

theorem carries_of_returns {token : String} (returns : Returns store event token) :
    ∃ secret, Carries (step store event) event.now token secret := by
  obtain ⟨listing, creation, call, returned⟩ := returns
  unfold step
  rw [call]
  unfold findOrCreateBootstrapToken at returned ⊢
  dsimp only
  split at returned
  · cases returned
  rename_i secrets listed
  split at returned
  · rename_i secret found
    cases returned
    have mem := (listing.listed store secrets listed).mem_iff.mp (mem_of_find?_eq_some found)
    obtain ⟨expiration, stored, _⟩ := sound.dated secret mem
    have usable := List.find?_some found
    simp only [Secret.usable, stored, Bool.and_eq_true, Option.any_some,
      decide_eq_true_eq] at usable
    have late := usable.2
    exact ⟨secret, mem, rfl, expiration, stored, by omega⟩
  · unfold generateBootstrapToken at returned ⊢
    dsimp only at returned ⊢
    split at returned
    · cases returned
    rename_i free
    split at returned
    · cases returned
      rw [if_neg free]
      obtain ⟨above, _⟩ := inSeconds_bounds (event.now + day)
      refine ⟨_, mem_cons_self, newSecret_token _ _ _, _, rfl, ?_⟩
      unfold day hour second at *
      omega
    · cases returned
    · cases returned

theorem mem_step (mem : secret ∈ store) {expiration : Int}
    (stored : secret.expiration = some expiration) (early : event.now ≤ expiration) :
    secret ∈ step store event := by
  rcases step_cases store event with ⟨⟨listing, deletes, call⟩, _⟩ | same | ⟨_, added, _⟩
  · unfold step
    rw [call]
    dsimp only
    unfold cleanupExpiredTokens
    split
    · exact mem
    rename_i secrets listed
    refine mem_deleteExpired ?_ mem
    intro other listedToo same
    have inside := (listing.listed store secrets listed).mem_iff.mp listedToo
    obtain rfl := inj_on_of_nodup_map sound.named inside mem same
    simp [Secret.expired, stored, early]
  · rw [same]
    exact mem
  · rw [added]
    exact mem_cons_of_mem _ mem

theorem mem_run (mem : secret ∈ store)
    (ordered : events.Pairwise fun earlier later => earlier.now ≤ later.now)
    (start : ∀ event ∈ events, now ≤ event.now) {expiration : Int}
    (stored : secret.expiration = some expiration)
    (early : ∀ event ∈ events, event.now ≤ expiration) : secret ∈ run step store events := by
  induction events generalizing now store with
  | nil => exact mem
  | cons event rest ih =>
    have order := pairwise_cons.mp ordered
    exact ih (sound.after_step (start event mem_cons_self))
      (mem_step sound mem stored (early event mem_cons_self)) order.2 order.1
      fun other inside => early other (mem_cons_of_mem _ inside)

theorem Sound.few : (store.filter fun secret => !secret.expired now).length ≤ 2 := by
  have part := sound.sublist (filter_sublist (p := fun secret => !secret.expired now))
    (Int.le_refl now)
  have alive : ∀ secret ∈ store.filter fun secret => !secret.expired now,
      secret.expired now = false := fun secret mem => by simpa using (mem_filter.mp mem).2
  match unexpired : store.filter fun secret => !secret.expired now with
  | [] | [_] | [_, _] =>
    rw [unexpired]
    simp
  | newest :: mid :: oldest :: rest =>
    -- The oldest of three has expired a day after the newest was made, at the latest.
    rw [unexpired] at part alive
    obtain ⟨last, newestDated, bound⟩ := part.dated newest (by simp)
    obtain ⟨between, middleDated, _⟩ := part.dated mid (by simp)
    obtain ⟨first, oldestDated, _⟩ := part.dated oldest (by simp)
    have order := pairwise_cons.mp part.spaced
    have upper := order.1 mid (by simp) between last middleDated newestDated
    have lower := (pairwise_cons.mp order.2).1 oldest (by simp) first between oldestDated
      middleDated
    have living := alive oldest (by simp)
    rw [Secret.expired, part.typed oldest (by simp), oldestDated] at living
    simp only [decide_true, Bool.true_and, Option.any_some, decide_eq_false_iff_not] at living
    unfold day hour second at *
    omega

end

theorem sound_of_ordered (ordered : events.Pairwise fun earlier later => earlier.now ≤ later.now)
    {now : Int} (past : ∀ event ∈ events, event.now ≤ now) : Sound now (run step [] events) := by
  have empty : ∀ time, Sound time [] := fun time => by constructor <;> simp
  cases events with
  | nil => exact empty now
  | cons event rest =>
    have order := pairwise_cons.mp ordered
    exact ((empty event.now).after_step (Int.le_refl _)).run order.2 order.1
      (past event mem_cons_self) fun other mem => past other (mem_cons_of_mem _ mem)

/-- Along every sequence of calls at times that do not decrease: a returned token is that of a
secret that is there, and stays there for an hour in which it does not expire; and at no time are
more than two tokens unexpired. -/
theorem tokens_fresh_and_few (events : List Event)
    (ordered : events.Pairwise fun earlier later => earlier.now ≤ later.now) :
    (∀ before event after token, events = before ++ event :: after →
      Returns (run step [] before) event token →
      ∃ secret, Carries (run step [] (before ++ [event])) event.now token secret ∧
        ((∀ later ∈ after, later.now ≤ event.now + hour) → secret ∈ run step [] events)) ∧
    ∀ now, (∀ event ∈ events, event.now ≤ now) →
      ((run step [] events).filter fun secret => !secret.expired now).length ≤ 2 := by
  constructor
  · rintro before event after token rfl returns
    obtain ⟨first, last, across⟩ := pairwise_append.mp ordered
    have order := pairwise_cons.mp last
    have sound := sound_of_ordered first fun earlier mem => across earlier mem event (by simp)
    obtain ⟨secret, carried⟩ := carries_of_returns sound returns
    refine ⟨secret, by rw [run_append]; exact carried, fun near => ?_⟩
    obtain ⟨mem, _, expiration, stored, late⟩ := carried
    rw [run_append, run_cons]
    refine mem_run (sound.after_step (Int.le_refl _)) mem order.2 order.1 stored ?_
    intro later inside
    exact Int.le_trans (near later inside) (Int.le_of_lt late)
  · intro now past
    exact (sound_of_ordered ordered past).few

/-! ## A token that is handed out twice, renewed and cleaned up -/

def listsAll : Listing := ⟨.ok, fun _ _ same => .of_eq (Except.ok.inj same).symm⟩

def firstCreation : Creation := ⟨[1, 2, 3], [10, 11, 12, 13, 14, 15, 16, 17], .applied, rfl⟩

def renewal : Creation := ⟨[4, 5, 6], [20, 21, 22, 23, 24, 25, 26, 27], .applied, rfl⟩

def sampleEvents : List Event :=
  [⟨0, .findOrCreate listsAll firstCreation⟩,
    ⟨5 * hour, .findOrCreate listsAll renewal⟩,
    ⟨23 * hour + 1800 * second, .findOrCreate listsAll renewal⟩,
    ⟨24 * hour + 1200 * second, .cleanup listsAll fun _ => true⟩,
    ⟨24 * hour + 1800 * second, .findOrCreate listsAll firstCreation⟩]

theorem tokens_fresh_and_few_sample :
    (∃ secret, Carries (run step [] (sampleEvents.take 2)) (5 * hour) "010203.0a0b0c0d0e0f1011"
      secret) ∧
    (∃ secret, Carries (run step [] (sampleEvents.take 3)) (23 * hour + 1800 * second)
      "040506.1415161718191a1b" secret ∧ secret ∈ run step [] sampleEvents) ∧
    (run step [] sampleEvents).map Secret.token = ["040506.1415161718191a1b"] ∧
    ((run step [] sampleEvents).filter fun secret =>
      !secret.expired (24 * hour + 1800 * second)).length ≤ 2 := by
  obtain ⟨fresh, few⟩ := tokens_fresh_and_few sampleEvents
    (by simp [sampleEvents, hour, second])
  obtain ⟨reused, carried, _⟩ := fresh (sampleEvents.take 1) _ (sampleEvents.drop 2)
    "010203.0a0b0c0d0e0f1011" rfl ⟨_, _, rfl, by decide +kernel⟩
  obtain ⟨renewed, carriedToo, stays⟩ := fresh (sampleEvents.take 2) _ (sampleEvents.drop 3)
    "040506.1415161718191a1b" rfl ⟨_, _, rfl, by decide +kernel⟩
  refine ⟨⟨reused, carried⟩, ⟨renewed, carriedToo, stays ?_⟩, by decide +kernel, few _ ?_⟩
  · simp [sampleEvents, hour, second]
  · simp [sampleEvents, hour, second]

end KarpenterIBM.BootstrapTokens
