import KarpenterIBM.Errors
import KarpenterIBM.Objects

/-!
# The IKS lookups and the absence verdict

`GetWorkerPool` and `GetWorkerDetails` over the HTTP client, and `workerpool.IsNotFound` on the
error they return.
-/

namespace KarpenterIBM.IKSClient

open Text Errors Objects

/-- What one GET meets on the way. -/
inductive GetOutcome where
  | notBuilt (cause : String)
  | transport (cause : String)
  | unreadable (status : Nat) (cause : String)
  | answered (status : Nat) (body : String)
deriving DecidableEq

/-- The status the server answered with, if it answered. -/
def GetOutcome.status : GetOutcome → Option Nat
  | .notBuilt _ => none
  | .transport _ => none
  | .unreadable status _ => some status
  | .answered status _ => some status

structure ErrorBody where
  code : String
  description : String
  message : String
  type : String

/-- JSON decoding of the three kinds of body; a failure is the decoder's text. -/
structure Decoders where
  errorBody : String → Except String ErrorBody
  workerPool : String → Except String WorkerPool
  workerDetails : String → Except String IKSWorkerDetails

def iksV2BaseURL : String := "https://containers.cloud.ibm.com/global/v2"

section
variable (decoders : Decoders)

def parseIBMCloudError (status : Nat) (body endpoint : String) : GoError :=
  match decoders.errorBody body with
  | .ok parsed =>
    .cloud
      { statusCode := status, code := parsed.code, message := parsed.message
        description := parsed.description, type := parsed.type, endpoint := endpoint }
  | .error _ =>
    .cloud
      { statusCode := status, code := "", message := body, description := "", type := ""
        endpoint := endpoint }

/-- `IBMCloudHTTPClient.Get`: the body of an answer below 400. -/
def get (endpoint : String) : GetOutcome → Except GoError String
  | .notBuilt cause => .error (.wrap "creating request: " (.plain cause) "")
  | .transport cause =>
    .error (.wrap "making request: "
      (.plain ("Get \"" ++ iksV2BaseURL ++ endpoint ++ "\": " ++ cause)) "")
  | .unreadable _ cause => .error (.wrap "reading response: " (.plain cause) "")
  | .answered status body =>
    if 400 ≤ status then .error (parseIBMCloudError decoders status body endpoint)
    else .ok body

/-- `IBMCloudHTTPClient.GetJSON`. -/
def getJSON {α : Type} (decode : String → Except String α) (endpoint : String)
    (outcome : GetOutcome) : Except GoError α :=
  match get decoders endpoint outcome with
  | .error error => .error error
  | .ok body =>
    match decode body with
    | .ok value => .ok value
    | .error cause => .error (.wrap "unmarshaling JSON response: " (.plain cause) "")

/-- `IAMClient.GetToken`, with the answer of the authenticator. -/
def getToken (requested : Except GoError String) : Except GoError String :=
  requested.mapError fun error => .wrap "getting IAM token: " error ""

def workerPoolEndpoint (clusterID poolID : String) : String :=
  "/vpc/getWorkerPool?" ++ encodeQuery [("cluster", clusterID), ("workerpool", poolID)]

def workerEndpoint (clusterID workerID : String) : String :=
  "/vpc/getWorker?" ++ encodeQuery [("cluster", clusterID), ("worker", workerID)]

def getWorkerPool (initialized : Bool) (requested : Except GoError String)
    (outcome : GetOutcome) (clusterID poolID : String) : Except GoError WorkerPool :=
  if initialized = false then .error (.plain "IKS client not properly initialized")
  else
    match getToken requested with
    | .error error => .error (.wrap "getting IAM token: " error "")
    | .ok _ =>
      getJSON decoders decoders.workerPool (workerPoolEndpoint clusterID poolID) outcome

def notPermittedText (clusterID description : String) : String :=
  "cluster " ++ clusterID ++
    " is not configured for Karpenter management (IKS managed cluster): " ++ description

def getWorkerDetails (initialized : Bool) (requested : Except GoError String)
    (outcome : GetOutcome) (clusterID workerID : String) : Except GoError IKSWorkerDetails :=
  if initialized = false then .error (.plain "IKS client not properly initialized")
  else
    match getToken requested with
    | .error error => .error (.wrap "getting IAM token: " error "")
    | .ok _ =>
      match get decoders (workerEndpoint clusterID workerID) outcome with
      | .error (.cloud error) =>
        -- E3917: the cluster provider is not permitted for the operation.
        if error.code = "E3917" then
          .error (.plain (notPermittedText clusterID error.description))
        else .error (.cloud error)
      | .error error => .error error
      | .ok body =>
        match decoders.workerDetails body with
        | .ok details => .ok details
        | .error cause => .error (.wrap "parsing response: " (.plain cause) "")

end

/-- `workerpool.IsNotFound`: the status decides when the error carries one. -/
def isNotFound (error : GoError) : Bool :=
  match errorsAs pickCloudError error with
  | some found => decide (found.statusCode = 404)
  | none => Errors.isNotFound error

/-! ## The verdict on each kind of error -/

theorem isNotFound_plain_iff (text : String) :
    isNotFound (.plain text) = true ↔ ReadsAsAbsence text := by
  have parsed : isNotFound (.plain text) = (parseErrorString (.plain text)).isNotFound := rfl
  rw [parsed, parseErrorString_isNotFound_iff, GoError.text_plain]

theorem isNotFound_wrapped_plain_iff (before cause : String) :
    isNotFound (.wrap before (.plain cause) "") = true ↔ ReadsAsAbsence (before ++ cause) := by
  have parsed : isNotFound (.wrap before (.plain cause) "") =
      (parseErrorString (.wrap before (.plain cause) "")).isNotFound := rfl
  rw [parsed, parseErrorString_isNotFound_iff, GoError.text_wrap, GoError.text_plain,
    String.append_empty]

theorem isNotFound_cloud (error : IBMCloudError) :
    isNotFound (.cloud error) = decide (error.statusCode = 404) := by
  simp [isNotFound, errorsAs, GoError.chain, pickCloudError]

theorem parseErrorResponse_isNotFound_iff (error : GoError) (resp : DetailedResponse) :
    (parseErrorResponse error resp).isNotFound = true ↔ resp.statusCode = 404 := by
  by_cases missing : resp.statusCode = 404
  · simp [parseErrorResponse, IBMError.isNotFound, missing]
  have other : typeOfStatus resp.statusCode ≠ .notFound := by
    unfold typeOfStatus
    split_ifs <;> simp_all
  simp [parseErrorResponse, IBMError.isNotFound, missing, other]

def tokenErrorText (error : GoError) : String :=
  "getting IAM token: " ++ ("getting IAM token: " ++ error.text)

def TokenErrorSilent (error : GoError) : Prop :=
  match errorsAs pickCloudError error with
  | some found => found.statusCode ≠ 404
  | none =>
    match errorsAs pickIBMError error with
    | some found => found.isNotFound = false
    | none =>
      match errorsAs pickHTTPProblem error with
      | some (some response) => response.statusCode ≠ 404
      | some none => True
      | none =>
        errorsAs pickSDKProblem error ≠ none ∨ ¬ ReadsAsAbsence (tokenErrorText error)

theorem isNotFound_token_error_iff (error : GoError) :
    isNotFound (.wrap "getting IAM token: " (.wrap "getting IAM token: " error "") "") = true ↔
      ¬ TokenErrorSilent error := by
  have unwrapped : ∀ {α : Type} (pick : GoError → Option α),
      (∀ before cause after, pick (.wrap before cause after) = none) →
      errorsAs pick (.wrap "getting IAM token: " (.wrap "getting IAM token: " error "") "") =
        errorsAs pick error := by
    intro α pick skips
    rw [errorsAs_wrap pick _ _ _ (skips _ _ _), errorsAs_wrap pick _ _ _ (skips _ _ _)]
  have text : (GoError.wrap "getting IAM token: " (.wrap "getting IAM token: " error "") "").text =
      tokenErrorText error := by
    rw [GoError.text_wrap, GoError.text_wrap, String.append_empty, String.append_empty]
    rfl
  unfold isNotFound TokenErrorSilent Errors.isNotFound parseError
  rw [unwrapped pickCloudError (fun _ _ _ => rfl), unwrapped pickIBMError (fun _ _ _ => rfl),
    unwrapped pickHTTPProblem (fun _ _ _ => rfl), unwrapped pickSDKProblem (fun _ _ _ => rfl)]
  cases errorsAs pickCloudError error with
  | some found => simp
  | none =>
    cases errorsAs pickIBMError error with
    | some found => simp
    | none =>
      cases errorsAs pickHTTPProblem error with
      | some resp =>
        cases resp with
        | some resp => simp [parseErrorResponse_isNotFound_iff]
        | none => simp [IBMError.isNotFound]
      | none =>
        cases errorsAs pickSDKProblem error with
        | some found => simp [IBMError.isNotFound]
        | none => simp [parseErrorString_isNotFound_iff, text]

/-! ## Absence and the 404 behind it -/

def Answered404 (requested : Except GoError String) (outcome : GetOutcome) : Prop :=
  (∃ token, requested = .ok token) ∧ outcome.status = some 404

/-- The verdict of absence on the error of a lookup is backed by a 404. -/
def AbsenceBacked {α : Type} (requested : Except GoError String) (outcome : GetOutcome)
    (lookup : Except GoError α) : Prop :=
  ∀ error, lookup = .error error → isNotFound error = true → Answered404 requested outcome

/-- What a GET without a 404 may leave in its error text, up to the decoding of
an answer, which the two lookups word differently. -/
def ExchangeSilent (endpoint : String) (answer : Nat → String → Prop) : GetOutcome → Prop
  | .notBuilt cause => ¬ ReadsAsAbsence ("creating request: " ++ cause)
  | .transport cause =>
    ¬ ReadsAsAbsence
      ("making request: " ++ ("Get \"" ++ iksV2BaseURL ++ endpoint ++ "\": " ++ cause))
  | .unreadable status cause => status = 404 ∨ ¬ ReadsAsAbsence ("reading response: " ++ cause)
  | .answered status body => status = 404 ∨ answer status body

/-- An answer to a pool lookup: an error status carries its own verdict, and a
body that cannot be decoded must not read as absence. -/
def PoolAnswerSilent (decoders : Decoders) (status : Nat) (body : String) : Prop :=
  status < 400 → ∀ cause, decoders.workerPool body = .error cause →
    ¬ ReadsAsAbsence ("unmarshaling JSON response: " ++ cause)

/-- An answer to a worker lookup: in addition the text made for E3917, which
quotes the cluster and the description, must not read as absence. -/
def WorkerAnswerSilent (decoders : Decoders) (clusterID : String) (status : Nat)
    (body : String) : Prop :=
  (400 ≤ status → ∀ parsed, decoders.errorBody body = .ok parsed → parsed.code = "E3917" →
    ¬ ReadsAsAbsence (notPermittedText clusterID parsed.description)) ∧
  (status < 400 → ∀ cause, decoders.workerDetails body = .error cause →
    ¬ ReadsAsAbsence ("parsing response: " ++ cause))

def LookupSilent (endpoint : String) (answer : Nat → String → Prop)
    (requested : Except GoError String) (outcome : GetOutcome) : Prop :=
  match requested with
  | .error error => TokenErrorSilent error
  | .ok _ => ExchangeSilent endpoint answer outcome

theorem absenceBacked_ok {α : Type} (requested : Except GoError String) (out : GetOutcome)
    (value : α) : AbsenceBacked requested out (.ok value) := by
  rintro error ⟨⟩

theorem absenceBacked_error_iff {α : Type} (requested : Except GoError String)
    (out : GetOutcome) (error : GoError) :
    AbsenceBacked requested out (.error error : Except GoError α) ↔
      (isNotFound error = true → Answered404 requested out) := by
  constructor
  · intro backed
    exact backed error rfl
  rintro backed other ⟨⟩
  exact backed

theorem answered404_ok_iff (token : String) (out : GetOutcome) :
    Answered404 (.ok token) out ↔ out.status = some 404 := by
  simp [Answered404]

theorem not_answered404_of_error (error : GoError) (outcome : GetOutcome) :
    ¬ Answered404 (.error error) outcome := by
  rintro ⟨⟨token, ⟨⟩⟩, _⟩

theorem absenceBacked_uninitialized {α : Type} (requested : Except GoError String)
    (out : GetOutcome) :
    AbsenceBacked requested out
      (.error (.plain "IKS client not properly initialized") : Except GoError α) := by
  rw [absenceBacked_error_iff, isNotFound_plain_iff]
  intro absent
  exact absurd absent (by decide)

theorem absenceBacked_token_error_iff {α : Type} (error : GoError) (out : GetOutcome) :
    AbsenceBacked (.error error) out
        (.error (.wrap "getting IAM token: " (.wrap "getting IAM token: " error "") "") :
          Except GoError α) ↔
      TokenErrorSilent error := by
  rw [absenceBacked_error_iff, isNotFound_token_error_iff]
  constructor
  · intro backed
    by_contra loud
    exact not_answered404_of_error error out (backed loud)
  · intro silent loud
    exact absurd silent loud

theorem absenceBacked_text_iff {α : Type} (token : String) (out : GetOutcome)
    (before cause : String) :
    AbsenceBacked (.ok token) out (.error (.wrap before (.plain cause) "") : Except GoError α) ↔
      (out.status = some 404 ∨ ¬ ReadsAsAbsence (before ++ cause)) := by
  rw [absenceBacked_error_iff, isNotFound_wrapped_plain_iff, answered404_ok_iff]
  constructor
  · intro backed
    by_cases absent : ReadsAsAbsence (before ++ cause)
    · exact .inl (backed absent)
    · exact .inr absent
  rintro (answered | silent) absent
  · exact answered
  · exact absurd absent silent

theorem absenceBacked_cloud {α : Type} (token : String) (status : Nat) (body : String)
    (error : IBMCloudError) (carries : error.statusCode = status) :
    AbsenceBacked (.ok token) (.answered status body)
      (.error (.cloud error) : Except GoError α) := by
  rw [absenceBacked_error_iff, isNotFound_cloud, answered404_ok_iff]
  intro verdict
  have missing : error.statusCode = 404 := by simpa using verdict
  rw [carries] at missing
  simp [GetOutcome.status, missing]

theorem parseIBMCloudError_cloud (decoders : Decoders) (status : Nat) (body endpoint : String) :
    ∃ error, parseIBMCloudError decoders status body endpoint = .cloud error ∧
      error.statusCode = status ∧
      (∀ parsed, decoders.errorBody body = .ok parsed →
        error.code = parsed.code ∧ error.description = parsed.description) ∧
      (∀ cause, decoders.errorBody body = .error cause → error.code = "") := by
  unfold parseIBMCloudError
  cases decoded : decoders.errorBody body with
  | ok parsed =>
    refine ⟨_, rfl, rfl, ?_, ?_⟩
    · rintro other ⟨⟩
      exact ⟨rfl, rfl⟩
    · nofun
  | error cause =>
    refine ⟨_, rfl, rfl, ?_, ?_⟩
    · nofun
    · intro other _
      rfl

def GetOutcome.Unanswered : GetOutcome → Prop
  | .answered _ _ => False
  | _ => True

section
variable (decoders : Decoders)

include decoders

/-- A lookup that passes the failure of an unanswered request on is backed exactly when its
text does not read as absence. -/
theorem unanswered_backed_iff {α : Type} {token endpoint : String} {answer : Nat → String → Prop}
    {outcome : GetOutcome} {lookup : Except GoError α} (unanswered : outcome.Unanswered)
    (passed : ∀ before cause, get decoders endpoint outcome =
      .error (.wrap before (.plain cause) "") → lookup = .error (.wrap before (.plain cause) "")) :
    AbsenceBacked (.ok token) outcome lookup ↔ ExchangeSilent endpoint answer outcome := by
  cases outcome with
  | notBuilt cause | transport cause | unreadable status cause =>
    rw [passed _ _ rfl, absenceBacked_text_iff]
    simp [GetOutcome.status, ExchangeSilent]
  | answered status body => exact unanswered.elim

theorem getWorkerPool_backed_iff (token : String) (outcome : GetOutcome)
    (cluster poolID : String) :
    AbsenceBacked (.ok token) outcome
        (getWorkerPool decoders true (.ok token) outcome cluster poolID) ↔
      ExchangeSilent (workerPoolEndpoint cluster poolID) (PoolAnswerSilent decoders) outcome := by
  cases outcome with
  | notBuilt cause | transport cause | unreadable status cause =>
    refine unanswered_backed_iff decoders trivial fun before cause failed => ?_
    simp [getWorkerPool, getToken, Except.mapError, getJSON, failed]
  | answered status body =>
    by_cases refused : 400 ≤ status
    · obtain ⟨error, parsed, carries, _, _⟩ := parseIBMCloudError_cloud decoders status body
        (workerPoolEndpoint cluster poolID)
      have lookup : getWorkerPool decoders true (.ok token) (.answered status body) cluster
          poolID = .error (.cloud error) := by
        simp [getWorkerPool, getToken, Except.mapError, getJSON, get, refused, parsed]
      rw [lookup]
      have backed := absenceBacked_cloud (α := WorkerPool) token status body error carries
      have silent : PoolAnswerSilent decoders status body := by
        intro below
        omega
      exact iff_of_true backed (.inr silent)
    · cases decoded : decoders.workerPool body with
      | ok pool =>
        have lookup : getWorkerPool decoders true (.ok token) (.answered status body)
            cluster poolID = .ok pool := by
          simp [getWorkerPool, getToken, Except.mapError, getJSON, get, refused, decoded]
        rw [lookup]
        have silent : PoolAnswerSilent decoders status body := by
          intro _ cause no
          cases decoded.symm.trans no
        exact iff_of_true (absenceBacked_ok _ _ pool) (.inr silent)
      | error cause =>
        have lookup : getWorkerPool decoders true (.ok token) (.answered status body)
            cluster poolID = .error (.wrap "unmarshaling JSON response: " (.plain cause) "") := by
          simp [getWorkerPool, getToken, Except.mapError, getJSON, get, refused, decoded]
        rw [lookup, absenceBacked_text_iff]
        have below : status < 400 := by omega
        simp [ExchangeSilent, GetOutcome.status, PoolAnswerSilent, decoded, below]

theorem getWorkerDetails_refused_iff (token : String) (status : Nat)
    (body cluster workerID : String) (refused : 400 ≤ status) :
    AbsenceBacked (.ok token) (.answered status body)
        (getWorkerDetails decoders true (.ok token) (.answered status body) cluster workerID) ↔
      (status = 404 ∨ WorkerAnswerSilent decoders cluster status body) := by
  obtain ⟨error, parsed, carries, known, unknown⟩ := parseIBMCloudError_cloud decoders status body
    (workerEndpoint cluster workerID)
  have notBelow : ¬ status < 400 := by omega
  by_cases special : error.code = "E3917"
  · have lookup : getWorkerDetails decoders true (.ok token) (.answered status body) cluster
        workerID = .error (.plain (notPermittedText cluster error.description)) := by
      simp [getWorkerDetails, getToken, Except.mapError, get, refused, parsed, special]
    rw [lookup, absenceBacked_error_iff, isNotFound_plain_iff, answered404_ok_iff]
    cases decoded : decoders.errorBody body with
    | error cause =>
      rw [unknown cause decoded] at special
      exact absurd special (by decide)
    | ok inner =>
      obtain ⟨sameCode, sameDescription⟩ := known inner decoded
      rw [sameCode] at special
      simp only [GetOutcome.status, Option.some.injEq, WorkerAnswerSilent, decoded, refused,
        notBelow, sameDescription, false_implies, and_true, true_implies]
      constructor
      · intro backed
        by_cases absent : ReadsAsAbsence (notPermittedText cluster inner.description)
        · exact .inl (backed absent)
        refine .inr ?_
        rintro other ⟨⟩ _
        exact absent
      · rintro (answered | silent) absent
        · exact answered
        · exact absurd absent (silent inner rfl special)
  · have lookup : getWorkerDetails decoders true (.ok token) (.answered status body) cluster
        workerID = .error (.cloud error) := by
      simp [getWorkerDetails, getToken, Except.mapError, get, refused, parsed, special]
    rw [lookup]
    have silent : WorkerAnswerSilent decoders cluster status body := by
      refine ⟨?_, fun below => absurd below notBelow⟩
      intro _ inner decoded code
      exact absurd ((known inner decoded).1.trans code) special
    exact iff_of_true (absenceBacked_cloud token status body error carries) (.inr silent)

theorem getWorkerDetails_backed_iff (token : String) (outcome : GetOutcome)
    (cluster workerID : String) :
    AbsenceBacked (.ok token) outcome
        (getWorkerDetails decoders true (.ok token) outcome cluster workerID) ↔
      ExchangeSilent (workerEndpoint cluster workerID)
        (WorkerAnswerSilent decoders cluster) outcome := by
  cases outcome with
  | notBuilt cause | transport cause | unreadable status cause =>
    refine unanswered_backed_iff decoders trivial fun before cause failed => ?_
    simp [getWorkerDetails, getToken, Except.mapError, failed]
  | answered status body =>
    by_cases refused : 400 ≤ status
    · exact getWorkerDetails_refused_iff decoders token status body cluster workerID refused
    have below : status < 400 := by omega
    cases decoded : decoders.workerDetails body with
    | ok details =>
      have lookup : getWorkerDetails decoders true (.ok token) (.answered status body)
          cluster workerID = .ok details := by
        simp [getWorkerDetails, getToken, Except.mapError, get, refused, decoded]
      rw [lookup]
      have silent : WorkerAnswerSilent decoders cluster status body := by
        refine ⟨fun above => absurd above refused, ?_⟩
        intro _ cause no
        cases decoded.symm.trans no
      exact iff_of_true (absenceBacked_ok _ _ details) (.inr silent)
    | error cause =>
      have lookup : getWorkerDetails decoders true (.ok token) (.answered status body)
          cluster workerID = .error (.wrap "parsing response: " (.plain cause) "") := by
        simp [getWorkerDetails, getToken, Except.mapError, get, refused, decoded]
      rw [lookup, absenceBacked_text_iff]
      simp [ExchangeSilent, GetOutcome.status, WorkerAnswerSilent, decoded, below]

end

/-- For every outcome of the token request and of the GET, the verdict of absence on
the error of either lookup is backed by a 404 exactly when no text that stands in
for an answer reads as absence. -/
theorem absence_backed_by_404_iff (decoders : Decoders) (initialized : Bool)
    (requested : Except GoError String) (outcome : GetOutcome)
    (clusterID poolID workerID : String) :
    (AbsenceBacked requested outcome
        (getWorkerPool decoders initialized requested outcome clusterID poolID) ↔
      initialized = false ∨ LookupSilent (workerPoolEndpoint clusterID poolID)
        (PoolAnswerSilent decoders) requested outcome) ∧
    (AbsenceBacked requested outcome
        (getWorkerDetails decoders initialized requested outcome clusterID workerID) ↔
      initialized = false ∨ LookupSilent (workerEndpoint clusterID workerID)
        (WorkerAnswerSilent decoders clusterID) requested outcome) := by
  cases initialized with
  | false =>
    have pool := absenceBacked_uninitialized (α := WorkerPool) requested outcome
    have worker := absenceBacked_uninitialized (α := IKSWorkerDetails) requested outcome
    exact ⟨iff_of_true pool (.inl rfl), iff_of_true worker (.inl rfl)⟩
  | true =>
    cases requested with
    | error error =>
      have pool := absenceBacked_token_error_iff (α := WorkerPool) error outcome
      have worker := absenceBacked_token_error_iff (α := IKSWorkerDetails) error outcome
      constructor
      · simpa [getWorkerPool, getToken, Except.mapError, LookupSilent] using pool
      · simpa [getWorkerDetails, getToken, Except.mapError, LookupSilent] using worker
    | ok token =>
      constructor
      · simpa [LookupSilent] using getWorkerPool_backed_iff decoders token outcome clusterID poolID
      · simpa [LookupSilent] using
          getWorkerDetails_backed_iff decoders token outcome clusterID workerID

theorem transport_readsAsAbsence (endpoint cause : String)
    (quoted : containsText (lowerText endpoint) "404" = true) :
    ReadsAsAbsence
      ("making request: " ++ ("Get \"" ++ iksV2BaseURL ++ endpoint ++ "\": " ++ cause)) := by
  refine .inl ?_
  simp only [lowerText_append]
  apply containsText_append_right
  apply containsText_append_left
  apply containsText_append_left
  exact containsText_append_right _ _ _ quoted

/-- A pool whose generated name has the digits 404, and a request that timed out:
the verdict is absence, and nothing was answered. -/
theorem timeout_reads_as_absent_pool :
    ¬ AbsenceBacked (.ok "token") (.transport "context deadline exceeded")
      (getWorkerPool ⟨.error, .error, .error⟩ true (.ok "token")
        (.transport "context deadline exceeded") "cnvd7m2f0i4s8r5v9k1g"
        "karp-6f1c2d404ab98e7700d3f5a1b2c4e6f8091a3b5c7d9e1f20") := by
  intro claimed
  rw [getWorkerPool_backed_iff] at claimed
  refine claimed (transport_readsAsAbsence _ _ ?_)
  unfold workerPoolEndpoint
  rw [lowerText_append]
  apply containsText_append_right
  simp only [containsText, lowerText, encodeQuery, queryEscape, List.map_cons, List.map_nil,
    String.toList_ofList]
  decide +kernel

end KarpenterIBM.IKSClient
