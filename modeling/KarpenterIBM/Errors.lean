import KarpenterIBM.Lib.Text

/-!
# Error values and their classification

Go errors as the provider builds and inspects them: plain texts, wrapped errors, the structured
errors of the HTTP client and of the IBM SDK, and the sentinel and marker types the controllers
test for.
-/

namespace KarpenterIBM.Errors

open Text

inductive ErrorType where
  | unknown
  | notFound
  | unauthorized
  | forbidden
  | rateLimit
  | serverError
  | clientError
  | timeout
  | conflict
  | validation
deriving DecidableEq

/-- `IBMError` of `pkg/cloudprovider/ibm`; the error it wraps is kept beside it. -/
structure IBMError where
  type : ErrorType
  statusCode : Nat
  code : String
  message : String
  moreInfo : String
  retryable : Bool
  retryAfter : Nat
deriving DecidableEq

/-- `IBMCloudError` of `pkg/httpclient`: an answer with an error status. -/
structure IBMCloudError where
  statusCode : Nat
  code : String
  message : String
  description : String
  type : String
  endpoint : String
deriving DecidableEq

structure DetailedResponse where
  statusCode : Nat
  code : String
  moreInfo : String
  retryAfter : Nat
deriving DecidableEq

inductive StatusReason where
  | notFound
  | conflict
  | alreadyExists
  | other
deriving DecidableEq

inductive GoError where
  | plain (text : String)
  | wrap (before : String) (cause : GoError) (after : String)
  | cloud (error : IBMCloudError)
  | ibm (error : IBMError) (cause : GoError)
  | httpProblem (text : String) (response : Option DetailedResponse)
  | sdkProblem (text : String)
  | notSent (cause : GoError)
  | kube (reason : StatusReason) (text : String)
  | nodeClaimNotFound (lead : String) (cause : GoError)
  | nodeClassNotReady (lead : String) (cause : GoError)
  | insufficientCapacity (lead : String) (cause : GoError)
  | createError (lead : String) (cause : GoError) (reason message : String)
  | launchUnresolved
deriving DecidableEq

/-- How a call goes wrong that may dereference a nil pointer. -/
inductive Failure where
  | error (error : GoError)
  | panic

/-! The constructors of Karpenter's own errors, each with the lead of its text. -/

def newNodeClaimNotFoundError : GoError → GoError := .nodeClaimNotFound "nodeclaim not found, "

def newNodeClassNotReadyError : GoError → GoError := .nodeClassNotReady "NodeClassRef not ready, "

def newInsufficientCapacityError : GoError → GoError :=
  .insufficientCapacity "insufficient capacity, "

def newCreateError : GoError → String → String → GoError := .createError ""

def IBMError.text (error : IBMError) : String :=
  if error.code ≠ "" then
    "IBM Cloud error (code: " ++ error.code ++ ", status: " ++ toString error.statusCode ++ "): "
      ++ error.message
  else
    "IBM Cloud error (status: " ++ toString error.statusCode ++ "): " ++ error.message

def IBMCloudError.text (error : IBMCloudError) : String :=
  if error.code ≠ "" then
    "IBM Cloud API error (code: " ++ error.code ++ "): " ++ error.description
      ++ " (endpoint: " ++ error.endpoint ++ ")"
  else
    "HTTP " ++ toString error.statusCode ++ ": " ++ error.message
      ++ " (endpoint: " ++ error.endpoint ++ ")"

def GoError.text : GoError → String
  | .plain text => text
  | .wrap before cause after => before ++ cause.text ++ after
  | .cloud error => error.text
  | .ibm error _ => error.text
  | .httpProblem text _ => text
  | .sdkProblem text => text
  | .notSent cause => "instance request was not sent: " ++ cause.text
  | .kube _ text => text
  | .nodeClaimNotFound lead cause | .nodeClassNotReady lead cause
  | .insufficientCapacity lead cause | .createError lead cause _ _ => lead ++ cause.text
  | .launchUnresolved => "launch outcome is not yet resolved"

@[simp] theorem GoError.text_plain (text : String) : (GoError.plain text).text = text := rfl

@[simp] theorem GoError.text_wrap (before after : String) (cause : GoError) :
    (GoError.wrap before cause after).text = before ++ cause.text ++ after := rfl

def GoError.chain : GoError → List GoError
  | .wrap before cause after => .wrap before cause after :: cause.chain
  | .ibm error cause => .ibm error cause :: cause.chain
  | .notSent cause => .notSent cause :: cause.chain
  | error => [error]

def GoError.foreign : GoError → Bool
  | .plain _ => true
  | .wrap _ cause _ => cause.foreign
  | .cloud _ => true
  | .httpProblem _ _ => true
  | .sdkProblem _ => true
  | .kube _ _ => true
  | _ => false

/-- `errors.As`: the first error of the chain of the wanted kind. -/
def errorsAs {α : Type} (pick : GoError → Option α) (error : GoError) : Option α :=
  error.chain.findSome? pick

theorem errorsAs_wrap {α : Type} (pick : GoError → Option α) (before after : String)
    (cause : GoError) (skipped : pick (.wrap before cause after) = none) :
    errorsAs pick (.wrap before cause after) = errorsAs pick cause := by
  simp [errorsAs, GoError.chain, skipped]

def pickIBMError : GoError → Option IBMError
  | .ibm error _ => some error
  | _ => none

def pickCloudError : GoError → Option IBMCloudError
  | .cloud error => some error
  | _ => none

def pickHTTPProblem : GoError → Option (Option DetailedResponse)
  | .httpProblem _ response => some response
  | _ => none

def pickSDKProblem : GoError → Option Unit
  | .sdkProblem _ => some ()
  | _ => none

def pickNotSent : GoError → Option Unit
  | .notSent _ => some ()
  | _ => none

def isLaunchUnresolved (error : GoError) : Bool :=
  decide (GoError.launchUnresolved ∈ error.chain)

def isCreateInstanceNotSent (error : GoError) : Bool :=
  (errorsAs pickNotSent error).isSome

/-- Karpenter's `IsNodeClaimNotFoundError`. -/
def isNodeClaimNotFoundError (error : GoError) : Bool :=
  error.chain.any fun link =>
    match link with
    | .nodeClaimNotFound _ _ => true
    | _ => false

def isKube (reason : StatusReason) (error : GoError) : Bool :=
  error.chain.any fun link =>
    match link with
    | .kube actual _ => decide (actual = reason)
    | _ => false

/-! The provider's own markers are not found in a foreign error. -/

theorem foreign_of_mem_chain {error link : GoError} (foreign : error.foreign = true)
    (visited : link ∈ error.chain) : link.foreign = true := by
  induction error with
  | wrap before cause after ih =>
    rw [GoError.chain, List.mem_cons] at visited
    rcases visited with same | inner
    · rw [same]
      exact foreign
    · exact ih foreign inner
  | ibm error cause | notSent cause => cases foreign
  | _ =>
    have same := List.mem_singleton.mp visited
    rw [same]
    exact foreign

theorem isLaunchUnresolved_foreign {error : GoError} (foreign : error.foreign = true) :
    isLaunchUnresolved error = false := by
  rw [isLaunchUnresolved, decide_eq_false_iff_not]
  intro visited
  cases foreign_of_mem_chain foreign visited

theorem isCreateInstanceNotSent_foreign {error : GoError} (foreign : error.foreign = true) :
    isCreateInstanceNotSent error = false := by
  rw [isCreateInstanceNotSent, errorsAs, Option.isSome_eq_false_iff, Option.isNone_iff_eq_none,
    List.findSome?_eq_none_iff]
  intro link visited
  have outside := foreign_of_mem_chain foreign visited
  cases link <;> first
    | rfl
    | cases outside

theorem isNodeClaimNotFoundError_foreign {error : GoError} (foreign : error.foreign = true) :
    isNodeClaimNotFoundError error = false := by
  rw [isNodeClaimNotFoundError, List.any_eq_false]
  intro link visited
  have outside := foreign_of_mem_chain foreign visited
  cases link <;> first
    | exact Bool.false_ne_true
    | cases outside

/-! ## Classification -/

def IBMError.isNotFound (error : IBMError) : Bool :=
  decide (error.type = .notFound) || decide (error.statusCode = 404)

def typeOfStatus (status : Nat) : ErrorType :=
  if status = 404 then .notFound
  else if status = 401 then .unauthorized
  else if status = 403 then .forbidden
  else if status = 429 then .rateLimit
  else if status = 409 then .conflict
  else if status = 400 ∨ status = 422 then .validation
  else if status = 408 then .timeout
  else if 500 ≤ status then .serverError
  else if 400 ≤ status then .clientError
  else .unknown

/-- `ParseErrorResponse` at a response that is present. -/
def parseErrorResponse (error : GoError) (response : DetailedResponse) : IBMError where
  type := typeOfStatus response.statusCode
  statusCode := response.statusCode
  code := response.code
  message := error.text
  moreInfo := response.moreInfo
  retryAfter := response.retryAfter
  retryable := decide (500 ≤ response.statusCode) || decide (response.statusCode = 429)
    || decide (response.statusCode = 408)

/-- What `parseErrorString` has found out so far. -/
structure TextVerdict where
  type : ErrorType
  statusCode : Nat
  retryable : Bool
deriving DecidableEq

/-- The first switch of `parseErrorString`, on words of the lower-cased text. -/
def verdictFromWords (lower : String) : TextVerdict :=
  if containsText lower "not found" || containsText lower "not_found" then
    ⟨.notFound, 404, false⟩
  else if containsText lower "unauthorized" || containsText lower "authentication" then
    ⟨.unauthorized, 401, false⟩
  else if containsText lower "forbidden" || containsText lower "permission" then
    ⟨.forbidden, 403, false⟩
  else if containsText lower "rate limit" || containsText lower "too many requests" then
    ⟨.rateLimit, 429, true⟩
  else if containsText lower "timeout" then
    ⟨.timeout, 408, true⟩
  else if containsText lower "conflict" || containsText lower "already exists" then
    ⟨.conflict, 409, false⟩
  else if containsText lower "invalid" || containsText lower "validation" then
    ⟨.validation, 400, false⟩
  else if containsText lower "internal server error" || containsText lower "500" then
    ⟨.serverError, 500, true⟩
  else
    ⟨.unknown, 0, false⟩

/-- The second part of `parseErrorString`: digits in the text override the words. -/
def verdictFromDigits (lower : String) (found : TextVerdict) : TextVerdict :=
  if containsText lower "404" then ⟨.notFound, 404, found.retryable⟩
  else if containsText lower "401" then ⟨.unauthorized, 401, found.retryable⟩
  else if containsText lower "403" then ⟨.forbidden, 403, found.retryable⟩
  else if containsText lower "429" then ⟨.rateLimit, 429, true⟩
  else if containsText lower "500" || containsText lower "502"
      || containsText lower "503" || containsText lower "504" then
    if containsText lower "502" then ⟨.serverError, 502, true⟩
    else if containsText lower "503" then ⟨.serverError, 503, true⟩
    else if containsText lower "504" then ⟨.serverError, 504, true⟩
    else ⟨.serverError, 500, true⟩
  else found

/-- What `parseErrorString` finds in a text. -/
def verdictOfText (text : String) : TextVerdict :=
  verdictFromDigits (lowerText text) (verdictFromWords (lowerText text))

def parseErrorString (error : GoError) : IBMError where
  type := (verdictOfText error.text).type
  statusCode := (verdictOfText error.text).statusCode
  code := ""
  message := error.text
  moreInfo := ""
  retryAfter := 0
  retryable := (verdictOfText error.text).retryable

/-- `ParseError` at an error that is present. -/
def parseError (error : GoError) : IBMError :=
  match errorsAs pickIBMError error with
  | some found => found
  | none =>
    match errorsAs pickHTTPProblem error with
    | some (some response) => parseErrorResponse error response
    | some none =>
      { type := .unknown, statusCode := 0, code := "", message := error.text, moreInfo := ""
        retryable := false, retryAfter := 0 }
    | none =>
      match errorsAs pickSDKProblem error with
      | some _ =>
        { type := .unknown, statusCode := 0, code := "", message := error.text, moreInfo := ""
          retryable := false, retryAfter := 0 }
      | none => parseErrorString error

/-- `IsNotFound` of `pkg/cloudprovider/ibm`, also the VPC provider's
`isIBMInstanceNotFoundError`. -/
def isNotFound (error : GoError) : Bool :=
  (parseError error).isNotFound

/-! ## When a text reads as absence -/

def NamesOtherStatus (lower : String) : Prop :=
  containsText lower "401" ∨ containsText lower "403" ∨ containsText lower "429" ∨
    containsText lower "500" ∨ containsText lower "502" ∨ containsText lower "503" ∨
    containsText lower "504"

def ReadsAsAbsence (text : String) : Prop :=
  containsText (lowerText text) "404" ∨
    ((containsText (lowerText text) "not found" ∨ containsText (lowerText text) "not_found") ∧
      ¬ NamesOtherStatus (lowerText text))

instance (lower : String) : Decidable (NamesOtherStatus lower) := by
  unfold NamesOtherStatus
  infer_instance

instance (text : String) : Decidable (ReadsAsAbsence text) := by
  unfold ReadsAsAbsence
  infer_instance

def TextVerdict.absent (verdict : TextVerdict) : Bool :=
  decide (verdict.type = .notFound) || decide (verdict.statusCode = 404)

theorem verdictFromWords_absent_iff (lower : String) : (verdictFromWords lower).absent = true ↔
      (containsText lower "not found" ∨ containsText lower "not_found") := by
  by_cases found : containsText lower "not found" || containsText lower "not_found"
  · simp only [verdictFromWords, found, if_true]
    simpa [TextVerdict.absent] using found
  have absent : ¬ (containsText lower "not found" ∨ containsText lower "not_found") := by
    simpa using found
  simp only [verdictFromWords, found, absent, iff_false]
  simp only [Bool.false_eq_true, if_false]
  split_ifs <;> simp [TextVerdict.absent]

theorem verdictFromDigits_absent_iff (lower : String) (found : TextVerdict) :
    (verdictFromDigits lower found).absent = true ↔
      containsText lower "404" ∨ (found.absent = true ∧ ¬ NamesOtherStatus lower) := by
  by_cases missing : containsText lower "404"
  · simp [verdictFromDigits, missing, TextVerdict.absent]
  by_cases other : NamesOtherStatus lower
  · have overridden : (verdictFromDigits lower found).absent = false := by
      unfold NamesOtherStatus at other
      unfold verdictFromDigits
      split_ifs <;> simp_all [TextVerdict.absent]
    simp [missing, other, overridden]
  · have kept : verdictFromDigits lower found = found := by
      simp only [NamesOtherStatus, not_or] at other
      obtain ⟨h401, h403, h429, h500, h502, h503, h504⟩ := other
      simp [verdictFromDigits, missing, h401, h403, h429, h500, h502, h503, h504]
    simp [kept, missing, other]

theorem parseErrorString_isNotFound_iff (error : GoError) :
    (parseErrorString error).isNotFound = true ↔ ReadsAsAbsence error.text := by
  have verdict : (parseErrorString error).isNotFound = true ↔
      (verdictOfText error.text).absent = true := by
    rw [IBMError.isNotFound, TextVerdict.absent, Bool.or_eq_true, Bool.or_eq_true,
      decide_eq_true_iff, decide_eq_true_iff, decide_eq_true_iff, decide_eq_true_iff]
    simp only [parseErrorString]
  rw [verdict, verdictOfText, verdictFromDigits_absent_iff, verdictFromWords_absent_iff,
    ReadsAsAbsence]

end KarpenterIBM.Errors
