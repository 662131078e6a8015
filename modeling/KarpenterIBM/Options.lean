import KarpenterIBM.Breaker.CircuitBreaker
import KarpenterIBM.Lib.Text

/-!
# Operator options

`Validate` of `pkg/operator/options` and the circuit breaker configuration it guards. The
options that neither reads are left out.
-/

namespace KarpenterIBM.OperatorOptions

open Breaker Text

structure Options where
  apiKey : String
  region : String
  zone : String
  spotDiscountPercent : Int
  circuitBreakerEnabled : Bool
  circuitBreakerFailureThreshold : Int
  circuitBreakerFailureWindow : Int
  circuitBreakerRecoveryTimeout : Int
  circuitBreakerHalfOpenMaxRequests : Int
  circuitBreakerRateLimitPerMinute : Int
  circuitBreakerMaxConcurrentInstances : Int
deriving DecidableEq

inductive OptionsError where
  | missingVariables (names : List String)
  | zoneMismatch (zone region : String)
  | zoneSuffix (zone : String)
  | spotDiscount (percent : Int)
  | failureThreshold (value : Int)
  | failureWindow (value : Int)
  | recoveryTimeout (value : Int)
  | halfOpenMaxRequests (value : Int)
  | rateLimit (value : Int)
  | maxConcurrentInstances (value : Int)
deriving DecidableEq

/-- The texts of the errors; `duration` prints a duration. -/
def OptionsError.text (duration : Int → String) : OptionsError → String
  | .missingVariables names =>
    "missing required environment variables: [" ++ joinText names ' ' ++ "]"
  | .zoneMismatch zone region =>
    "zone " ++ zone ++ " does not match region " ++ region ++ ": expected format " ++
      region ++ "-N"
  | .zoneSuffix zone =>
    "invalid zone format " ++ zone ++ ": zone suffix must be a positive number"
  | .spotDiscount percent =>
    "KARPENTER_SPOT_DISCOUNT_PERCENT must be between 1 and 100, got " ++ toString percent
  | .failureThreshold value =>
    "circuit breaker failure threshold must be at least 1, got " ++ toString value
  | .failureWindow value =>
    "circuit breaker failure window must be positive, got " ++ duration value
  | .recoveryTimeout value =>
    "circuit breaker recovery timeout must be positive, got " ++ duration value
  | .halfOpenMaxRequests value =>
    "circuit breaker half-open max requests must be at least 1, got " ++ toString value
  | .rateLimit value =>
    "circuit breaker rate limit must be at least 1 per minute, got " ++ toString value
  | .maxConcurrentInstances value =>
    "circuit breaker max concurrent instances must be at least 1, got " ++ toString value

def validateRegionZonePair (region zone : String) : Except OptionsError Unit :=
  if hasLead zone (region ++ "-") then
    match atoi (trimLead zone (region ++ "-")) with
    | some number => if number < 1 then .error (.zoneSuffix zone) else .ok ()
    | none => .error (.zoneSuffix zone)
  else .error (.zoneMismatch zone region)

variable (options : Options)

def Options.missingFields : List String :=
  (if options.apiKey = "" then ["IBMCLOUD_API_KEY"] else []) ++
    if options.region = "" then ["IBMCLOUD_REGION"] else []

/-- The checks of `Validate` on an enabled circuit breaker. -/
def Options.validateCircuitBreaker : Except OptionsError Unit :=
  if options.circuitBreakerFailureThreshold < 1 then
    .error (.failureThreshold options.circuitBreakerFailureThreshold)
  else if options.circuitBreakerFailureWindow ≤ 0 then
    .error (.failureWindow options.circuitBreakerFailureWindow)
  else if options.circuitBreakerRecoveryTimeout ≤ 0 then
    .error (.recoveryTimeout options.circuitBreakerRecoveryTimeout)
  else if options.circuitBreakerHalfOpenMaxRequests < 1 then
    .error (.halfOpenMaxRequests options.circuitBreakerHalfOpenMaxRequests)
  else if options.circuitBreakerRateLimitPerMinute < 1 then
    .error (.rateLimit options.circuitBreakerRateLimitPerMinute)
  else if options.circuitBreakerMaxConcurrentInstances < 1 then
    .error (.maxConcurrentInstances options.circuitBreakerMaxConcurrentInstances)
  else .ok ()

def Options.validateZone : Except OptionsError Unit :=
  if options.zone = "" then .ok () else validateRegionZonePair options.region options.zone

def Options.validate : Except OptionsError Unit :=
  if options.missingFields ≠ [] then .error (.missingVariables options.missingFields)
  else do
    options.validateZone
    if options.spotDiscountPercent < 1 ∨ 100 < options.spotDiscountPercent then
      .error (.spotDiscount options.spotDiscountPercent)
    else if options.circuitBreakerEnabled then options.validateCircuitBreaker
    else .ok ()

def Options.getCircuitBreakerConfig : Option CircuitBreakerConfig :=
  if options.circuitBreakerEnabled then
    some
      { failureThreshold := options.circuitBreakerFailureThreshold
        failureWindow := options.circuitBreakerFailureWindow
        recoveryTimeout := options.circuitBreakerRecoveryTimeout
        halfOpenMaxRequests := options.circuitBreakerHalfOpenMaxRequests
        rateLimitPerMinute := options.circuitBreakerRateLimitPerMinute
        maxConcurrentInstances := options.circuitBreakerMaxConcurrentInstances }
  else none

theorem Options.recoveryTimeout_of_config {options : Options} {config : CircuitBreakerConfig}
    (configured : options.getCircuitBreakerConfig = some config) :
    config.recoveryTimeout = options.circuitBreakerRecoveryTimeout := by
  unfold getCircuitBreakerConfig at configured
  split at configured <;> cases configured
  rfl

/-- The bounds that every enabled configuration keeps once the options are valid. -/
structure Sound (config : CircuitBreakerConfig) : Prop where
  failureThreshold : 1 ≤ config.failureThreshold
  failureWindow : 0 < config.failureWindow
  recoveryTimeout : 0 < config.recoveryTimeout
  halfOpenMaxRequests : 1 ≤ config.halfOpenMaxRequests
  rateLimitPerMinute : 1 ≤ config.rateLimitPerMinute
  maxConcurrentInstances : 1 ≤ config.maxConcurrentInstances

theorem Options.sound_of_validateCircuitBreaker {options : Options}
    (valid : options.validateCircuitBreaker = .ok ()) :
    Sound
      { failureThreshold := options.circuitBreakerFailureThreshold
        failureWindow := options.circuitBreakerFailureWindow
        recoveryTimeout := options.circuitBreakerRecoveryTimeout
        halfOpenMaxRequests := options.circuitBreakerHalfOpenMaxRequests
        rateLimitPerMinute := options.circuitBreakerRateLimitPerMinute
        maxConcurrentInstances := options.circuitBreakerMaxConcurrentInstances } := by
  simp only [validateCircuitBreaker] at valid
  repeat
    split at valid
    · cases valid
  constructor <;> dsimp only <;> omega

theorem Options.sound_of_validate {options : Options} {config : CircuitBreakerConfig}
    (valid : options.validate = .ok ())
    (configured : options.getCircuitBreakerConfig = some config) : Sound config := by
  unfold getCircuitBreakerConfig at configured
  split at configured
  · rename_i enabled
    cases configured
    refine sound_of_validateCircuitBreaker ?_
    unfold validate at valid
    rw [if_pos enabled] at valid
    split at valid
    · cases valid
    cases zoned : options.validateZone with
    | error error =>
      rw [zoned] at valid
      cases valid
    | ok done =>
      rw [zoned] at valid
      simp only [Bind.bind, Except.bind] at valid
      split at valid
      · cases valid
      · exact valid
  · cases configured

/-- The defaults of the options, with a key and a region. -/
def sampleOptions : Options where
  apiKey := "key"
  region := "us-south"
  zone := ""
  spotDiscountPercent := 60
  circuitBreakerEnabled := true
  circuitBreakerFailureThreshold := 3
  circuitBreakerFailureWindow := 5 * minute
  circuitBreakerRecoveryTimeout := 15 * minute
  circuitBreakerHalfOpenMaxRequests := 2
  circuitBreakerRateLimitPerMinute := 10
  circuitBreakerMaxConcurrentInstances := 5

def sampleConfig : CircuitBreakerConfig where
  failureThreshold := 3
  failureWindow := 5 * minute
  recoveryTimeout := 15 * minute
  halfOpenMaxRequests := 2
  rateLimitPerMinute := 10
  maxConcurrentInstances := 5

end KarpenterIBM.OperatorOptions
