import KarpenterIBM.Errors

/-!
# Coherence of the error classification

`ParseError` gives an error a type, a status and a retry mark.
-/

namespace KarpenterIBM.Errors

open List Text

/-! ## What belongs together -/

def RetryStatus (status : Nat) : Prop := status = 408 ∨ status = 429 ∨ 500 ≤ status

instance (status : Nat) : Decidable (RetryStatus status) := by
  unfold RetryStatus
  infer_instance

def TextVerdict.Coherent (verdict : TextVerdict) : Prop :=
  verdict.type = typeOfStatus verdict.statusCode ∧
    (verdict.retryable = true ↔ RetryStatus verdict.statusCode)

instance (verdict : TextVerdict) : Decidable verdict.Coherent := by
  unfold TextVerdict.Coherent
  infer_instance

def IBMError.Coherent (error : IBMError) : Prop :=
  error.type = typeOfStatus error.statusCode ∧
    (error.retryable = true ↔ RetryStatus error.statusCode)

instance (error : IBMError) : Decidable error.Coherent := by
  unfold IBMError.Coherent
  infer_instance

theorem parseErrorResponse_coherent (error : GoError) (resp : DetailedResponse) :
    (parseErrorResponse error resp).Coherent := by
  refine ⟨rfl, ?_⟩
  simp only [parseErrorResponse, RetryStatus, Bool.or_eq_true, decide_eq_true_iff]
  omega

/-! ## The words of a text -/

def Mentions (lower : String) (words : List String) : Prop :=
  ∃ word ∈ words, containsText lower word = true

instance (lower : String) (words : List String) : Decidable (Mentions lower words) := by
  unfold Mentions
  infer_instance

/-- The words that the first pass looks for before any that asks for a retry. -/
def refusalWords : List String :=
  ["not found", "not_found", "unauthorized", "authentication", "forbidden", "permission"]

def delayWords : List String := ["rate limit", "too many requests", "timeout"]

def disputeWords : List String := ["conflict", "already exists", "invalid", "validation"]

def serverWords : List String := ["internal server error", "500"]

def AsksForRetry (lower : String) : Prop :=
  ¬ Mentions lower refusalWords ∧
    (Mentions lower delayWords ∨ (¬ Mentions lower disputeWords ∧ Mentions lower serverWords))

instance (lower : String) : Decidable (AsksForRetry lower) := by
  unfold AsksForRetry
  infer_instance

def refusalDigits : List String := ["404", "401", "403"]

variable (lower : String)

theorem verdictFromWords_coherent : (verdictFromWords lower).Coherent := by
  unfold verdictFromWords
  split_ifs <;> decide

@[simp] theorem mentions_nil : ¬ Mentions lower [] := by
  rintro ⟨word, mem, found⟩
  cases mem

theorem mentions_cons (word : String) (words : List String) :
    Mentions lower (word :: words) ↔ containsText lower word = true ∨ Mentions lower words := by
  simp only [Mentions, mem_cons, exists_eq_or_imp]

theorem verdictFromWords_retryable_iff :
    (verdictFromWords lower).retryable = true ↔ AsksForRetry lower := by
  simp only [AsksForRetry, refusalWords, delayWords, disputeWords, serverWords, mentions_cons,
    mentions_nil, or_false, verdictFromWords, Bool.or_eq_true]
  split_ifs <;> grind

theorem verdictFromDigits_coherent_iff {found : TextVerdict} (coherent : found.Coherent) :
    (verdictFromDigits lower found).Coherent ↔
      ¬ (Mentions lower refusalDigits ∧ found.retryable = true) := by
  obtain ⟨type, status, retryable⟩ := found
  simp only [refusalDigits, mentions_cons, mentions_nil, or_false]
  by_cases h404 : containsText lower "404" = true
  · simp only [verdictFromDigits, h404, ↓reduceIte, true_or, true_and]
    cases retryable <;> decide
  by_cases h401 : containsText lower "401" = true
  · simp only [verdictFromDigits, h404, h401, ↓reduceIte, true_or, or_true, true_and]
    cases retryable <;> decide
  by_cases h403 : containsText lower "403" = true
  · simp only [verdictFromDigits, h404, h401, h403, ↓reduceIte, or_true, true_and]
    cases retryable <;> decide
  -- The statuses left set the mark along with themselves.
  · simp only [verdictFromDigits, h404, h401, h403, ↓reduceIte, Bool.false_eq_true, or_self,
      false_and, not_false_eq_true, iff_true]
    split_ifs
    all_goals first
      | exact coherent
      | decide

def Contradicts (text : String) : Prop :=
  Mentions (lowerText text) refusalDigits ∧ AsksForRetry (lowerText text)

instance (text : String) : Decidable (Contradicts text) := by
  unfold Contradicts
  infer_instance

theorem verdictOfText_coherent_iff (text : String) :
    (verdictOfText text).Coherent ↔ ¬ Contradicts text := by
  rw [verdictOfText, verdictFromDigits_coherent_iff _ (verdictFromWords_coherent _),
    verdictFromWords_retryable_iff, Contradicts]

theorem parseErrorString_statusCode (error : GoError) :
    (parseErrorString error).statusCode = (verdictOfText error.text).statusCode := by
  rw [parseErrorString]

theorem parseErrorString_retryable (error : GoError) :
    (parseErrorString error).retryable = (verdictOfText error.text).retryable := by
  rw [parseErrorString]

theorem parseErrorString_coherent_iff (error : GoError) :
    (parseErrorString error).Coherent ↔ ¬ Contradicts error.text := by
  rw [← verdictOfText_coherent_iff, IBMError.Coherent, TextVerdict.Coherent]
  simp only [parseErrorString]

/-! ## What an error carries -/

/-- Nothing in the chain of the error is a structured error that `ParseError` looks for. -/
structure ReadAsText (error : GoError) : Prop where
  notIBM : errorsAs pickIBMError error = none
  notHTTP : errorsAs pickHTTPProblem error = none
  notSDK : errorsAs pickSDKProblem error = none

variable {error : GoError}

theorem parseError_of_ibm {carried : IBMError} (found : errorsAs pickIBMError error = some carried)
    : parseError error = carried := by
  rw [parseError, found]

theorem parseError_of_response {response : DetailedResponse}
    (notIBM : errorsAs pickIBMError error = none)
    (found : errorsAs pickHTTPProblem error = some (some response)) :
    parseError error = parseErrorResponse error response := by
  rw [parseError, notIBM, found]

theorem parseError_of_text (read : ReadAsText error) :
    parseError error = parseErrorString error := by
  rw [parseError, read.notIBM, read.notHTTP, read.notSDK]

/-- Where the classification of an error is coherent: a carried `IBMError` is so
itself, and a text that has to be read does not contradict itself. -/
def ClassifiedCoherently (error : GoError) : Prop :=
  (∀ carried, errorsAs pickIBMError error = some carried → carried.Coherent) ∧
    (ReadAsText error → ¬ Contradicts error.text)

theorem coherent_parseError_iff (error : GoError) :
    (parseError error).Coherent ↔ ClassifiedCoherently error := by
  cases ibm : errorsAs pickIBMError error with
  | some carried =>
    rw [parseError_of_ibm ibm]
    refine ⟨fun coherent => ⟨?_, fun read => ?_⟩, fun classified => classified.1 carried ibm⟩
    · intro other found
      cases ibm.symm.trans found
      exact coherent
    have absent := read.notIBM
    cases ibm.symm.trans absent
  | none =>
    have noneCarried : ∀ carried : IBMError,
        errorsAs pickIBMError error = some carried → carried.Coherent := by
      intro carried found
      cases ibm.symm.trans found
    rw [ClassifiedCoherently, and_iff_right noneCarried]
    cases http : errorsAs pickHTTPProblem error with
    | some problem =>
      refine iff_of_true ?_ fun read => absurd read.notHTTP (by simp [http])
      cases problem with
      | some resp =>
        rw [parseError_of_response ibm http]
        exact parseErrorResponse_coherent error resp
      | none =>
        rw [parseError, ibm, http]
        exact ⟨rfl, by simp [RetryStatus]⟩
    | none =>
      cases sdk : errorsAs pickSDKProblem error with
      | some problem =>
        refine iff_of_true ?_ fun read => absurd read.notSDK (by simp [sdk])
        rw [parseError, ibm, http, sdk]
        exact ⟨rfl, by simp [RetryStatus]⟩
      | none =>
        have read : ReadAsText error := ⟨ibm, http, sdk⟩
        rw [parseError_of_text read]
        rw [parseErrorString_coherent_iff]
        exact ⟨fun clear _ => clear, fun clear => clear read⟩

/-! ## The text around an error -/

def wrapped (layers : List (String × String)) (error : GoError) : GoError :=
  layers.foldr (fun layer cause => .wrap layer.1 cause layer.2) error

theorem errorsAs_wrapped {α : Type} (pick : GoError → Option α)
    (skips : ∀ before cause after, pick (.wrap before cause after) = none)
    (layers : List (String × String)) (error : GoError) :
    errorsAs pick (wrapped layers error) = errorsAs pick error := by
  induction layers with
  | nil => rfl
  | cons layer rest ih =>
    rw [wrapped, foldr_cons, errorsAs_wrap _ _ _ _ (skips _ _ _)]
    exact ih

variable {layers : List (String × String)}

variable {word : String}

theorem containsText_wrapped (found : containsText (lowerText error.text) word = true) :
    containsText (lowerText (wrapped layers error).text) word = true := by
  induction layers with
  | nil => exact found
  | cons layer rest ih =>
    rw [wrapped, foldr_cons, GoError.text_wrap, lowerText_append, lowerText_append]
    exact containsText_append_left _ _ _ (containsText_append_right _ _ _ ih)

theorem mentions_wrapped {error : GoError} {words : List String}
    (found : Mentions (lowerText error.text) words) :
    Mentions (lowerText (wrapped layers error).text) words := by
  obtain ⟨word, mem, contained⟩ := found
  exact ⟨word, mem, containsText_wrapped contained⟩

theorem readAsText_wrapped (read : ReadAsText error) (layers : List (String × String)) :
    ReadAsText (wrapped layers error) :=
  ⟨(errorsAs_wrapped _ (fun _ _ _ => rfl) _ _).trans read.notIBM,
    (errorsAs_wrapped _ (fun _ _ _ => rfl) _ _).trans read.notHTTP,
    (errorsAs_wrapped _ (fun _ _ _ => rfl) _ _).trans read.notSDK⟩

def IBMError.classification (error : IBMError) : IBMError := { error with message := "" }

@[simp] theorem classification_statusCode (error : IBMError) :
    error.classification.statusCode = error.statusCode := rfl

@[simp] theorem classification_retryable (error : IBMError) :
    error.classification.retryable = error.retryable := rfl

def IndependentOfText (error : GoError) : Prop :=
  ∀ layers, (parseError (wrapped layers error)).classification = (parseError error).classification

/-- The error carries an answer that was already parsed, or the SDK's response. -/
def CarriesResponse (error : GoError) : Prop :=
  (∃ carried, errorsAs pickIBMError error = some carried) ∨
    ∃ response, errorsAs pickHTTPProblem error = some (some response)

theorem independent_of_carriesResponse (carries : CarriesResponse error) :
    IndependentOfText error := by
  intro layers
  have sameIBM := errorsAs_wrapped pickIBMError (fun _ _ _ => rfl) layers error
  cases ibm : errorsAs pickIBMError error with
  | some carried => rw [parseError_of_ibm (sameIBM.trans ibm), parseError_of_ibm ibm]
  | none =>
    rcases carries with ⟨carried, found⟩ | ⟨resp, found⟩
    · cases ibm.symm.trans found
    have sameHTTP := errorsAs_wrapped pickHTTPProblem (fun _ _ _ => rfl) layers error
    rw [parseError_of_response (sameIBM.trans ibm) (sameHTTP.trans found),
      parseError_of_response ibm found]
    rfl

/-! ## Answers that are read as text

The HTTP client's own error is structured as well, but `ParseError` does not look
for it and reads its text. -/

variable {text : String}

theorem containsText_line {lead : String} (oneLine : '\n' ∉ word.toList)
    (absent : containsText lead word = false) (missing : containsText text word = false) :
    containsText (lead ++ "\n" ++ text) word = false := by
  rw [← Bool.not_eq_true, containsText, containsChars_iff] at absent missing ⊢
  intro found
  have lines : (lead ++ "\n" ++ text).toList = lead.toList ++ '\n' :: text.toList := by simp
  rw [lines, infix_append_iff] at found
  -- A piece that reaches the line break from the left has it or ends before it.
  have started : ∀ piece : List Char, piece <+: '\n' :: text.toList → piece ⊆ word.toList →
      piece = [] := by
    intro piece starts within
    rcases prefix_cons_iff.mp starts with empty | ⟨rest, begins, _⟩
    · exact empty
    refine absurd (within ?_) oneLine
    rw [begins]
    exact mem_cons_self
  rcases found with inLead | inRest | ⟨first, last, whole, atEnd, atStart⟩
  · exact absent inLead
  · rcases infix_cons_iff.mp inRest with starts | inText
    · rw [started _ starts (List.Subset.refl _)] at missing
      exact missing nil_infix
    · exact missing inText
  have nothing := started last atStart (by rw [whole]; exact subset_append_right _ _)
  rw [nothing, append_nil] at whole
  rw [whole] at absent
  exact absent atEnd.isInfix

theorem mentions_line_iff {lead : String} {words : List String}
    (oneLine : ∀ word ∈ words, '\n' ∉ word.toList) (absent : ¬ Mentions lead words) :
    Mentions (lead ++ "\n" ++ text) words ↔ Mentions text words := by
  constructor
  · rintro ⟨word, mem, found⟩
    refine ⟨word, mem, eq_true_of_ne_false fun missing => ?_⟩
    have outside : containsText lead word = false :=
      eq_false_of_ne_true fun within => absent ⟨word, mem, within⟩
    rw [containsText_line (oneLine word mem) outside missing] at found
    cases found
  · rintro ⟨word, mem, found⟩
    exact ⟨word, mem, containsText_append_right _ _ _ found⟩

theorem verdictOfText_of_404 (named : containsText (lowerText text) "404" = true) :
    verdictOfText text = ⟨.notFound, 404, (verdictFromWords (lowerText text)).retryable⟩ := by
  rw [verdictOfText, verdictFromDigits, if_pos named]

theorem statusCode_of_401 (missing : containsText (lowerText text) "404" = false)
    (named : containsText (lowerText text) "401" = true) :
    (verdictOfText text).statusCode = 401 := by
  rw [verdictOfText, verdictFromDigits, if_neg (by rw [missing]; exact Bool.false_ne_true),
    if_pos named]

theorem lowerText_line (line text : String) :
    lowerText (line ++ "\n" ++ text) = lowerText line ++ "\n" ++ lowerText text := by
  have kept : lowerText "\n" = "\n" := by decide
  rw [lowerText_append, lowerText_append, kept]

theorem containsText_lead {line : String} (text : String)
    (found : containsText (lowerText line) word = true) :
    containsText (lowerText (line ++ "\n" ++ text)) word = true := by
  rw [lowerText_line]
  exact containsText_append_left _ _ _ (containsText_append_left _ _ _ found)

structure SteadyBehindLines (error : GoError) : Prop where
  status : ∀ line : String, (verdictOfText (line ++ "\n" ++ error.text)).statusCode =
    (parseError error).statusCode
  mark : ∀ line : String, (verdictOfText (line ++ "\n" ++ error.text)).retryable =
    (parseError error).retryable

theorem steady_of_independent (read : ReadAsText error) (independent : IndependentOfText error) :
    SteadyBehindLines error := by
  have text : ∀ line : String,
      (wrapped [(line ++ "\n", "")] error).text = line ++ "\n" ++ error.text := by
    intro line
    simp [wrapped]
  have alike : ∀ line : String,
      (parseErrorString (wrapped [(line ++ "\n", "")] error)).classification =
        (parseError error).classification := by
    intro line
    rw [← parseError_of_text (readAsText_wrapped read _)]
    exact independent _
  refine ⟨fun line => ?_, fun line => ?_⟩
  · have same := congrArg IBMError.statusCode (alike line)
    rwa [classification_statusCode, classification_statusCode, parseErrorString_statusCode,
      text] at same
  have same := congrArg IBMError.retryable (alike line)
  rwa [classification_retryable, classification_retryable, parseErrorString_retryable, text] at same

theorem names404_of_steady (steady : SteadyBehindLines error) :
    containsText (lowerText error.text) "404" = true := by
  by_contra unnamed
  have missing : containsText (lowerText ("401" ++ "\n" ++ error.text)) "404" = false := by
    rw [lowerText_line]
    exact containsText_line (by decide) (by decide) (eq_false_of_ne_true unnamed)
  have as401 := statusCode_of_401 missing (containsText_lead _ (by decide))
  have as404 := verdictOfText_of_404 (containsText_lead error.text
    (by decide : containsText (lowerText "404") "404" = true))
  have status := steady.status "404"
  rw [as404, ← steady.status "401", as401] at status
  cases status

theorem refused_of_steady (steady : SteadyBehindLines error) :
    Mentions (lowerText error.text) refusalWords := by
  by_contra unrefused
  have mark : ∀ line : String, (parseError error).retryable =
      (verdictFromWords (lowerText (line ++ "\n" ++ error.text))).retryable := by
    intro line
    have named : containsText (lowerText (line ++ "\n" ++ error.text)) "404" = true := by
      rw [lowerText_line]
      exact containsText_append_right _ _ _ (names404_of_steady steady)
    rw [← steady.mark line, verdictOfText_of_404 named]
  have asks : AsksForRetry (lowerText ("timeout" ++ "\n" ++ error.text)) := by
    refine ⟨?_, .inl ⟨"timeout", by decide, containsText_lead _ (by decide)⟩⟩
    rw [lowerText_line, mentions_line_iff (by decide) (by decide)]
    exact unrefused
  have marked := (mark "timeout").trans ((verdictFromWords_retryable_iff _).mpr asks)
  rw [mark "not found", verdictFromWords_retryable_iff] at marked
  exact marked.1 ⟨"not found", by decide, containsText_lead _ (by decide)⟩

theorem verdictOfText_of_refused (named : containsText (lowerText text) "404" = true)
    (refused : Mentions (lowerText text) refusalWords) :
    verdictOfText text = ⟨.notFound, 404, false⟩ := by
  have unmarked : (verdictFromWords (lowerText text)).retryable = false := by
    rw [← Bool.not_eq_true, verdictFromWords_retryable_iff]
    exact fun asks => asks.1 refused
  rw [verdictOfText_of_404 named, unmarked]

theorem independent_iff_of_text (read : ReadAsText error) : IndependentOfText error ↔
      containsText (lowerText error.text) "404" = true ∧
        Mentions (lowerText error.text) refusalWords := by
  constructor
  · intro independent
    have steady := steady_of_independent read independent
    exact ⟨names404_of_steady steady, refused_of_steady steady⟩
  rintro ⟨named, refused⟩ layers
  have inner := verdictOfText_of_refused named refused
  have outer := verdictOfText_of_refused (containsText_wrapped named)
    (@mentions_wrapped layers error _ refused)
  rw [parseError_of_text (readAsText_wrapped read _), parseError_of_text read]
  simp only [parseErrorString, IBMError.classification, inner, outer]

theorem readAsText_cloud (answer : IBMCloudError) : ReadAsText (.cloud answer) := ⟨rfl, rfl, rfl⟩

/-! ## The result -/

/-- The classification of an error is coherent exactly where the condition holds, and
the response it carries decides alone.  The HTTP client's error is classified alike
under every wrapping exactly when its own text says 404 and a refusal. -/
theorem error_classification_coherent_iff (error : GoError) :
    ((parseError error).Coherent ↔ ClassifiedCoherently error) ∧
      (CarriesResponse error → IndependentOfText error) ∧
      ∀ answer : IBMCloudError, IndependentOfText (.cloud answer) ↔
        containsText (lowerText answer.text) "404" = true ∧
          Mentions (lowerText answer.text) refusalWords :=
  ⟨coherent_parseError_iff error, independent_of_carriesResponse,
    fun answer => independent_iff_of_text (readAsText_cloud answer)⟩

def sampleResponse : DetailedResponse := ⟨503, "unavailable", "", 5⟩

theorem error_classification_coherent_iff_sample :
    IndependentOfText (.httpProblem "page 404" (some sampleResponse)) ∧
      (parseError (.plain "quota 429 reached")).Coherent :=
  ⟨(error_classification_coherent_iff _).2.1 (.inr ⟨sampleResponse, rfl⟩),
    (error_classification_coherent_iff (.plain "quota 429 reached")).1.mpr
      ⟨fun _ found => (nomatch found), fun _ => by decide +kernel⟩⟩

/-- A text that reports a timeout while it reads a page named 404 is a status 404 that
may be tried again. -/
theorem timeout_names_404 : ¬ (parseError (.plain "GET /instances/r-404: timeout")).Coherent := by
  rw [coherent_parseError_iff]
  rintro ⟨_, clear⟩
  exact clear ⟨rfl, rfl, rfl⟩ (by decide +kernel)

end KarpenterIBM.Errors
