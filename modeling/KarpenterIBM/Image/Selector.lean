import KarpenterIBM.Image.Inventory
import KarpenterIBM.Lib.SegmentPattern
import KarpenterIBM.Objects
import Mathlib.Data.Prod.Lex

/-!
# Resolving an image by a selector

`ResolveImageBySelector` of `pkg/providers/common/image`: the usable images are listed, their
names are parsed in one of four formats, those that meet the selector are sorted by version,
build and date, and the first one is taken.
-/

namespace KarpenterIBM.ImageResolver

open Errors List Objects SegmentPattern SortSlice Text

/-! ## Image names -/

structure ImageName where
  os : String
  majorVersion : String
  minorVersion : String
  patchVersion : String
  variant : String
  architecture : String
  build : String
deriving DecidableEq

def isLowerLetter (c : Char) : Bool := decide ('a' ≤ c ∧ c ≤ 'z')

def isDecimalDigit (c : Char) : Bool := decide ('0' ≤ c ∧ c ≤ '9')

/-- `([a-z]+)` -/
def letters : Segment := .run isLowerLetter

/-- `([0-9]+)` -/
def number : Segment := .run isDecimalDigit

/-- `([a-z0-9]+)` -/
def alphanumeric : Segment := .run fun c => isLowerLetter c || isDecimalDigit c

def ibmNewPattern : List Segment :=
  [.literal "ibm", letters, number, number, number, letters, alphanumeric, number]

def ibmPattern : List Segment :=
  [.literal "ibm", letters, number, number, letters, alphanumeric, number]

def ibmAltPattern : List Segment :=
  [.literal "ibm", letters, number, number, alphanumeric, number]

def simplePattern : List Segment := [letters, number, number]

def parseImageName (imageName : String) : Option ImageName :=
  match findSubmatch '-' ibmNewPattern imageName with
  | some [os, major, minor, patch, variant, architecture, build] =>
    some ⟨os, major, minor, patch, variant, architecture, build⟩
  | _ =>
    match findSubmatch '-' ibmPattern imageName with
    | some [os, major, minor, variant, architecture, build] =>
      some ⟨os, major, minor, "", variant, architecture, build⟩
    | _ =>
      match findSubmatch '-' ibmAltPattern imageName with
      | some [os, major, minor, architecture, build] =>
        some ⟨os, major, minor, "", "minimal", architecture, build⟩
      | _ =>
        match findSubmatch '-' simplePattern imageName with
        | some [os, major, minor] => some ⟨os, major, minor, "", "minimal", "amd64", "1"⟩
        | _ => none

/-- What the four formats say. -/
inductive Named : String → ImageName → Prop
  | newer {os major minor patch variant architecture build : String}
      (isOS : letters.accepts os = true) (isMajor : number.accepts major = true)
      (isMinor : number.accepts minor = true) (isPatch : number.accepts patch = true)
      (isVariant : letters.accepts variant = true)
      (isArchitecture : alphanumeric.accepts architecture = true)
      (isBuild : number.accepts build = true) :
      Named (joinText ["ibm", os, major, minor, patch, variant, architecture, build] '-')
        ⟨os, major, minor, patch, variant, architecture, build⟩
  | standard {os major minor variant architecture build : String}
      (isOS : letters.accepts os = true) (isMajor : number.accepts major = true)
      (isMinor : number.accepts minor = true) (isVariant : letters.accepts variant = true)
      (isArchitecture : alphanumeric.accepts architecture = true)
      (isBuild : number.accepts build = true) :
      Named (joinText ["ibm", os, major, minor, variant, architecture, build] '-')
        ⟨os, major, minor, "", variant, architecture, build⟩
  | alternative {os major minor architecture build : String}
      (isOS : letters.accepts os = true) (isMajor : number.accepts major = true)
      (isMinor : number.accepts minor = true)
      (isArchitecture : alphanumeric.accepts architecture = true)
      (isBuild : number.accepts build = true) :
      Named (joinText ["ibm", os, major, minor, architecture, build] '-')
        ⟨os, major, minor, "", "minimal", architecture, build⟩
  | legacy {os major minor : String}
      (isOS : letters.accepts os = true) (isMajor : number.accepts major = true)
      (isMinor : number.accepts minor = true) :
      Named (joinText [os, major, minor] '-') ⟨os, major, minor, "", "minimal", "amd64", "1"⟩

variable {pat : List Segment}

theorem excludes_hyphen (known : pat ∈ [ibmNewPattern, ibmPattern, ibmAltPattern, simplePattern]) :
    pat ≠ [] ∧ ∀ segment ∈ pat, segment.Excludes '-' := by
  have ofLetters : letters.Excludes '-' := by decide
  have ofNumber : number.Excludes '-' := by decide
  have ofBoth : alphanumeric.Excludes '-' := by decide
  have ofLiteral : (Segment.literal "ibm").Excludes '-' := by decide
  simp only [mem_cons, not_mem_nil, or_false] at known
  rcases known with rfl | rfl | rfl | rfl
  all_goals
    simp [ibmNewPattern, ibmPattern, ibmAltPattern, simplePattern, ofLetters, ofNumber, ofBoth,
      ofLiteral]

variable {name : String}

theorem parts_of_findSubmatch {captured : List String}
    (known : pat ∈ [ibmNewPattern, ibmPattern, ibmAltPattern, simplePattern])
    (matched : findSubmatch '-' pat name = some captured) :
    ∃ parts, name = joinText parts '-' ∧
      List.Forall₂ (fun segment part => segment.accepts part = true) pat parts ∧
      captured = (List.zipWith Segment.capture pat parts).flatten :=
  (findSubmatch_eq_some_iff (excludes_hyphen known).1 (excludes_hyphen known).2).mp matched

variable {text : String}

theorem eq_ibm (accepts : (Segment.literal "ibm").accepts text = true) : text = "ibm" := by
  simpa [Segment.accepts] using accepts

variable {major minor architecture : String}

variable {os : String}

variable {build : String}

theorem newer_of_match {patch variant : String} (matched : findSubmatch '-' ibmNewPattern name =
      some [os, major, minor, patch, variant, architecture, build]) :
    Named name ⟨os, major, minor, patch, variant, architecture, build⟩ := by
  obtain ⟨parts, rfl, all, captured⟩ := parts_of_findSubmatch (by simp) matched
  obtain _ | ⟨isLead, _ | ⟨isOS, _ | ⟨isMajor, _ | ⟨isMinor, _ | ⟨isPatch, _ | ⟨isVariant, _ |
    ⟨isArchitecture, _ | ⟨isBuild, _ | _⟩⟩⟩⟩⟩⟩⟩⟩ := all
  obtain rfl := eq_ibm isLead
  cases captured
  exact .newer isOS isMajor isMinor isPatch isVariant isArchitecture isBuild

theorem standard_of_match {variant : String} (matched : findSubmatch '-' ibmPattern name =
      some [os, major, minor, variant, architecture, build]) :
    Named name ⟨os, major, minor, "", variant, architecture, build⟩ := by
  obtain ⟨parts, rfl, all, captured⟩ := parts_of_findSubmatch (by simp) matched
  obtain _ | ⟨isLead, _ | ⟨isOS, _ | ⟨isMajor, _ | ⟨isMinor, _ | ⟨isVariant, _ |
    ⟨isArchitecture, _ | ⟨isBuild, _ | _⟩⟩⟩⟩⟩⟩⟩ := all
  obtain rfl := eq_ibm isLead
  cases captured
  exact .standard isOS isMajor isMinor isVariant isArchitecture isBuild

theorem alternative_of_match (matched : findSubmatch '-' ibmAltPattern name =
      some [os, major, minor, architecture, build]) :
    Named name ⟨os, major, minor, "", "minimal", architecture, build⟩ := by
  obtain ⟨parts, rfl, all, captured⟩ := parts_of_findSubmatch (by simp) matched
  obtain _ | ⟨isLead, _ | ⟨isOS, _ | ⟨isMajor, _ | ⟨isMinor, _ | ⟨isArchitecture, _ |
    ⟨isBuild, _ | _⟩⟩⟩⟩⟩⟩ := all
  obtain rfl := eq_ibm isLead
  cases captured
  exact .alternative isOS isMajor isMinor isArchitecture isBuild

theorem legacy_of_match (matched : findSubmatch '-' simplePattern name = some [os, major, minor]) :
    Named name ⟨os, major, minor, "", "minimal", "amd64", "1"⟩ := by
  obtain ⟨parts, rfl, all, captured⟩ := parts_of_findSubmatch (by simp) matched
  obtain _ | ⟨isOS, _ | ⟨isMajor, _ | ⟨isMinor, _ | _⟩⟩⟩ := all
  cases captured
  exact .legacy isOS isMajor isMinor

theorem named_of_parse {components : ImageName} (parsed : parseImageName name = some components) :
    Named name components := by
  unfold parseImageName at parsed
  split at parsed
  case h_1 matched =>
    cases parsed
    exact newer_of_match matched
  case h_2 =>
    split at parsed
    case h_1 matched =>
      cases parsed
      exact standard_of_match matched
    case h_2 =>
      split at parsed
      case h_1 matched =>
        cases parsed
        exact alternative_of_match matched
      case h_2 =>
        split at parsed
        case h_1 matched =>
          cases parsed
          exact legacy_of_match matched
        case h_2 => cases parsed

theorem findSubmatch_of_parts (pat : List Segment) {parts : List String}
    (known : pat ∈ [ibmNewPattern, ibmPattern, ibmAltPattern, simplePattern])
    (all : List.Forall₂ (fun segment part => segment.accepts part = true) pat parts) :
    findSubmatch '-' pat (joinText parts '-') =
      some (List.zipWith Segment.capture pat parts).flatten :=
  (findSubmatch_eq_some_iff (excludes_hyphen known).1 (excludes_hyphen known).2).mpr
    ⟨parts, rfl, all, rfl⟩

theorem parse_of_named {components : ImageName} (named : Named name components) :
    parseImageName name = some components := by
  have lead : (Segment.literal "ibm").accepts "ibm" = true := by decide
  -- the patterns tried before are of another length
  cases named with
  | newer isOS isMajor isMinor isPatch isVariant isArchitecture isBuild =>
    have matched := findSubmatch_of_parts ibmNewPattern (by simp)
      (.cons lead (.cons isOS (.cons isMajor (.cons isMinor (.cons isPatch
        (.cons isVariant (.cons isArchitecture (.cons isBuild .nil))))))))
    rw [parseImageName, matched]
    rfl
  | standard isOS isMajor isMinor isVariant isArchitecture isBuild =>
    have matched := findSubmatch_of_parts ibmPattern (by simp)
      (.cons lead (.cons isOS (.cons isMajor (.cons isMinor (.cons isVariant
        (.cons isArchitecture (.cons isBuild .nil)))))))
    rw [parseImageName, findSubmatch_eq_none matched (by decide), matched]
    rfl
  | alternative isOS isMajor isMinor isArchitecture isBuild =>
    have matched := findSubmatch_of_parts ibmAltPattern (by simp)
      (.cons lead (.cons isOS (.cons isMajor (.cons isMinor (.cons isArchitecture
        (.cons isBuild .nil))))))
    rw [parseImageName, findSubmatch_eq_none matched (by decide),
      findSubmatch_eq_none matched (by decide), matched]
    rfl
  | legacy isOS isMajor isMinor =>
    have matched := findSubmatch_of_parts simplePattern (by simp)
      (.cons isOS (.cons isMajor (.cons isMinor .nil)))
    rw [parseImageName, findSubmatch_eq_none matched (by decide),
      findSubmatch_eq_none matched (by decide), findSubmatch_eq_none matched (by decide),
      matched]
    rfl

/-! ## Selection -/

def wantedArchitecture (selector : ImageSelector) : String :=
  if selector.architecture = "" then "amd64" else selector.architecture

def imageMatchesSelector (image : ImageInfo) (selector : ImageSelector) : Bool :=
  match parseImageName image.name with
  | none => false
  | some components =>
    if components.os ≠ selector.os then false
    else if components.majorVersion ≠ selector.majorVersion then false
    else if selector.minorVersion ≠ "" ∧ components.minorVersion ≠ selector.minorVersion then
      false
    else if components.architecture ≠ wantedArchitecture selector then false
    else if selector.variant ≠ "" ∧ components.variant ≠ selector.variant then false
    else true

def filterImagesBySelector (images : List ImageInfo) (selector : ImageSelector) :
    List ImageInfo :=
  images.filter fun image => imageMatchesSelector image selector

/-- What `strconv.Atoi` returns beside an error that is dropped: zero for digits that are
missing, and the largest integer of 64 bits for a number above it. -/
def versionNumber (text : String) : Int :=
  match digits text.toList with
  | some value => if value < intLimit then value else intLimit - 1
  | none => 0

/-- The comparison of `sortImagesByVersion`. -/
def higherVersion (selector : ImageSelector) (first second : ImageInfo) : Bool :=
  match parseImageName first.name, parseImageName second.name with
  | some one, some two =>
    if selector.minorVersion = "" ∧
        versionNumber one.minorVersion ≠ versionNumber two.minorVersion then
      decide (versionNumber two.minorVersion < versionNumber one.minorVersion)
    else if versionNumber one.patchVersion ≠ versionNumber two.patchVersion then
      decide (versionNumber two.patchVersion < versionNumber one.patchVersion)
    else if versionNumber one.build ≠ versionNumber two.build then
      decide (versionNumber two.build < versionNumber one.build)
    else laterCreated first second
  | _, _ => laterCreated first second

def noImagesFound (selector : ImageSelector) : GoError :=
  .plain ("no images found matching selector: os=" ++ selector.os ++ ", majorVersion=" ++
    selector.majorVersion ++ ", minorVersion=" ++ selector.minorVersion ++
    ", architecture=" ++ selector.architecture ++ ", variant=" ++ selector.variant)

section

-- `lower` is `strings.ToLower`; the two sorts are calls of `sort.Slice`
variable (lower : String → String) (byDate : Sorter laterCreated)
  (byVersion : (selector : ImageSelector) → Sorter (higherVersion selector))
  (service : InventoryService)

def highestOf (candidates : List ImageInfo) (selector : ImageSelector) : Except GoError String :=
  match (byVersion selector).slice candidates with
  | [] => .error (noImagesFound selector)
  | first :: _ => .ok first.id

def resolveImageBySelector : Option ImageSelector → Except GoError String
  | none => .error (.plain "image selector cannot be nil")
  | some selector => do
    let images ← listImagesByVisibility lower byDate service .isPublic ""
    if filterImagesBySelector images selector ≠ [] then
      highestOf byVersion (filterImagesBySelector images selector) selector
    else do
      let privateImages ← listImagesByVisibility lower byDate service .isPrivate ""
      highestOf byVersion (filterImagesBySelector privateImages selector) selector

end

/-! ## What a selector asks for -/

structure Selects (selector : ImageSelector) (name : ImageName) : Prop where
  os : name.os = selector.os
  majorVersion : name.majorVersion = selector.majorVersion
  minorVersion : selector.minorVersion ≠ "" → name.minorVersion = selector.minorVersion
  architecture : name.architecture = wantedArchitecture selector
  variant : selector.variant ≠ "" → name.variant = selector.variant

/-- The image can be used, and its name says what the selector asks for. -/
structure Eligible (selector : ImageSelector) (image : ListedImage) (name : ImageName) :
    Prop where
  identified : image.id ≠ none
  named : ∃ text, image.name = some text ∧ Named text name
  usable : usableStatus image = true
  selected : Selects selector name

/-- The visibility whose images are used: public when a public image is eligible. -/
def IsUsed (inventory : Visibility → List ListedImage) (selector : ImageSelector) :
    Visibility → Prop
  | .isPublic => ∃ image ∈ inventory .isPublic, ∃ name, Eligible selector image name
  | .isPrivate => ∀ image ∈ inventory .isPublic, ∀ name, ¬ Eligible selector image name

/-- Minor version when the selector leaves it open, patch, build and date, the first that
differs deciding; `value` reads a number. -/
def rank (value : String → ℤ) (selector : ImageSelector) (name : ImageName) (createdAt : ℤ) :
    ℤ ×ₗ ℤ ×ₗ ℤ ×ₗ ℤ :=
  toLex (if selector.minorVersion = "" then value name.minorVersion else 0,
    toLex (value name.patchVersion, toLex (value name.build, createdAt)))

/-- The number a text of digits stands for; zero when there is none. -/
def decimal (text : String) : ℤ := (digits text.toList).getD 0

/-- The version numbers of the name fit in a machine integer. -/
structure FitsMachine (name : ImageName) : Prop where
  minorVersion : decimal name.minorVersion < intLimit
  patchVersion : decimal name.patchVersion < intLimit
  build : decimal name.build < intLimit

/-- No eligible image of the visibility ranks above this one. -/
def Highest (value : String → ℤ) (inventory : Visibility → List ListedImage)
    (selector : ImageSelector) (visibility : Visibility) (image : ListedImage)
    (name : ImageName) : Prop :=
  ∀ other ∈ inventory visibility, ∀ otherName, Eligible selector other otherName →
    rank value selector otherName (other.createdAt.getD zeroTime) ≤
      rank value selector name (image.createdAt.getD zeroTime)

theorem Named.unique {name other : ImageName} (named : Named text name)
    (namedToo : Named text other) : name = other :=
  Option.some.inj ((parse_of_named named).symm.trans (parse_of_named namedToo))

variable {info : ImageInfo} {selector : ImageSelector}

theorem imageMatchesSelector_iff :
    imageMatchesSelector info selector = true ↔
      ∃ name, Named info.name name ∧ Selects selector name := by
  unfold imageMatchesSelector
  cases parsed : parseImageName info.name with
  | none =>
    refine iff_of_false Bool.false_ne_true ?_
    rintro ⟨name, named, _⟩
    rw [parse_of_named named] at parsed
    cases parsed
  | some name =>
    have named : Named info.name name := named_of_parse parsed
    constructor
    · intro passed
      refine ⟨name, named, ?_⟩
      dsimp only at passed
      split_ifs at passed with os major minor architecture variant
      exact ⟨not_not.mp os, not_not.mp major, by tauto, not_not.mp architecture, by tauto⟩
    · rintro ⟨other, namedToo, selected⟩
      obtain rfl := named.unique namedToo
      dsimp only
      rw [if_neg (not_not.mpr selected.os), if_neg (not_not.mpr selected.majorVersion),
        if_neg (fun differs => differs.2 (selected.minorVersion differs.1)),
        if_neg (not_not.mpr selected.architecture),
        if_neg (fun differs => differs.2 (selected.variant differs.1))]

theorem versionNumber_eq_decimal (fits : decimal text < intLimit) :
    versionNumber text = decimal text := by
  unfold versionNumber decimal at *
  cases read : digits text.toList with
  | none => rfl
  | some value =>
    rw [read] at fits
    dsimp only
    rw [if_pos (by exact_mod_cast fits)]
    rfl

theorem rank_versionNumber {name : ImageName} (fits : FitsMachine name) (createdAt : ℤ) :
    rank versionNumber selector name createdAt = rank decimal selector name createdAt := by
  unfold rank
  rw [versionNumber_eq_decimal fits.minorVersion, versionNumber_eq_decimal fits.patchVersion,
    versionNumber_eq_decimal fits.build]

theorem higherVersion_iff {first second : ImageInfo} {one two : ImageName}
    (named : Named first.name one) (namedToo : Named second.name two) :
    higherVersion selector first second = true ↔ rank versionNumber selector two second.createdAt <
        rank versionNumber selector one first.createdAt := by
  unfold higherVersion rank
  rw [parse_of_named named, parse_of_named namedToo]
  simp only [Prod.Lex.toLex_lt_toLex, laterCreated]
  by_cases minorOpen : selector.minorVersion = ""
  · simp only [minorOpen, true_and, if_true]
    split_ifs <;> simp only [decide_eq_true_eq] <;> omega
  · simp only [minorOpen, false_and, if_false, lt_self_iff_false, false_or, true_and]
    split_ifs <;> simp only [decide_eq_true_eq] <;> omega

/-! ## The candidates -/

variable {image : ListedImage}

section
variable {lower : String → String} {byDate : Sorter laterCreated}
  {byVersion : (selector : ImageSelector) → Sorter (higherVersion selector)}
  {svc : InventoryService} {inventory : Visibility → List ListedImage}
  {selector : ImageSelector} {visibility : Visibility}

variable (lower byDate inventory selector visibility) in
def selected : List ImageInfo :=
  filterImagesBySelector
    (byDate.slice ((inventory visibility).filterMap (imageInfo lower ""))) selector

theorem mem_selected_iff :
    info ∈ selected lower byDate inventory selector visibility ↔
      ∃ image ∈ inventory visibility, ∃ name, Eligible selector image name ∧
        Named info.name name ∧ imageInfo lower "" image = some info := by
  unfold selected filterImagesBySelector
  rw [mem_filter, (byDate.perm _).mem_iff, mem_filterMap, imageMatchesSelector_iff]
  constructor
  · rintro ⟨⟨image, mem, kept⟩, name, named, selects⟩
    obtain ⟨hasName, hasID, usable, _⟩ := imageInfo_eq_some_iff.mp kept
    refine ⟨image, mem, name, ⟨?_, ⟨_, hasName, named⟩, usable, selects⟩, named, kept⟩
    simp [hasID]
  · rintro ⟨image, mem, name, eligible, named, kept⟩
    exact ⟨⟨image, mem, kept⟩, name, named, eligible.selected⟩

theorem Eligible.exists_info {name : ImageName} (eligible : Eligible selector image name)
    (lower : String → String) :
    ∃ info, imageInfo lower "" image = some info ∧ image.id = some info.id ∧
      Named info.name name ∧ info.createdAt = image.createdAt.getD zeroTime := by
  obtain ⟨id, hasID⟩ := Option.ne_none_iff_exists'.mp eligible.identified
  obtain ⟨text, hasName, named⟩ := eligible.named
  exact ⟨⟨id, text, image.createdAt.getD zeroTime, image.operatingSystem.getD "",
    image.status.getD ""⟩,
    imageInfo_eq_some_iff.mpr ⟨hasName, hasID, eligible.usable, rfl, rfl, rfl⟩, hasID, named, rfl⟩

theorem selected_eq_nil_iff : selected lower byDate inventory selector visibility = [] ↔
      ∀ image ∈ inventory visibility, ∀ name, ¬ Eligible selector image name := by
  rw [eq_nil_iff_forall_not_mem]
  constructor
  · intro empty image mem name eligible
    obtain ⟨info, kept, _, named, _⟩ := eligible.exists_info lower
    exact empty info (mem_selected_iff.mpr ⟨image, mem, name, eligible, named, kept⟩)
  intro nothing info mem
  obtain ⟨image, inside, name, eligible, _⟩ := mem_selected_iff.mp mem
  exact nothing image inside name eligible

theorem strictWeak_higherVersion : StrictWeak (higherVersion selector)
      (selected lower byDate inventory selector visibility) := by
  refine strictWeak_of_rank (fun info => rank versionNumber selector
    ((parseImageName info.name).getD ⟨"", "", "", "", "", "", ""⟩) info.createdAt) ?_
  intro first mem second memberToo
  obtain ⟨_, _, one, _, named, _⟩ := mem_selected_iff.mp mem
  obtain ⟨_, _, two, _, namedToo, _⟩ := mem_selected_iff.mp memberToo
  rw [higherVersion_iff named namedToo, parse_of_named named, parse_of_named namedToo]
  rfl

theorem highest_of_mayLead (leads : MayLead (higherVersion selector)
      (selected lower byDate inventory selector visibility) info) :
    ∃ image ∈ inventory visibility, ∃ name, image.id = some info.id ∧ Eligible selector image name ∧
      Highest versionNumber inventory selector visibility image name := by
  obtain ⟨mem, foremost⟩ := leads
  obtain ⟨image, inside, name, eligible, named, kept⟩ := mem_selected_iff.mp mem
  obtain ⟨_, hasID, _, created, _⟩ := imageInfo_eq_some_iff.mp kept
  refine ⟨image, inside, name, hasID, eligible, fun other insideToo otherName eligibleToo => ?_⟩
  obtain ⟨otherInfo, keptToo, _, namedToo, createdToo⟩ := eligibleToo.exists_info lower
  have behind := foremost strictWeak_higherVersion otherInfo
    (mem_selected_iff.mpr ⟨other, insideToo, otherName, eligibleToo, namedToo, keptToo⟩)
  rw [← Bool.not_eq_true, higherVersion_iff namedToo named, created, createdToo, not_lt] at behind
  exact behind

theorem mayLead_of_highest (lower : String → String) (byDate : Sorter laterCreated)
    {name : ImageName} (inside : image ∈ inventory visibility)
    (eligible : Eligible selector image name)
    (highest : Highest versionNumber inventory selector visibility image name) :
    ∃ info, image.id = some info.id ∧ MayLead (higherVersion selector)
        (selected lower byDate inventory selector visibility) info := by
  obtain ⟨info, kept, hasID, named, created⟩ := eligible.exists_info lower
  refine ⟨info, hasID, mem_selected_iff.mpr ⟨image, inside, name, eligible, named, kept⟩, ?_⟩
  intro _ otherInfo mem
  obtain ⟨other, insideToo, otherName, eligibleToo, namedToo, keptToo⟩ := mem_selected_iff.mp mem
  obtain ⟨_, _, _, createdToo, _⟩ := imageInfo_eq_some_iff.mp keptToo
  rw [← Bool.not_eq_true, higherVersion_iff namedToo named, created, createdToo, not_lt]
  exact highest other insideToo otherName eligibleToo

/-! ## Resolution -/

theorem highestOf_eq_ok_iff {candidates : List ImageInfo} {id : String} :
    highestOf byVersion candidates selector = .ok id ↔
      ∃ info, ((byVersion selector).slice candidates).head? = some info ∧ info.id = id := by
  unfold highestOf
  cases (byVersion selector).slice candidates with
  | nil | cons first rest => simp

theorem highestOf_eq_error_iff {candidates : List ImageInfo} :
    (∃ error, highestOf byVersion candidates selector = .error error) ↔ candidates = [] := by
  have same := (byVersion selector).perm candidates
  unfold highestOf
  cases sorted : (byVersion selector).slice candidates with
  | nil =>
    rw [sorted] at same
    simp [same.symm.eq_nil]
  | cons first rest =>
    rw [sorted] at same
    have ne : candidates ≠ [] := by
      rintro rfl
      cases same.eq_nil
    simp [ne]

theorem resolveImageBySelector_of_used
    (listed : ∀ visibility, svc.listImages visibility = .ok (inventory visibility))
    (used : IsUsed inventory selector visibility) :
    resolveImageBySelector lower byDate byVersion svc (some selector) =
      highestOf byVersion (selected lower byDate inventory selector visibility) selector := by
  have listing : ∀ visibility, listImagesByVisibility lower byDate svc visibility "" =
      .ok (byDate.slice ((inventory visibility).filterMap (imageInfo lower ""))) := by
    intro visibility
    rw [listImagesByVisibility, listed]
  unfold resolveImageBySelector
  rw [listing, listing]
  cases visibility with
  | isPublic =>
    obtain ⟨image, mem, name, eligible⟩ := used
    refine if_pos fun empty => ?_
    exact selected_eq_nil_iff.mp empty image mem name eligible
  | isPrivate => exact if_neg (not_not.mpr (selected_eq_nil_iff.mpr used))

theorem exists_isUsed (inventory : Visibility → List ListedImage) (selector : ImageSelector) :
    ∃ visibility, IsUsed inventory selector visibility := by
  by_cases found : ∃ image ∈ inventory .isPublic, ∃ name, Eligible selector image name
  · exact ⟨.isPublic, found⟩
  · refine ⟨.isPrivate, fun image mem name eligible => ?_⟩
    exact found ⟨image, mem, name, eligible⟩

theorem highest_of_resolved
    (listed : ∀ visibility, svc.listImages visibility = .ok (inventory visibility))
    (used : IsUsed inventory selector visibility) {id : String}
    (resolved : resolveImageBySelector lower byDate byVersion svc (some selector) = .ok id) :
    ∃ image ∈ inventory visibility, ∃ name, image.id = some id ∧ Eligible selector image name ∧
      Highest versionNumber inventory selector visibility image name := by
  rw [resolveImageBySelector_of_used listed used, highestOf_eq_ok_iff] at resolved
  obtain ⟨info, first, rfl⟩ := resolved
  exact highest_of_mayLead ((byVersion selector).mayLead_of_head first)

theorem Highest.decimal {name : ImageName} (fits : ∀ other ∈ inventory visibility, ∀ otherName,
      Eligible selector other otherName → FitsMachine otherName)
    (inside : image ∈ inventory visibility) (eligible : Eligible selector image name)
    (highest : Highest versionNumber inventory selector visibility image name) :
    Highest decimal inventory selector visibility image name := by
  intro other insideToo otherName eligibleToo
  rw [← rank_versionNumber (fits other insideToo otherName eligibleToo),
    ← rank_versionNumber (fits image inside name eligible)]
  exact highest other insideToo otherName eligibleToo

/-- A selector fails exactly when no image is eligible, and is else resolved to a highest
eligible image of the visibility that is used. -/
theorem selector_resolves_to_highest (lower : String → String) (byDate : Sorter laterCreated)
    (byVersion : (selector : ImageSelector) → Sorter (higherVersion selector))
    {service : InventoryService} {inventory : Visibility → List ListedImage}
    (listed : ∀ visibility, service.listImages visibility = .ok (inventory visibility))
    (fits : ∀ visibility, ∀ image ∈ inventory visibility, ∀ text name,
      image.name = some text → Named text name → FitsMachine name)
    (selector : ImageSelector) :
    ((∃ error, resolveImageBySelector lower byDate byVersion service (some selector) =
        .error error) ↔
      ∀ visibility, ∀ image ∈ inventory visibility, ∀ name, ¬ Eligible selector image name) ∧
    ∀ id, resolveImageBySelector lower byDate byVersion service (some selector) = .ok id →
      ∃ visibility, IsUsed inventory selector visibility ∧
        ∃ image ∈ inventory visibility, ∃ name, image.id = some id ∧ Eligible selector image name ∧
          Highest decimal inventory selector visibility image name := by
  obtain ⟨visibility, used⟩ := exists_isUsed inventory selector
  constructor
  · rw [resolveImageBySelector_of_used listed used, highestOf_eq_error_iff, selected_eq_nil_iff]
    constructor
    · intro nothing
      cases visibility with
      | isPublic =>
        obtain ⟨image, member, name, eligible⟩ := used
        exact absurd eligible (nothing image member name)
      | isPrivate =>
        rintro (_ | _)
        · exact used
        · exact nothing
    · exact fun nothing => nothing visibility
  · intro id resolved
    obtain ⟨image, inside, name, given, eligible, highest⟩ :=
      highest_of_resolved listed used resolved
    refine ⟨visibility, used, image, inside, name, given, eligible, ?_⟩
    refine highest.decimal (fun other insideToo otherName eligibleToo => ?_) inside eligible
    obtain ⟨text, hasName, named⟩ := eligibleToo.named
    exact fits visibility other insideToo text otherName hasName named

/-- A selector, with or without a variant, is resolved to an image of the variant minimal
under every sort, exactly when every eligible image that ranks highest is one. -/
theorem open_variant_prefers_minimal_iff {lower : String → String}
    {service : InventoryService} {inventory : Visibility → List ListedImage}
    (listed : ∀ visibility, service.listImages visibility = .ok (inventory visibility))
    {selector : ImageSelector} {visibility : Visibility}
    (used : IsUsed inventory selector visibility)
    (minimal : ∃ image ∈ inventory visibility, ∃ name, Eligible selector image name ∧
      name.variant = "minimal") :
    (∀ (byDate : Sorter laterCreated)
        (byVersion : (selector : ImageSelector) → Sorter (higherVersion selector)),
      ∃ id, resolveImageBySelector lower byDate byVersion service (some selector) = .ok id ∧
        ∃ image ∈ inventory visibility, ∃ name, image.id = some id ∧
          Eligible selector image name ∧ name.variant = "minimal") ↔
      ∀ image ∈ inventory visibility, ∀ name, Eligible selector image name →
        Highest versionNumber inventory selector visibility image name →
          ∃ same ∈ inventory visibility, ∃ sameName, same.id = image.id ∧
            Eligible selector same sameName ∧ sameName.variant = "minimal" := by
  constructor
  · intro resolves image inside name eligible highest
    obtain ⟨byDate⟩ := nonempty_sorter laterCreated
    obtain ⟨info, given, leads⟩ := mayLead_of_highest lower byDate inside eligible highest
    obtain ⟨leading, first⟩ := exists_sorter_of_mayLead leads
    -- the images of any other selector may be sorted in any way
    have usual : (other : ImageSelector) → Sorter (higherVersion other) :=
      fun other => Classical.choice (nonempty_sorter (higherVersion other))
    obtain ⟨id, resolved, found⟩ := resolves byDate (Function.update usual selector leading)
    rw [resolveImageBySelector_of_used listed used, highestOf_eq_ok_iff,
      Function.update_self] at resolved
    obtain ⟨taken, leads, rfl⟩ := resolved
    obtain rfl : info = taken := Option.some.inj (first.symm.trans leads)
    rw [given]
    exact found
  · intro highestMinimal byDate byVersion
    obtain ⟨image, inside, name, eligible, _⟩ := minimal
    cases resolved : resolveImageBySelector lower byDate byVersion service (some selector) with
    | error error =>
      rw [resolveImageBySelector_of_used listed used] at resolved
      have empty := highestOf_eq_error_iff.mp ⟨error, resolved⟩
      exact absurd eligible (selected_eq_nil_iff.mp empty image inside name)
    | ok id =>
      obtain ⟨found, insideToo, foundName, given, eligibleToo, highest⟩ :=
        highest_of_resolved listed used resolved
      obtain ⟨same, insideSame, sameName, sameID, eligibleSame, isMinimal⟩ :=
        highestMinimal found insideToo foundName eligibleToo highest
      exact ⟨id, rfl, same, insideSame, sameName, sameID.trans given, eligibleSame, isMinimal⟩

end

/-! ## Two variants of one release -/

def minimalImage : ListedImage :=
  ⟨⟨some "minimal-1", some "ibm-ubuntu-22-04-minimal-amd64-1", some 1704067200000⟩,
    some "available", none⟩

def serverImage : ListedImage :=
  ⟨⟨some "server-2", some "ibm-ubuntu-22-04-server-amd64-2", some 1706745600000⟩,
    some "available", none⟩

def minimalName : ImageName := ⟨"ubuntu", "22", "04", "", "minimal", "amd64", "1"⟩

def serverName : ImageName := ⟨"ubuntu", "22", "04", "", "server", "amd64", "2"⟩

def variantInventory : Visibility → List ListedImage
  | .isPublic => [minimalImage, serverImage]
  | .isPrivate => []

def ubuntu : ImageSelector := ⟨"ubuntu", "22", "", "", ""⟩

theorem named_minimalImage : Named "ibm-ubuntu-22-04-minimal-amd64-1" minimalName :=
  named_of_parse (by decide)

theorem named_serverImage : Named "ibm-ubuntu-22-04-server-amd64-2" serverName :=
  named_of_parse (by decide)

theorem eligible_minimalImage : Eligible ubuntu minimalImage minimalName :=
  ⟨by decide, ⟨_, rfl, named_minimalImage⟩, by decide,
    ⟨rfl, rfl, fun given => absurd rfl given, rfl, fun given => absurd rfl given⟩⟩

theorem eligible_serverImage : Eligible ubuntu serverImage serverName :=
  ⟨by decide, ⟨_, rfl, named_serverImage⟩, by decide,
    ⟨rfl, rfl, fun given => absurd rfl given, rfl, fun given => absurd rfl given⟩⟩

theorem isUsed_variantInventory : IsUsed variantInventory ubuntu .isPublic :=
  ⟨minimalImage, by simp [variantInventory], minimalName, eligible_minimalImage⟩

theorem named_of_mem_variantInventory {visibility : Visibility}
    (mem : image ∈ variantInventory visibility) {name : ImageName}
    (hasName : image.name = some text) (named : Named text name) :
    image = minimalImage ∧ name = minimalName ∨ image = serverImage ∧ name = serverName := by
  cases visibility with
  | isPrivate => cases mem
  | isPublic =>
    simp only [variantInventory, mem_cons, not_mem_nil, or_false] at mem
    rcases mem with rfl | rfl
    · obtain rfl := Option.some.inj hasName
      exact .inl ⟨rfl, named.unique named_minimalImage⟩
    · obtain rfl := Option.some.inj hasName
      exact .inr ⟨rfl, named.unique named_serverImage⟩

theorem fits_variantInventory : ∀ visibility, ∀ image ∈ variantInventory visibility,
    ∀ text name, image.name = some text → Named text name → FitsMachine name := by
  intro visibility image mem text name hasName named
  rcases named_of_mem_variantInventory mem hasName named with ⟨_, rfl⟩ | ⟨_, rfl⟩
  · exact ⟨by decide, by decide, by decide⟩
  · exact ⟨by decide, by decide, by decide⟩

theorem selector_resolves_to_highest_sample : ∃ (byDate : Sorter laterCreated)
      (byVersion : (selector : ImageSelector) → Sorter (higherVersion selector)),
    ((∃ error, resolveImageBySelector lowerText byDate byVersion
        (inventoryService variantInventory) (some ubuntu) = .error error) ↔
      ∀ visibility, ∀ image ∈ variantInventory visibility, ∀ name, ¬ Eligible ubuntu image name) ∧
    ∀ id, resolveImageBySelector lowerText byDate byVersion
        (inventoryService variantInventory) (some ubuntu) = .ok id →
      ∃ visibility, IsUsed variantInventory ubuntu visibility ∧
        ∃ image ∈ variantInventory visibility, ∃ name, image.id = some id ∧
          Eligible ubuntu image name ∧
          Highest decimal variantInventory ubuntu visibility image name := by
  obtain ⟨byDate⟩ := nonempty_sorter laterCreated
  have byVersion : (selector : ImageSelector) → Sorter (higherVersion selector) :=
    fun selector => Classical.choice (nonempty_sorter (higherVersion selector))
  exact ⟨byDate, byVersion, selector_resolves_to_highest lowerText byDate byVersion
    (fun _ => rfl) fits_variantInventory ubuntu⟩

theorem open_variant_prefers_minimal_iff_sample : (∀ (byDate : Sorter laterCreated)
        (byVersion : (selector : ImageSelector) → Sorter (higherVersion selector)),
      ∃ id, resolveImageBySelector lowerText byDate byVersion
          (inventoryService variantInventory) (some ubuntu) = .ok id ∧
        ∃ image ∈ variantInventory .isPublic, ∃ name, image.id = some id ∧
          Eligible ubuntu image name ∧ name.variant = "minimal") ↔
      ∀ image ∈ variantInventory .isPublic, ∀ name, Eligible ubuntu image name →
        Highest versionNumber variantInventory ubuntu .isPublic image name →
          ∃ same ∈ variantInventory .isPublic, ∃ sameName, same.id = image.id ∧
            Eligible ubuntu same sameName ∧ sameName.variant = "minimal" :=
  open_variant_prefers_minimal_iff (fun _ => rfl) isUsed_variantInventory
    ⟨minimalImage, by simp [variantInventory], minimalName, eligible_minimalImage, rfl⟩

/-- The later build of the variant server is taken before the minimal one. -/
theorem server_variant_taken : ubuntu.variant = "" ∧ IsUsed variantInventory ubuntu .isPublic ∧
      (∃ image ∈ variantInventory .isPublic, ∃ name, Eligible ubuntu image name ∧
        name.variant = "minimal") ∧
      ∃ (byDate : Sorter laterCreated)
        (byVersion : (selector : ImageSelector) → Sorter (higherVersion selector)),
        resolveImageBySelector lowerText byDate byVersion
            (inventoryService variantInventory) (some ubuntu) = .ok "server-2" ∧
          ¬ ∃ image ∈ variantInventory .isPublic, ∃ name, image.id = some "server-2" ∧
            Eligible ubuntu image name ∧ name.variant = "minimal" := by
  refine ⟨rfl, isUsed_variantInventory,
    ⟨minimalImage, by simp [variantInventory], minimalName, eligible_minimalImage, rfl⟩, ?_⟩
  obtain ⟨byDate⟩ := nonempty_sorter laterCreated
  have byVersion : (selector : ImageSelector) → Sorter (higherVersion selector) :=
    fun selector => Classical.choice (nonempty_sorter (higherVersion selector))
  refine ⟨byDate, byVersion, ?_, ?_⟩
  · cases resolved : resolveImageBySelector lowerText byDate byVersion
        (inventoryService variantInventory) (some ubuntu) with
    | error error =>
      rw [resolveImageBySelector_of_used (fun _ => rfl) isUsed_variantInventory] at resolved
      have empty := highestOf_eq_error_iff.mp ⟨error, resolved⟩
      exact absurd eligible_serverImage
        (selected_eq_nil_iff.mp empty _ (by simp [variantInventory]) _)
    | ok id =>
      obtain ⟨image, inside, name, given, eligible, highest⟩ :=
        highest_of_resolved (fun _ => rfl) isUsed_variantInventory resolved
      obtain ⟨text, hasName, named⟩ := eligible.named
      rcases named_of_mem_variantInventory inside hasName named with ⟨rfl, rfl⟩ | ⟨rfl, rfl⟩
      · have ranked := highest serverImage (by simp [variantInventory]) serverName
          eligible_serverImage
        exact absurd ranked (by decide)
      · cases given
        rfl
  · rintro ⟨image, inside, name, given, eligible, isMinimal⟩
    obtain ⟨text, hasName, named⟩ := eligible.named
    rcases named_of_mem_variantInventory inside hasName named with ⟨rfl, rfl⟩ | ⟨rfl, rfl⟩
    · exact absurd given (by decide)
    · exact absurd isMinimal (by decide)

end KarpenterIBM.ImageResolver
