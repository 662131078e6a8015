import KarpenterIBM.Lib.Text
import Mathlib.Data.List.Forall2

/-!
# Regular expressions of separated segments

Anchored expressions such as `^ibm-([a-z]+)-([0-9]+)$`: fixed texts and captured non-empty runs
of a character class, joined by a separator that no class contains.
-/

namespace KarpenterIBM.SegmentPattern

open Text

/-- A segment: fixed text, or a captured run of allowed characters. -/
inductive Segment where
  | literal (text : String)
  | run (allowed : Char → Bool)

def Segment.accepts : Segment → String → Bool
  | .literal text, part => decide (part = text)
  | .run allowed, part => decide (part ≠ "") && part.toList.all allowed

def Segment.capture : Segment → String → List String
  | .literal _, _ => []
  | .run _, part => [part]

def Segment.Excludes (separator : Char) : Segment → Prop
  | .literal text => separator ∉ text.toList
  | .run allowed => allowed separator = false

instance (separator : Char) : (segment : Segment) → Decidable (segment.Excludes separator)
  | .literal text => inferInstanceAs (Decidable (separator ∉ text.toList))
  | .run allowed => inferInstanceAs (Decidable (allowed separator = false))

def submatch : List Segment → List String → Option (List String)
  | [], [] => some []
  | segment :: pattern, part :: parts =>
    if segment.accepts part then
      (submatch pattern parts).map fun captured => segment.capture part ++ captured
    else none
  | _, _ => none

/-- `FindStringSubmatch`, without the match as a whole. -/
def findSubmatch (separator : Char) (pattern : List Segment) (text : String) :
    Option (List String) :=
  submatch pattern (splitText text separator)

theorem Segment.Excludes.of_accepts {sep : Char} {segment : Segment} {part : String}
    (excludes : segment.Excludes sep) (accepts : segment.accepts part = true) :
    sep ∉ part.toList := by
  cases segment with
  | literal text =>
    have same : part = text := by simpa [Segment.accepts] using accepts
    rw [same]
    exact excludes
  | run allowed =>
    intro inside
    rw [Segment.accepts, Bool.and_eq_true, List.all_eq_true] at accepts
    have permitted : allowed sep = true := accepts.2 sep inside
    rw [Segment.Excludes, permitted] at excludes
    cases excludes

variable {captured : List String} {pat : List Segment}

theorem submatch_eq_some_iff {parts : List String} :
    submatch pat parts = some captured ↔
      List.Forall₂ (fun segment part => segment.accepts part = true) pat parts ∧
        captured = (List.zipWith Segment.capture pat parts).flatten := by
  induction pat generalizing parts captured with
  | nil =>
    cases parts with
    | nil =>
      rw [submatch, Option.some_inj]
      exact ⟨fun same => ⟨.nil, same.symm⟩, fun given => given.2.symm⟩
    | cons part parts => simp [submatch]
  | cons segment pat ih =>
    cases parts with
    | nil => simp [submatch]
    | cons part parts =>
      rw [submatch, List.forall₂_cons]
      by_cases accepts : segment.accepts part = true
      · rw [if_pos accepts, Option.map_eq_some_iff]
        constructor
        · rintro ⟨rest, matched, rfl⟩
          obtain ⟨all, rfl⟩ := ih.mp matched
          exact ⟨⟨accepts, all⟩, rfl⟩
        · rintro ⟨⟨_, all⟩, rfl⟩
          exact ⟨_, ih.mpr ⟨all, rfl⟩, rfl⟩
      · rw [if_neg accepts]
        simp [accepts]

theorem findSubmatch_eq_some_iff {sep : Char} {text : String} (ne : pat ≠ [])
    (excludes : ∀ segment ∈ pat, segment.Excludes sep) :
    findSubmatch sep pat text = some captured ↔ ∃ parts, text = joinText parts sep ∧
        List.Forall₂ (fun segment part => segment.accepts part = true) pat parts ∧
        captured = (List.zipWith Segment.capture pat parts).flatten := by
  rw [findSubmatch, submatch_eq_some_iff]
  constructor
  · rintro ⟨all, same⟩
    exact ⟨_, (joinText_splitText text sep).symm, all, same⟩
  rintro ⟨parts, rfl, all, same⟩
  have somePart : parts ≠ [] := by
    rintro rfl
    cases all
    exact ne rfl
  have absent : ∀ part ∈ parts, sep ∉ part.toList := by
    intro part mem
    obtain ⟨index, bound, rfl⟩ := List.getElem_of_mem mem
    have fits : index < pat.length := all.length_eq ▸ bound
    exact (excludes _ (List.getElem_mem fits)).of_accepts (all.get fits bound)
  rw [splitText_joinText parts sep somePart absent]
  exact ⟨all, same⟩

theorem findSubmatch_eq_none {sep : Char} {other : List Segment} {text : String}
    (matched : findSubmatch sep pat text = some captured) (differ : pat.length ≠ other.length) :
    findSubmatch sep other text = none := by
  rw [Option.eq_none_iff_forall_ne_some]
  intro found matchedToo
  have parts := (submatch_eq_some_iff.mp matched).1.length_eq
  have partsToo := (submatch_eq_some_iff.mp matchedToo).1.length_eq
  exact differ (parts.trans partsToo.symm)

end KarpenterIBM.SegmentPattern
