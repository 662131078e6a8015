import Mathlib.Data.List.Infix

/-!
# Text operations

The string functions the verified code takes from its standard library: the substring test,
lower-casing, splitting and joining at a separator, and the query encoding of a URL.
-/

namespace KarpenterIBM.Text

open List

def containsChars (pattern : List Char) : List Char → Bool
  | [] => pattern.isPrefixOf []
  | c :: rest => pattern.isPrefixOf (c :: rest) || containsChars pattern rest

def containsText (text pattern : String) : Bool :=
  containsChars pattern.toList text.toList

def hasLead (text lead : String) : Bool :=
  lead.toList.isPrefixOf text.toList

def lowerChar (c : Char) : Char :=
  if c = Char.ofNat 0x130 then 'i'
  else if c = Char.ofNat 0x212A then 'k'
  else c.toLower

def lowerText (text : String) : String :=
  String.ofList (text.toList.map lowerChar)

/-- The white space of `strings.TrimSpace`. -/
def isSpace (c : Char) : Bool :=
  (9 ≤ c.toNat && c.toNat ≤ 13) || c.toNat = 0x20 || c.toNat = 0x85 || c.toNat = 0xA0 ||
    c.toNat = 0x1680 || (0x2000 ≤ c.toNat && c.toNat ≤ 0x200A) || c.toNat = 0x2028 ||
    c.toNat = 0x2029 || c.toNat = 0x202F || c.toNat = 0x205F || c.toNat = 0x3000

/-- `strings.TrimSpace`. -/
@[irreducible] def trimSpace (text : String) : String :=
  String.ofList ((text.toList.dropWhile isSpace).reverse.dropWhile isSpace).reverse

def splitText (text : String) (separator : Char) : List String :=
  (text.toList.splitOn separator).map String.ofList

def joinText (parts : List String) (separator : Char) : String :=
  String.ofList ([separator].intercalate (parts.map String.toList))

def trimLead (text lead : String) : String :=
  if hasLead text lead then String.ofList (text.toList.drop lead.toList.length) else text

def cutChars (separator : Char) : List Char → Option (List Char × List Char)
  | [] => none
  | c :: rest =>
    if c = separator then some ([], rest)
    else (cutChars separator rest).map fun parts => (c :: parts.1, parts.2)

/-- `strings.SplitN` into two, when there are two: the parts around the first separator. -/
def cutText (text : String) (separator : Char) : Option (String × String) :=
  (cutChars separator text.toList).map fun parts =>
    (String.ofList parts.1, String.ofList parts.2)

/-! ## Numbers -/

def digits (chars : List Char) : Option Nat :=
  if chars ≠ [] ∧ chars.all Char.isDigit then
    some (chars.foldl (fun value c => value * 10 + (c.toNat - 48)) 0)
  else none

def intLimit : Nat := 9223372036854775808

/-- `strconv.Atoi`: an optional sign and decimal digits that fit 64 bits. -/
def atoi (text : String) : Option Int :=
  match text.toList with
  | '-' :: rest =>
    (digits rest).bind fun value => if value ≤ intLimit then some (-(value : Int)) else none
  | '+' :: rest =>
    (digits rest).bind fun value => if value < intLimit then some (value : Int) else none
  | chars =>
    (digits chars).bind fun value => if value < intLimit then some (value : Int) else none

/-! ## Query encoding -/

def unreserved (c : Char) : Bool :=
  c.isAlphanum || c = '-' || c = '_' || c = '.' || c = '~'

def hexDigit (n : Nat) : Char :=
  if n < 10 then Char.ofNat (48 + n) else Char.ofNat (55 + n)

def escapeByte (byte : UInt8) : List Char :=
  ['%', hexDigit (byte.toNat / 16), hexDigit (byte.toNat % 16)]

def escapeChar (c : Char) : List Char :=
  if unreserved c then [c]
  else if c = ' ' then ['+']
  else (String.utf8EncodeChar c).flatMap escapeByte

def queryEscape (text : String) : String :=
  String.ofList (text.toList.flatMap escapeChar)

def encodeQuery (parameters : List (String × String)) : String :=
  String.ofList (['&'].intercalate (parameters.map fun parameter =>
    (queryEscape parameter.1).toList ++ '=' :: (queryEscape parameter.2).toList))

/-! ## Searching -/

theorem containsChars_iff (pat text : List Char) :
    containsChars pat text = true ↔ pat <:+: text := by
  induction text with
  | nil => simp [containsChars]
  | cons c rest ih =>
    rw [containsChars, Bool.or_eq_true, ih, isPrefixOf_iff_prefix, infix_cons_iff]

theorem lowerText_append (first second : String) :
    lowerText (first ++ second) = lowerText first ++ lowerText second := by
  simp [lowerText]

theorem containsText_append_left (first second pat : String)
    (found : containsText first pat = true) :
    containsText (first ++ second) pat = true := by
  unfold containsText at found ⊢
  rw [containsChars_iff] at found ⊢
  rw [String.toList_append]
  exact found.trans (prefix_append _ _).isInfix

theorem containsText_append_right (first second pat : String)
    (found : containsText second pat = true) :
    containsText (first ++ second) pat = true := by
  unfold containsText at found ⊢
  rw [containsChars_iff] at found ⊢
  rw [String.toList_append]
  exact found.trans (suffix_append _ _).isInfix

/-! ## Leads -/

@[simp] theorem hasLead_append (lead rest : String) : hasLead (lead ++ rest) lead = true := by
  rw [hasLead, String.toList_append, isPrefixOf_iff_prefix]
  exact prefix_append _ _

@[simp] theorem trimLead_append (lead rest : String) : trimLead (lead ++ rest) lead = rest := by
  rw [trimLead, if_pos (hasLead_append lead rest), String.toList_append, drop_left,
    String.ofList_toList]

theorem exists_of_hasLead {text lead : String} (led : hasLead text lead = true) :
    ∃ rest, text = lead ++ rest := by
  obtain ⟨rest, same⟩ := isPrefixOf_iff_prefix.mp led
  refine ⟨String.ofList rest, ?_⟩
  rw [← String.toList_inj, String.toList_append, String.toList_ofList, same]

/-! ## White space around a text -/

theorem dropWhile_padded {lead core : List Char} (blank : ∀ c ∈ lead, isSpace c = true)
    (solid : ∀ c ∈ core.head?, isSpace c = false) :
    (lead ++ core).dropWhile isSpace = core := by
  induction lead with
  | nil =>
    cases core with
    | nil => rfl
    | cons c rest => simp [solid c rfl]
  | cons c rest ih =>
    rw [cons_append, dropWhile_cons, if_pos (blank c mem_cons_self)]
    exact ih fun other mem => blank other (mem_cons_of_mem _ mem)

theorem trimSpace_padded (lead core tail : List Char)
    (blank : ∀ c ∈ lead ++ tail, isSpace c = true) (solid : ∀ c ∈ core, isSpace c = false)
    (found : core ≠ []) :
    trimSpace (String.ofList (lead ++ core ++ tail)) = String.ofList core := by
  have first : ∀ rest, ∀ c ∈ (core ++ rest).head?, isSpace c = false := by
    intro rest c head
    cases core with
    | nil => exact absurd rfl found
    | cons d others =>
      cases head
      exact solid _ mem_cons_self
  have last : ∀ c ∈ core.reverse.head?, isSpace c = false := fun c head =>
    solid c (mem_reverse.mp (mem_of_mem_head? head))
  rw [trimSpace, String.toList_ofList, append_assoc,
    dropWhile_padded (fun c mem => blank c (mem_append_left _ mem)) (first tail),
    reverse_append,
    dropWhile_padded (fun c mem => blank c (by simpa using .inr (mem_reverse.mp mem)))
      last, reverse_reverse]

theorem mem_of_mem_trimSpace {text : String} {c : Char} (member : c ∈ (trimSpace text).toList) :
    c ∈ text.toList := by
  rw [trimSpace, String.toList_ofList, mem_reverse] at member
  have kept := (dropWhile_sublist isSpace).mem member
  exact (dropWhile_sublist isSpace).mem (mem_reverse.mp kept)

/-- The first character that is no white space stays the first one. -/
theorem trimSpace_head (lead rest : List Char) {c : Char} (blank : ∀ d ∈ lead, isSpace d = true)
    (solid : isSpace c = false) :
    ∃ others, trimSpace (String.ofList (lead ++ c :: rest)) = String.ofList (c :: others) := by
  have kept : ((lead ++ c :: rest).dropWhile isSpace) = c :: rest := by
    refine dropWhile_padded blank ?_
    rintro d ⟨⟩
    exact solid
  have whole : (c :: rest).reverse.dropWhile isSpace = (rest.reverse.dropWhile isSpace) ++ [c] := by
    rw [reverse_cons, dropWhile_append]
    split
    · rename_i gone
      rw [isEmpty_iff.mp gone]
      simp [solid]
    · rfl
  refine ⟨(rest.reverse.dropWhile isSpace).reverse, ?_⟩
  rw [trimSpace, String.toList_ofList, kept, whole, reverse_append]
  rfl

/-! ## Separators -/

theorem append_separator_inj {α : Type} {sep : α} {first second last final : List α}
    (absent : sep ∉ last) (absentToo : sep ∉ final)
    (same : first ++ sep :: last = second ++ sep :: final) :
    first = second ∧ last = final := by
  rcases append_eq_append_iff.mp same with ⟨mid, split, rest⟩ | ⟨mid, split, rest⟩
  · cases mid with
    | nil => simp_all
    | cons head tail =>
      have inLast : sep ∈ last := by
        have shifted := (List.cons.inj rest).2
        rw [shifted]
        simp
      exact absurd inLast absent
  · cases mid with
    | nil => simp_all
    | cons head tail =>
      have inFinal : sep ∈ final := by
        have shifted := (List.cons.inj rest).2
        rw [shifted]
        simp
      exact absurd inFinal absentToo

theorem cutChars_eq_some_iff (sep : Char) (text first last : List Char) :
    cutChars sep text = some (first, last) ↔ sep ∉ first ∧ text = first ++ sep :: last := by
  induction text generalizing first with
  | nil => simp [cutChars]
  | cons c rest ih =>
    rw [cutChars]
    by_cases here : c = sep
    · subst here
      cases first with
      | nil => simp
      | cons head tail => simp +contextual [eq_comm]
    rw [if_neg here]
    cases first with
    | nil => simp [here]
    | cons head tail =>
      have inner := ih tail
      constructor
      · intro same
        obtain ⟨⟨before, after⟩, found, split⟩ := Option.map_eq_some_iff.mp same
        simp only [Prod.mk.injEq, List.cons.injEq] at split
        obtain ⟨⟨rfl, rfl⟩, rfl⟩ := split
        obtain ⟨absent, rfl⟩ := inner.mp found
        exact ⟨by simp [absent, Ne.symm here], rfl⟩
      · rintro ⟨absent, same⟩
        obtain ⟨rfl, rfl⟩ := List.cons.inj same
        rw [inner.mpr ⟨fun inTail => absent (mem_cons_of_mem _ inTail), rfl⟩]
        rfl

variable (text : String)

theorem cutText_eq_some_iff (first last : String) (sep : Char) :
    cutText text sep = some (first, last) ↔
      sep ∉ first.toList ∧ text.toList = first.toList ++ sep :: last.toList := by
  rw [← cutChars_eq_some_iff, cutText, Option.map_eq_some_iff]
  constructor
  · rintro ⟨parts, found, same⟩
    obtain ⟨rfl, rfl⟩ := Prod.mk.inj same
    simpa using found
  · intro found
    exact ⟨_, found, by simp⟩

/-! ## Splitting what was joined -/

theorem splitText_joinText (parts : List String) (sep : Char)
    (somePart : parts ≠ []) (absent : ∀ part ∈ parts, sep ∉ part.toList) :
    splitText (joinText parts sep) sep = parts := by
  have listed : ∀ piece ∈ parts.map String.toList, sep ∉ piece := by
    intro piece mem
    obtain ⟨part, partMember, rfl⟩ := mem_map.mp mem
    exact absent part partMember
  have ne : parts.map String.toList ≠ [] := by simpa using somePart
  unfold splitText joinText
  rw [String.toList_ofList, splitOn_intercalate sep listed ne]
  rw [map_map]
  simp

theorem splitText_append {first : List Char} {separator : Char} (absent : separator ∉ first)
    (rest : List Char) :
    splitText (String.ofList (first ++ separator :: rest)) separator =
      String.ofList first :: splitText (String.ofList rest) separator := by
  have apart : ∀ c ∈ first, (c == separator) = false := by
    intro c mem
    rw [beq_eq_false_iff_ne]
    rintro rfl
    exact absent mem
  unfold splitText
  rw [String.toList_ofList, String.toList_ofList, List.splitOn,
    splitOnP_append_cons_of_forall_mem apart separator (beq_self_eq_true separator) rest]
  rfl

theorem splitText_single {text : String} {sep : Char} (absent : sep ∉ text.toList) :
    splitText text sep = [text] := by
  have whole := splitText_joinText [text] sep (by simp) (by simpa using absent)
  simpa [joinText] using whole

theorem splitText_head (sep : Char) :
    ∃ part rest, splitText text sep = part :: rest ∧ sep ∉ part.toList := by
  by_cases separated : sep ∈ text.toList
  · obtain ⟨first, rest, same, absent⟩ := eq_append_cons_of_mem separated
    refine ⟨String.ofList first, splitText (String.ofList rest) sep, ?_, by simpa using absent⟩
    rw [← splitText_append absent, ← same, String.ofList_toList]
  · exact ⟨text, [], splitText_single separated, separated⟩

theorem splitText_separator (rest : String) (separator : Char) :
    splitText (String.singleton separator ++ rest) separator = "" :: splitText rest separator := by
  simp [splitText, splitOn_cons_eq_if_modifyHead]

theorem joinText_splitText (sep : Char) : joinText (splitText text sep) sep = text := by
  unfold joinText splitText
  rw [map_map]
  simp [Function.comp_def, intercalate_splitOn]

end KarpenterIBM.Text
