import KarpenterIBM.Lib.GoText
import Mathlib

/-!
# Export statements of a shell script

The double-quote rules of bash, and the evaluation of lines that export variables.
-/

namespace KarpenterIBM.Shell

open GoText List

/-! ## Double quotes -/

/-- What the text after an opening quote is: a value up to the closing quote and what follows
it, a value with a substitution in it, or a value that does not end. -/
inductive Reading where
  | closed (value rest : GoString)
  | expands
  | unterminated
deriving DecidableEq

/-- The reading with this text before its value. -/
def Reading.after (text : GoString) : Reading → Reading
  | .closed value rest => .closed (text ++ value) rest
  | other => other

/-- A dollar sign before this text starts a substitution: of a parameter, a command or an
arithmetic expression. -/
def startsExpansion : GoString → Bool
  | .char c :: _ =>
    c.isAlphanum || decide (c ∈ ['_', '{', '(', '[', '*', '@', '#', '?', '-', '$', '!'])
  | _ => false

def escapable (c : Char) : Bool :=
  decide (c ∈ ['$', '\x60', '"', '\\'])

def unescaped : Rune → GoString
  | .stray byte => [.char '\\', .stray byte]
  | .char c =>
    if escapable c then [.char c]
    else if c = '\n' then []
    else [.char '\\', .char c]

def doubleQuoted : GoString → Reading
  | [] => .unterminated
  | .stray byte :: rest => (doubleQuoted rest).after [.stray byte]
  | .char c :: rest =>
    if c = '"' then .closed [] rest
    else if c = '\x60' then .expands
    else if c = '$' then
      if startsExpansion rest then .expands else (doubleQuoted rest).after [.char '$']
    else if c = '\\' then
      match rest with
      | [] => .unterminated
      | next :: later => (doubleQuoted later).after (unescaped next)
    else (doubleQuoted rest).after [.char c]

/-! ## Statements -/

structure Assignment where
  name : GoString
  value : GoString
deriving DecidableEq

def nameStart : Rune → Bool
  | .char c => c.isAlpha || decide (c = '_')
  | .stray _ => false

def namePart : Rune → Bool
  | .char c => c.isAlphanum || decide (c = '_')
  | .stray _ => false

/-- The names that a shell variable can have. -/
def identifier : GoString → Bool
  | [] => false
  | first :: rest => nameStart first && rest.all namePart

def stripLead (lead text : GoString) : Option GoString :=
  if lead.isPrefixOf text then some (text.drop lead.length) else none

def exportValue (name : GoString) : GoString → Option (Assignment × GoString)
  | .char '=' :: .char '"' :: body =>
    match doubleQuoted body with
    | .closed value (.char '\n' :: rest) => some (⟨name, value⟩, rest)
    | _ => none
  | _ => none

def exportStatement (text : GoString) : Option (Assignment × GoString) :=
  match stripLead (lit "export ") text with
  | none => none
  | some body =>
    if identifier (body.takeWhile (· ≠ .char '=')) then
      exportValue (body.takeWhile (· ≠ .char '=')) (body.dropWhile (· ≠ .char '='))
    else none

def evaluateLine (text : GoString) : Option (List Assignment × GoString) :=
  match text with
  | .char '\n' :: rest => some ([], rest)
  | _ => (exportStatement text).map fun done => ([done.1], done.2)

def exportsWithin : Nat → GoString → Option (List Assignment)
  | _, [] => some []
  | 0, _ :: _ => none
  | fuel + 1, first :: rest =>
    match evaluateLine (first :: rest) with
    | none => none
    | some (assigned, later) => (exportsWithin fuel later).map (assigned ++ ·)

def exports (text : GoString) : Option (List Assignment) := exportsWithin text.length text

/-! ## Reading -/

variable {text rest : GoString}

variable {value : GoString}

theorem after_eq_closed_iff {reading : Reading} :
    reading.after text = .closed value rest ↔
      ∃ inner, reading = .closed inner rest ∧ value = text ++ inner := by
  cases reading with
  | closed inner later =>
    simp only [Reading.after, Reading.closed.injEq]
    constructor
    · rintro ⟨rfl, rfl⟩
      exact ⟨inner, ⟨rfl, rfl⟩, rfl⟩
    · rintro ⟨_, ⟨rfl, rfl⟩, rfl⟩
      exact ⟨rfl, rfl⟩
  | expands | unterminated => simp [Reading.after]

theorem after_eq_closed_append_iff {reading : Reading} :
    reading.after text = .closed (text ++ value) rest ↔ reading = .closed value rest := by
  rw [after_eq_closed_iff]
  simp

@[simp] theorem after_nil (reading : Reading) : reading.after [] = reading := by
  cases reading <;> rfl

theorem after_after (reading : Reading) (first second : GoString) :
    (reading.after second).after first = reading.after (first ++ second) := by
  cases reading <;> simp [Reading.after]

def ordinary (c : Char) : Bool :=
  decide (c ∉ ['"', '\x60', '$', '\\'])

variable {c : Char}

theorem doubleQuoted_of_ne (other : c ≠ '\\') (rest : GoString) :
    doubleQuoted (.char c :: rest) =
      if c = '"' then .closed [] rest else if c = '\x60' then .expands
      else if c = '$' ∧ startsExpansion rest then .expands
      else (doubleQuoted rest).after [.char c] := by
  rw [doubleQuoted.eq_def]
  by_cases dollar : c = '$'
  · simp [dollar]
  · simp [dollar, other]

theorem doubleQuoted_ordinary (plain : ordinary c = true) (rest : GoString) :
    doubleQuoted (.char c :: rest) = (doubleQuoted rest).after [.char c] := by
  simp only [ordinary, mem_cons, not_mem_nil, or_false, not_or, decide_eq_true_eq] at plain
  obtain ⟨quote, command, dollar, backslash⟩ := plain
  rw [doubleQuoted_of_ne backslash]
  simp only [quote, command, dollar, false_and, if_false]

theorem doubleQuoted_chars {chars : List Char} (plain : ∀ c ∈ chars, ordinary c = true)
    (rest : GoString) :
    doubleQuoted (chars.map .char ++ rest) = (doubleQuoted rest).after (chars.map .char) := by
  induction chars with
  | nil => simp
  | cons c chars ih =>
    rw [map_cons, cons_append, doubleQuoted_ordinary (plain c (mem_cons_self ..)),
      ih fun d mem => plain d (mem_cons_of_mem _ mem), after_after]
    rfl

theorem doubleQuoted_quote (rest : GoString) :
    doubleQuoted (.char '"' :: rest) = .closed [] rest :=
  doubleQuoted_of_ne (by decide) rest

theorem doubleQuoted_command (rest : GoString) :
    doubleQuoted (.char '\x60' :: rest) = .expands :=
  doubleQuoted_of_ne (by decide) rest

theorem doubleQuoted_backslash (next : Rune) (later : GoString) :
    doubleQuoted (.char '\\' :: next :: later) = (doubleQuoted later).after (unescaped next) :=
  rfl

theorem doubleQuoted_dollar (rest : GoString) : doubleQuoted (.char '$' :: rest) =
      if startsExpansion rest then .expands else (doubleQuoted rest).after [.char '$'] := by
  rw [doubleQuoted_of_ne (by decide)]
  simp

theorem length_unescaped_le (next : Rune) : (unescaped next).length ≤ 2 := by
  unfold unescaped
  split
  · simp
  · split_ifs <;> simp

theorem length_of_doubleQuoted (closed : doubleQuoted text = .closed value rest) :
    value.length + rest.length < text.length := by
  fun_induction doubleQuoted text generalizing value with
  | case1 => cases closed
  | case2 byte later ih =>
    obtain ⟨inner, read, rfl⟩ := after_eq_closed_iff.mp closed
    have shorter := ih read
    simp only [length_append, length_cons, length_nil]
    omega
  | case3 later =>
    cases closed
    simp
  | case4 | case5 => cases closed
  | case6 later _ _ _ ih =>
    obtain ⟨inner, read, rfl⟩ := after_eq_closed_iff.mp closed
    have shorter := ih read
    simp only [length_append, length_cons, length_nil]
    omega
  | case7 => cases closed
  | case8 next later _ _ _ ih =>
    obtain ⟨inner, read, rfl⟩ := after_eq_closed_iff.mp closed
    have shorter := ih read
    have short := length_unescaped_le next
    simp only [length_append, length_cons]
    omega
  | case9 c later _ _ _ _ ih =>
    obtain ⟨inner, read, rfl⟩ := after_eq_closed_iff.mp closed
    have shorter := ih read
    simp only [length_append, length_cons, length_nil]
    omega

/-! ## Evaluating -/

variable {name : GoString} {assignment : Assignment}

theorem length_of_exportValue (ran : exportValue name text = some (assignment, rest)) :
    rest.length < text.length := by
  unfold exportValue at ran
  split at ran
  · next body =>
      split at ran
      · next value later closed =>
          cases ran
          have shorter := length_of_doubleQuoted closed
          simp only [length_cons] at shorter ⊢
          omega
      · cases ran
  · cases ran

theorem length_of_exportStatement (ran : exportStatement text = some (assignment, rest)) :
    rest.length < text.length := by
  unfold exportStatement stripLead at ran
  split at ran
  · cases ran
  next body stripped =>
    split_ifs at stripped ran
    cases stripped
    have shorter := length_of_exportValue ran
    have dropped := ((dropWhile_suffix (l := text.drop (lit "export ").length)
      (· ≠ .char '=')).length_le)
    rw [length_drop] at dropped
    omega

variable {later : GoString}

theorem length_of_evaluateLine {assigned : List Assignment}
    (ran : evaluateLine text = some (assigned, later)) : later.length < text.length := by
  unfold evaluateLine at ran
  split at ran
  · cases ran
    simp
  obtain ⟨⟨assignment, rest⟩, statement, ⟨⟩⟩ := Option.map_eq_some_iff.mp ran
  exact length_of_exportStatement statement

theorem exportsWithin_nil (fuel : Nat) : exportsWithin fuel [] = some [] := by
  cases fuel <;> rfl

theorem exportsWithin_eq_of_le {fuel other : Nat} (enough : text.length ≤ fuel)
    (enoughToo : text.length ≤ other) : exportsWithin fuel text = exportsWithin other text := by
  induction fuel generalizing other text with
  | zero =>
    rw [length_eq_zero_iff.mp (Nat.le_zero.mp enough), exportsWithin_nil, exportsWithin_nil]
  | succ fuel ih =>
    cases text with
    | nil => rw [exportsWithin_nil, exportsWithin_nil]
    | cons first rest =>
      cases other with
      | zero => simp at enoughToo
      | succ other =>
        rw [exportsWithin, exportsWithin]
        cases ran : evaluateLine (first :: rest) with
        | none => rfl
        | some done =>
          obtain ⟨assigned, later⟩ := done
          have shorter := length_of_evaluateLine ran
          dsimp only
          have same : exportsWithin fuel later = exportsWithin other later :=
            ih (by omega) (by omega)
          rw [same]

theorem exports_of_line {assigned : List Assignment}
    (ran : evaluateLine text = some (assigned, later)) :
    exports text = (exports later).map (assigned ++ ·) := by
  have shorter := length_of_evaluateLine ran
  cases text with
  | nil => simp at shorter
  | cons first rest =>
    rw [exports, length_cons, exportsWithin, ran]
    dsimp only
    rw [length_cons] at shorter
    rw [exportsWithin_eq_of_le (Nat.lt_succ_iff.mp shorter) (Nat.le_refl _)]
    rfl

theorem exports_of_no_line (someText : text ≠ []) (ran : evaluateLine text = none) :
    exports text = none := by
  cases text with
  | nil => exact absurd rfl someText
  | cons first rest => rw [exports, length_cons, exportsWithin, ran]

theorem exports_newline (rest : GoString) : exports (.char '\n' :: rest) = exports rest := by
  have blank : evaluateLine (.char '\n' :: rest) = some ([], rest) := rfl
  rw [exports_of_line blank]
  cases exports rest <;> rfl

theorem evaluateLine_keyword (body : GoString) : evaluateLine (lit "export " ++ body) =
      (exportStatement (lit "export " ++ body)).map fun done => ([done.1], done.2) := rfl

variable {body : GoString}

theorem exports_keyword_iff {others : List Assignment} :
    exports (lit "export " ++ body) = some (assignment :: others) ↔
      ∃ rest, exportStatement (lit "export " ++ body) = some (assignment, rest) ∧
        exports rest = some others := by
  cases statement : exportStatement (lit "export " ++ body) with
  | none =>
    have nothing : evaluateLine (lit "export " ++ body) = none := by
      rw [evaluateLine_keyword, statement]
      rfl
    rw [exports_of_no_line (by simp [lit]) nothing]
    simp
  | some done =>
    obtain ⟨found, rest⟩ := done
    have line : evaluateLine (lit "export " ++ body) = some ([found], rest) := by
      rw [evaluateLine_keyword, statement]
      rfl
    rw [exports_of_line line, Option.map_eq_some_iff]
    constructor
    · rintro ⟨later, ran, ⟨⟩⟩
      exact ⟨rest, rfl, ran⟩
    rintro ⟨_, ⟨⟩, ran⟩
    exact ⟨others, ran, rfl⟩

theorem exportValue_eq_some_iff :
    exportValue name (lit "=\"" ++ body) = some (assignment, rest) ↔ assignment.name = name ∧
        doubleQuoted body = .closed assignment.value (.char '\n' :: rest) := by
  have unfolded : exportValue name (lit "=\"" ++ body) =
      exportValue name (.char '=' :: .char '"' :: body) := rfl
  rw [unfolded, exportValue]
  split
  · next value later closed =>
      rw [closed]
      constructor
      · rintro ⟨⟩
        exact ⟨rfl, rfl⟩
      rintro ⟨rfl, ⟨⟩⟩
      rfl
  · next other =>
      constructor
      · rintro ⟨⟩
      · rintro ⟨-, closed⟩
        exact absurd closed (other _ _)

theorem exportStatement_of_parts (free : Rune.char '=' ∉ name) (body : GoString) :
    exportStatement (lit "export " ++ (name ++ (lit "=\"" ++ body))) =
      if identifier name then exportValue name (lit "=\"" ++ body) else none := by
  have stripped : stripLead (lit "export ") (lit "export " ++ (name ++ (lit "=\"" ++ body))) =
      some (name ++ (lit "=\"" ++ body)) := rfl
  have inName : ∀ rune ∈ name, decide (rune ≠ Rune.char '=') = true := by
    intro rune mem
    rw [decide_eq_true_eq]
    rintro rfl
    exact free mem
  have taken : (name ++ (lit "=\"" ++ body)).takeWhile (· ≠ .char '=') = name := by
    rw [takeWhile_append_of_pos inName]
    simp [lit]
  have dropped : (name ++ (lit "=\"" ++ body)).dropWhile (· ≠ .char '=') = lit "=\"" ++ body := by
    rw [dropWhile_append_of_pos inName]
    simp [lit]
  rw [exportStatement, stripped]
  dsimp only
  rw [taken, dropped]

theorem exports_statement_iff (free : Rune.char '=' ∉ name) {others : List Assignment} :
    exports (lit "export " ++ (name ++ (lit "=\"" ++ body))) = some (assignment :: others) ↔
      identifier name = true ∧ assignment.name = name ∧ ∃ rest,
        doubleQuoted body = .closed assignment.value (.char '\n' :: rest) ∧
          exports rest = some others := by
  rw [exports_keyword_iff, exportStatement_of_parts free]
  by_cases valid : identifier name = true
  · simp only [valid, if_true, exportValue_eq_some_iff, true_and]
    constructor
    · rintro ⟨rest, ⟨same, closed⟩, later⟩
      exact ⟨same, rest, closed, later⟩
    · rintro ⟨same, rest, closed, later⟩
      exact ⟨rest, ⟨same, closed⟩, later⟩
  · simp [valid]

/-! ## Texts that Go has quoted -/

section
variable (table : Char → Bool)

def spelled (rune : Rune) : GoString :=
  if Printable table rune then [rune] else (escapeRune table rune).map .char

def Quiet (rune : Rune) (after : GoString) : Prop :=
  rune ≠ .char '\x60' ∧ (rune = .char '$' → startsExpansion after = false)

instance (rune : Rune) (after : GoString) : Decidable (Quiet rune after) :=
  inferInstanceAs (Decidable (_ ∧ _))

theorem isPrint_of_isAlphanum (letter : c.isAlphanum = true) : isPrint table c = true := by
  simp only [Char.isAlphanum, Char.isAlpha, Char.isUpper, Char.isLower, Char.isDigit,
    Bool.or_eq_true, Bool.and_eq_true, decide_eq_true_eq, UInt32.le_iff_toNat_le, ge_iff_le]
    at letter
  have value : c.toNat = c.val.toNat := rfl
  have bounds : 0x20 ≤ c.toNat ∧ c.toNat < 0x7F := by
    have upper : 'Z'.val.toNat = 90 := rfl
    have lower : 'z'.val.toNat = 122 := rfl
    have digit : '9'.val.toNat = 57 := rfl
    have upperStart : 'A'.val.toNat = 65 := rfl
    have lowerStart : 'a'.val.toNat = 97 := rfl
    have digitStart : '0'.val.toNat = 48 := rfl
    omega
  rw [isPrint, if_pos (by omega)]
  simp [bounds.1, bounds.2]

theorem isPrint_of_startsExpansion {after : GoString}
    (starts : startsExpansion (.char c :: after) = true) : isPrint table c = true := by
  rw [startsExpansion, Bool.or_eq_true, decide_eq_true_eq] at starts
  rcases starts with letter | special
  · exact isPrint_of_isAlphanum table letter
  · simp only [mem_cons, not_mem_nil, or_false] at special
    rcases special with rfl | rfl | rfl | rfl | rfl | rfl | rfl | rfl | rfl | rfl | rfl <;> rfl

theorem startsExpansion_quoteBody (text rest : GoString) :
    startsExpansion (quoteBody table text ++ .char '"' :: rest) = startsExpansion text := by
  cases text with
  | nil => rfl
  | cons rune text =>
    cases rune with
    | stray byte => rfl
    | char c =>
      rw [quoteBody_cons, escapeRune]
      split_ifs with special printed
      · rcases special with rfl | rfl <;> rfl
      · rfl
      have still : startsExpansion (.char c :: text) = false := by
        rw [Bool.eq_false_iff]
        exact fun starts => printed (isPrint_of_startsExpansion table starts)
      rw [still]
      rfl

theorem ordinary_of_isAlphanum (letter : c.isAlphanum = true) :
    ordinary c = true ∧ escapable c = false ∧ c ≠ '\n' := by
  have differ : ∀ d : Char, d.isAlphanum = false → c ≠ d := by
    rintro d other rfl
    cases letter.symm.trans other
  have quote := differ '"' (by decide)
  have command := differ '\x60' (by decide)
  have dollar := differ '$' (by decide)
  have backslash := differ '\\' (by decide)
  have newline := differ '\n' (by decide)
  simp [ordinary, escapable, quote, command, dollar, backslash, newline]

theorem doubleQuoted_escape {tail : List Char} (someTail : tail ≠ [])
    (letters : ∀ c ∈ tail, c.isAlphanum = true) (rest : GoString) :
    doubleQuoted ((('\\' :: tail).map .char) ++ rest) =
      (doubleQuoted rest).after (('\\' :: tail).map .char) := by
  cases tail with
  | nil => exact absurd rfl someTail
  | cons first tail =>
    obtain ⟨-, unescapable, noNewline⟩ :=
      ordinary_of_isAlphanum (letters first (mem_cons_self ..))
    have kept : unescaped (.char first) = [.char '\\', .char first] := by
      simp [unescaped, unescapable, noNewline]
    have later : ∀ c ∈ tail, ordinary c = true := fun c mem =>
      (ordinary_of_isAlphanum (letters c (mem_cons_of_mem _ mem))).1
    rw [map_cons, map_cons, cons_append, cons_append,
      doubleQuoted_backslash, kept, doubleQuoted_chars later, after_after]
    rfl

theorem doubleQuoted_escapeRune (rune : Rune) (text rest : GoString) :
    doubleQuoted ((escapeRune table rune).map .char ++
        (quoteBody table text ++ .char '"' :: rest)) =
      if Quiet rune text then
        (doubleQuoted (quoteBody table text ++ .char '"' :: rest)).after (spelled table rune)
      else .expands := by
  cases rune with
  | stray byte =>
    have quiet : Quiet (.stray byte) text := ⟨by simp, by simp⟩
    have letters : ∀ c ∈ 'x' :: hexOf 2 byte.toNat, c.isAlphanum = true := by
      intro c mem
      rcases mem_cons.mp mem with rfl | later
      · rfl
      · exact isAlphanum_hexOf 2 _ c later
    have unprintable : ¬Printable table (.stray byte) := fun printed => printed
    rw [if_pos quiet, spelled, if_neg unprintable, escapeRune]
    exact doubleQuoted_escape (by simp) letters _
  | char c =>
    by_cases special : c = '"' ∨ c = '\\'
    · have quiet : Quiet (.char c) text := by
        rcases special with rfl | rfl <;> exact ⟨by decide, by simp⟩
      rw [if_pos quiet, escapeRune, if_pos special]
      rcases special with rfl | rfl
      · exact doubleQuoted_backslash _ _
      · exact doubleQuoted_backslash _ _
    · rw [escapeRune, if_neg special]
      by_cases printed : isPrint table c = true
      · have alone : spelled table (.char c) = [.char c] := if_pos printed
        rw [if_pos printed, alone, map_cons, map_nil, singleton_append]
        by_cases command : c = '\x60'
        · subst command
          have loud : ¬Quiet (.char '\x60') text := fun quiet => quiet.1 rfl
          rw [if_neg loud, doubleQuoted_command]
        by_cases dollar : c = '$'
        · subst dollar
          rw [doubleQuoted_dollar, startsExpansion_quoteBody]
          by_cases starts : startsExpansion text = true
          · have loud : ¬Quiet (.char '$') text := fun quiet => by
              rw [quiet.2 rfl] at starts
              cases starts
            rw [if_pos starts, if_neg loud]
          have quiet : Quiet (.char '$') text := ⟨by decide, fun _ => Bool.eq_false_iff.mpr starts⟩
          rw [if_neg starts, if_pos quiet]
        · have quiet : Quiet (.char c) text := ⟨by simp [command], by simp [dollar]⟩
          rw [not_or] at special
          have plain : ordinary c = true := by simp [ordinary, special, command, dollar]
          rw [if_pos quiet, doubleQuoted_ordinary plain]
      · have quiet : Quiet (.char c) text := by
          refine ⟨?_, ?_⟩
          · rintro ⟨⟩
            exact printed rfl
          rintro ⟨⟩
          exact absurd rfl printed
        have escaped : spelled table (.char c) = ('\\' :: escapeTail c).map .char := by
          rw [spelled, if_neg (show ¬Printable table (.char c) from printed), escapeRune,
            if_neg special, if_neg printed]
        rw [if_neg printed, if_pos quiet, escaped]
        exact doubleQuoted_escape (escapeTail_ne_nil c) (isAlphanum_escapeTail c) _

theorem doubleQuoted_quoteBody (text rest : GoString) :
    doubleQuoted (quoteBody table text ++ .char '"' :: rest) =
      if Everywhere Quiet text then .closed (text.flatMap (spelled table)) rest
      else .expands := by
  induction text with
  | nil =>
    have nothing : Everywhere Quiet [] := trivial
    rw [if_pos nothing]
    exact doubleQuoted_quote rest
  | cons rune text ih =>
    rw [quoteBody_cons, append_assoc, doubleQuoted_escapeRune, ih]
    by_cases here : Quiet rune text
    · by_cases later : Everywhere Quiet text
      · have both : Everywhere Quiet (rune :: text) := ⟨here, later⟩
        rw [if_pos here, if_pos later, if_pos both]
        rfl
      have neither : ¬Everywhere Quiet (rune :: text) := fun both => later both.2
      rw [if_pos here, if_neg later, if_neg neither]
      rfl
    · have neither : ¬Everywhere Quiet (rune :: text) := fun both => here both.1
      rw [if_neg here, if_neg neither]

theorem flatMap_spelled_iff (text : GoString) :
    text.flatMap (spelled table) = text ↔ ∀ rune ∈ text, Printable table rune := by
  induction text with
  | nil => simp
  | cons rune text ih =>
    rw [flatMap_cons, forall_mem_cons]
    by_cases printed : Printable table rune
    · rw [spelled, if_pos printed, singleton_append, List.cons.injEq, ih]
      simp [printed]
    -- an escape starts with a backslash, and that is printable
    have differ : ∀ tail, (escapeRune table rune).map Rune.char ++ tail ≠ rune :: text := by
      intro tail same
      cases rune with
      | stray byte => cases same
      | char c =>
        have special : ¬(c = '"' ∨ c = '\\') := by rintro (rfl | rfl) <;> exact printed rfl
        rw [escapeRune, if_neg special, if_neg (show ¬isPrint table c = true from printed)] at same
        cases same
        exact printed rfl
    rw [spelled, if_neg printed]
    simp only [printed, false_and, iff_false]
    exact differ _

/-- The character reaches the shell through Go's quotes: it is printable and starts no
substitution. -/
def KeptQuoted (rune : Rune) (after : GoString) : Prop :=
  Printable table rune ∧ Quiet rune after

instance (rune : Rune) (after : GoString) : Decidable (KeptQuoted table rune after) :=
  inferInstanceAs (Decidable (_ ∧ _))

theorem everywhere_keptQuoted_iff (text : GoString) : Everywhere (KeptQuoted table) text ↔
      Everywhere Quiet text ∧ ∀ rune ∈ text, Printable table rune := by
  induction text with
  | nil => simp [Everywhere]
  | cons rune text ih =>
    simp only [Everywhere, ih, KeptQuoted, forall_mem_cons]
    tauto

theorem doubleQuoted_quoteBody_iff (text rest later : GoString) :
    doubleQuoted (quoteBody table text ++ .char '"' :: rest) = .closed text later ↔
      Everywhere (KeptQuoted table) text ∧ later = rest := by
  rw [doubleQuoted_quoteBody, everywhere_keptQuoted_iff, ← flatMap_spelled_iff]
  by_cases quiet : Everywhere Quiet text
  · rw [if_pos quiet, Reading.closed.injEq]
    simp only [quiet, true_and]
    exact and_congr_right fun _ => eq_comm
  · rw [if_neg quiet]
    simp [quiet]

end

/-! ## Texts that stand between the quotes as they are -/

def staysBehind : Rune → Bool
  | .stray _ => true
  | .char c => !escapable c && decide (c ≠ '\n')

/-- The character is read as itself in front of this text and a closing quote. -/
def KeptRaw (rune : Rune) (after : GoString) : Prop :=
  rune ≠ .char '"' ∧ Quiet rune after ∧
    (rune = .char '\\' → ∃ next later, after = next :: later ∧ staysBehind next = true)

theorem unescaped_of_staysBehind {next : Rune} (stays : staysBehind next = true) :
    unescaped next = [.char '\\', next] := by
  cases next with
  | stray byte => rfl
  | char c =>
    simp only [staysBehind, Bool.and_eq_true, Bool.not_eq_true', decide_eq_true_eq] at stays
    simp [unescaped, stays.1, stays.2]

theorem length_unescaped_of_not_staysBehind {next : Rune} (goes : staysBehind next = false) :
    (unescaped next).length ≤ 1 := by
  cases next with
  | stray byte => cases goes
  | char c =>
    rw [unescaped]
    split_ifs with escaped newline
    · simp
    · simp
    · simp [staysBehind, escaped, newline] at goes

theorem keptRaw_of_staysBehind {next : Rune} (stays : staysBehind next = true)
    (after : GoString) : KeptRaw next after := by
  cases next with
  | stray byte => exact ⟨by simp, ⟨by simp, by simp⟩, by simp⟩
  | char c =>
    have plain : escapable c = false := by
      simp only [staysBehind, Bool.and_eq_true, Bool.not_eq_true'] at stays
      exact stays.1
    have differ : ∀ d : Char, escapable d = true → Rune.char c ≠ .char d := by
      rintro d special ⟨⟩
      cases plain.symm.trans special
    refine ⟨differ '"' rfl, ⟨differ '\x60' rfl, ?_⟩, ?_⟩
    · exact fun same => absurd same (differ '$' rfl)
    · exact fun same => absurd same (differ '\\' rfl)

theorem startsExpansion_append (text rest : GoString) :
    startsExpansion (text ++ .char '"' :: rest) = startsExpansion text := by
  cases text with
  | nil => rfl
  | cons rune text => cases rune <;> rfl

theorem doubleQuoted_raw_iff (enough : rest.length ≤ later.length) :
    doubleQuoted (text ++ .char '"' :: rest) = .closed text later ↔
      Everywhere KeptRaw text ∧ later = rest := by
  induction text using doubleQuoted.induct with
  | case1 =>
    rw [nil_append, doubleQuoted_quote]
    simp [Everywhere, eq_comm]
  | case2 byte text ih =>
    have kept : KeptRaw (.stray byte) text := ⟨by simp, ⟨by simp, by simp⟩, by simp⟩
    rw [cons_append]
    exact after_eq_closed_append_iff.trans (ih.trans (by simp [Everywhere, kept]))
  | case3 text =>
    rw [cons_append, doubleQuoted_quote]
    simp [Everywhere, KeptRaw]
  | case4 text _ =>
    rw [cons_append, doubleQuoted_command]
    simp [Everywhere, KeptRaw, Quiet]
  | case5 text starts _ _ =>
    rw [cons_append, doubleQuoted_dollar, startsExpansion_append, if_pos starts]
    simp [Everywhere, KeptRaw, Quiet, starts]
  | case6 text starts _ _ ih =>
    have kept : KeptRaw (.char '$') text :=
      ⟨by decide, ⟨by decide, fun _ => Bool.eq_false_iff.mpr starts⟩, by simp⟩
    rw [cons_append, doubleQuoted_dollar, startsExpansion_append, if_neg starts]
    exact after_eq_closed_append_iff.trans (ih.trans (by simp [Everywhere, kept]))
  | case7 _ _ _ =>
    -- the closing quote is escaped, and what is read is not a backslash
    have escaped : unescaped (.char '"') = [.char '"'] := rfl
    rw [cons_append, nil_append, doubleQuoted_backslash, after_eq_closed_iff, escaped]
    simp [Everywhere, KeptRaw]
  | case8 next text _ _ _ ih =>
    rw [cons_append, cons_append, doubleQuoted_backslash]
    by_cases stays : staysBehind next = true
    · have first : KeptRaw (.char '\\') (next :: text) :=
        ⟨by decide, ⟨by decide, by simp⟩, fun _ => ⟨next, text, rfl, stays⟩⟩
      have second := keptRaw_of_staysBehind stays text
      rw [unescaped_of_staysBehind stays]
      exact after_eq_closed_append_iff.trans (ih.trans (by simp [Everywhere, first, second]))
    · -- the backslash is dropped, so the value is shorter than its text
      have goes := Bool.eq_false_iff.mpr stays
      have noBackslash : ¬Everywhere KeptRaw (.char '\\' :: next :: text) := by
        rintro ⟨⟨_, _, behind⟩, _⟩
        obtain ⟨_, _, ⟨⟩, kept⟩ := behind rfl
        exact stays kept
      simp only [noBackslash, false_and, iff_false]
      intro closed
      obtain ⟨inner, read, same⟩ := after_eq_closed_iff.mp closed
      have shorter := length_of_doubleQuoted read
      have short := length_unescaped_of_not_staysBehind goes
      have lengths := congrArg List.length same
      simp only [length_append, length_cons] at shorter lengths
      omega
  | case9 c text quote command dollar backslash ih =>
    have plain : ordinary c = true := by simp [ordinary, quote, command, dollar, backslash]
    have kept : KeptRaw (.char c) text :=
      ⟨by simp [quote], ⟨by simp [command], by simp [dollar]⟩, by simp [backslash]⟩
    rw [cons_append, doubleQuoted_ordinary plain]
    exact after_eq_closed_append_iff.trans (ih.trans (by simp [Everywhere, kept]))

end KarpenterIBM.Shell
