import Mathlib.Data.List.Basic

/-!
# Go strings and their quoted form

A Go string is a sequence of bytes, read as characters; a byte that is part of no encoded
character is read on its own. `quote` is `strconv.Quote`, the text that the verb `%q` gives.
-/

namespace KarpenterIBM.GoText

open List

inductive Rune where
  | char (c : Char)
  | stray (byte : UInt8)
deriving DecidableEq

abbrev GoString : Type := List Rune

def lit (text : String) : GoString := text.toList.map .char

/-! ## Positions -/

section
variable {α : Type}

/-- At every position, of the element there and of what follows it. -/
def Everywhere (holds : α → List α → Prop) : List α → Prop
  | [] => True
  | first :: rest => holds first rest ∧ Everywhere holds rest

instance Everywhere.decidable (holds : α → List α → Prop)
    [∀ first rest, Decidable (holds first rest)] :
    ∀ items : List α, Decidable (Everywhere holds items)
  | [] => isTrue trivial
  | first :: rest =>
    have := Everywhere.decidable holds rest
    inferInstanceAs (Decidable (holds first rest ∧ Everywhere holds rest))

variable [DecidableEq α]

/-- `strings.Replace` with the count one: the first occurrence is replaced. -/
def replaceFirst (old new : List α) : List α → List α
  | [] => if old = [] then new else []
  | first :: rest =>
    if old.isPrefixOf (first :: rest) then new ++ (first :: rest).drop old.length
    else first :: replaceFirst old new rest

theorem replaceFirst_lead {old : List α} (new rest : List α) :
    replaceFirst old new (old ++ rest) = new ++ rest := by
  cases found : old ++ rest with
  | nil =>
    obtain ⟨rfl, rfl⟩ := append_eq_nil_iff.mp found
    simp [replaceFirst]
  | cons first later =>
    have lead : old.isPrefixOf (first :: later) = true := by
      rw [ isPrefixOf_iff_prefix, ← found]
      exact prefix_append old rest
    rw [replaceFirst, if_pos lead, ← found, drop_left]

end

/-! ## Quoting -/

def lowerHex (n : Nat) : Char :=
  if n < 10 then Char.ofNat (48 + n) else Char.ofNat (87 + n)

/-- The last `width` hexadecimal digits of a number. -/
def hexOf : Nat → Nat → List Char
  | 0, _ => []
  | width + 1, n => hexOf width (n / 16) ++ [lowerHex (n % 16)]

section
variable (table : Char → Bool)

/-- `strconv.IsPrint`. -/
def isPrint (c : Char) : Bool :=
  if c.toNat ≤ 0xFF then
    (decide (0x20 ≤ c.toNat) && decide (c.toNat < 0x7F)) ||
      (decide (0xA1 ≤ c.toNat) && decide (c.toNat ≠ 0xAD))
  else table c

def escapeTail (c : Char) : List Char :=
  if c.toNat = 7 then ['a']
  else if c.toNat = 8 then ['b']
  else if c.toNat = 12 then ['f']
  else if c.toNat = 10 then ['n']
  else if c.toNat = 13 then ['r']
  else if c.toNat = 9 then ['t']
  else if c.toNat = 11 then ['v']
  else if c.toNat < 0x20 ∨ c.toNat = 0x7F then 'x' :: hexOf 2 c.toNat
  else if c.toNat < 0x10000 then 'u' :: hexOf 4 c.toNat
  else 'U' :: hexOf 8 c.toNat

def escapeRune : Rune → List Char
  | .stray byte => '\\' :: 'x' :: hexOf 2 byte.toNat
  | .char c =>
    if c = '"' ∨ c = '\\' then ['\\', c]
    else if isPrint table c then [c]
    else '\\' :: escapeTail c

def quoteBody (text : GoString) : GoString :=
  text.flatMap fun rune => (escapeRune table rune).map .char

def quote (text : GoString) : GoString :=
  lit "\"" ++ quoteBody table text ++ lit "\""

def quoteText (text : String) : String :=
  String.ofList ('"' :: text.toList.flatMap (fun c => escapeRune table (.char c)) ++ ['"'])

@[simp] theorem quoteBody_cons (rune : Rune) (text : GoString) : quoteBody table (rune :: text) =
      (escapeRune table rune).map .char ++ quoteBody table text := rfl

def Printable : Rune → Prop
  | .char c => isPrint table c = true
  | .stray _ => False

instance (rune : Rune) : Decidable (Printable table rune) :=
  match rune with
  | .char c => inferInstanceAs (Decidable (isPrint table c = true))
  | .stray _ => inferInstanceAs (Decidable False)

end

theorem isAlphanum_lowerHex {n : Nat} (small : n < 16) : (lowerHex n).isAlphanum = true := by
  have digits : ∀ digit : Fin 16, (lowerHex digit).isAlphanum = true := by decide
  exact digits ⟨n, small⟩

theorem isAlphanum_hexOf (width n : Nat) : ∀ c ∈ hexOf width n, c.isAlphanum = true := by
  induction width generalizing n with
  | zero => simp [hexOf]
  | succ width ih =>
    intro c mem
    rw [hexOf, mem_append, mem_singleton] at mem
    rcases mem with earlier | rfl
    · exact ih (n / 16) c earlier
    · exact isAlphanum_lowerHex (Nat.mod_lt _ (by decide))

theorem escapeTail_eq (c : Char) :
    ∃ letter width, letter.isAlphanum = true ∧ escapeTail c = letter :: hexOf width c.toNat := by
  have either : ∀ {p : Prop} [Decidable p] {first second : List Char},
      (∃ letter width, letter.isAlphanum = true ∧ first = letter :: hexOf width c.toNat) →
      (∃ letter width, letter.isAlphanum = true ∧ second = letter :: hexOf width c.toNat) →
      ∃ letter width, letter.isAlphanum = true ∧
        (if p then first else second) = letter :: hexOf width c.toNat := by
    intro p _ first second one two
    by_cases holds : p
    · rw [if_pos holds]
      exact one
    · rw [if_neg holds]
      exact two
  refine either ⟨'a', 0, rfl, rfl⟩ (either ⟨'b', 0, rfl, rfl⟩ (either ⟨'f', 0, rfl, rfl⟩ ?_))
  refine either ⟨'n', 0, rfl, rfl⟩ (either ⟨'r', 0, rfl, rfl⟩ (either ⟨'t', 0, rfl, rfl⟩ ?_))
  refine either ⟨'v', 0, rfl, rfl⟩ (either ⟨'x', 2, rfl, rfl⟩ ?_)
  exact either ⟨'u', 4, rfl, rfl⟩ ⟨'U', 8, rfl, rfl⟩

theorem isAlphanum_escapeTail (c : Char) : ∀ d ∈ escapeTail c, d.isAlphanum = true := by
  obtain ⟨letter, width, good, same⟩ := escapeTail_eq c
  intro d mem
  rw [same] at mem
  rcases mem_cons.mp mem with rfl | later
  · exact good
  · exact isAlphanum_hexOf width _ d later

theorem escapeTail_ne_nil (c : Char) : escapeTail c ≠ [] := by
  obtain ⟨letter, width, -, same⟩ := escapeTail_eq c
  rw [same]
  exact cons_ne_nil _ _

end KarpenterIBM.GoText
