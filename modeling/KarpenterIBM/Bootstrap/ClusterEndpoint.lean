import KarpenterIBM.Errors
import Mathlib

/-!
# The control-plane endpoint of a kubeadm configuration

`parseKubeadmConfigEndpoint` of `pkg/providers/common/types`, on the texts in which an entry
`controlPlaneEndpoint` stands on a line of its own.
-/

namespace KarpenterIBM.ClusterEndpoint

open Errors List Text

def endpointKey : String := "controlPlaneEndpoint:"

def endpointInLine (line : String) : Option String :=
  if containsText line endpointKey then
    match splitText line ':' with
    | _ :: host :: port :: _ => some ("https://" ++ trimSpace host ++ ":" ++ trimSpace port)
    | _ => none
  else none

def parseKubeadmConfigEndpoint (clusterConfig : String) : Except GoError String :=
  if clusterConfig = "" then .error (.plain "empty ClusterConfiguration")
  else
    match (splitText clusterConfig '\n').findSome? endpointInLine with
    | some endpoint => .ok endpoint
    | none => .error (.plain "controlPlaneEndpoint not found in kubeadm-config")

/-! ## Configurations -/

inductive Quoting where
  | plain
  | single
  | double
deriving DecidableEq

def Quoting.mark : Quoting → String
  | .plain => ""
  | .single => "'"
  | .double => "\""

inductive Host where
  /-- A DNS name or an IPv4 address. -/
  | name (text : String)
  /-- An IPv6 address, in brackets. -/
  | bracketed (address : String)
deriving DecidableEq

def Host.text : Host → String
  | .name text => text
  | .bracketed address => "[" ++ address ++ "]"

def Host.WellFormed : Host → Prop
  | .name text => text ≠ "" ∧ ∀ c ∈ text.toList, c.isAlphanum ∨ c = '-' ∨ c = '.'
  | .bracketed address =>
    ':' ∈ address.toList ∧ ∀ c ∈ address.toList, c.isAlphanum ∨ c = ':' ∨ c = '.'

def spaces (count : Nat) : String := String.ofList (List.replicate count ' ')

/-- A configuration with one endpoint line.  The key stands there without quotes and only blanks
follow the value, so a comment on that line is not expressible. -/
structure ClusterConfiguration where
  before : List String
  blanks : Nat
  quoting : Quoting
  host : Host
  port : String
  trailing : Nat
  after : List String
  lines : ∀ line ∈ before ++ after,
    '\n' ∉ line.toList ∧ hasLead line endpointKey = false
  hosted : host.WellFormed
  ported : port ≠ "" ∧ ∀ c ∈ port.toList, c.isDigit

namespace ClusterConfiguration

def entry (config : ClusterConfiguration) : String :=
  endpointKey ++ spaces (config.blanks + 1) ++ config.quoting.mark ++ config.host.text ++ ":" ++
    config.port ++ config.quoting.mark ++ spaces config.trailing

def text (config : ClusterConfiguration) : String :=
  joinText (config.before ++ config.entry :: config.after) '\n'

def endpoint (config : ClusterConfiguration) : String :=
  "https://" ++ (config.host.text ++ ":" ++ config.port)

def Mimics (line : String) : Prop :=
  containsText line endpointKey = true ∧ 3 ≤ (splitText line ':').length

def States (line value : String) : Prop :=
  containsText line endpointKey = true ∧ ∃ lead host port rest,
    splitText line ':' = lead :: host :: port :: rest ∧
      trimSpace host ++ ":" ++ trimSpace port = value

/-- The entry is the first line with the key and two colons, plain and without brackets; or
another line comes first and happens to have the same host and port. -/
def Readable (config : ClusterConfiguration) : Prop :=
  (config.quoting = .plain ∧ (∃ name, config.host = .name name) ∧
    ∀ line ∈ config.before, ¬ Mimics line) ∨
  ∃ earlier line later, config.before = earlier ++ line :: later ∧
    (∀ other ∈ earlier, ¬ Mimics other) ∧
    States line (config.host.text ++ ":" ++ config.port)

end ClusterConfiguration

open ClusterConfiguration

/-! ## Lines -/

theorem endpointInLine_eq_none_iff (line : String) :
    endpointInLine line = none ↔ ¬ Mimics line := by
  unfold endpointInLine Mimics
  split
  · rename_i mentioned
    split
    · rename_i parts
      simp [mentioned, parts]
    rename_i short
    simp only [true_iff, not_and, mentioned, forall_const, not_le]
    match parts : splitText line ':' with
    | [] | [_] | [_, _] => simp
    | lead :: host :: port :: rest => exact absurd parts (short lead host port rest)
  · rename_i unmentioned
    simp [unmentioned]

theorem endpointInLine_eq_some_iff (line value : String) :
    endpointInLine line = some ("https://" ++ value) ↔ States line value := by
  unfold endpointInLine States
  split
  · rename_i mentioned
    split
    · rename_i lead host port rest parts
      rw [Option.some.injEq, String.append_assoc, String.append_assoc, String.append_right_inj,
        ← String.append_assoc]
      constructor
      · intro same
        exact ⟨mentioned, lead, host, port, rest, parts, same⟩
      rintro ⟨_, _, _, _, _, others, same⟩
      cases parts.symm.trans others
      exact same
    · rename_i short
      simp only [reduceCtorEq, false_iff]
      rintro ⟨_, lead, host, port, rest, parts, _⟩
      exact short lead host port rest parts
  · rename_i unmentioned
    simp [unmentioned]

section
variable (config : ClusterConfiguration)

theorem entry_mentions : containsText config.entry endpointKey = true := by
  unfold entry
  repeat refine containsText_append_left _ _ _ ?_
  decide

theorem isSpace_blank (count : Nat) {c : Char} (mem : c ∈ (spaces count).toList) :
    isSpace c = true := by
  rw [spaces, String.toList_ofList] at mem
  rw [eq_of_mem_replicate mem]
  decide

theorem colon_notMem_blank (count : Nat) : ':' ∉ (spaces count).toList := by
  intro mem
  have blank := isSpace_blank count mem
  revert blank
  decide

theorem colon_notMem_mark (quoting : Quoting) : ':' ∉ quoting.mark.toList := by
  cases quoting <;> decide

/-- What stands between the first two colons, when `front` is before the first one. -/
def leading (front : List Char) : String :=
  String.ofList ((spaces (config.blanks + 1)).toList ++ (config.quoting.mark.toList ++ front))

def closing (back : List Char) : String :=
  String.ofList (back ++ (config.quoting.mark.toList ++ (spaces config.trailing).toList))

def value : List Char := config.host.text.toList ++ ':' :: config.port.toList

variable {config} {front back : List Char}

theorem splitText_entry (cut : value config = front ++ ':' :: back) (absent : ':' ∉ front) :
    splitText config.entry ':' =
      "controlPlaneEndpoint" :: leading config front :: splitText (closing config back) ':' := by
  have shape : config.entry = String.ofList ("controlPlaneEndpoint".toList ++ ':' ::
      ((leading config front).toList ++ ':' :: (closing config back).toList)) := by
    rw [← String.toList_inj, String.toList_ofList]
    have key : endpointKey.toList = "controlPlaneEndpoint".toList ++ [':'] := by decide
    simp only [entry, leading, closing, String.toList_append, String.toList_ofList, key,
      append_assoc, cons_append, nil_append]
    have tail := congrArg (· ++ (config.quoting.mark.toList ++ (spaces config.trailing).toList)) cut
    simp only [value, append_assoc, cons_append] at tail
    rw [← tail]
    rfl
  have blank := colon_notMem_blank (config.blanks + 1)
  have mark := colon_notMem_mark config.quoting
  rw [shape, splitText_append (by decide),
    splitText_append (by simp [leading, blank, mark, absent])]
  simp only [String.ofList_toList]

/-- The first colon of the value is in its host or after it. -/
theorem entry_parts (config : ClusterConfiguration) :
    ∃ front part rest, splitText config.entry ':' =
      "controlPlaneEndpoint" :: leading config front :: part :: rest ∧
        ':' ∉ front ∧ ':' ∉ part.toList := by
  have separated : ':' ∈ value config := by simp [value]
  obtain ⟨front, back, cut, absent⟩ := eq_append_cons_of_mem separated
  obtain ⟨part, rest, first, clear⟩ := splitText_head (closing config back) ':'
  exact ⟨front, part, rest, by rw [splitText_entry cut absent, first], absent, clear⟩

theorem isSpace_of_isAlphanum {c : Char} (known : c.isAlphanum = true) : isSpace c = false := by
  have code : c.val.toNat = c.toNat := rfl
  simp only [Char.isAlphanum, Char.isAlpha, Char.isUpper, Char.isLower, Char.isDigit,
    Bool.or_eq_true, Bool.and_eq_true, decide_eq_true_eq, ge_iff_le, UInt32.le_iff_toNat_le,
    code] at known
  simp only [isSpace, Bool.or_eq_false_iff, Bool.and_eq_false_iff, decide_eq_false_iff_not]
  simp at known
  omega

theorem solid_of_name {text : String} (formed : (Host.name text).WellFormed) :
    ∀ c ∈ text.toList, isSpace c = false ∧ c ≠ ':' := by
  intro c mem
  rcases formed.2 c mem with known | rfl | rfl
  · refine ⟨isSpace_of_isAlphanum known, ?_⟩
    rintro rfl
    revert known
    decide
  · decide
  · decide

theorem solid_of_port (ported : ∀ c ∈ config.port.toList, c.isDigit) :
    ∀ c ∈ config.port.toList, isSpace c = false ∧ c ≠ ':' := by
  intro c mem
  have digit := ported c mem
  refine ⟨isSpace_of_isAlphanum (by simp [Char.isAlphanum, digit]), ?_⟩
  rintro rfl
  revert digit
  decide

theorem solid_of_host (config : ClusterConfiguration) :
    ∀ c ∈ config.host.text.toList, isSpace c = false := by
  have formed := config.hosted
  intro c mem
  cases host : config.host with
  | name text =>
    rw [host] at mem formed
    exact (solid_of_name formed c mem).1
  | bracketed address =>
    rw [host] at mem formed
    simp only [Host.text, String.toList_append, mem_append] at mem
    rcases mem with (opening | inside) | closing
    · rw [mem_singleton.mp opening]
      decide
    · rcases formed.2 c inside with known | rfl | rfl
      · exact isSpace_of_isAlphanum known
      · decide
      · decide
    · rw [mem_singleton.mp closing]
      decide

/-- No host begins with a quotation mark. -/
theorem unmarked_host (config : ClusterConfiguration) {quoting : Quoting} {mark : Char}
    (marked : quoting.mark.toList = [mark]) (rest : List Char) : value config ≠ mark :: rest := by
  unfold value
  intro same
  have formed := config.hosted
  cases host : config.host with
  | name text =>
    rw [host] at same formed
    cases chars : text.toList with
    | nil => exact formed.1 (String.toList_inj.mp chars)
    | cons c others =>
      have known := formed.2 c (by rw [chars]; exact mem_cons_self)
      rw [Host.text, chars, cons_append] at same
      rw [(List.cons.inj same).1] at known
      revert known
      cases quoting <;> cases marked <;> decide
  | bracketed address =>
    rw [host, Host.text, String.toList_append, String.toList_append] at same
    have first : '[' = mark := (List.cons.inj same).1
    revert first
    cases quoting <;> cases marked <;> decide

theorem plain_of_states {tail : String} (same : trimSpace (leading config front) ++ ":" ++ tail =
      config.host.text ++ ":" ++ config.port) : config.quoting = .plain := by
  by_contra quoted
  obtain ⟨mark, marked, solid⟩ : ∃ mark, config.quoting.mark.toList = [mark] ∧
      isSpace mark = false := by
    cases quoting : config.quoting with
    | plain => exact absurd quoting quoted
    | single | double => exact ⟨_, rfl, by decide⟩
  rw [leading, marked] at same
  obtain ⟨others, trimmed⟩ := trimSpace_head (spaces (config.blanks + 1)).toList front
    (fun c mem => isSpace_blank _ mem) solid
  rw [singleton_append, trimmed, ← String.toList_inj] at same
  refine unmarked_host config marked (others ++ ':' :: tail.toList) ?_
  simpa [value] using same.symm

theorem states_entry_iff : States config.entry (config.host.text ++ ":" ++ config.port) ↔
    config.quoting = .plain ∧ ∃ name, config.host = .name name := by
  constructor
  · rintro ⟨_, lead, host, port, others, split, same⟩
    obtain ⟨front, part, rest, parts, absent, clear⟩ := entry_parts config
    cases parts.symm.trans split
    have plain := plain_of_states same
    refine ⟨plain, ?_⟩
    cases host : config.host with
    | name text => exact ⟨text, rfl⟩
    | bracketed address =>
      -- One colon on the left, and the one of the port beside those of the address.
      have inside := config.hosted
      rw [host] at inside
      have colons := congrArg (fun text => text.toList.count ':') same
      have left : ':' ∉ (trimSpace (leading config front)).toList := by
        intro mem
        have kept := mem_of_mem_trimSpace mem
        simp [leading, colon_notMem_blank, colon_notMem_mark, absent] at kept
      have right : ':' ∉ (trimSpace port).toList := fun mem => clear (mem_of_mem_trimSpace mem)
      have more := count_pos_iff.mpr inside.1
      simp only [String.toList_append, count_append, count_eq_zero_of_not_mem left,
        count_eq_zero_of_not_mem right, host, Host.text] at colons
      simp at colons
      omega
  · rintro ⟨plain, name, named⟩
    have formed := config.hosted
    rw [named] at formed
    have solid := solid_of_name formed
    have digits := solid_of_port config.ported.2
    have cut : value config = name.toList ++ ':' :: config.port.toList := by
      rw [value, named]
      rfl
    have ported : ':' ∉ (closing config config.port.toList).toList := by
      have absent : ':' ∉ config.port.toList := fun mem => (digits ':' mem).2 rfl
      simp [closing, absent, colon_notMem_blank, colon_notMem_mark]
    have parts := splitText_entry cut fun mem => (solid ':' mem).2 rfl
    rw [splitText_single ported] at parts
    refine ⟨entry_mentions config, _, _, _, _, parts, ?_⟩
    have left := trimSpace_padded (spaces (config.blanks + 1)).toList name.toList []
      (fun c mem => isSpace_blank (config.blanks + 1) (by simpa using mem))
      (fun c mem => (solid c mem).1) (by simpa using formed.1)
    have right := trimSpace_padded [] config.port.toList (spaces config.trailing).toList
      (fun c mem => isSpace_blank config.trailing (by simpa using mem))
      (fun c mem => (digits c mem).1) (by simpa using config.ported.1)
    rw [leading, closing, plain, named]
    simp only [append_nil, nil_append, Quoting.mark, String.toList_empty] at left right ⊢
    rw [left, right]
    simp [Host.text]

theorem entry_mimics (config : ClusterConfiguration) : Mimics config.entry := by
  refine ⟨entry_mentions config, ?_⟩
  obtain ⟨_, _, _, parts, _⟩ := entry_parts config
  rw [parts]
  simp

theorem newline_notMem_entry (config : ClusterConfiguration) : '\n' ∉ config.entry.toList := by
  have blank : ∀ count, '\n' ∉ (spaces count).toList := by
    intro count mem
    rw [spaces, String.toList_ofList] at mem
    exact absurd (eq_of_mem_replicate mem) (by decide)
  have mark : '\n' ∉ config.quoting.mark.toList := by
    cases config.quoting <;> decide
  have host : '\n' ∉ config.host.text.toList := fun mem =>
    absurd (solid_of_host config _ mem) (by decide)
  have port : '\n' ∉ config.port.toList := fun mem =>
    absurd (solid_of_port config.ported.2 _ mem).1 (by decide)
  have key : '\n' ∉ endpointKey.toList := by decide
  simp only [entry, String.toList_append, mem_append, blank, mark, host, port, key, or_false,
    false_or]
  decide

end

/-! ## The whole text -/

variable (config : ClusterConfiguration)

theorem splitText_text :
    splitText config.text '\n' = config.before ++ config.entry :: config.after := by
  refine splitText_joinText _ '\n' (by simp) ?_
  intro line mem
  rcases mem_append.mp mem with before | rest
  · exact (config.lines line (mem_append_left _ before)).1
  rcases mem_cons.mp rest with rfl | after
  · exact newline_notMem_entry config
  · exact (config.lines line (mem_append_right _ after)).1

theorem text_ne : config.text ≠ "" := by
  intro blank
  have lines := splitText_text config
  have only : splitText "" '\n' = [""] := by simp [splitText]
  rw [blank, only] at lines
  have mem : config.entry ∈ [""] := by
    rw [lines]
    simp
  have mentions := entry_mentions config
  rw [mem_singleton.mp mem] at mentions
  revert mentions
  decide

/-- The endpoint is recovered exactly when the line the code takes spells it plainly: it does not
undo quotation marks, it cuts an IPv6 address at its first colon, and it takes a comment for an
entry. -/
theorem endpoint_recovered_iff (config : ClusterConfiguration) :
    parseKubeadmConfigEndpoint config.text = .ok config.endpoint ↔ config.Readable := by
  have taken : parseKubeadmConfigEndpoint config.text = .ok config.endpoint ↔
      (config.before ++ config.entry :: config.after).findSome? endpointInLine =
        some config.endpoint := by
    rw [parseKubeadmConfigEndpoint, if_neg (text_ne config), splitText_text]
    split
    · rename_i found
      rw [found, Except.ok.injEq, Option.some.injEq]
    rename_i missing
    rw [missing]
    simp
  have own := (endpointInLine_eq_some_iff _ _).trans (@states_entry_iff config)
  rw [taken, List.findSome?_append, Option.or_eq_some_iff, List.findSome?_eq_none_iff,
    List.findSome?_eq_some_iff]
  simp only [endpointInLine_eq_none_iff]
  unfold Readable
  rw [or_comm]
  refine or_congr ?_ ?_
  · cases read : endpointInLine config.entry with
    | none => exact absurd (entry_mimics config) ((endpointInLine_eq_none_iff _).mp read)
    | some value =>
      rw [List.findSome?_cons, read]
      rw [read] at own
      rw [and_comm, and_assoc.symm]
      exact and_congr_left fun _ => own
  · refine exists_congr fun earlier => exists_congr fun line => exists_congr fun later => ?_
    rw [endpoint, endpointInLine_eq_some_iff]
    exact and_congr_right fun _ => and_comm

def quotedConfiguration : ClusterConfiguration where
  before := []
  blanks := 0
  quoting := .double
  host := .name "10.0.0.1"
  port := "6443"
  trailing := 0
  after := []
  lines := by simp
  hosted := by
    refine ⟨by decide, ?_⟩
    simp
  ported := by
    refine ⟨by decide, ?_⟩
    simp

theorem quotation_marks_kept :
    parseKubeadmConfigEndpoint quotedConfiguration.text = .ok "https://\"10.0.0.1:6443\"" ∧
      quotedConfiguration.endpoint = "https://10.0.0.1:6443" := by
  decide +kernel

end KarpenterIBM.ClusterEndpoint
