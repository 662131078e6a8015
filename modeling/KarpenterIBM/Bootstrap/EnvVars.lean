import KarpenterIBM.Lib.Shell

/-!
# Environment variables in the user data

`InjectBootstrapEnvVars` and `generateCloudInitScript` of `pkg/providers/vpc/bootstrap` pass
variables of the operator on to the node: as export statements that are put into the script
which the node runs first.
-/

namespace KarpenterIBM.Bootstrap

open GoText List Shell

/-! ## The source -/

def bootstrapVariable (env : GoString) : Option Assignment :=
  if (lit "BOOTSTRAP_").isPrefixOf env then
    match env.dropWhile (· ≠ .char '=') with
    | [] => none
    | _ :: varValue => some ⟨env.takeWhile (· ≠ .char '='), varValue⟩
  else none

/-- The variables that are passed on. -/
def bootstrapVariables (environ : List GoString) : List Assignment :=
  environ.filterMap bootstrapVariable

def bash : GoString := lit "#!/bin/bash\n"

def strictBash : GoString := lit "#!/bin/bash\nset -euo pipefail\n"

variable (table : Char → Bool)

def exportLine (assignment : Assignment) : GoString :=
  lit "export " ++ assignment.name ++ lit "=" ++ quote table assignment.value ++ lit "\n"

def bootstrapVars (environ : List GoString) : GoString :=
  (bootstrapVariables environ).flatMap (exportLine table)

def injectBootstrapEnvVars (environ : List GoString) (script : GoString) : GoString :=
  if bootstrapVars table environ ≠ [] then
    if strictBash.isPrefixOf script then
      replaceFirst strictBash (strictBash ++ lit "\n" ++ bootstrapVars table environ) script
    else if bash.isPrefixOf script then
      replaceFirst bash (bash ++ lit "\n" ++ bootstrapVars table environ) script
    else bootstrapVars table environ ++ lit "\n" ++ script
  else script

def additionalCAName : GoString := lit "KARPENTER_ADDITIONAL_CA"

def additionalCALine (additionalCA : GoString) : GoString :=
  lit "export KARPENTER_ADDITIONAL_CA=\"" ++ additionalCA ++ lit "\"\n"

/-- `generateCloudInitScript` after the template was executed; the CA is the variable `ca_crt`,
empty when it is not set. -/
def generateCloudInitScript (environ : List GoString) (additionalCA rendered : GoString) :
    GoString :=
  injectBootstrapEnvVars table environ
    (if additionalCA ≠ [] then
      replaceFirst strictBash (strictBash ++ lit "\n" ++ additionalCALine additionalCA) rendered
    else rendered)

/-! ## Where the lines go -/

variable {table} {environ : List GoString}

theorem injectBootstrapEnvVars_nil (empty : bootstrapVars table environ = [])
    (script : GoString) : injectBootstrapEnvVars table environ script = script := by
  simp [injectBootstrapEnvVars, empty]

section
variable (someLine : bootstrapVars table environ ≠ [])

include someLine

theorem injectBootstrapEnvVars_strictBash (rest : GoString) :
    injectBootstrapEnvVars table environ (strictBash ++ rest) =
      strictBash ++ (lit "\n" ++ bootstrapVars table environ) ++ rest := by
  have lead : strictBash.isPrefixOf (strictBash ++ rest) = true :=
    isPrefixOf_iff_prefix.mpr (prefix_append _ _)
  rw [injectBootstrapEnvVars, if_pos someLine, if_pos lead, replaceFirst_lead]
  simp

theorem injectBootstrapEnvVars_bash {script : GoString} (lead : bash.isPrefixOf script = true) :
    ∃ before after, script = bash ++ before ++ after ∧ injectBootstrapEnvVars table environ script =
        bash ++ before ++ (lit "\n" ++ bootstrapVars table environ) ++ after := by
  by_cases strict : strictBash.isPrefixOf script = true
  · obtain ⟨rest, rfl⟩ := isPrefixOf_iff_prefix.mp strict
    refine ⟨lit "set -euo pipefail\n", rest, rfl, ?_⟩
    exact injectBootstrapEnvVars_strictBash someLine rest
  obtain ⟨rest, rfl⟩ := isPrefixOf_iff_prefix.mp lead
  refine ⟨[], rest, by simp, ?_⟩
  rw [injectBootstrapEnvVars, if_pos someLine, if_neg strict, if_pos lead, replaceFirst_lead]
  simp

theorem injectBootstrapEnvVars_other {script : GoString} (other : ¬bash.isPrefixOf script = true) :
    injectBootstrapEnvVars table environ script =
      bootstrapVars table environ ++ lit "\n" ++ script := by
  have notStrict : ¬strictBash.isPrefixOf script = true := by
    intro strict
    obtain ⟨rest, rfl⟩ := isPrefixOf_iff_prefix.mp strict
    exact other rfl
  rw [injectBootstrapEnvVars, if_pos someLine, if_neg notStrict, if_neg other]

end

theorem bootstrapVars_ne_nil (someVariable : bootstrapVariables environ ≠ []) :
    ∃ rest, bootstrapVars table environ = lit "export " ++ rest := by
  obtain ⟨first, others, found⟩ := exists_cons_of_ne_nil someVariable
  refine ⟨first.name ++ lit "=" ++ quote table first.value ++ lit "\n" ++
    others.flatMap (exportLine table), ?_⟩
  rw [bootstrapVars, found, flatMap_cons, exportLine]
  simp [append_assoc]

/-! ## The script stays intact -/

def firstLine (script : GoString) : GoString := script.takeWhile (· ≠ .char '\n')

variable (table environ) in
/-- The first line of the script is still first, and without the export lines and the blank
line that was added with them the script is what it was. -/
structure KeepsScript (script : GoString) : Prop where
  first : firstLine (injectBootstrapEnvVars table environ script) = firstLine script
  removable : ∃ before after, script = before ++ after ∧
    (injectBootstrapEnvVars table environ script =
        before ++ (lit "\n" ++ bootstrapVars table environ) ++ after ∨
      injectBootstrapEnvVars table environ script =
        before ++ (bootstrapVars table environ ++ lit "\n") ++ after)

variable (table environ) in
/-- Only the shebang line of bash, without options, is recognised. -/
theorem injection_keeps_script_iff (script : GoString)
    (shebang : (lit "#!").isPrefixOf script = true)
    (someVariable : bootstrapVariables environ ≠ []) :
    KeepsScript table environ script ↔ bash.isPrefixOf script = true := by
  obtain ⟨line, lines⟩ := @bootstrapVars_ne_nil table environ someVariable
  have someLine : bootstrapVars table environ ≠ [] := by
    rw [lines]
    simp [lit]
  constructor
  · intro keeps
    by_contra other
    -- the first line is an export statement now
    have first := keeps.first
    rw [injectBootstrapEnvVars_other someLine other, lines] at first
    obtain ⟨rest, rfl⟩ := isPrefixOf_iff_prefix.mp shebang
    have starts : firstLine (lit "#!" ++ rest) = lit "#!" ++ firstLine rest := rfl
    rw [starts] at first
    cases first
  · intro lead
    obtain ⟨before, after, split, injected⟩ := injectBootstrapEnvVars_bash someLine lead
    refine ⟨?_, bash ++ before, after, split, .inl injected⟩
    rw [injected, split]
    rfl

theorem injection_keeps_script_iff_sample :
    ((lit "#!").isPrefixOf (lit "#!/bin/bash\nuptime\n") = true ∧
      bootstrapVariables [lit "BOOTSTRAP_MODE=vpc"] ≠ []) ∧
    (KeepsScript (fun _ => true) [lit "BOOTSTRAP_MODE=vpc"] (lit "#!/bin/bash\nuptime\n") ↔
      bash.isPrefixOf (lit "#!/bin/bash\nuptime\n") = true) :=
  ⟨by decide, injection_keeps_script_iff _ _ _ (by decide) (by decide)⟩

/-- A script for another interpreter loses its first line. -/
theorem shebang_moved : ¬KeepsScript (fun _ => true) [lit "BOOTSTRAP_MODE=vpc"]
    (lit "#!/usr/bin/env bash\nuptime\n") :=
  fun keeps => absurd keeps.first (by decide)

/-! ## The values reach the node -/

def intended (environ : List GoString) (additionalCA : GoString) : List Assignment :=
  bootstrapVariables environ ++
    if additionalCA = [] then [] else [⟨additionalCAName, additionalCA⟩]

variable (table environ) in
/-- What is inserted assigns to each variable the value it had, and does nothing else: the
lines of `generateCloudInitScript`, and those that `InjectBootstrapEnvVars` adds to any
script. -/
structure Delivers (additionalCA : GoString) : Prop where
  cloudInit : ∀ rest, ∃ inserted,
    generateCloudInitScript table environ additionalCA (strictBash ++ rest) =
        strictBash ++ (inserted ++ rest) ∧
      exports inserted = some (intended environ additionalCA)
  userData : exports (bootstrapVars table environ) = some (bootstrapVariables environ)

variable (table) in
structure Deliverable (assignment : Assignment) : Prop where
  name : identifier assignment.name = true
  value : Everywhere (KeptQuoted table) assignment.value

theorem free_of_mem_bootstrapVariables {assignment : Assignment}
    (mem : assignment ∈ bootstrapVariables environ) : Rune.char '=' ∉ assignment.name := by
  obtain ⟨env, _, found⟩ := mem_filterMap.mp mem
  unfold bootstrapVariable at found
  split_ifs at found
  split at found
  · cases found
  cases found
  intro inside
  have different := mem_takeWhile_imp inside
  simp at different

theorem exports_exportLines_iff {assignments others : List Assignment} {tail : GoString}
    (free : ∀ assignment ∈ assignments, Rune.char '=' ∉ assignment.name) :
    exports (assignments.flatMap (exportLine table) ++ tail) = some (assignments ++ others) ↔
      (∀ assignment ∈ assignments, Deliverable table assignment) ∧ exports tail = some others := by
  induction assignments with
  | nil => simp
  | cons first assignments ih =>
    have line : (first :: assignments).flatMap (exportLine table) ++ tail =
        lit "export " ++ (first.name ++ (lit "=\"" ++ (quoteBody table first.value ++
          .char '"' :: (.char '\n' :: (assignments.flatMap (exportLine table) ++ tail))))) := by
      simp [exportLine, quote, lit, append_assoc]
    rw [line, cons_append, exports_statement_iff (free first (mem_cons_self ..)),
      forall_mem_cons]
    have later := ih fun assignment mem => free assignment (mem_cons_of_mem _ mem)
    constructor
    · rintro ⟨name, -, rest, closed, ran⟩
      obtain ⟨value, same⟩ := (doubleQuoted_quoteBody_iff table _ _ _).mp closed
      cases same
      obtain ⟨deliverable, tailEvaluated⟩ := later.mp ran
      exact ⟨⟨⟨name, value⟩, deliverable⟩, tailEvaluated⟩
    · rintro ⟨⟨⟨name, value⟩, deliverable⟩, tailEvaluated⟩
      exact ⟨name, rfl, _, (doubleQuoted_quoteBody_iff table _ _ _).mpr ⟨value, rfl⟩,
        later.mpr ⟨deliverable, tailEvaluated⟩⟩

theorem exports_bootstrapVars_iff :
    exports (bootstrapVars table environ) = some (bootstrapVariables environ) ↔
      ∀ assignment ∈ bootstrapVariables environ, Deliverable table assignment := by
  have lines : exports (bootstrapVars table environ ++ []) =
      some (bootstrapVariables environ ++ []) ↔ _ :=
    exports_exportLines_iff fun assignment => free_of_mem_bootstrapVariables
  rw [append_nil, append_nil] at lines
  exact lines.trans (and_iff_left rfl)

theorem exports_additionalCALine_iff (additionalCA : GoString) :
    exports (additionalCALine additionalCA) = some [⟨additionalCAName, additionalCA⟩] ↔
      Everywhere KeptRaw additionalCA := by
  have line : additionalCALine additionalCA = lit "export " ++ (additionalCAName ++ (lit "=\"" ++
        (additionalCA ++ .char '"' :: [.char '\n']))) := rfl
  rw [line, exports_statement_iff (by decide)]
  constructor
  · rintro ⟨-, -, rest, closed, -⟩
    exact ((doubleQuoted_raw_iff (by simp)).mp closed).1
  · intro kept
    exact ⟨rfl, rfl, [], (doubleQuoted_raw_iff (by simp)).mpr ⟨kept, rfl⟩, rfl⟩

variable (table environ) in
/-- The lines that `generateCloudInitScript` puts after the first two. -/
def insertedLines (additionalCA : GoString) : GoString :=
  (if bootstrapVars table environ ≠ [] then lit "\n" ++ bootstrapVars table environ else []) ++
    if additionalCA ≠ [] then lit "\n" ++ additionalCALine additionalCA else []

theorem generateCloudInitScript_eq (ca rest : GoString) :
    generateCloudInitScript table environ ca (strictBash ++ rest) =
      strictBash ++ (insertedLines table environ ca ++ rest) := by
  have withCA : (if ca ≠ [] then
        replaceFirst strictBash (strictBash ++ lit "\n" ++ additionalCALine ca) (strictBash ++ rest)
      else strictBash ++ rest) =
      strictBash ++ ((if ca ≠ [] then lit "\n" ++ additionalCALine ca
        else []) ++ rest) := by
    split_ifs
    · rw [replaceFirst_lead]
      simp
    · simp
  rw [generateCloudInitScript, withCA]
  by_cases someLine : bootstrapVars table environ ≠ []
  · rw [injectBootstrapEnvVars_strictBash someLine, insertedLines, if_pos someLine]
    simp
  · rw [injectBootstrapEnvVars_nil (not_not.mp someLine), insertedLines, if_neg someLine]
    simp

theorem exports_insertedLines_iff (additionalCA : GoString) :
    exports (insertedLines table environ additionalCA) = some (intended environ additionalCA) ↔
      (∀ assignment ∈ bootstrapVariables environ, Deliverable table assignment) ∧
        Everywhere KeptRaw additionalCA := by
  have block : exports (insertedLines table environ additionalCA) =
      exports (bootstrapVars table environ ++
        if additionalCA ≠ [] then lit "\n" ++ additionalCALine additionalCA else []) := by
    by_cases someLine : bootstrapVars table environ ≠ []
    · rw [insertedLines, if_pos someLine]
      exact exports_newline _
    · rw [insertedLines, if_neg someLine, not_not.mp someLine]
  rw [block, bootstrapVars, intended,
    exports_exportLines_iff fun assignment => free_of_mem_bootstrapVariables]
  refine and_congr_right fun _ => ?_
  by_cases empty : additionalCA = []
  · subst empty
    simp [exports, exportsWithin_nil, Everywhere]
  · rw [if_pos empty, if_neg empty]
    exact (Eq.congr_left (exports_newline _)).trans (exports_additionalCALine_iff additionalCA)

variable (table environ) in
/-- The values that survive: printable throughout and without a substitution for the quoted
ones; for the CA, which is not quoted, free of double quotes, substitutions and backslashes
that escape. -/
theorem injected_values_reach_node_iff (additionalCA : GoString) :
    Delivers table environ additionalCA ↔ (∀ assignment ∈ bootstrapVariables environ,
        identifier assignment.name = true ∧ Everywhere (KeptQuoted table) assignment.value) ∧
        Everywhere KeptRaw additionalCA := by
  have deliverable : (∀ assignment ∈ bootstrapVariables environ,
      identifier assignment.name = true ∧ Everywhere (KeptQuoted table) assignment.value) ↔
        ∀ assignment ∈ bootstrapVariables environ, Deliverable table assignment :=
    forall₂_congr fun _ _ => ⟨fun both => ⟨both.1, both.2⟩, fun both => ⟨both.name, both.value⟩⟩
  rw [deliverable, ← exports_insertedLines_iff]
  constructor
  · intro delivers
    obtain ⟨inserted, injected, evaluated⟩ := delivers.cloudInit []
    rw [generateCloudInitScript_eq] at injected
    have same := append_cancel_right (append_cancel_left injected)
    rw [same]
    exact evaluated
  · intro evaluated
    refine ⟨fun rest => ⟨_, generateCloudInitScript_eq additionalCA rest, evaluated⟩, ?_⟩
    exact exports_bootstrapVars_iff.mpr ((exports_insertedLines_iff additionalCA).mp evaluated).1

/-- A value with a command in it is run on the node. -/
theorem substitution_injected : ¬Delivers (fun _ => true) [lit "BOOTSTRAP_TOKEN=$(reboot)"] [] := by
  intro delivers
  have survives := (exports_bootstrapVars_iff.mp delivers.userData
    ⟨lit "BOOTSTRAP_TOKEN", lit "$(reboot)"⟩ (by decide)).value
  exact absurd survives (by decide)

end KarpenterIBM.Bootstrap
