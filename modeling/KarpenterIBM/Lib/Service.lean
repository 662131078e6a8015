import KarpenterIBM.Lib.Protocol

/-!
# Programs run against a service

A service has a state of its own and says, for each call, which answers it may give and what
each answer does to its state.
-/

namespace KarpenterIBM.EffectProgram

abbrev Service (S : Signature) (W : Type) : Type :=
  W → (op : S.Op) → S.Res op → W → Prop

variable {S : Signature} {W ε α β : Type} (service : Service S W)

/-- The program may end with this outcome and leave that state. -/
def Ends : W → Prog S ε α → Except ε α → W → Prop
  | before, .pure value, outcome, after => outcome = .ok value ∧ after = before
  | before, .fail error, outcome, after => outcome = .error error ∧ after = before
  | before, .call op rest, outcome, after =>
    ∃ answer middle, service before op answer middle ∧ Ends middle (rest answer) outcome after

variable {service}

@[simp] theorem ends_ofExcept (result : Except ε α) (before after : W) (outcome : Except ε α) :
    Ends service before (ofExcept result) outcome after ↔ outcome = result ∧ after = before := by
  cases result <;> exact Iff.rfl

theorem ends_ask {op : S.Op} {decode : S.Res op → Except ε α} {before after : W}
    {outcome : Except ε α}
    (ends : Ends service before (.call op fun answer => ofExcept (decode answer)) outcome after) :
    ∃ answer, service before op answer after ∧ outcome = decode answer := by
  obtain ⟨answer, mid, served, ended⟩ := ends
  obtain ⟨same, rfl⟩ := (ends_ofExcept _ _ _ _).mp ended
  exact ⟨answer, served, same⟩

/-- The first program ends with some result, and the second goes on from that. -/
theorem ends_bind_iff (program : Prog S ε α) (next : α → Prog S ε β) (before after : W)
    (outcome : Except ε β) :
    Ends service before (program >>= next) outcome after ↔
      ∃ result mid, Ends service before program result mid ∧
        Ends service mid (ofExcept result >>= next) outcome after := by
  induction program generalizing before with
  | pure value | fail error =>
    constructor
    · intro ends
      exact ⟨_, before, ⟨rfl, rfl⟩, ends⟩
    · rintro ⟨result, mid, ⟨rfl, rfl⟩, ends⟩
      exact ends
  | call op rest ih =>
    constructor
    · rintro ⟨answer, mid, served, ends⟩
      obtain ⟨result, last, first, second⟩ := (ih answer mid).mp ends
      exact ⟨result, last, ⟨answer, mid, served, first⟩, second⟩
    · rintro ⟨result, last, ⟨answer, mid, served, first⟩, second⟩
      exact ⟨answer, mid, served, (ih answer mid).mpr ⟨result, last, first, second⟩⟩

theorem ends_attempt_iff (program : Prog S ε α) (before after : W)
    (outcome : Except ε (Except ε α)) :
    Ends service before program.attempt outcome after ↔
      ∃ inner, Ends service before program inner after ∧ outcome = .ok inner := by
  induction program generalizing before with
  | pure value | fail error =>
    constructor
    · rintro ⟨rfl, rfl⟩
      exact ⟨_, ⟨rfl, rfl⟩, rfl⟩
    · rintro ⟨inner, ⟨rfl, rfl⟩, rfl⟩
      exact ⟨rfl, rfl⟩
  | call op rest ih =>
    constructor
    · rintro ⟨answer, mid, served, ends⟩
      obtain ⟨inner, ended, same⟩ := (ih answer mid).mp ends
      exact ⟨inner, ⟨answer, mid, served, ended⟩, same⟩
    · rintro ⟨inner, ⟨answer, mid, served, ended⟩, same⟩
      exact ⟨answer, mid, served, (ih answer mid).mpr ⟨inner, ended, same⟩⟩

theorem ends_attempt_bind {program : Prog S ε α} {next : Except ε α → Prog S ε β} {before after : W}
    {outcome : Except ε β} (ends : Ends service before (program.attempt >>= next) outcome after) :
    ∃ result mid, Ends service before program result mid ∧
      Ends service mid (next result) outcome after := by
  obtain ⟨_, mid, first, second⟩ := (ends_bind_iff _ _ _ _ _).mp ends
  obtain ⟨result, ran, rfl⟩ := (ends_attempt_iff _ _ _ _).mp first
  exact ⟨result, mid, ran, second⟩

variable (change : ε → ε)

theorem mapError_eq_ok_iff {outcome : Except ε α} {value : α} :
    outcome.mapError change = .ok value ↔ outcome = .ok value := by
  cases outcome with
  | ok found => exact Iff.rfl
  | error error => exact ⟨nofun, nofun⟩

theorem ends_mapError_iff (program : Prog S ε α) (before after : W) (outcome : Except ε α) :
    Ends service before (program.mapError change) outcome after ↔
      ∃ inner, Ends service before program inner after ∧ outcome = inner.mapError change := by
  induction program generalizing before with
  | pure value | fail error =>
    constructor
    · rintro ⟨rfl, rfl⟩
      exact ⟨_, ⟨rfl, rfl⟩, rfl⟩
    · rintro ⟨inner, ⟨rfl, rfl⟩, rfl⟩
      exact ⟨rfl, rfl⟩
  | call op rest ih =>
    constructor
    · rintro ⟨answer, mid, served, ends⟩
      obtain ⟨inner, ended, same⟩ := (ih answer mid).mp ends
      exact ⟨inner, ⟨answer, mid, served, ended⟩, same⟩
    · rintro ⟨inner, ⟨answer, mid, served, ended⟩, same⟩
      exact ⟨answer, mid, served, (ih answer mid).mpr ⟨inner, ended, same⟩⟩

theorem ends_mapError_bind {program : Prog S ε α} {next : α → Prog S ε β} {before after : W}
    {outcome : Except ε β}
    (ends : Ends service before (program.mapError change >>= next) outcome after) :
    ∃ result mid, Ends service before program result mid ∧
      Ends service mid (ofExcept (result.mapError change) >>= next) outcome after := by
  obtain ⟨_, mid, first, second⟩ := (ends_bind_iff _ _ _ _ _).mp ends
  obtain ⟨result, ran, rfl⟩ := (ends_mapError_iff _ _ _ _ _).mp first
  exact ⟨result, mid, ran, second⟩

theorem ends_bind_ok_iff (program : Prog S ε α) (next : α → Prog S ε β) (before after : W)
    (final : β) :
    Ends service before (program >>= next) (.ok final) after ↔
      ∃ value mid, Ends service before program (.ok value) mid ∧
        Ends service mid (next value) (.ok final) after := by
  rw [ends_bind_iff]
  constructor
  · rintro ⟨result, mid, first, second⟩
    cases result with
    | ok value => exact ⟨value, mid, first, second⟩
    | error error => cases second.1
  · rintro ⟨value, mid, first, second⟩
    exact ⟨.ok value, mid, first, second⟩

theorem ends_mapError_ok_iff (program : Prog S ε α) (before after : W) (value : α) :
    Ends service before (program.mapError change) (.ok value) after ↔
      Ends service before program (.ok value) after := by
  rw [ends_mapError_iff]
  constructor
  · rintro ⟨inner, ended, same⟩
    rwa [(mapError_eq_ok_iff change).mp same.symm] at ended
  · exact fun ended => ⟨_, ended, rfl⟩

variable {program : Prog S ε α} {before after : W}

theorem Ends.bind {next : α → Prog S ε β} {mid : W} {value : α} {outcome : Except ε β}
    (first : Ends service before program (.ok value) mid)
    (second : Ends service mid (next value) outcome after) :
    Ends service before (program >>= next) outcome after :=
  (ends_bind_iff ..).mpr ⟨.ok value, mid, first, second⟩

variable {outcome : Except ε α}

section
variable (ends : Ends service before program outcome after)

include ends

theorem Ends.attempt : Ends service before program.attempt (.ok outcome) after :=
  (ends_attempt_iff ..).mpr ⟨outcome, ends, rfl⟩

theorem Ends.mapError :
    Ends service before (program.mapError change) (outcome.mapError change) after :=
  (ends_mapError_iff ..).mpr ⟨outcome, ends, rfl⟩

end

theorem exists_ends (answers : ∀ state op, ∃ answer after, service state op answer after)
    (program : Prog S ε α) (before : W) :
    ∃ outcome after, Ends service before program outcome after := by
  induction program generalizing before with
  | pure value => exact ⟨.ok value, before, rfl, rfl⟩
  | fail error => exact ⟨.error error, before, rfl, rfl⟩
  | call op rest ih =>
    obtain ⟨answer, mid, served⟩ := answers before op
    obtain ⟨outcome, after, ended⟩ := ih answer mid
    exact ⟨outcome, after, answer, mid, served, ended⟩

theorem Ends.runs (ends : Ends service before program outcome after) :
    ∃ trace, Runs program trace outcome := by
  induction program generalizing before with
  | pure value | fail error => exact ⟨[], rfl, ends.1⟩
  | call op rest ih =>
    obtain ⟨answer, mid, _, later⟩ := ends
    obtain ⟨trace, run⟩ := ih answer later
    exact ⟨⟨op, answer⟩ :: trace, answer, trace, rfl, run⟩

theorem Ends.keeps (keeps : W → Prop)
    (step : ∀ before op answer after, service before op answer after →
      keeps before → keeps after) (kept : keeps before)
    (ends : Ends service before program outcome after) : keeps after := by
  induction program generalizing before with
  | pure value | fail error => exact ends.2 ▸ kept
  | call op rest ih =>
    obtain ⟨answer, mid, served, ended⟩ := ends
    exact ih answer (step before op answer mid served kept) ended

theorem Uses.ends_keeps {allowed : S.Op → Prop} {closes : Except ε α → Prop}
    (uses : Uses allowed closes program) (keeps : W → Prop)
    (step : ∀ before op answer after, allowed op → service before op answer after →
      keeps before → keeps after) (kept : keeps before)
    (ends : Ends service before program outcome after) : keeps after := by
  induction program generalizing before with
  | pure value | fail error => exact ends.2 ▸ kept
  | call op rest ih =>
    obtain ⟨answer, mid, served, ended⟩ := ends
    exact ih answer (uses.2 answer) (step before op answer mid uses.1 served kept) ended

/-! ## Postconditions -/

/-- Whatever the service answers, `post` holds of the outcome and of the state it leaves. -/
def Ensures (service : Service S W) (before : W) (program : Prog S ε α)
    (post : Except ε α → W → Prop) : Prop :=
  ∀ outcome after, Ends service before program outcome after → post outcome after

variable {before : W} {post : Except ε α → W → Prop}

theorem Ensures.of_ends (ensures : Ensures service before program post)
    (ends : Ends service before program outcome after) : post outcome after :=
  ensures outcome after ends

theorem ensures_pure {value : α} (holds : post (.ok value) before) :
    Ensures service before (.pure value) post := by
  rintro outcome after ⟨rfl, rfl⟩
  exact holds

theorem ensures_fail {error : ε} (holds : post (.error error) before) :
    Ensures service before (.fail error) post := by
  rintro outcome after ⟨rfl, rfl⟩
  exact holds

theorem ensures_ofExcept {result : Except ε α} (holds : post result before) :
    Ensures service before (ofExcept result) post := by
  cases result with
  | ok value => exact ensures_pure holds
  | error error => exact ensures_fail holds

theorem ensures_call {op : S.Op} {rest : S.Res op → Prog S ε α}
    (goes : ∀ answer mid, service before op answer mid → Ensures service mid (rest answer) post) :
    Ensures service before (.call op rest) post := by
  rintro outcome after ⟨answer, mid, served, ends⟩
  exact goes answer mid served outcome after ends

theorem ensures_perform {op : S.Op} {next : S.Res op → Prog S ε α}
    (goes : ∀ answer mid, service before op answer mid → Ensures service mid (next answer) post) :
    Ensures service before (.call op .pure >>= next) post :=
  ensures_call goes

theorem Ensures.mono {weaker : Except ε α → W → Prop}
    (ensures : Ensures service before program post)
    (implies : ∀ outcome after, post outcome after → weaker outcome after) :
    Ensures service before program weaker :=
  fun outcome after ends => implies outcome after (ensures outcome after ends)

variable {mid : Except ε β → W → Prop}

theorem Ensures.bind {program : Prog S ε β} {next : β → Prog S ε α}
    (first : Ensures service before program mid)
    (second : ∀ value state, mid (.ok value) state → Ensures service state (next value) post)
    (failure : ∀ error state, mid (.error error) state → post (.error error) state) :
    Ensures service before (program >>= next) post := by
  intro outcome after ends
  obtain ⟨result, state, ended, later⟩ := (ends_bind_iff program next before after outcome).mp ends
  cases result with
  | ok value => exact second value state (first _ _ ended) outcome after later
  | error error =>
    obtain ⟨rfl, rfl⟩ := later
    exact failure error after (first _ _ ended)

theorem Ensures.attempt_bind {program : Prog S ε β} {next : Except ε β → Prog S ε α}
    (first : Ensures service before program mid)
    (second : ∀ outcome state, mid outcome state → Ensures service state (next outcome) post) :
    Ensures service before (program.attempt >>= next) post := by
  have held : Ensures service before program.attempt fun outcome state =>
      ∃ inner, outcome = .ok inner ∧ mid inner state := by
    intro outcome after ends
    obtain ⟨inner, ended, same⟩ := (ends_attempt_iff program before after outcome).mp ends
    exact ⟨inner, same, first inner after ended⟩
  refine held.bind ?_ ?_
  · rintro _ state ⟨inner, ⟨⟩, holds⟩
    exact second _ state holds
  · rintro error state ⟨inner, ⟨⟩, _⟩

theorem Ensures.mapError {change : ε → ε}
    (ensures : Ensures service before program fun outcome after =>
      post (outcome.mapError change) after) :
    Ensures service before (program.mapError change) post := by
  intro outcome after ends
  obtain ⟨inner, ended, rfl⟩ := (ends_mapError_iff change program before after outcome).mp ends
  exact ensures inner after ended

theorem Only.ensures_unmoved {allowed : S.Op → Prop} (only : Only allowed program)
    (quiet : ∀ state op answer after, allowed op → service state op answer after →
      after = state) : Ensures service before program fun _ after => after = before := by
  intro outcome after ends
  refine Uses.ends_keeps only (· = before) ?_ rfl ends
  intro state op answer next ok served same
  rw [quiet state op answer next ok served, same]

end KarpenterIBM.EffectProgram
