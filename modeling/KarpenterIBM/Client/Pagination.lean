import KarpenterIBM.Errors
import KarpenterIBM.Lib.EffectProgram
import Mathlib.Data.Finset.Card

/-!
# Pagination

`paginate` of `pkg/cloudprovider/ibm` and the listings built on it.
-/

namespace KarpenterIBM.Pagination

open EffectProgram Errors List

/-- A page as `fetchPage` hands it on, with the token of the next one. -/
structure Fetched (T : Type) where
  items : List T
  next : Option String

/-! ## The loop -/

section

-- `quote` is the verb %q of `fmt`, `σ` what the two closures share
variable {S : Signature} {σ T : Type} (quote : String → String)
  (fetchPage : σ → Prog S Empty (Except Failure (Fetched T))) (setStart : String → σ → σ)

def repeatedToken (token : String) : Failure :=
  .error (.plain ("repeated pagination token " ++ quote token))

def paginateFrom : Nat → List String → List T → σ →
    Prog S Empty (Option (Except Failure (List T)) × σ)
  | 0, _, _, memory => pure (none, memory)
  | pages + 1, seen, all, memory => do
    let fetched ← fetchPage memory
    match fetched with
    | .error failure => pure (some (.error failure), memory)
    | .ok page =>
      match page.next with
      | none => pure (some (.ok (all ++ page.items)), memory)
      | some token =>
        if token ∈ seen then pure (some (.error (repeatedToken quote token)), memory)
        else
          paginateFrom pages (token :: seen) (all ++ page.items) (setStart token memory)

def paginate (pages : Nat) (memory : σ) :
    Prog S Empty (Option (Except Failure (List T)) × σ) :=
  paginateFrom quote fetchPage setStart pages [] [] memory

/-! ## Following the tokens -/

/-- From the first memory these pages are fetched in turn, each but the first after the
closures were moved to the token of the one before. -/
inductive Passes : σ → List S.Exchange → List (List T × String) → σ → Prop
  | done (memory : σ) : Passes memory [] [] memory
  | next {memory final : σ} {first later : List S.Exchange} {items : List T} {token : String}
      {passed : List (List T × String)}
      (ran : Runs (fetchPage memory) first (.ok (.ok ⟨items, some token⟩)))
      (rest : Passes (setStart token memory) later passed final) :
      Passes memory (first ++ later) ((items, token) :: passed) final

/-- What the last answer makes of the items before it. -/
inductive Ends (tokens : List String) (all : List T) :
    Except Failure (Fetched T) → Except Failure (List T) → Prop
  | failed (failure : Failure) : Ends tokens all (.error failure) (.error failure)
  | complete (items : List T) : Ends tokens all (.ok ⟨items, none⟩) (.ok (all ++ items))
  | repeated (items : List T) {token : String} (known : token ∈ tokens) :
      Ends tokens all (.ok ⟨items, some token⟩) (.error (repeatedToken quote token))

/-- A run that ended, from the items and tokens it already had: pages that were passed,
and an answer that ended it. -/
inductive Ended (memory : σ) (seen : List String) (all : List T) :
    List S.Exchange → List (List T × String) → Except Failure (List T) → σ → Prop
  | intro {before last : List S.Exchange} {passed : List (List T × String)}
      {answer : Except Failure (Fetched T)} {result : Except Failure (List T)} {final : σ}
      (passes : Passes fetchPage setStart memory before passed final)
      (ran : Runs (fetchPage final) last (.ok answer))
      (ends : Ends quote (passed.map Prod.snd ++ seen) (all ++ (passed.map Prod.fst).flatten)
        answer result) :
      Ended memory seen all (before ++ last) passed result final

variable {quote fetchPage setStart} {result : Except Failure (List T)}

theorem Ends.congr {tokens more : List String} {all : List T} {answer : Except Failure (Fetched T)}
    (ends : Ends quote tokens all answer result) (subset : tokens ⊆ more) :
    Ends quote more all answer result := by
  cases ends with
  | failed failure => exact .failed failure
  | complete items => exact .complete items
  | repeated items known => exact .repeated items (subset known)

variable {memory : σ} {trace : List S.Exchange}

theorem ended_here {seen : List String} {all : List T} {answer : Except Failure (Fetched T)}
    (ran : Runs (fetchPage memory) trace (.ok answer)) (ends : Ends quote seen all answer result) :
    Ended quote fetchPage setStart memory seen all trace [] result memory := by
  have same : all ++ (([] : List (List T × String)).map Prod.fst).flatten = all := by simp
  exact .intro (.done memory) ran (same.symm ▸ ends)

variable {final : σ}

theorem Ended.next {seen : List String} {all items : List T} {token : String}
    {first later : List S.Exchange} {passed : List (List T × String)}
    (ran : Runs (fetchPage memory) first (.ok (.ok ⟨items, some token⟩)))
    (ended : Ended quote fetchPage setStart (setStart token memory) (token :: seen)
      (all ++ items) later passed result final) :
    Ended quote fetchPage setStart memory seen all (first ++ later) ((items, token) :: passed)
      result final := by
  obtain ⟨passes, last, ends⟩ := ended
  rw [← append_assoc]
  refine .intro (.next ran passes) last ?_
  rw [append_assoc] at ends
  refine ends.congr fun other mem => ?_
  simp only [map_cons, mem_append, mem_cons] at mem ⊢
  tauto

variable {result : Option (Except Failure (List T))}

theorem runs_paginateFrom {pages : Nat} {seen : List String} {all : List T}
    (run : Runs (paginateFrom quote fetchPage setStart pages seen all memory) trace
      (.ok (result, final))) :
    ∃ passed : List (List T × String), (passed.map Prod.snd).Nodup ∧
      (∀ token ∈ passed.map Prod.snd, token ∉ seen) ∧
      (result = none ∧ passed.length = pages ∧ Passes fetchPage setStart memory trace passed final ∨
        ∃ value, result = some value ∧
          Ended quote fetchPage setStart memory seen all trace passed value final) := by
  induction pages generalizing seen all memory trace with
  | zero =>
    obtain ⟨rfl, ⟨⟩⟩ := run
    exact ⟨[], nodup_nil, by simp, .inl ⟨rfl, rfl, .done _⟩⟩
  | succ pages ih =>
    obtain ⟨error | fetched, first, later, rfl, ran, rest⟩ := (runs_bind_iff _ _ _ _).mp run
    · cases error
    rw [ofExcept_ok_bind] at rest
    match fetched with
    | .error failure =>
      obtain ⟨rfl, ⟨⟩⟩ := rest
      rw [append_nil]
      exact ⟨[], nodup_nil, by simp, .inr ⟨_, rfl, ended_here ran (.failed failure)⟩⟩
    | .ok ⟨items, none⟩ =>
      obtain ⟨rfl, ⟨⟩⟩ := rest
      rw [append_nil]
      exact ⟨[], nodup_nil, by simp, .inr ⟨_, rfl, ended_here ran (.complete items)⟩⟩
    | .ok ⟨items, some token⟩ =>
      dsimp only at rest
      by_cases known : token ∈ seen
      · rw [if_pos known] at rest
        obtain ⟨rfl, ⟨⟩⟩ := rest
        rw [append_nil]
        exact ⟨[], nodup_nil, by simp, .inr ⟨_, rfl, ended_here ran (.repeated items known)⟩⟩
      · rw [if_neg known] at rest
        obtain ⟨passed, distinct, unseen, out⟩ := ih rest
        refine ⟨(items, token) :: passed, ?_, ?_, ?_⟩
        · refine nodup_cons.mpr ⟨fun member => ?_, distinct⟩
          exact unseen token member mem_cons_self
        · intro other member
          rcases mem_cons.mp member with rfl | member
          · exact known
          · exact fun inSeen => unseen other member (mem_cons_of_mem _ inSeen)
        rcases out with ⟨rfl, length, passes⟩ | ⟨value, rfl, ended⟩
        · exact .inl ⟨rfl, by simp [length], .next ran passes⟩
        · exact .inr ⟨value, rfl, ended.next ran⟩

theorem paginate_ends {pages : Nat}
    (run : Runs (paginate quote fetchPage setStart pages memory) trace (.ok (result, final))) :
    ∃ passed : List (List T × String), (passed.map Prod.snd).Nodup ∧
      ((∃ value, result = some value ∧
          Ended quote fetchPage setStart memory [] [] trace passed value final) ∨
        result = none ∧ Passes fetchPage setStart memory trace passed final ∧
          ∀ tokens : Finset String, (∀ token ∈ passed.map Prod.snd, token ∈ tokens) →
            pages ≤ tokens.card) := by
  obtain ⟨passed, distinct, _, out⟩ := runs_paginateFrom run
  refine ⟨passed, distinct, ?_⟩
  rcases out with ⟨unfinished, length, passes⟩ | ended
  · refine .inr ⟨unfinished, passes, fun tokens finite => ?_⟩
    have subset : (passed.map Prod.snd).toFinset ⊆ tokens := by
      intro token mem
      exact finite token (mem_toFinset.mp mem)
    have counted := Finset.card_le_card subset
    rw [toFinset_card_of_nodup distinct, length_map, length] at counted
    exact counted
  · exact .inl ended

theorem Passes.keeps {K : σ → Prop} (moves : ∀ token memory, K memory → K (setStart token memory))
    {passed : List (List T × String)} (passes : Passes fetchPage setStart memory trace passed final)
    (kept : K memory) : K final := by
  induction passes with
  | done memory => exact kept
  | next ran rest ih => exact ih (moves _ _ kept)

theorem paginate_keeps {K : σ → Prop} (moves : ∀ token memory, K memory → K (setStart token memory))
    {pages : Nat}
    (run : Runs (paginate quote fetchPage setStart pages memory) trace (.ok (result, final)))
    (kept : K memory) : K final := by
  obtain ⟨passed, _, ⟨value, _, ⟨passes, _, _⟩⟩ | ⟨_, passes, _⟩⟩ := paginate_ends run
  · exact passes.keeps moves kept
  · exact passes.keeps moves kept

end

/-! ## Listings -/

structure ListOptions (F : Type) where
  start : Option String
  limit : Option Int
  filter : F

structure Page (T : Type) where
  items : List T
  nextStart : Except GoError (Option String)

/-- The one call of a listing carries the options; the collection may be missing. -/
abbrev listing (F T : Type) : Signature :=
  ⟨ListOptions F, fun _ => Except GoError (Option (Page T))⟩

def defaultPageLimit : Int := 100

/-- The cells of memory that hold options; a pointer is the number of its cell. -/
abbrev Memory (F : Type) : Type := List (ListOptions F)

section
variable {F T : Type}

def copyOptions (zero : F) (memory : Memory F) (options : Option Nat) : ListOptions F :=
  let opts : ListOptions F := (options.bind fun address => memory[address]?).getD ⟨none, none, zero⟩
  match opts.limit with
  | none => { opts with limit := some defaultPageLimit }
  | some _ => opts

def pageOf (page : Page T) : Except Failure (Fetched T) :=
  match page.nextStart with
  | .error error => .error (.error (.wrap "parsing next page token: " error ""))
  | .ok next => .ok ⟨page.items, next⟩

def fetchFrom (zero : F)
    (collection : Except GoError (Option (Page T)) → Except Failure (Fetched T)) (opts : Nat)
    (memory : Memory F) : Prog (listing F T) Empty (Except Failure (Fetched T)) :=
  .call (memory.getD opts ⟨none, none, zero⟩) fun answer => pure (collection answer)

def moveTo (opts : Nat) (token : String) (memory : Memory F) : Memory F :=
  memory.modify opts fun cell => { cell with start := some token }

/-- The body common to the listings: copy the options into a new cell, and paginate with
closures over that cell. -/
def listPages (quote : String → String) (initialized : Bool) (zero : F)
    (collection : Except GoError (Option (Page T)) → Except Failure (Fetched T))
    (pages : Nat) (memory : Memory F) (options : Option Nat) :
    Prog (listing F T) Empty (Option (Except Failure (List T)) × Memory F) :=
  if initialized then
    paginate quote (fetchFrom zero collection memory.length) (moveTo memory.length) pages
      (memory ++ [copyOptions zero memory options])
  else pure (some (.error (.error (.plain "VPC client not initialized"))), memory)

/-- The collection of `listInstances`. -/
def instanceCollection (resourceType : String) :
    Except GoError (Option (Page T)) → Except Failure (Fetched T)
  | .error error => .error (.error (.wrap ("listing " ++ resourceType ++ ": ") error ""))
  | .ok none => .error (.error (.plain ("listing " ++ resourceType ++ " returned no collection")))
  | .ok (some page) => pageOf page

/-- The collection of `ListImages` and `ListInstanceProfiles`. -/
def plainCollection : Except GoError (Option (Page T)) → Except Failure (Fetched T)
  | .error error => .error (.error error)
  | .ok none => .error .panic
  | .ok (some page) => pageOf page

structure InstanceFilter where
  name : Option String
  availabilityClass : Option String

structure ImageFilter where
  visibility : Option String

def listInstances (quote : String → String) (initialized : Bool) (resourceType : String)
    (pages : Nat) (memory : Memory InstanceFilter) (options : Option Nat) :
    Prog (listing InstanceFilter T) Empty
      (Option (Except Failure (List T)) × Memory InstanceFilter) :=
  listPages quote initialized ⟨none, none⟩ (instanceCollection resourceType) pages memory options

def listImages (quote : String → String) (initialized : Bool) (pages : Nat)
    (memory : Memory ImageFilter) (options : Option Nat) :
    Prog (listing ImageFilter T) Empty (Option (Except Failure (List T)) × Memory ImageFilter) :=
  listPages quote initialized ⟨none⟩ plainCollection pages memory options

def listInstanceProfiles (quote : String → String) (initialized : Bool) (pages : Nat)
    (memory : Memory Unit) (options : Option Nat) :
    Prog (listing Unit T) Empty (Option (Except Failure (List T)) × Memory Unit) :=
  listPages quote initialized () plainCollection pages memory options

theorem modify_append_cell {α : Type} (memory : List α) (cell : α) (change : α → α) :
    (memory ++ [cell]).modify memory.length change = memory ++ [change cell] := by
  induction memory with
  | nil => rfl
  | cons head rest ih => exact congrArg (head :: ·) ih

variable {collection : Except GoError (Option (Page T)) → Except Failure (Fetched T)}
  {trace : List (listing F T).Exchange}

theorem listPages_frame {quote : String → String} {initialized : Bool} {zero : F} {pages : Nat}
    {memory final : Memory F} {options : Option Nat} {result : Option (Except Failure (List T))}
    (run : Runs (listPages quote initialized zero collection pages memory options) trace
      (.ok (result, final))) : memory <+: final := by
  unfold listPages at run
  by_cases ready : initialized = true
  · rw [if_pos ready] at run
    refine paginate_keeps (K := fun cells => ∃ cell, cells = memory ++ [cell]) ?_ run ⟨_, rfl⟩
      |>.elim fun cell same => same ▸ prefix_append _ _
    rintro token cells ⟨cell, rfl⟩
    exact ⟨_, modify_append_cell _ _ _⟩
  · rw [if_neg ready] at run
    cases run.2
    exact prefix_rfl

end

/-- `paginate` ends with the failure of the last page, with an error when its token was given
before, or with the items of the pages in order; only a run whose pages gave as many different
tokens as there were pages to ask for is not at its end. The listings leave the caller's
options as they were. -/
theorem paginate_complete_and_options_kept (quote : String → String) :
    (∀ {S : Signature} {σ T : Type} (fetchPage : σ → Prog S Empty (Except Failure (Fetched T)))
        (setStart : String → σ → σ) (pages : Nat) (memory final : σ)
        (trace : List S.Exchange) (result : Option (Except Failure (List T))),
      Runs (paginate quote fetchPage setStart pages memory) trace (.ok (result, final)) →
      ∃ passed : List (List T × String), (passed.map Prod.snd).Nodup ∧
        ((∃ value, result = some value ∧
            Ended quote fetchPage setStart memory [] [] trace passed value final) ∨
          result = none ∧ Passes fetchPage setStart memory trace passed final ∧
            ∀ tokens : Finset String, (∀ token ∈ passed.map Prod.snd, token ∈ tokens) →
              pages ≤ tokens.card)) ∧
    (∀ {T : Type} (initialized : Bool) (resourceType : String) (pages : Nat)
        (memory final : Memory InstanceFilter) (options : Option Nat)
        (trace : List (listing InstanceFilter T).Exchange)
        (result : Option (Except Failure (List T))),
      Runs (listInstances quote initialized resourceType pages memory options) trace
        (.ok (result, final)) → memory <+: final) ∧
    (∀ {T : Type} (initialized : Bool) (pages : Nat) (memory final : Memory ImageFilter)
        (options : Option Nat) (trace : List (listing ImageFilter T).Exchange)
        (result : Option (Except Failure (List T))),
      Runs (listImages quote initialized pages memory options) trace (.ok (result, final)) →
        memory <+: final) ∧
    ∀ {T : Type} (initialized : Bool) (pages : Nat) (memory final : Memory Unit)
        (options : Option Nat) (trace : List (listing Unit T).Exchange)
        (result : Option (Except Failure (List T))),
      Runs (listInstanceProfiles quote initialized pages memory options) trace
        (.ok (result, final)) → memory <+: final := by
  refine ⟨?_, ?_, ?_, ?_⟩
  · intro S σ T fetchPage setStart pages memory final trace result run
    exact paginate_ends run
  · intro T initialized resourceType pages memory final options trace result run
    exact listPages_frame run
  · intro T initialized pages memory final options trace result run
    exact listPages_frame run
  · intro T initialized pages memory final options trace result run
    exact listPages_frame run

/-! ## Two pages of public images -/

def publicOptions : ListOptions ImageFilter := ⟨none, some 2, ⟨some "public"⟩⟩

def secondOptions : ListOptions ImageFilter := { publicOptions with start := some "t" }

def twoPages : List (listing ImageFilter String).Exchange :=
  [⟨publicOptions, .ok (some ⟨["a", "b"], .ok (some "t")⟩)⟩,
    ⟨secondOptions, .ok (some ⟨["c"], .ok none⟩)⟩]

theorem paginate_complete_and_options_kept_sample :
    Runs (listImages id true 2 [publicOptions] (some 0)) twoPages
        (.ok (some (.ok ["a", "b", "c"]), [publicOptions, secondOptions])) ∧
      [publicOptions] <+: [publicOptions, secondOptions] ∧
      ∃ passed : List (List String × String), (passed.map Prod.snd).Nodup ∧
        ((∃ value, some (.ok ["a", "b", "c"]) = some value ∧
            Ended id (fetchFrom ⟨none⟩ plainCollection 1) (moveTo 1) [publicOptions, publicOptions]
              [] [] twoPages passed value [publicOptions, secondOptions]) ∨
          some (.ok ["a", "b", "c"]) = (none : Option (Except Failure (List String))) ∧
            Passes (fetchFrom ⟨none⟩ plainCollection 1) (moveTo 1) [publicOptions, publicOptions]
              twoPages passed [publicOptions, secondOptions] ∧
            ∀ tokens : Finset String, (∀ token ∈ passed.map Prod.snd, token ∈ tokens) →
              2 ≤ tokens.card) := by
  have run : Runs (listImages id true 2 [publicOptions] (some 0)) twoPages
      (.ok (some (.ok ["a", "b", "c"]), [publicOptions, secondOptions])) :=
    ⟨_, _, rfl, _, _, rfl, rfl, rfl⟩
  obtain ⟨ends, _, kept, _⟩ := paginate_complete_and_options_kept id
  exact ⟨run, kept _ _ _ _ _ _ _ run, ends _ _ _ _ _ _ _ run⟩

end KarpenterIBM.Pagination
