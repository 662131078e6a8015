import KarpenterIBM.OrphanCleanup.Controller

/-!
# Only true orphans are deleted

The calls of a pass that come before a deletion end with the final check of that instance.
-/

namespace KarpenterIBM.OrphanCleanup

open EffectProgram Errors List Objects Ownership Text

/-! ## Provider IDs -/

def NamesInstance (providerID instanceID : String) : Prop :=
  ∃ region, region ≠ "" ∧ '/' ∉ region.toList ∧ instanceID ≠ "" ∧ '/' ∉ instanceID.toList ∧
    providerID = "ibm:///" ++ joinText [region, instanceID] '/'

variable {instanceID : String}

theorem extract_of_namesInstance {providerID : String} (names : NamesInstance providerID instanceID)
    : extractInstanceIDFromProviderID providerID = instanceID := by
  obtain ⟨region, regionFilled, regionFree, idFilled, idFree, rfl⟩ := names
  have lead : hasLead ("ibm:///" ++ joinText [region, instanceID] '/') "ibm:///" = true := by
    simp [hasLead]
  have trimmed : trimLead ("ibm:///" ++ joinText [region, instanceID] '/') "ibm:///" =
      joinText [region, instanceID] '/' := by
    rw [trimLead, if_pos lead, String.toList_append, drop_left, String.ofList_toList]
  have parts : splitText (joinText [region, instanceID] '/') '/' = [region, instanceID] := by
    refine splitText_joinText _ _ (by simp) ?_
    simp [regionFree, idFree]
  rw [extractInstanceIDFromProviderID, if_pos lead, trimmed, parts]
  exact if_neg (not_or.mpr ⟨regionFilled, idFilled⟩)

/-! ## The tag list -/

def Carries (names : List (Option String)) (key value : String) : Prop :=
  ∃ name, some name ∈ names ∧ cutText name ':' = some (key, value)

def Collected (tags : StringMap) (names : List (Option String)) : Prop :=
  ∀ key, reservedTag key = true →
    ∀ value, tags.lookup key = some value ↔ Carries names key value

theorem collected_nil : Collected ∅ [] := by
  intro key _ value
  simp [Carries]

variable {tags : StringMap}

theorem Collected.skip {names : List (Option String)} (collected : Collected tags names)
    {item : Option String} (uncut : ∀ name, item = some name → cutText name ':' = none) :
    Collected tags (names ++ [item]) := by
  intro key reserved value
  rw [collected key reserved value]
  unfold Carries
  constructor
  · rintro ⟨name, mem, cut⟩
    exact ⟨name, mem_append_left _ mem, cut⟩
  rintro ⟨name, mem, cut⟩
  rcases mem_append.mp mem with mem | last
  · exact ⟨name, mem, cut⟩
  · rw [uncut name (mem_singleton.mp last).symm] at cut
    cases cut

theorem Collected.add {names : List (Option String)} (collected : Collected tags names)
    {name key value : String} (cut : cutText name ':' = some (key, value))
    (agrees : conflicts tags key value = false) :
    Collected (tags.insert key value) (names ++ [some name]) := by
  intro other reserved found
  have split : Carries (names ++ [some name]) other found ↔
      Carries names other found ∨ (other = key ∧ found = value) := by
    unfold Carries
    constructor
    · rintro ⟨tag, mem, parts⟩
      rcases mem_append.mp mem with mem | last
      · exact .inl ⟨tag, mem, parts⟩
      obtain rfl : tag = name := by simpa using last
      cases cut.symm.trans parts
      exact .inr ⟨rfl, rfl⟩
    · rintro (⟨tag, mem, parts⟩ | ⟨rfl, rfl⟩)
      · exact ⟨tag, mem_append_left _ mem, parts⟩
      · exact ⟨name, by simp, cut⟩
  rw [split, ← collected other reserved found]
  by_cases same : other = key
  · subst same
    rw [Finmap.lookup_insert]
    constructor
    · intro inserted
      exact .inr ⟨rfl, (Option.some.inj inserted).symm⟩
    rintro (stored | ⟨_, rfl⟩)
    -- An earlier value of a reserved key is this value, or there is a conflict.
    · rw [conflicts, stored] at agrees
      dsimp only at agrees
      rw [reserved, Bool.and_true, decide_eq_false_iff_not, not_not] at agrees
      rw [agrees]
    · rfl
  · rw [Finmap.lookup_insert_of_ne _ same]
    simp [same]

theorem Collected.collect {found : StringMap} {names items : List (Option String)}
    (collected : Collected tags names) (ended : collect tags items = .ok found) :
    Collected found (names ++ items) := by
  induction items generalizing tags names with
  | nil =>
    cases ended
    simpa using collected
  | cons item rest ih =>
    rw [append_cons]
    cases item with
    | none => exact ih (collected.skip (by simp)) ended
    | some name =>
      rw [OrphanCleanup.collect] at ended
      cases cut : cutText name ':' with
      | none =>
        rw [cut] at ended
        refine ih (collected.skip ?_) ended
        rintro other ⟨⟩
        exact cut
      | some parts =>
        obtain ⟨key, value⟩ := parts
        rw [cut] at ended
        cases agrees : conflicts tags key value with
        | true => simp [agrees] at ended
        | false =>
          simp only [agrees, Bool.false_eq_true, if_false] at ended
          exact ih (collected.add cut agrees) ended

/-! ## Pages of one list -/

/-- What the tagging service promises of a page of a list. -/
structure PageOf (complete : List (Option String)) (offset : Nat) (page : TagPage) : Prop where
  slice : page.items <+: complete.drop offset
  counted : ∀ total, page.totalCount = some total → total = complete.length
  full : page.totalCount = none →
    page.items.length = limit ∨ complete.length ≤ offset + page.items.length

variable {complete : List (Option String)} {offset : Nat}

theorem PageOf.take {page : TagPage} (isPage : PageOf complete offset page) :
    complete.take (offset + page.items.length) = complete.take offset ++ page.items := by
  rw [take_add, prefix_iff_eq_take.mp isPage.slice]
  simp

def pageExchanges (crn : String) (pages : List (Nat × TagPage)) : List inventory.Exchange :=
  pages.map fun page => ⟨.listTags crn page.1, .ok (some page.2)⟩

def Listed (crn : String) (trace : List inventory.Exchange) (offset : Nat)
    (before found : StringMap) : Prop :=
  ∃ pages, trace = pageExchanges crn pages ∧
    ∀ complete, (∀ page ∈ pages, PageOf complete page.1 page.2) →
      Collected before (complete.take offset) → Collected found complete

section
variable {crn : String} {offset : Nat} {tags got found : StringMap} {page : TagPage}

theorem Listed.last (collected : collect tags page.items = .ok found)
    (ends : ∀ complete, PageOf complete offset page →
      complete.length ≤ offset + page.items.length) :
    Listed crn [⟨.listTags crn offset, .ok (some page)⟩] offset tags found := by
  refine ⟨[(offset, page)], rfl, ?_⟩
  intro complete arePages before
  have isPage := arePages (offset, page) (mem_singleton_self _)
  have read := Collected.collect before collected
  rw [← isPage.take, take_of_length_le (ends complete isPage)] at read
  exact read

theorem Listed.step {later : List inventory.Exchange}
    (collected : collect tags page.items = .ok got)
    (rest : Listed crn later (offset + page.items.length) got found) :
    Listed crn (⟨.listTags crn offset, .ok (some page)⟩ :: later) offset tags found := by
  obtain ⟨pages, rfl, completeOf⟩ := rest
  refine ⟨(offset, page) :: pages, rfl, ?_⟩
  intro complete arePages before
  have isPage := arePages (offset, page) (mem_cons_self ..)
  have read := Collected.collect before collected
  rw [← isPage.take] at read
  exact completeOf complete (fun other mem => arePages other (mem_cons_of_mem _ mem)) read

end

variable {goOn : Nat → StringMap → Program StringMap}

theorem afterPage_cases {found : StringMap} {answer : Except GoError (Option TagPage)}
    {later : List inventory.Exchange}
    (run : Runs (afterPage goOn offset tags answer) later (.ok found)) :
    (answer = .ok none ∧ found = ∅) ∨
      ∃ page got, answer = .ok (some page) ∧ collect tags page.items = .ok got ∧
        ((later = [] ∧ found = got ∧ ∀ complete, PageOf complete offset page →
            complete.length ≤ offset + page.items.length) ∨
          Runs (goOn (offset + page.items.length) got) later (.ok found)) := by
  match answer, run with
  | .error error, run => cases run.2
  | .ok none, run =>
    cases run.2
    exact .inl ⟨rfl, rfl⟩
  | .ok (some page), run =>
    simp only [afterPage] at run
    cases collected : collect tags page.items with
    | error error =>
      rw [collected] at run
      cases run.2
    | ok got =>
      rw [collected] at run
      refine .inr ⟨page, got, rfl, collected, ?_⟩
      cases counted : page.totalCount with
      | some total =>
        rw [counted] at run
        dsimp only at run
        split_ifs at run with reached empty
        · obtain ⟨rfl, ⟨⟩⟩ := run
          refine .inl ⟨rfl, rfl, ?_⟩
          intro complete isPage
          have right := isPage.counted total counted
          omega
        · cases run.2
        · exact .inr run
      | none =>
        rw [counted] at run
        dsimp only at run
        split_ifs at run with short
        · obtain ⟨rfl, ⟨⟩⟩ := run
          refine .inl ⟨rfl, rfl, ?_⟩
          intro complete isPage
          have full := isPage.full counted
          omega
        · exact .inr run

variable {trace : List inventory.Exchange}

theorem tagsFrom_listed {crn : String} {rounds : Nat} {found : StringMap}
    (run : Runs (tagsFrom crn rounds offset tags) trace (.ok found)) :
    found = ∅ ∨ Listed crn trace offset tags found := by
  induction rounds generalizing offset tags trace with
  | zero => cases run.2
  | succ rounds ih =>
    obtain ⟨answer, later, rfl, ran⟩ := run
    rcases afterPage_cases ran with
      ⟨_, empty⟩ | ⟨page, got, rfl, collected, ⟨rfl, rfl, ends⟩ | goesOn⟩
    · exact .inl empty
    · exact .inr (Listed.last collected ends)
    · exact (ih goesOn).imp_right (Listed.step collected)

/-! ## Calls that delete nothing -/

section
variable {instanceID : String}

theorem afterPage_deletionless
    (free : ∀ offset tags, Avoids (goOn offset tags) (.deleteInstance instanceID)) (offset : Nat)
    (tags : StringMap) (answer : Except GoError (Option TagPage)) :
    Avoids (afterPage goOn offset tags answer) (.deleteInstance instanceID) := by
  unfold afterPage
  split
  · trivial
  · trivial
  split
  · trivial
  split
  · split_ifs
    · trivial
    · trivial
    · exact free _ _
  split_ifs
  · trivial
  · exact free _ _

theorem tagsFrom_deletionless (crn : String) (rounds offset : Nat) (tags : StringMap) :
    Avoids (tagsFrom crn rounds offset tags) (.deleteInstance instanceID) := by
  induction rounds generalizing offset tags with
  | zero => trivial
  | succ rounds ih => exact ⟨nofun, afterPage_deletionless ih offset tags⟩

theorem instanceTags_deletionless (controller : Controller) (rounds : Nat) (crn : Option String) :
    Avoids (instanceTags controller rounds crn) (.deleteInstance instanceID) := by
  cases crn with
  | none => trivial
  | some name =>
    rw [instanceTags]
    split_ifs
    · trivial
    · exact tagsFrom_deletionless name rounds 0 ∅

theorem clusterUID_deletionless : Avoids clusterUID (.deleteInstance instanceID) := by
  refine Only.bind (Only.mapError (only_ask nofun) _) ?_
  intro uid
  split_ifs
  · trivial
  · trivial

theorem ownsTags_deletionless (tags : StringMap) :
    Avoids (ownsTags tags) (.deleteInstance instanceID) := by
  unfold ownsTags
  split_ifs
  · trivial
  · exact clusterUID_deletionless.bind fun _ => trivial

theorem getAllVPCInstances_deletionless :
    Avoids getAllVPCInstances (.deleteInstance instanceID) := by
  refine Only.bind (Only.mapError (only_ask nofun) _) ?_
  intro _
  exact Only.bind (only_ask nofun) fun _ => trivial

end

/-! ## The final check -/

/-- The reads of a final check that ends in a deletion. -/
structure Recheck where
  found : VPCInstance
  time : Int
  crn : String
  pages : List (Nat × TagPage)
  cluster : String
  claims : List NodeClaim
  nodes : List Node

def Recheck.exchanges (recheck : Recheck) (instanceID : String) : List inventory.Exchange :=
  [⟨.getVPCClient, .ok ()⟩, ⟨.getInstance instanceID, .ok (some recheck.found)⟩,
    ⟨.now, recheck.time⟩] ++ pageExchanges recheck.crn recheck.pages ++
    [⟨.getNamespaceUID, .ok recheck.cluster⟩, ⟨.listClaims, .ok recheck.claims⟩,
      ⟨.listNodes, .ok recheck.nodes⟩]

/-- What makes an instance with this tag list an orphan of this cluster. -/
structure TrueOrphan (orphanTimeout : Int) (instanceID : String)
    (complete : List (Option String)) (recheck : Recheck) : Prop where
  identity : recheck.found.id = some instanceID ∧ recheck.found.crn = some recheck.crn
  age : ∃ created, recheck.found.createdAt = some created ∧
    orphanTimeout ≤ recheck.time - created
  managed : Carries complete managedTag "true"
  provider : Carries complete providerTag "vpc"
  cluster : recheck.cluster ≠ "" ∧ Carries complete clusterUIDTag recheck.cluster
  nodeClass : ∃ classUID, classUID ≠ "" ∧ Carries complete nodeClassUIDTag classUID
  claim : ∃ claimUID, claimUID ≠ "" ∧ Carries complete claimUIDTag claimUID ∧
    ∀ claim ∈ recheck.claims, claim.uid ≠ claimUID
  single : ∀ key, reservedTag key = true → ∀ first second,
    Carries complete key first → Carries complete key second → first = second
  unclaimed : ∀ claim ∈ recheck.claims, ¬ NamesInstance claim.providerID instanceID
  unused : ∀ node ∈ recheck.nodes, ¬ NamesInstance node.providerID instanceID

/-- The tags that `ownsTags` accepts, with the cluster UID it read. -/
structure OwnTags (tags : StringMap) (cluster : String) : Prop where
  managed : tags.lookup managedTag = some "true"
  provider : tags.lookup providerTag = some "vpc"
  cluster : cluster ≠ "" ∧ tags.lookup clusterUIDTag = some cluster
  nodeClass : ∃ classUID, classUID ≠ "" ∧ tags.lookup nodeClassUIDTag = some classUID
  claim : tags.read claimUIDTag ≠ "" ∧ tags.lookup claimUIDTag = some (tags.read claimUIDTag)

theorem lookup_of_read {key : String} (filled : tags.read key ≠ "") :
    tags.lookup key = some (tags.read key) := by
  unfold StringMap.read at filled ⊢
  cases found : tags.lookup key with
  | none => simp [found] at filled
  | some value => rfl

theorem clusterUID_runs {cluster : String} (run : Runs clusterUID trace (.ok cluster)) :
    trace = [⟨.getNamespaceUID, .ok cluster⟩] ∧ cluster ≠ "" := by
  obtain ⟨uid, first, later, rfl, asked, checked⟩ := runs_bind_ok run
  obtain ⟨_, rfl, rfl⟩ := runs_call_ofExcept_ok (runs_mapError_ok asked)
  split_ifs at checked with empty
  · cases checked.2
  obtain ⟨rfl, ⟨⟩⟩ := checked
  exact ⟨rfl, empty⟩

theorem ownsTags_runs (run : Runs (ownsTags tags) trace (.ok true)) :
    ∃ cluster, trace = [⟨.getNamespaceUID, .ok cluster⟩] ∧ OwnTags tags cluster := by
  unfold ownsTags at run
  split_ifs at run with foreign
  · cases run.2
  obtain ⟨cluster, first, later, rfl, read, compared⟩ := runs_bind_ok run
  obtain ⟨rfl, filled⟩ := clusterUID_runs read
  obtain ⟨rfl, same⟩ := compared
  have equal : tags.read clusterUIDTag = cluster := by simpa using (Except.ok.inj same).symm
  push Not at foreign
  obtain ⟨managed, provider, claim, nodeClass⟩ := foreign
  refine ⟨cluster, rfl, ?_, ?_, ⟨filled, ?_⟩, ⟨_, nodeClass, lookup_of_read nodeClass⟩,
    claim, lookup_of_read claim⟩
  · rw [← managed]
    exact lookup_of_read (by rw [managed]; decide)
  · rw [← provider]
    exact lookup_of_read (by rw [provider]; decide)
  · rw [← equal]
    exact lookup_of_read (by rw [equal]; exact filled)

theorem OwnTags.ne_empty {cluster : String} (owned : OwnTags tags cluster) : tags ≠ ∅ := by
  rintro rfl
  have managed := owned.managed
  simp at managed

variable {controller : Controller}

theorem instanceTags_runs {rounds : Nat} {crn : Option String} {cluster : String}
    (run : Runs (instanceTags controller rounds crn) trace (.ok tags))
    (owned : OwnTags tags cluster) : ∃ name, crn = some name ∧ Listed name trace 0 ∅ tags := by
  cases crn with
  | none =>
    cases run.2
    exact absurd rfl owned.ne_empty
  | some name =>
    rw [instanceTags] at run
    split_ifs at run
    · cases run.2
      exact absurd rfl owned.ne_empty
    · exact ⟨name, rfl, (tagsFrom_listed run).resolve_left owned.ne_empty⟩

theorem deleteUnlessUsed_makes {rounds : Nat} {target : String} {crn : Option String}
    (makes : Makes (deleteUnlessUsed controller rounds instanceID crn) trace
      (.deleteInstance target)) :
    instanceID = target ∧ ∃ name tags cluster claims nodes listing, crn = some name ∧
      trace = listing ++ [⟨.getNamespaceUID, .ok cluster⟩, ⟨.listClaims, .ok claims⟩,
        ⟨.listNodes, .ok nodes⟩] ∧
      Listed name listing 0 ∅ tags ∧ OwnTags tags cluster ∧
      claims.any (claimRefers tags instanceID) = false ∧
      nodes.any (nodeRefers instanceID) = false := by
  obtain ⟨tags, listing, afterTags, rfl, tagged, atOwner⟩ :=
    (instanceTags_deletionless controller rounds crn).makes_bind makes
  obtain ⟨owned, identity, afterOwner, rfl, compared, atClaims⟩ :=
    (ownsTags_deletionless tags).makes_bind atOwner
  cases owned with
  | false => cases atClaims
  | true =>
    obtain ⟨cluster, rfl, own⟩ := ownsTags_runs compared
    obtain ⟨name, rfl, listed⟩ := instanceTags_runs tagged own
    rw [if_neg (by decide)] at atClaims
    obtain ⟨_, claims, _, rfl, rfl, atNodes⟩ := makes_ask_bind atClaims nofun
    split_ifs at atNodes with referred
    · cases atNodes
    obtain ⟨_, nodes, _, rfl, rfl, atDeletion⟩ := makes_ask_bind atNodes nofun
    split_ifs at atDeletion with running
    · cases atDeletion
    rcases atDeletion with ⟨rfl, same⟩ | ⟨answer, _, _, ended⟩
    · cases same
      exact ⟨rfl, name, tags, cluster, claims, nodes, listing, rfl, rfl, listed, own,
        Bool.eq_false_iff.mpr referred, Bool.eq_false_iff.mpr running⟩
    · cases answer with
      | ok value => cases ended
      | error error =>
        dsimp only at ended
        split_ifs at ended <;> cases ended

theorem trueOrphan_of_reads {orphanTimeout created : Int} {recheck : Recheck}
    (identity : recheck.found.id = some instanceID ∧ recheck.found.crn = some recheck.crn)
    (dated : recheck.found.createdAt = some created) (old : orphanTimeout ≤ recheck.time - created)
    (collected : Collected tags complete) (own : OwnTags tags recheck.cluster)
    (unclaimed : recheck.claims.any (claimRefers tags instanceID) = false)
    (unused : recheck.nodes.any (nodeRefers instanceID) = false) :
    TrueOrphan orphanTimeout instanceID complete recheck := by
  have carried : ∀ key value, reservedTag key = true → tags.lookup key = some value →
      Carries complete key value := fun key value reserved => (collected key reserved value).mp
  have apart : ∀ claim ∈ recheck.claims, claim.uid ≠ tags.read claimUIDTag ∧
      extractInstanceIDFromProviderID claim.providerID ≠ instanceID := by
    intro claim mem
    simpa [claimRefers, not_or] using any_eq_false.mp unclaimed claim mem
  refine ⟨identity, ⟨created, dated, old⟩, ?_, ?_, ⟨own.cluster.1, ?_⟩, ?_, ?_, ?_, ?_, ?_⟩
  · exact carried _ _ (by decide) own.managed
  · exact carried _ _ (by decide) own.provider
  · exact carried _ _ (by decide) own.cluster.2
  · obtain ⟨classUID, filled, stored⟩ := own.nodeClass
    exact ⟨classUID, filled, carried _ _ (by decide) stored⟩
  · exact ⟨_, own.claim.1, carried _ _ (by decide) own.claim.2,
      fun claim mem => (apart claim mem).1⟩
  · intro key reserved first second hasFirst hasSecond
    have one := (collected key reserved first).mpr hasFirst
    have two := (collected key reserved second).mpr hasSecond
    exact Option.some.inj (one.symm.trans two)
  · intro claim mem names
    exact (apart claim mem).2 (extract_of_namesInstance names)
  intro node mem names
  have refers := any_eq_false.mp unused node mem
  exact refers (decide_eq_true (extract_of_namesInstance names))

def EndsInRecheck (controller : Controller) (instanceID : String)
    (trace : List inventory.Exchange) : Prop :=
  ∃ before recheck, trace = before ++ Recheck.exchanges recheck instanceID ∧
    ∀ complete, (∀ page ∈ recheck.pages, PageOf complete page.1 page.2) →
      TrueOrphan controller.orphanTimeout instanceID complete recheck

theorem EndsInRecheck.after (ends : EndsInRecheck controller instanceID trace)
    (earlier : List inventory.Exchange) :
    EndsInRecheck controller instanceID (earlier ++ trace) := by
  obtain ⟨before, recheck, rfl, orphan⟩ := ends
  exact ⟨earlier ++ before, recheck, by rw [append_assoc], orphan⟩

section
variable {controller : Controller} {rounds : Nat} {target : String}
  {trace : List inventory.Exchange}

theorem processOrphanedInstance_makes {instanceID : String}
    (makes : Makes (processOrphanedInstance controller rounds instanceID) trace
      (.deleteInstance target)) : EndsInRecheck controller target trace := by
  obtain ⟨_, client, _, rfl, rfl, atLookup⟩ := makes_ask_bind makes nofun
  obtain ⟨answer, afterLookup, rfl, atAge⟩ := makes_other atLookup nofun
  match answer, atAge with
  | .error error, atAge =>
    dsimp only at atAge
    split_ifs at atAge <;> cases atAge
  | .ok none, atAge => cases atAge
  | .ok (some found), atAge =>
    dsimp only at atAge
    split_ifs at atAge with other
    · cases atAge
    have same : found.id = some instanceID := not_not.mp other
    cases dated : found.createdAt with
    | none =>
      rw [dated] at atAge
      cases atAge
    | some created =>
      rw [dated] at atAge
      obtain ⟨time, afterAge, rfl, atTags⟩ := makes_other atAge nofun
      split_ifs at atTags with young
      · cases atTags
      obtain ⟨rfl, name, tags, cluster, claims, nodes, listing, crn, rfl,
        ⟨pages, rfl, completeOf⟩, own, unclaimed, unused⟩ :=
        deleteUnlessUsed_makes atTags
      refine ⟨[], ⟨found, time, name, pages, cluster, claims, nodes⟩, rfl, ?_⟩
      intro complete arePages
      exact trueOrphan_of_reads ⟨same, crn⟩ dated (not_lt.mp young)
        (completeOf complete arePages collected_nil) own unclaimed unused

theorem examine_makes {expected : List String} {entry : String × VPCInstance}
    (makes : Makes (examine controller rounds expected entry) trace (.deleteInstance target)) :
    EndsInRecheck controller target trace := by
  unfold examine at makes
  split_ifs at makes with wanted
  · cases makes
  cases dated : entry.2.createdAt with
  | none =>
    rw [dated] at makes
    cases makes
  | some created =>
    rw [dated] at makes
    obtain ⟨time, afterAge, rfl, atTags⟩ := makes_other makes nofun
    split_ifs at atTags with young
    · cases atTags
    obtain ⟨tags, listing, afterTags, rfl, _, atOwner⟩ :=
      (instanceTags_deletionless controller rounds entry.2.crn).makes_bind atTags
    obtain ⟨owned, identity, afterOwner, rfl, _, atProcess⟩ :=
      (ownsTags_deletionless tags).makes_bind atOwner
    split_ifs at atProcess with foreign
    · cases atProcess
    · have ends := processOrphanedInstance_makes atProcess
      exact ((ends.after identity).after listing).after [_]

theorem examineAll_makes {expected : List String} {entries : List (String × VPCInstance)}
    (makes : Makes (examineAll controller rounds expected entries) trace
      (.deleteInstance target)) : EndsInRecheck controller target trace := by
  induction entries generalizing trace with
  | nil => cases makes
  | cons entry entries ih =>
    rcases makes_bind makes with inside | ⟨out, first, later, rfl, _, atRest⟩
    · exact examine_makes (makes_attempt inside)
    rcases makes_bind atRest with inside | ⟨errs, mid, last, rfl, _, atEnd⟩
    · exact (ih inside).after first
    · cases out <;> cases atEnd

theorem reconcile_makes {order : MapOrder (String × VPCInstance)}
    (makes : Makes (reconcile controller rounds order) trace (.deleteInstance target)) :
    EndsInRecheck controller target trace := by
  unfold reconcile at makes
  split_ifs at makes with off
  · cases makes
  obtain ⟨uid, uidRead, _, rfl, _, atInstances⟩ := clusterUID_deletionless.makes_bind makes
  obtain ⟨instances, instanceRead, _, rfl, _, atNodes⟩ :=
    getAllVPCInstances_deletionless.makes_bind atInstances
  obtain ⟨nodeRead, nodes, _, rfl, _, atClaims⟩ := makes_ask_bind atNodes nofun
  obtain ⟨claimRead, claims, _, rfl, _, atLoop⟩ := makes_ask_bind atClaims nofun
  have ends := examineAll_makes atLoop
  exact ((ends.after [_, _]).after instanceRead).after uidRead

end

/-- Whatever the services answer, a pass comes to a deletion only after a final check
whose reads make the instance a true orphan. -/
theorem deletes_only_true_orphans (controller : Controller) (rounds : Nat)
    (order : MapOrder (String × VPCInstance)) (instanceID : String)
    (trace : List inventory.Exchange)
    (rest : Call.Answer (.deleteInstance instanceID) → Program (List GoError))
    (reaches : Reaches (reconcile controller rounds order) trace
      (.call (.deleteInstance instanceID) rest)) :
    ∃ before recheck, trace = before ++ Recheck.exchanges recheck instanceID ∧
      ∀ complete, (∀ page ∈ recheck.pages, PageOf complete page.1 page.2) →
        TrueOrphan controller.orphanTimeout instanceID complete recheck := by
  exact reconcile_makes reaches.makes

/-! ## An orphan -/

def sampleController : Controller where
  enabled := true
  hasIBMClient := true
  hasGlobalTagging := true
  orphanTimeout := 600

def sampleInstance : VPCInstance := ⟨some "vm", some "crn", some 0⟩

def samplePage : TagPage where
  items := [some "karpenter.sh.managed:true", some "karpenter-ibm.sh.provider:vpc", none,
    some "karpenter-ibm.sh.cluster-uid:c", some "karpenter-ibm.sh.nodeclaim-uid:n", some "team:a",
    some "karpenter-ibm.sh.nodeclass-uid:k"]
  totalCount := none

def sampleTags : StringMap :=
  ((((((∅ : StringMap).insert "karpenter.sh.managed" "true").insert "karpenter-ibm.sh.provider"
    "vpc").insert "karpenter-ibm.sh.cluster-uid" "c").insert "karpenter-ibm.sh.nodeclaim-uid"
    "n").insert "team" "a").insert "karpenter-ibm.sh.nodeclass-uid" "k"

theorem collect_sample : collect ∅ samplePage.items = .ok sampleTags := by decide +kernel

theorem afterPage_sample (goOn : Nat → StringMap → Program StringMap) :
    afterPage goOn 0 ∅ (.ok (some samplePage)) = .pure sampleTags := by
  rw [afterPage, collect_sample]
  rfl

theorem reaches_owned (next : Bool → StringMap → Program Unit) {final : Program Unit}
    (reached : Reaches (S := inventory) (next true sampleTags) trace final) :
    Reaches (S := inventory) (instanceTags sampleController 1 (some "crn") >>= fun tags =>
        ownsTags tags >>= fun owned => next owned tags)
      (⟨.listTags "crn" 0, .ok (some samplePage)⟩ :: ⟨.getNamespaceUID, .ok "c"⟩ :: trace)
      final := by
  have owns : ownsTags sampleTags = clusterUID >>= fun cluster =>
      pure (decide (sampleTags.read clusterUIDTag = cluster)) :=
    if_neg (by decide +kernel)
  have same : decide (sampleTags.read clusterUIDTag = "c") = true := by decide +kernel
  refine .step (S := inventory) (.listTags "crn" 0) (.ok (some samplePage)) ?_
  change Reaches (S := inventory) (afterPage _ 0 ∅ (.ok (some samplePage)) >>= fun tags =>
    ownsTags tags >>= fun owned => next owned tags) _ _
  rw [afterPage_sample, pure_ctor_bind, owns]
  refine .step (S := inventory) .getNamespaceUID (.ok "c") ?_
  change Reaches (S := inventory) (next (decide _) sampleTags) _ _
  rw [same]
  exact reached

theorem sample_reaches_deletion : ∃ trace rest, Reaches (S := inventory)
      (reconcile sampleController 1 ⟨id, fun _ => .refl _⟩) trace
      (.call (.deleteInstance "vm") rest) := by
  have examined : ∃ trace rest, Reaches (S := inventory)
      (examine sampleController 1 [] ("vm", sampleInstance)) trace
      (.call (.deleteInstance "vm") rest) :=
    ⟨_, _, .step (S := inventory) .now (600 : Int) <|
      reaches_owned (fun owned _ => if owned = false then _ else _) <|
      .step (S := inventory) .getVPCClient (.ok ()) <|
      .step (S := inventory) (.getInstance "vm") (.ok (some sampleInstance)) <|
      .step (S := inventory) .now (600 : Int) <|
      reaches_owned (fun owned _ => if owned = false then _ else _) <|
      .step (S := inventory) .listClaims (.ok []) <|
      .step (S := inventory) .listNodes (.ok []) (.here _)⟩
  obtain ⟨trace, rest, reached⟩ := examined
  exact ⟨_, _, .step (S := inventory) .getNamespaceUID (.ok "c") <|
    .step (S := inventory) .getVPCClient (.ok ()) <|
    .step (S := inventory) .listInstances (.ok [sampleInstance]) <|
    .step (S := inventory) .listNodes (.ok []) <|
    .step (S := inventory) .listClaims (.ok []) <| reached.attempt.bind _⟩

theorem deletes_only_true_orphans_sample : ∃ trace rest, Reaches (S := inventory)
        (reconcile sampleController 1 ⟨id, fun _ => .refl _⟩) trace
        (.call (.deleteInstance "vm") rest) ∧
      ∃ before recheck, trace = before ++ Recheck.exchanges recheck "vm" ∧
        ∀ complete, (∀ page ∈ recheck.pages, PageOf complete page.1 page.2) →
          TrueOrphan sampleController.orphanTimeout "vm" complete recheck := by
  obtain ⟨trace, rest, reached⟩ := sample_reaches_deletion
  exact ⟨trace, rest, reached, deletes_only_true_orphans _ _ _ _ _ _ reached⟩

end KarpenterIBM.OrphanCleanup
