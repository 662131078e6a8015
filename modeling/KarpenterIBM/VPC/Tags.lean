import KarpenterIBM.Lib.Service
import KarpenterIBM.OrphanCleanup.Safety
import KarpenterIBM.VPC.Volumes

/-!
# Ownership tags of instances and volumes

The tags an instance and its volumes are created with: `FormatTags` and `ValidateTag` of
`pkg/utils/ownership` and `tagVolumeAttachments` of `pkg/providers/vpc/instance`.
-/

namespace KarpenterIBM.VPCTags

open EffectProgram Errors KeyedMap List Objects OrphanCleanup Ownership Text VPCCreate VPCVolumes

/-! ## Formatting -/

abbrev Tag : Type := Sigma fun _ : String => String

/-- The entries of a map in the order in which a loop over it comes by them. -/
def Ranges (tags : StringMap) (entries : List Tag) : Prop := (entries : Multiset Tag) = tags.entries

def formatTag (entry : Tag) : String := entry.1 ++ ":" ++ entry.2

def tagKeyError : GoError :=
  .plain "cloud tag keys must be nonempty and must not contain colons"

def tagSizeError : GoError :=
  .plain "cloud tags must contain between 1 and 128 ASCII characters"

def tagCharError : GoError :=
  .plain ("cloud tags permit only ASCII letters, digits, spaces, underscores, hyphens, "
    ++ "periods, and colons")

def validateTag (tag : String) : Except GoError Unit :=
  if tagSizeValid tag = false then .error tagSizeError
  else if tag.toList.all tagChar = false then .error tagCharError
  else .ok ()

/-- `sort.Strings`. -/
def sortStrings (texts : List String) : List String :=
  texts.mergeSort fun first second => decide (first ≤ second)

/-- The loop of `FormatTags`. -/
def formatEntries : List Tag → Except GoError (List String)
  | [] => .ok []
  | entry :: rest =>
    if tagKeyValid entry.1 = false then .error tagKeyError
    else do
      validateTag (formatTag entry)
      let formatted ← formatEntries rest
      pure (formatTag entry :: formatted)

def formatTags (entries : List Tag) : Except GoError (List String) := do
  let formatted ← formatEntries entries
  pure (sortStrings formatted)

theorem sortStrings_perm (texts : List String) : (sortStrings texts).Perm texts :=
  mergeSort_perm texts _

def TagValid (tag : String) : Prop := tagSizeValid tag = true ∧ tag.toList.all tagChar = true

theorem validateTag_ok_iff (tag : String) : validateTag tag = .ok () ↔ TagValid tag := by
  unfold validateTag TagValid
  cases tagSizeValid tag <;> cases tag.toList.all tagChar <;> simp

instance (tag : String) : Decidable (TagValid tag) := by
  unfold TagValid
  infer_instance

def EntryValid (entry : Tag) : Prop := tagKeyValid entry.1 = true ∧ TagValid (formatTag entry)

variable {entries : List Tag}

theorem formatEntries_ok (valid : ∀ entry ∈ entries, EntryValid entry) :
    formatEntries entries = .ok (entries.map formatTag) := by
  induction entries with
  | nil => rfl
  | cons entry rest ih =>
    obtain ⟨keyValid, tagValid⟩ := valid entry mem_cons_self
    have later := ih fun other mem => valid other (mem_cons_of_mem _ mem)
    rw [formatEntries, keyValid, if_neg Bool.noConfusion, (validateTag_ok_iff _).mpr tagValid,
      later]
    rfl

variable {tags : StringMap}

theorem checkTags_ok_iff (ranged : Ranges tags entries) :
    checkTags tags = .ok () ↔ ∀ entry ∈ entries, EntryValid entry := by
  have failing : ∀ check : String → String → Bool, countFailing check tags = 0 ↔
      ∀ entry ∈ entries, check entry.1 entry.2 = true := by
    intro check
    rw [countFailing, ← ranged, Multiset.coe_countP, countP_eq_zero]
    simp
  constructor
  · intro succeeds
    unfold checkTags at succeeds
    split_ifs at succeeds with keys sizes chars
    have validKeys := (failing _).mp (not_not.mp keys)
    have validSizes := (failing _).mp (not_not.mp sizes)
    have validChars := (failing _).mp (not_not.mp chars)
    exact fun entry mem => ⟨validKeys entry mem, validSizes entry mem, validChars entry mem⟩
  · intro valid
    exact checkTags_ok ((failing _).mpr fun entry mem => (valid entry mem).1)
      ((failing _).mpr fun entry mem => (valid entry mem).2.1)
      ((failing _).mpr fun entry mem => (valid entry mem).2.2)

theorem formatTags_of_checkTags (ranged : Ranges tags entries) (checked : checkTags tags = .ok ()) :
    formatTags entries = .ok (sortStrings (entries.map formatTag)) := by
  rw [formatTags, formatEntries_ok ((checkTags_ok_iff ranged).mp checked)]
  rfl

/-! ## Cutting a tag at its first colon -/

/-- `strings.Cut` at the colon, of which the first part is used: the whole text when it has
no colon. -/
def tagKey (tag : String) : String :=
  match cutText tag ':' with
  | some (key, _) => key
  | none => tag

variable {key : String}

theorem colon_not_mem (valid : tagKeyValid key = true) : ':' ∉ key.toList := by
  intro mem
  have contained : containsText key ":" = true := by
    rw [containsText, containsChars_iff]
    obtain ⟨before, after, whole⟩ := append_of_mem mem
    exact ⟨before, after, by simp [whole]⟩
  rw [tagKeyValid, contained, Bool.not_true, Bool.and_false] at valid
  cases valid

variable {entry : Tag}

theorem cutText_formatTag (free : ':' ∉ entry.1.toList) :
    cutText (formatTag entry) ':' = some (entry.1, entry.2) := by
  rw [cutText_eq_some_iff]
  exact ⟨free, by simp [formatTag]⟩

theorem tagKey_formatTag (free : ':' ∉ entry.1.toList) : tagKey (formatTag entry) = entry.1 := by
  rw [tagKey, cutText_formatTag free]

/-! ## The ownership tags -/

/-- The five tags that mark a resource as the launch's own. -/
def ownershipTags (clusterUID claimUID classUID : String) : List Tag :=
  [⟨managedTag, "true"⟩, ⟨providerTag, "vpc"⟩, ⟨clusterUIDTag, clusterUID⟩,
    ⟨claimUIDTag, claimUID⟩, ⟨nodeClassUIDTag, classUID⟩]

theorem ownershipTags_keys (clusterUID claimUID classUID : String) :
    (ownershipTags clusterUID claimUID classUID).map Sigma.fst =
      [managedTag, providerTag, clusterUIDTag, claimUIDTag, nodeClassUIDTag] := rfl

variable {clusterUID claimUID classUID : String}

theorem ownershipTags_reserved (mem : entry ∈ ownershipTags clusterUID claimUID classUID) :
    reservedTag entry.1 = true ∧ ':' ∉ entry.1.toList := by
  have keys : ∀ key ∈ [managedTag, providerTag, clusterUIDTag, claimUIDTag, nodeClassUIDTag],
      reservedTag key = true ∧ ':' ∉ key.toList := by decide +kernel
  apply keys
  rw [← ownershipTags_keys clusterUID claimUID classUID]
  exact mem_map_of_mem mem

theorem lookup_insert_eq_some_iff (tags : StringMap) (other content key value : String) :
    (tags.insert other content).lookup key = some value ↔
      (key = other ∧ value = content) ∨ (key ≠ other ∧ tags.lookup key = some value) := by
  by_cases same : key = other
  · rw [same, Finmap.lookup_insert]
    simp [eq_comm]
  · rw [Finmap.lookup_insert_of_ne _ same]
    simp [same]

theorem ownershipTags_nodup (clusterUID claimUID classUID : String) :
    (ownershipTags clusterUID claimUID classUID).Nodup := by
  refine List.Nodup.of_map Sigma.fst ?_
  rw [ownershipTags_keys]
  decide +kernel

theorem mem_ownershipTags_iff (clusterUID claimUID classUID : String) (entry : Tag) :
    entry ∈ ownershipTags clusterUID claimUID classUID ↔
      (vpcTags clusterUID claimUID classUID).lookup entry.1 = some entry.2 := by
  obtain ⟨key, value⟩ := entry
  have distinct : [managedTag, providerTag, clusterUIDTag, claimUIDTag, nodeClassUIDTag].Nodup := by
    decide +kernel
  simp only [nodup_cons, mem_cons, not_mem_nil, or_false, not_or,
    not_false_eq_true, nodup_nil, and_true] at distinct
  have single : (Finmap.singleton managedTag "true" : StringMap).lookup key = some value ↔
      key = managedTag ∧ value = "true" := by
    rw [Finmap.lookup_eq_some_iff]
    simp [Finmap.singleton]
  simp only [vpcTags, lookup_insert_eq_some_iff, single, ownershipTags, mem_cons,
    not_mem_nil, or_false, Sigma.mk.injEq, heq_eq_eq]
  grind

theorem perm_ownershipTags (ranged : Ranges (vpcTags clusterUID claimUID classUID) entries) :
    entries.Perm (ownershipTags clusterUID claimUID classUID) := by
  have keys : entries.NodupKeys := by
    have nodup := (vpcTags clusterUID claimUID classUID).nodupKeys
    rwa [← ranged, Multiset.coe_nodupKeys] at nodup
  rw [perm_ext_iff_of_nodup (List.NodupKeys.nodup keys) (ownershipTags_nodup _ _ _)]
  intro entry
  rw [mem_ownershipTags_iff, Finmap.lookup_eq_some_iff, ← ranged, Multiset.mem_coe]

theorem ranges_ownershipTags (clusterUID claimUID classUID : String) :
    Ranges (vpcTags clusterUID claimUID classUID) (ownershipTags clusterUID claimUID classUID) := by
  have nodup := (vpcTags clusterUID claimUID classUID).nodupKeys.nodup
  rw [Ranges, Multiset.Nodup.ext (Multiset.coe_nodup.mpr (ownershipTags_nodup _ _ _)) nodup]
  intro entry
  rw [Multiset.mem_coe, mem_ownershipTags_iff, Finmap.lookup_eq_some_iff]

/-! ## The tags of the instance -/

theorem reserved_withUserTags (owned user : StringMap) (reserved : reservedTag key = true) :
    (withUserTags owned user).lookup key = owned.lookup key := by
  rw [withUserTags, lookup_union, lookup_filterKeys, reserved]
  rfl

theorem instanceCloudTags_cases {nodeClass : IBMNodeClass} {claim : NodeClaim}
    (made : instanceCloudTags nodeClass claim clusterUID = .ok tags) :
    tags = withUserTags (vpcTags clusterUID claim.uid nodeClass.uid) nodeClass.spec.tags ∧
      checkTags tags = .ok () := by
  unfold instanceCloudTags at made
  dsimp only at made
  cases checked : checkTags
    (withUserTags (vpcTags clusterUID claim.uid nodeClass.uid) nodeClass.spec.tags) with
  | error error =>
    rw [checked] at made
    cases made
  | ok _ =>
    rw [checked] at made
    cases made
    exact ⟨rfl, checked⟩

/-! ## The tags of a volume -/

def retainTag : String := "karpenter-ibm.sh.retain"

def retainEntry : Tag := ⟨retainTag, "true"⟩

def validateAll : List String → Except GoError Unit
  | [] => .ok ()
  | tag :: rest => do
    validateTag tag
    validateAll rest

/-- The tags of one volume: custom tags without the reserved ones, the ownership tags and
the retain tag of a volume that is kept. -/
def volumeTags (entries : List Tag) (custom : List String) (retained : Bool) :
    Except GoError (List String) := do
  let result := custom.filter (fun tag => !reservedTag (tagKey tag)) ++ entries.map formatTag ++
    (if retained then [retainTag ++ ":true"] else [])
  validateAll result
  pure (sortStrings result)

def kept (attachment : VolumeAttachment) : Bool :=
  decide (attachment.deleteVolumeOnInstanceDelete = some false)

def tagVolume (entries : List Tag) (attachment : VolumeAttachment) :
    Except GoError VolumeAttachment := do
  let tags ← volumeTags entries attachment.volume.userTags (kept attachment)
  pure { attachment with volume := { attachment.volume with userTags := tags } }

def tagVolumes (ranges : Nat → List Tag) : Nat → List VolumeAttachment →
    Except GoError (List VolumeAttachment)
  | _, [] => .ok []
  | index, attachment :: rest => do
    let tagged ← tagVolume (ranges index) attachment
    let others ← tagVolumes ranges (index + 1) rest
    pure (tagged :: others)

/-- The boot volume first.  The builder always gives one, and data volumes of one kind
only, so the source's tests for others never fail. -/
def tagVolumeAttachments (ranges : Nat → List Tag)
    (built : VolumeAttachment × List VolumeAttachment) :
    Except GoError (VolumeAttachment × List VolumeAttachment) := do
  let boot ← tagVolume (ranges 0) built.1
  let data ← tagVolumes ranges 1 built.2
  pure (boot, data)

def volumeOwnership (clusterUID claimUID classUID : String) (retained : Bool) : List Tag :=
  ownershipTags clusterUID claimUID classUID ++ if retained then [retainEntry] else []

/-- What a volume says under the reserved keys: the ownership tags, and the retain tag
exactly when it is kept. -/
structure VolumeOwned (clusterUID claimUID classUID : String)
    (before after : VolumeAttachment) : Prop where
  listed : (after.volume.userTags.filter fun tag => reservedTag (tagKey tag)).Perm
    ((volumeOwnership clusterUID claimUID classUID (kept before)).map formatTag)
  reads : ∀ key value, reservedTag key = true →
    ((∃ tag ∈ after.volume.userTags, cutText tag ':' = some (key, value)) ↔
      ⟨key, value⟩ ∈ ownershipTags clusterUID claimUID classUID ∨
        (kept before = true ∧ key = retainTag ∧ value = "true"))

theorem validateAll_ok {tags : List String} (valid : ∀ tag ∈ tags, TagValid tag) :
    validateAll tags = .ok () := by
  induction tags with
  | nil => rfl
  | cons tag rest ih =>
    have later := ih fun other mem => valid other (mem_cons_of_mem _ mem)
    rw [validateAll, (validateTag_ok_iff _).mpr (valid tag mem_cons_self), later]
    rfl

variable {retained : Bool}

variable {custom : List String}

theorem volumeTags_ok (valid : ∀ tag ∈ custom.filter (fun tag => !reservedTag (tagKey tag)) ++
      entries.map formatTag ++ (if retained then [retainTag ++ ":true"] else []), TagValid tag) :
    ∃ tags, volumeTags entries custom retained = .ok tags := by
  rw [volumeTags, validateAll_ok valid]
  exact ⟨_, rfl⟩

theorem volumeTags_cases {tags : List String}
    (made : volumeTags entries custom retained = .ok tags) :
    tags.Perm (custom.filter (fun tag => !reservedTag (tagKey tag)) ++
      (entries ++ if retained then [retainEntry] else []).map formatTag) := by
  obtain ⟨_, _, ⟨⟩⟩ := except_bind_eq_ok made
  refine (sortStrings_perm _).trans (List.Perm.of_eq ?_)
  rw [append_assoc, map_append]
  cases retained <;> rfl

theorem volumeOwnership_reserved
    (mem : entry ∈ volumeOwnership clusterUID claimUID classUID retained) :
    reservedTag entry.1 = true ∧ ':' ∉ entry.1.toList := by
  rcases mem_append.mp mem with owned | last
  · exact ownershipTags_reserved owned
  cases retained with
  | false => cases last
  | true =>
    rw [mem_singleton.mp last]
    decide +kernel

section
variable (ranged : Ranges (vpcTags clusterUID claimUID classUID) entries)

include ranged

theorem reserved_volumeTags {tags : List String}
    (made : volumeTags entries custom retained = .ok tags) :
    (tags.filter fun tag => reservedTag (tagKey tag)).Perm
      ((volumeOwnership clusterUID claimUID classUID retained).map formatTag) := by
  have owned : ((entries ++ if retained then [retainEntry] else []).map formatTag).Perm
      ((volumeOwnership clusterUID claimUID classUID retained).map formatTag) :=
    ((perm_ownershipTags ranged).append_right _).map _
  refine ((volumeTags_cases made).filter _).trans ?_
  rw [filter_append, filter_filter, filter_eq_nil_iff.mpr, nil_append]
  · refine (owned.filter _).trans (List.Perm.of_eq (filter_eq_self.mpr ?_))
    intro tag mem
    obtain ⟨entry, inOwned, rfl⟩ := mem_map.mp mem
    obtain ⟨reserved, free⟩ := volumeOwnership_reserved inOwned
    rw [tagKey_formatTag free]
    exact reserved
  · intro tag _
    simp

theorem volumeOwned_of_tagVolume {before after : VolumeAttachment}
    (tagged : tagVolume entries before = .ok after) :
    VolumeOwned clusterUID claimUID classUID before after := by
  obtain ⟨tags, made, ⟨⟩⟩ := except_bind_eq_ok tagged
  have listed := reserved_volumeTags ranged made
  refine ⟨listed, fun key value reserved => ?_⟩
  have among : (∃ tag ∈ tags, cutText tag ':' = some (key, value)) ↔
      ⟨key, value⟩ ∈ volumeOwnership clusterUID claimUID classUID (kept before) := by
    constructor
    · rintro ⟨tag, mem, cut⟩
      have isReserved : reservedTag (tagKey tag) = true := by
        rw [tagKey, cut]
        exact reserved
      obtain ⟨entry, inOwned, rfl⟩ := mem_map.mp
        (listed.subset (mem_filter.mpr ⟨mem, isReserved⟩))
      rw [cutText_formatTag (volumeOwnership_reserved inOwned).2] at cut
      cases cut
      exact inOwned
    · intro inOwned
      have present := listed.symm.subset (mem_map_of_mem inOwned)
      exact ⟨_, (mem_filter.mp present).1,
        cutText_formatTag (volumeOwnership_reserved inOwned).2⟩
  refine among.trans ?_
  rw [volumeOwnership, mem_append]
  cases kept before with
  | false => simp
  | true => simp [retainEntry]

end

theorem volumesOwned_of_tagVolumes {ranges : Nat → List Tag} (ranged : ∀ index,
      Ranges (vpcTags clusterUID claimUID classUID) (ranges index)) {index : Nat}
    {before after : List VolumeAttachment} (tagged : tagVolumes ranges index before = .ok after) :
    List.Forall₂ (VolumeOwned clusterUID claimUID classUID) before after := by
  induction before generalizing index after with
  | nil =>
    cases tagged
    exact .nil
  | cons attachment rest ih =>
    obtain ⟨marked, first, others⟩ := except_bind_eq_ok tagged
    obtain ⟨later, inRest, ⟨⟩⟩ := except_bind_eq_ok others
    exact .cons (volumeOwned_of_tagVolume (ranged index) first) (ih inRest)

def attachments (built : VolumeAttachment × List VolumeAttachment) : List VolumeAttachment :=
  built.1 :: built.2

theorem volumesOwned_of_tagVolumeAttachments {ranges : Nat → List Tag} (ranged : ∀ index,
      Ranges (vpcTags clusterUID claimUID classUID) (ranges index))
    {before after : VolumeAttachment × List VolumeAttachment}
    (tagged : tagVolumeAttachments ranges before = .ok after) :
    List.Forall₂ (VolumeOwned clusterUID claimUID classUID) (attachments before)
      (attachments after) := by
  obtain ⟨boot, first, others⟩ := except_bind_eq_ok tagged
  obtain ⟨data, inRest, ⟨⟩⟩ := except_bind_eq_ok others
  exact .cons (volumeOwned_of_tagVolume (ranged 0) first) (volumesOwned_of_tagVolumes ranged inRest)

/-! ## Reading the tags back -/

def FormatsTag (tags : StringMap) (name : String) : Prop :=
  ∃ key value, tags.lookup key = some value ∧ cutText name ':' = some (key, value)

/-- What has been read of a map whose tags are listed: entries of the map only, and those
of every name that was read. -/
structure ReadBack (tags : StringMap) (names : List String) (found : StringMap) : Prop where
  within : ∀ key value, found.lookup key = some value → tags.lookup key = some value
  covers : ∀ name ∈ names, ∀ key value, cutText name ':' = some (key, value) →
    found.lookup key = some value

theorem readBack_nil (tags : StringMap) : ReadBack tags [] ∅ :=
  ⟨fun key value found => (by simp at found), fun name mem => absurd mem not_mem_nil⟩

variable {found : StringMap}

theorem ReadBack.add {names : List String} (sofar : ReadBack tags names found) {name value : String}
    (held : tags.lookup key = some value) (cut : cutText name ':' = some (key, value)) :
    conflicts found key value = false ∧
      ReadBack tags (names ++ [name]) (found.insert key value) := by
  constructor
  · unfold conflicts
    cases present : found.lookup key with
    | none => rfl
    | some old =>
      have same := sofar.within key old present
      cases held.symm.trans same
      simp
  · refine ⟨fun other content looked => ?_, fun seen mem other content parts => ?_⟩
    · rcases (lookup_insert_eq_some_iff _ _ _ _ _).mp looked with ⟨rfl, rfl⟩ | ⟨_, earlier⟩
      · exact held
      · exact sofar.within other content earlier
    rw [lookup_insert_eq_some_iff]
    rcases mem_append.mp mem with before | last
    · have earlier := sofar.covers seen before other content parts
      by_cases same : other = key
      · subst same
        have inTags := sofar.within other content earlier
        rw [held] at inTags
        exact .inl ⟨rfl, (Option.some.inj inTags).symm⟩
      · exact .inr ⟨same, earlier⟩
    · rw [mem_singleton.mp last, cut] at parts
      cases parts
      exact .inl ⟨rfl, rfl⟩

theorem ReadBack.collect {names more : List String} (sofar : ReadBack tags names found)
    (formatted : ∀ name ∈ more, FormatsTag tags name) :
    ∃ result, OrphanCleanup.collect found (more.map some) = .ok result ∧
      ReadBack tags (names ++ more) result := by
  induction more generalizing names found with
  | nil => exact ⟨found, rfl, by rwa [append_nil]⟩
  | cons name rest ih =>
    obtain ⟨key, value, held, cut⟩ := formatted name mem_cons_self
    obtain ⟨agrees, added⟩ := sofar.add held cut
    obtain ⟨result, collected, all⟩ :=
      ih added fun other mem => formatted other (mem_cons_of_mem _ mem)
    refine ⟨result, ?_, ?_⟩
    · rw [map_cons, OrphanCleanup.collect, cut]
      dsimp only
      rw [agrees]
      exact collected
    · rwa [append_assoc] at all

/-- A listing of all tags of a map. -/
structure Lists (tags : StringMap) (listing : List String) : Prop where
  formatted : ∀ name ∈ listing, FormatsTag tags name
  complete : ∀ key value, tags.lookup key = some value →
    ∃ name ∈ listing, cutText name ':' = some (key, value)

variable {listing : List String}

theorem ReadBack.eq_of_lists (all : ReadBack tags listing found) (lists : Lists tags listing) :
    found = tags := by
  apply Finmap.ext_lookup
  intro key
  apply Option.ext
  intro value
  constructor
  · exact all.within key value
  intro held
  obtain ⟨name, mem, cut⟩ := lists.complete key value held
  exact all.covers name mem key value cut

theorem lists_of_formatTags (ranged : Ranges tags entries) (checked : checkTags tags = .ok ())
    (same : listing.Perm (sortStrings (entries.map formatTag))) : Lists tags listing := by
  have valid := (checkTags_ok_iff ranged).mp checked
  have listed := same.trans (sortStrings_perm _)
  refine ⟨fun name mem => ?_, fun key value held => ?_⟩
  · obtain ⟨entry, inEntries, rfl⟩ := mem_map.mp (listed.subset mem)
    refine ⟨entry.1, entry.2, ?_, cutText_formatTag (colon_not_mem (valid entry inEntries).1)⟩
    rw [Finmap.lookup_eq_some_iff, ← ranged]
    exact Multiset.mem_coe.mpr inEntries
  rw [Finmap.lookup_eq_some_iff, ← ranged] at held
  have inEntries := Multiset.mem_coe.mp held
  exact ⟨_, listed.symm.subset (mem_map_of_mem inEntries),
    cutText_formatTag (colon_not_mem (valid _ inEntries).1)⟩

/-! ## The paged listing -/

/-- A page of the listing: with the total count and at least one name while there are
any, or without it and full unless it is the last. -/
inductive ServesPage (listing : List String) (offset : Nat) (page : TagPage) : Prop where
  | counted (size : Nat) (progress : offset < listing.length → 0 < size)
      (items : page.items = ((listing.drop offset).take size).map some)
      (total : page.totalCount = some (listing.length : Int))
  | uncounted (items : page.items = ((listing.drop offset).take limit).map some)
      (total : page.totalCount = none)

def AnswersTags (crn : String) (listing : List String) : (call : Call) → call.Answer → Prop
  | .listTags name offset, answer =>
    name = crn → ∃ page, answer = .ok (some page) ∧ ServesPage listing offset page
  | _, _ => True

def tagging (crn : String) (listing : List String) : Service inventory Unit :=
  fun _ call answer _ => AnswersTags crn listing call answer

def Recovers (crn : String) (listing : List String) (tags : StringMap)
    (program : Program StringMap) : Prop :=
  Ensures (tagging crn listing) () program fun outcome _ => outcome = .ok tags

theorem ServesPage.items_eq {offset : Nat} {page : TagPage}
    (served : ServesPage listing offset page) :
    page.items = ((listing.drop offset).take page.items.length).map some := by
  have upTo : ∀ size, page.items = ((listing.drop offset).take size).map some →
      page.items = ((listing.drop offset).take page.items.length).map some := by
    intro size items
    rw [items, length_map, length_take, ← take_eq_take_min]
  cases served with
  | counted size _ items _ => exact upTo size items
  | uncounted items _ => exact upTo limit items

theorem recovers_tagsFrom {crn : String} (lists : Lists tags listing) (rounds offset : Nat)
    (found : StringMap) (enough : listing.length < offset + rounds)
    (within : offset ≤ listing.length) (sofar : ReadBack tags (listing.take offset) found) :
    Recovers crn listing tags (tagsFrom crn rounds offset found) := by
  induction rounds generalizing offset found with
  | zero => omega
  | succ rounds ih =>
    apply ensures_call
    intro answer mid answered
    obtain ⟨page, rfl, served⟩ := answered rfl
    have items := served.items_eq
    obtain ⟨result, collected, read⟩ := sofar.collect
      fun name mem => lists.formatted name (mem_of_mem_drop (mem_of_mem_take mem))
    rw [← items] at collected
    rw [← take_add] at read
    have bounded : offset + page.items.length ≤ listing.length := by
      have length := congrArg List.length items
      rw [length_map, length_take, length_drop] at length
      omega
    -- The listing ends when all names were read, and goes on after a page that has some.
    have ended : listing.length ≤ offset + page.items.length →
        Recovers crn listing tags (.pure result) := by
      intro all
      rw [take_of_length_le all] at read
      exact ensures_pure (congrArg _ (read.eq_of_lists lists))
    have goesOn : 0 < page.items.length →
        Recovers crn listing tags (tagsFrom crn rounds (offset + page.items.length) result) := by
      intro someRead
      exact ih _ _ (by omega) bounded read
    rw [afterPage, collected]
    dsimp only
    cases served with
    | counted size progress served total =>
      rw [total]
      dsimp only
      split_ifs with all noneLeft
      · exact ended (by omega)
      · have nothing := congrArg List.length served
        rw [noneLeft, length_map, length_take, length_drop,
          length_nil] at nothing
        rw [noneLeft, length_nil] at all
        have someLeft := progress (by omega)
        omega
      · exact goesOn (length_pos_iff.mpr noneLeft)
    | uncounted served total =>
      have length := congrArg List.length served
      rw [length_map, length_take, length_drop] at length
      rw [total]
      dsimp only
      split_ifs with short
      · exact ended (by omega)
      · exact goesOn (by rw [limit] at short; omega)

theorem tagging_answers (crn : String) (listing : List String) (state : Unit) (call : Call) :
    ∃ (answer : call.Answer) (after : Unit), tagging crn listing state call answer after := by
  cases call with
  | listTags name offset =>
    exact ⟨.ok (some ⟨((listing.drop offset).take limit).map some, none⟩), (),
      fun _ => ⟨_, rfl, .uncounted rfl rfl⟩⟩
  | now => exact ⟨(0 : Int), (), trivial⟩
  | _ => exact ⟨.error (.plain ""), (), trivial⟩

theorem recovers_instanceTags {controller : Controller} {crn : String} {tags : StringMap}
    {listing : List String} (lists : Lists tags listing) {rounds : Nat} (named : crn ≠ "")
    (enabled : controller.hasGlobalTagging = true) (enough : listing.length < rounds) :
    Recovers crn listing tags (instanceTags controller rounds (some crn)) := by
  have asks : ¬ (crn = "" ∨ controller.hasGlobalTagging = false) := by
    rw [enabled]
    simp [named]
  rw [instanceTags, if_neg asks]
  exact recovers_tagsFrom lists rounds 0 ∅ (by omega) (Nat.zero_le _) (readBack_nil tags)

theorem Recovers.ends {crn : String} {program : Program StringMap}
    (recovers : Recovers crn listing tags program) :
    ∃ after, Ends (tagging crn listing) () program (.ok tags) after := by
  obtain ⟨out, after, ends⟩ := exists_ends (tagging_answers crn listing) program ()
  have same := recovers out after ends
  exact ⟨after, same ▸ ends⟩

/-! ## The result -/

/-- In whatever order the map is formatted and however the service orders and pages the
names, the orphan cleanup reads the same map again. -/
def SurvivesEncoding (tags : StringMap) : Prop :=
  ∀ entries, Ranges tags entries → ∃ names, formatTags entries = .ok names ∧
    ∀ listing, listing.Perm names → ∀ (controller : Controller) (crn : String) (rounds : Nat),
      crn ≠ "" → controller.hasGlobalTagging = true → listing.length < rounds →
        Recovers crn listing tags (instanceTags controller rounds (some crn)) ∧
          ∃ after, Ends (tagging crn listing) () (instanceTags controller rounds (some crn))
            (.ok tags) after

theorem survivesEncoding_of_checkTags (checked : checkTags tags = .ok ()) :
    SurvivesEncoding tags := by
  intro entries ranged
  refine ⟨_, formatTags_of_checkTags ranged checked, ?_⟩
  intro listing same controller crn rounds named enabled enough
  have recovers := @recovers_instanceTags controller crn tags listing
    (lists_of_formatTags ranged checked same) rounds named enabled enough
  exact ⟨recovers, recovers.ends⟩

/-- Whatever tags the user puts on the NodeClass and on its volumes: under the reserved
keys the instance has the five ownership tags, each volume has these and, exactly when it
is kept, the retain tag, and the tags of the instance survive their encoding. -/
theorem ownership_tags_not_forged {nodeClass : IBMNodeClass} {claim : NodeClaim}
    {clusterUID : String} {tags : StringMap}
    (made : instanceCloudTags nodeClass claim clusterUID = .ok tags)
    {mappings : List BlockDeviceMapping} {instanceName : String} {ranges : Nat → List Tag}
    (ranged : ∀ index, Ranges (vpcTags clusterUID claim.uid nodeClass.uid) (ranges index))
    {volumes : VolumeAttachment × List VolumeAttachment}
    (tagged : tagVolumeAttachments ranges (buildVolumeAttachments mappings instanceName) =
      .ok volumes) :
    (∀ key value, reservedTag key = true → (tags.lookup key = some value ↔
        ⟨key, value⟩ ∈ ownershipTags clusterUID claim.uid nodeClass.uid)) ∧
      List.Forall₂ (VolumeOwned clusterUID claim.uid nodeClass.uid)
        (attachments (buildVolumeAttachments mappings instanceName)) (attachments volumes) ∧
      SurvivesEncoding tags := by
  obtain ⟨whole, checked⟩ := instanceCloudTags_cases made
  refine ⟨fun key value reserved => ?_, volumesOwned_of_tagVolumeAttachments ranged tagged,
    survivesEncoding_of_checkTags checked⟩
  rw [whole, reserved_withUserTags _ _ reserved]
  exact (mem_ownershipTags_iff _ _ _ ⟨key, value⟩).symm

/-- A volume that is kept, with a tag that would forge ownership and one of the user's. -/
def keptVolume : BlockDeviceMapping :=
  ⟨none, some ⟨none, none, none, none, none, some false, ["Managed-By:me", "team:a"]⟩, false⟩

theorem tagVolume_ok {attachment : VolumeAttachment}
    (valid : ∀ tag ∈ attachment.volume.userTags.filter (fun tag => !reservedTag (tagKey tag)) ++
      entries.map formatTag ++ (if kept attachment then [retainTag ++ ":true"] else []),
        TagValid tag) : ∃ tagged, tagVolume entries attachment = .ok tagged := by
  obtain ⟨tags, made⟩ := volumeTags_ok valid
  rw [tagVolume, made]
  exact ⟨_, rfl⟩

theorem tagVolumeAttachments_sample :
    ∃ volumes, tagVolumeAttachments (fun _ => ownershipTags "x" "u" "k")
      (buildVolumeAttachments [keptVolume] "n") = .ok volumes := by
  have boot := @tagVolume_ok (ownershipTags "x" "u" "k")
    (buildVolumeAttachments [keptVolume] "n").1 (by decide +kernel)
  have data := @tagVolume_ok (ownershipTags "x" "u" "k") (dataAttachment "n" 0 keptVolume
      ⟨none, none, none, none, none, some false, ["Managed-By:me", "team:a"]⟩) (by decide +kernel)
  obtain ⟨first, bootTagged⟩ := boot
  obtain ⟨second, dataTagged⟩ := data
  refine ⟨(first, [second]), ?_⟩
  rw [tagVolumeAttachments, bootTagged]
  have one : (buildVolumeAttachments [keptVolume] "n").2 = [dataAttachment "n" 0 keptVolume
      ⟨none, none, none, none, none, some false, ["Managed-By:me", "team:a"]⟩] := rfl
  rw [one, tagVolumes, dataTagged]
  rfl

theorem ownership_tags_not_forged_sample :
    ∃ volumes, tagVolumeAttachments (fun _ => ownershipTags "x" "u" "k")
        (buildVolumeAttachments [keptVolume] "n") = .ok volumes ∧
      List.Forall₂ (VolumeOwned "x" "u" "k")
        (attachments (buildVolumeAttachments [keptVolume] "n")) (attachments volumes) ∧
      SurvivesEncoding VPCCreate.sampleTags := by
  obtain ⟨volumes, tagged⟩ := tagVolumeAttachments_sample
  have holds := ownership_tags_not_forged instanceCloudTags_sample
    (fun _ => ranges_ownershipTags "x" "u" "k") tagged
  exact ⟨volumes, tagged, holds.2⟩

/-! ## Launched instances and the cleanup -/

/-- Under the reserved keys the names are of these tags. -/
def ListsReserved (tags : StringMap) (names : List (Option String)) : Prop :=
  ∀ key value, reservedTag key = true → Carries names key value → tags.lookup key = some value

variable {nodeClass : IBMNodeClass} {claim : NodeClaim} {names : List (Option String)}

theorem ListsReserved.eq_of_carries {value other : String} (lists : ListsReserved tags names)
    (made : instanceCloudTags nodeClass claim clusterUID = .ok tags)
    (own : ⟨key, value⟩ ∈ ownershipTags clusterUID claim.uid nodeClass.uid)
    (carried : Carries names key other) : other = value := by
  have reserved := (ownershipTags_reserved own).1
  have held := lists key other reserved carried
  rw [(instanceCloudTags_cases made).1, reserved_withUserTags _ _ reserved,
    (mem_ownershipTags_iff ..).mp own] at held
  exact (Option.some.inj held).symm

def Outlives (names : List (Option String)) (clusterUID claimUID instanceID : String)
    (trace : List inventory.Exchange) : Prop :=
  ∃ before recheck, trace = before ++ Recheck.exchanges recheck instanceID ∧
    ((∀ page ∈ recheck.pages, PageOf names page.1 page.2) →
      recheck.cluster = clusterUID ∧ ∀ other ∈ recheck.claims, other.uid ≠ claimUID)

/-- A pass comes to delete an instance with the tags of a launch only when it has read the UID of
the launch's own cluster, and claims none of which has the UID of the launch's claim. -/
theorem launched_outlives_claim {controller : Controller} {rounds : Nat}
    {order : MapOrder (String × VPCInstance)} {id : String} {trace : List inventory.Exchange}
    {rest : Call.Answer (.deleteInstance id) → Program (List GoError)}
    (made : instanceCloudTags nodeClass claim clusterUID = .ok tags)
    (lists : ListsReserved tags names)
    (reaches : Reaches (OrphanCleanup.reconcile controller rounds order) trace
      (.call (.deleteInstance id) rest)) : Outlives names clusterUID claim.uid id trace := by
  obtain ⟨before, recheck, same, orphan⟩ := reconcile_makes reaches.makes
  refine ⟨before, recheck, same, fun pages => ?_⟩
  obtain ⟨uid, -, carried, gone⟩ := (orphan _ pages).claim
  obtain rfl : uid = claim.uid := lists.eq_of_carries made (by simp [ownershipTags]) carried
  have cluster := (orphan _ pages).cluster.2
  exact ⟨lists.eq_of_carries made (by simp [ownershipTags]) cluster, gone⟩

theorem launched_outlives_claim_sample : ∃ trace rest, Reaches (S := inventory)
      (OrphanCleanup.reconcile sampleController 1 ⟨id, fun _ => .refl _⟩) trace
      (.call (.deleteInstance "vm") rest) ∧ Outlives samplePage.items "c" "n" "vm" trace := by
  have made := @instanceCloudTags_ok sampleClass { sampleClaim with uid := "n" } "c"
    (checkTags_ok (by decide +kernel) (by decide +kernel) (by decide +kernel))
  have lists : ∀ item ∈ samplePage.items, ∀ name ∈ item, ∀ entry ∈ cutText name ':',
      reservedTag entry.1 = true →
        (withUserTags (vpcTags "c" "n" "k") ∅).lookup entry.1 = some entry.2 := by
    decide +kernel
  obtain ⟨trace, rest, reached⟩ := sample_reaches_deletion
  exact ⟨trace, rest, reached, launched_outlives_claim made
    (fun _ _ reserved ⟨name, mem, cut⟩ => lists _ mem name rfl _ cut reserved) reached⟩

end KarpenterIBM.VPCTags
