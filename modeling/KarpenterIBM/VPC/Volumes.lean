import KarpenterIBM.VPC.Create

/-!
# Volumes of a launch

`buildVolumeAttachments` of `pkg/providers/vpc/instance`: the boot volume and the data volumes
of an instance prototype, from the block device mappings of the NodeClass.
-/

namespace KarpenterIBM.VPCVolumes

open List Objects Ownership Text VPCCreate

structure VolumeSpec where
  capacity : Option Int
  profile : Option String
  iops : Option Int
  bandwidth : Option Int
  encryptionKeyID : Option String
  deleteOnTermination : Option Bool
  tags : List String
deriving DecidableEq

structure BlockDeviceMapping where
  deviceName : Option String
  volumeSpec : Option VolumeSpec
  rootVolume : Bool
deriving DecidableEq

structure VolumePrototype where
  name : String
  capacity : Int
  profile : String
  iops : Option Int
  bandwidth : Option Int
  encryptionKey : Option String
  userTags : List String
deriving DecidableEq

structure VolumeAttachment where
  name : Option String
  volume : VolumePrototype
  deleteVolumeOnInstanceDelete : Option Bool
deriving DecidableEq

def defaultCapacity : Int := 100

def defaultProfile : String := "general-purpose"

def bootVolumeName (instanceName : String) : String := instanceName ++ "-boot"

def defaultBootVolume (instanceName : String) : VolumeAttachment where
  name := none
  volume :=
    { name := bootVolumeName instanceName, capacity := defaultCapacity, profile := defaultProfile
      iops := none, bandwidth := none, encryptionKey := none, userTags := [] }
  deleteVolumeOnInstanceDelete := some true

def volumeFrom (name : String) (spec : VolumeSpec) : VolumePrototype where
  name := name
  capacity := spec.capacity.getD defaultCapacity
  profile := spec.profile.getD defaultProfile
  iops := spec.iops
  bandwidth := spec.bandwidth
  encryptionKey := spec.encryptionKeyID
  userTags := spec.tags

def bootAttachment (instanceName : String) (mapping : BlockDeviceMapping) : VolumeAttachment :=
  match mapping.volumeSpec with
  | none => { defaultBootVolume instanceName with name := mapping.deviceName }
  | some spec =>
    { name := mapping.deviceName
      volume := volumeFrom (bootVolumeName instanceName) spec
      deleteVolumeOnInstanceDelete := some (spec.deleteOnTermination.getD true) }

def dataVolumeName (instanceName : String) (index : Nat) (mapping : BlockDeviceMapping) : String :=
  mapping.deviceName.getD (instanceName ++ "-data-" ++ toString index)

def dataAttachment (instanceName : String) (index : Nat) (mapping : BlockDeviceMapping)
    (spec : VolumeSpec) : VolumeAttachment where
  name := some (dataVolumeName instanceName index mapping)
  volume := volumeFrom (dataVolumeName instanceName index mapping) spec
  deleteVolumeOnInstanceDelete := some (spec.deleteOnTermination.getD true)

/-- The body of the loop.  A later root mapping replaces an earlier one, and a data
mapping without a specification is skipped. -/
def addMapping (instanceName : String)
    (built : Option VolumeAttachment × List VolumeAttachment) (mapping : BlockDeviceMapping) :
    Option VolumeAttachment × List VolumeAttachment :=
  if mapping.rootVolume then (some (bootAttachment instanceName mapping), built.2)
  else
    match mapping.volumeSpec with
    | none => built
    | some spec =>
      (built.1, built.2 ++ [dataAttachment instanceName built.2.length mapping spec])

/-- The zone that the source passes along is not read, and the error is always nil. -/
def buildVolumeAttachments (mappings : List BlockDeviceMapping) (instanceName : String) :
    VolumeAttachment × List VolumeAttachment :=
  if mappings = [] then (defaultBootVolume instanceName, [])
  else
    let built := mappings.foldl (addMapping instanceName) (none, [])
    (built.1.getD (defaultBootVolume instanceName), built.2)

/-- The name that resources of a launch are called after, cut to leave room for what is
appended.  Launch names have one byte for each character. -/
def resourceName (cloudName : String) : String :=
  if 55 < cloudName.length then String.ofList (cloudName.toList.take 55) else cloudName

def volumeNames (built : VolumeAttachment × List VolumeAttachment) : List String :=
  built.1.volume.name :: built.2.map fun attachment => attachment.volume.name

/-! ## The names of one prototype -/

def dataMappings (mappings : List BlockDeviceMapping) : List BlockDeviceMapping :=
  mappings.filter fun mapping => !mapping.rootVolume && mapping.volumeSpec.isSome

def dataVolumeNames (instanceName : String) : Nat → List BlockDeviceMapping → List String
  | _, [] => []
  | index, mapping :: rest =>
    dataVolumeName instanceName index mapping :: dataVolumeNames instanceName (index + 1) rest

/-- What the loop has built: a boot volume of the one possible name, and the data volumes
by their names. -/
structure BuiltWith (instanceName : String) (names : List String)
    (built : Option VolumeAttachment × List VolumeAttachment) : Prop where
  boot : ∀ attachment, built.1 = some attachment →
    attachment.volume.name = bootVolumeName instanceName
  data : built.2.map (fun attachment => attachment.volume.name) = names

theorem bootAttachment_name (instanceName : String) (mapping : BlockDeviceMapping) :
    (bootAttachment instanceName mapping).volume.name = bootVolumeName instanceName := by
  unfold bootAttachment
  cases mapping.volumeSpec <;> rfl

variable {built : Option VolumeAttachment × List VolumeAttachment}

theorem BuiltWith.addMapping {inst : String} {names : List String}
    (sofar : BuiltWith inst names built) (mapping : BlockDeviceMapping) :
    BuiltWith inst (names ++ dataVolumeNames inst names.length (dataMappings [mapping]))
      (addMapping inst built mapping) := by
  have count : built.2.length = names.length := by rw [← sofar.data, length_map]
  obtain ⟨deviceName, volumeSpec, rootVolume⟩ := mapping
  cases rootVolume with
  | true =>
    refine ⟨fun attachment same => ?_, ?_⟩
    · cases same
      exact bootAttachment_name inst _
    · simpa [VPCVolumes.addMapping, dataMappings, dataVolumeNames] using sofar.data
  | false =>
    cases volumeSpec with
    | none =>
      refine ⟨sofar.boot, ?_⟩
      simpa [VPCVolumes.addMapping, dataMappings, dataVolumeNames] using sofar.data
    | some spec =>
      refine ⟨sofar.boot, ?_⟩
      simp [VPCVolumes.addMapping, dataMappings, dataVolumeNames, dataAttachment, volumeFrom,
        sofar.data, count]

theorem dataVolumeNames_append (inst : String) (index : Nat)
    (first rest : List BlockDeviceMapping) :
    dataVolumeNames inst index (first ++ rest) = dataVolumeNames inst index first ++
        dataVolumeNames inst (index + first.length) rest := by
  induction first generalizing index with
  | nil => rfl
  | cons mapping first ih =>
    rw [cons_append, dataVolumeNames, dataVolumeNames, ih, length_cons,
      cons_append, Nat.add_right_comm, Nat.add_assoc]

theorem length_dataVolumeNames (inst : String) (index : Nat) (maps : List BlockDeviceMapping) :
    (dataVolumeNames inst index maps).length = maps.length := by
  induction maps generalizing index with
  | nil => rfl
  | cons mapping rest ih => rw [dataVolumeNames, length_cons, length_cons, ih]

theorem BuiltWith.foldl {inst : String} {names : List String} (sofar : BuiltWith inst names built)
    (maps : List BlockDeviceMapping) :
    BuiltWith inst (names ++ dataVolumeNames inst names.length (dataMappings maps))
      (maps.foldl (VPCVolumes.addMapping inst) built) := by
  induction maps generalizing names built with
  | nil => simpa [dataMappings, dataVolumeNames] using sofar
  | cons mapping rest ih =>
    have split : dataMappings (mapping :: rest) = dataMappings [mapping] ++ dataMappings rest :=
      filter_append [mapping] rest
    have last := ih (sofar.addMapping mapping)
    rw [length_append, length_dataVolumeNames, append_assoc,
      ← dataVolumeNames_append, ← split] at last
    exact last

theorem volumeNames_buildVolumeAttachments (maps : List BlockDeviceMapping) (inst : String) :
    volumeNames (buildVolumeAttachments maps inst) =
      bootVolumeName inst :: dataVolumeNames inst 0 (dataMappings maps) := by
  have start : BuiltWith inst [] (none, []) := ⟨fun _ same => (nomatch same), rfl⟩
  have built := start.foldl maps
  unfold buildVolumeAttachments
  by_cases empty : maps = []
  · rw [if_pos empty, empty]
    rfl
  rw [if_neg empty, volumeNames, built.data, nil_append, length_nil]
  dsimp only
  cases boot : (maps.foldl (addMapping inst) (none, [])).1 with
  | none => rfl
  | some attachment => rw [Option.getD_some, built.boot attachment boot]

/-! ## Generated names -/

def generatedName (instanceName : String) (index : Nat) : String :=
  instanceName ++ "-data-" ++ toString index

theorem toList_toString (number : Nat) : (toString number).toList = Nat.toDigits 10 number := by
  rw [Nat.toString_eq_ofList_toDigits, String.toList_ofList]

theorem dash_not_mem_toString (number : Nat) : '-' ∉ (toString number).toList := by
  intro mem
  rw [toList_toString] at mem
  exact absurd (Nat.isDigit_of_mem_toDigits (by decide) (by decide) mem) (by decide)

theorem toList_generatedName (inst : String) (index : Nat) : (generatedName inst index).toList =
      (inst ++ "-data").toList ++ '-' :: (toString index).toList := by
  simp [generatedName]

theorem toList_bootVolumeName (inst : String) :
    (bootVolumeName inst).toList = inst.toList ++ '-' :: "boot".toList := by
  simp [bootVolumeName]

variable {other : String}

theorem generatedName_inj {inst : String} {index number : Nat}
    (same : generatedName inst index = generatedName other number) :
    inst = other ∧ index = number := by
  have chars := congrArg String.toList same
  rw [toList_generatedName, toList_generatedName] at chars
  obtain ⟨leads, numbers⟩ := append_separator_inj (dash_not_mem_toString index)
    (dash_not_mem_toString number) chars
  refine ⟨(String.append_left_inj "-data").mp (String.toList_injective leads), ?_⟩
  rw [toList_toString, toList_toString] at numbers
  calc index = Nat.ofDigitChars 10 (Nat.toDigits 10 index) 0 := Nat.ofDigitChars_ten_toDigits.symm
    _ = Nat.ofDigitChars 10 (Nat.toDigits 10 number) 0 := by rw [numbers]
    _ = number := Nat.ofDigitChars_ten_toDigits

theorem bootVolumeName_inj {inst : String} (same : bootVolumeName inst = bootVolumeName other) :
    inst = other :=
  (String.append_left_inj "-boot").mp same

theorem generatedName_ne_bootVolumeName (inst other : String) (index : Nat) :
    generatedName inst index ≠ bootVolumeName other := by
  intro same
  have chars := congrArg String.toList same
  rw [toList_generatedName, toList_bootVolumeName] at chars
  have numbers := (append_separator_inj (dash_not_mem_toString index) (by decide) chars).2
  have digit : 'b' ∈ Nat.toDigits 10 index := by
    rw [← toList_toString, numbers]
    decide
  exact absurd (Nat.isDigit_of_mem_toDigits (by decide) (by decide) digit) (by decide)

theorem dataVolumeNames_generated (inst : String) (index : Nat) {maps : List BlockDeviceMapping}
    (unnamed : ∀ mapping ∈ maps, mapping.deviceName = none) :
    dataVolumeNames inst index maps = (List.range' index maps.length).map (generatedName inst) := by
  induction maps generalizing index with
  | nil => rfl
  | cons mapping rest ih =>
    rw [dataVolumeNames, ih _ fun other mem => unnamed other (mem_cons_of_mem _ mem),
      length_cons, List.range'_succ, map_cons, dataVolumeName,
      unnamed mapping mem_cons_self]
    rfl

theorem deviceName_mem_dataVolumeNames (inst : String) (index : Nat)
    {mappings : List BlockDeviceMapping} {mapping : BlockDeviceMapping} {deviceName : String}
    (mem : mapping ∈ mappings) (named : mapping.deviceName = some deviceName) :
    deviceName ∈ dataVolumeNames inst index mappings := by
  induction mappings generalizing index with
  | nil => cases mem
  | cons first rest ih =>
    rw [dataVolumeNames, mem_cons]
    rcases mem_cons.mp mem with same | later
    · left
      rw [← same, dataVolumeName, named, Option.getD_some]
    · exact .inr (ih (index + 1) later)

/-! ## Two launches -/

/-- No data volume takes its name from the NodeClass. -/
def NamesGenerated (mappings : List BlockDeviceMapping) : Prop :=
  ∀ mapping ∈ dataMappings mappings, mapping.deviceName = none

instance (mappings : List BlockDeviceMapping) : Decidable (NamesGenerated mappings) := by
  unfold NamesGenerated
  infer_instance

/-- Two prototypes of one NodeClass share no volume name and repeat none. -/
structure VolumesApart (mappings : List BlockDeviceMapping) (instanceName other : String) :
    Prop where
  disjoint : List.Disjoint (volumeNames (buildVolumeAttachments mappings instanceName))
    (volumeNames (buildVolumeAttachments mappings other))
  nodup : (volumeNames (buildVolumeAttachments mappings instanceName)).Nodup
  nodupOther : (volumeNames (buildVolumeAttachments mappings other)).Nodup

variable {maps : List BlockDeviceMapping}

theorem volumeNames_generated (generated : NamesGenerated maps) (inst : String) :
    volumeNames (buildVolumeAttachments maps inst) = bootVolumeName inst ::
        (List.range' 0 (dataMappings maps).length).map (generatedName inst) := by
  rw [volumeNames_buildVolumeAttachments, dataVolumeNames_generated _ _ generated]

theorem nodup_generated (generated : NamesGenerated maps) (inst : String) :
    (volumeNames (buildVolumeAttachments maps inst)).Nodup := by
  rw [volumeNames_generated generated, nodup_cons]
  constructor
  · intro mem
    obtain ⟨index, _, same⟩ := mem_map.mp mem
    exact generatedName_ne_bootVolumeName _ _ _ same
  refine List.Nodup.map_on ?_ nodup_range'
  intro index _ number _ same
  exact (generatedName_inj same).2

theorem disjoint_generated (generated : NamesGenerated maps) {inst : String}
    (differ : inst ≠ other) :
    List.Disjoint (volumeNames (buildVolumeAttachments maps inst))
      (volumeNames (buildVolumeAttachments maps other)) := by
  rw [volumeNames_generated generated, volumeNames_generated generated]
  intro name mem shared
  rw [mem_cons, mem_map] at mem shared
  rcases mem with boot | ⟨index, _, made⟩
  · rcases shared with otherBoot | ⟨number, _, otherMade⟩
    · exact differ (bootVolumeName_inj (boot.symm.trans otherBoot))
    · exact generatedName_ne_bootVolumeName _ _ _ (otherMade.trans boot)
  rcases shared with otherBoot | ⟨number, _, otherMade⟩
  · exact generatedName_ne_bootVolumeName _ _ _ (made.trans otherBoot)
  · exact differ (generatedName_inj (made.trans otherMade.symm)).1

theorem volumesApart_iff (maps : List BlockDeviceMapping) (inst other : String) :
    VolumesApart maps inst other ↔ NamesGenerated maps ∧ inst ≠ other := by
  constructor
  · intro apart
    have disjoint := apart.disjoint
    rw [volumeNames_buildVolumeAttachments, volumeNames_buildVolumeAttachments] at disjoint
    refine ⟨fun mapping mem => ?_, ?_⟩
    · cases named : mapping.deviceName with
      | none => rfl
      | some deviceName =>
        have first := deviceName_mem_dataVolumeNames inst 0 mem named
        have second := deviceName_mem_dataVolumeNames other 0 mem named
        exact absurd (mem_cons_of_mem _ second) (disjoint (mem_cons_of_mem _ first))
    · intro same
      rw [same] at disjoint
      exact disjoint mem_cons_self mem_cons_self
  · rintro ⟨generated, differ⟩
    exact ⟨disjoint_generated generated differ, nodup_generated generated _,
      nodup_generated generated _⟩

/-- The volume names of two claims with different launch names are apart exactly when the
NodeClass names no data volume and the names still differ where they are cut. -/
theorem volume_names_apart_iff (platform : Platform) (clusterUID : String)
    (mappings : List BlockDeviceMapping) (claim other : NodeClaim)
    (_different : instanceName platform clusterUID claim.uid ≠
      instanceName platform clusterUID other.uid) :
    VolumesApart mappings (resourceName (instanceName platform clusterUID claim.uid))
        (resourceName (instanceName platform clusterUID other.uid)) ↔
      NamesGenerated mappings ∧ resourceName (instanceName platform clusterUID claim.uid) ≠
          resourceName (instanceName platform clusterUID other.uid) :=
  volumesApart_iff mappings _ _

/-- A platform whose digests are the texts themselves. -/
def plainPlatform : Platform := { samplePlatform with digest26 := id }

def otherClaim : NodeClaim := { sampleClaim with name := "d", uid := "v" }

/-- A data volume as the NodeClass documentation shows it, with a device name. -/
def namedDataVolume : BlockDeviceMapping :=
  ⟨some "application-data", some ⟨some 200, none, none, none, none, none, []⟩, false⟩

/-- A root volume and two data volumes without a name. -/
def unnamedVolumes : List BlockDeviceMapping :=
  [{ namedDataVolume with deviceName := none }, { namedDataVolume with rootVolume := true },
    { namedDataVolume with deviceName := none }]

theorem volume_names_apart_iff_sample :
    VolumesApart unnamedVolumes (resourceName (instanceName plainPlatform "x" sampleClaim.uid))
      (resourceName (instanceName plainPlatform "x" otherClaim.uid)) :=
  (volume_names_apart_iff plainPlatform "x" unnamedVolumes sampleClaim otherClaim
    (by decide)).mpr ⟨by decide, by decide⟩

theorem device_name_shared :
    instanceName plainPlatform "x" sampleClaim.uid ≠ instanceName plainPlatform "x" otherClaim.uid ∧
      ¬ VolumesApart [namedDataVolume]
        (resourceName (instanceName plainPlatform "x" sampleClaim.uid))
        (resourceName (instanceName plainPlatform "x" otherClaim.uid)) := by
  refine ⟨by decide, fun apart => ?_⟩
  have generated := ((volumesApart_iff _ _ _).mp apart).1
  exact absurd (generated namedDataVolume (by decide)) (by decide)

end KarpenterIBM.VPCVolumes
