import KarpenterIBM.Image.Resolver

/-!
# The image inventory

Images as the service lists them, with the status and the operating system.
`listImagesByVisibility` keeps those an instance can be created from and sorts them by creation
date.
-/

namespace KarpenterIBM.ImageResolver

open Errors SortSlice Text

/-- The operating system is missing when it is not given or has no name. -/
structure ListedImage extends Image where
  status : Option String
  operatingSystem : Option String
deriving DecidableEq

structure InventoryService where
  getImage : String → Except GoError Unit
  listImages : Visibility → Except GoError (List ListedImage)

/-- What the lookup by name reads of the listing. -/
def InventoryService.byName (service : InventoryService) : ImageService where
  getImage := service.getImage
  listImages visibility :=
    match service.listImages visibility with
    | .error error => .error error
    | .ok images => .ok (images.map ListedImage.toImage)

def imageStatusAvailable : String := "available"

def imageStatusDeprecated : String := "deprecated"

def usableStatus (image : ListedImage) : Bool :=
  image.status = some imageStatusAvailable || image.status = some imageStatusDeprecated

/-! ## Listing by visibility -/

structure ImageInfo where
  id : String
  name : String
  createdAt : Int
  operatingSystem : String
  status : String
deriving DecidableEq

/-- The zero value of `time.Time`, in milliseconds since 1970. -/
def zeroTime : Int := -62135596800000

def imageInfo (lower : String → String) (nameFilter : String) (image : ListedImage) :
    Option ImageInfo :=
  match image.name, image.id with
  | some name, some id =>
    if usableStatus image = false then none
    else if nameFilter ≠ "" ∧ containsText (lower name) (lower nameFilter) = false then none
    else some
      { id := id
        name := name
        createdAt := image.createdAt.getD zeroTime
        operatingSystem := image.operatingSystem.getD ""
        status := image.status.getD "" }
  | _, _ => none

def laterCreated (first second : ImageInfo) : Bool :=
  decide (second.createdAt < first.createdAt)

def Visibility.text : Visibility → String
  | .isPublic => "public"
  | .isPrivate => "private"

def listImagesByVisibility (lower : String → String) (sorter : Sorter laterCreated)
    (service : InventoryService) (visibility : Visibility) (nameFilter : String) :
    Except GoError (List ImageInfo) :=
  match service.listImages visibility with
  | .error error => .error (.wrap ("listing " ++ visibility.text ++ " images: ") error "")
  | .ok images => .ok (sorter.slice (images.filterMap (imageInfo lower nameFilter)))

theorem imageInfo_eq_some_iff {lower : String → String} {image : ListedImage} {info : ImageInfo} :
    imageInfo lower "" image = some info ↔
      image.name = some info.name ∧ image.id = some info.id ∧ usableStatus image = true ∧
        info.createdAt = image.createdAt.getD zeroTime ∧
        info.operatingSystem = image.operatingSystem.getD "" ∧
        info.status = image.status.getD "" := by
  obtain ⟨id, name, createdAt, operatingSystem, status⟩ := info
  unfold imageInfo
  cases named : image.name with
  | none => simp
  | some text =>
    cases identified : image.id with
    | none => simp
    | some found =>
      by_cases usable : usableStatus image = true
      · dsimp only
        rw [if_neg (by simp [usable]), if_neg (by simp), Option.some_inj, ImageInfo.mk.injEq]
        grind
      · simp [usable]

/-! ## The choice of the lookup by name -/

section
variable (lower : String → String) (inventory : Visibility → List ListedImage)
  (identifier : String)

def nameMatches (image : ListedImage) : Bool :=
  image.name.any fun name => matchesImageName lower name identifier

/-- The listed images that match: public ones, or private ones when no public one does. -/
def listedMatching : List ListedImage :=
  if (inventory .isPublic).filter (nameMatches lower identifier) ≠ [] then
    (inventory .isPublic).filter (nameMatches lower identifier)
  else (inventory .isPrivate).filter (nameMatches lower identifier)

/-- The image of this ID matches, can be used, and is at least as new as every other one
that has a date. -/
structure UsableNewest (id : String) (image : ListedImage) : Prop where
  member : image ∈ listedMatching lower inventory identifier
  identified : image.id = some id
  matched : ∃ name, image.name = some name ∧ matchesImageName lower name identifier = true
  usable : usableStatus image = true
  newest : ∀ other ∈ listedMatching lower inventory identifier, other ≠ image →
    ∀ time, other.createdAt = some time → ∃ own, image.createdAt = some own ∧ time ≤ own

variable {lower inventory identifier}

theorem candidatesIn_map (images : List ListedImage) :
    candidatesIn lower (images.map ListedImage.toImage) identifier =
      (images.filter (nameMatches lower identifier)).map ListedImage.toImage := by
  rw [candidatesIn, List.filter_map]
  rfl

theorem matching_map : matching lower ((inventory .isPublic).map ListedImage.toImage)
        ((inventory .isPrivate).map ListedImage.toImage) identifier =
      (listedMatching lower inventory identifier).map ListedImage.toImage := by
  rw [matching, listedMatching, candidatesIn_map, candidatesIn_map]
  by_cases found : (inventory .isPublic).filter (nameMatches lower identifier) = []
  · simp [found]
  · rw [if_pos (by simpa using found), if_pos found]

theorem resolveImage_byName {sorter : Sorter newer} {service : InventoryService}
    (listed : ∀ visibility, service.listImages visibility = .ok (inventory visibility))
    (ne : identifier ≠ "") (name : isImageID identifier = false) :
    resolveImage lower sorter service.byName identifier =
      newestOf sorter ((listedMatching lower inventory identifier).map ListedImage.toImage)
        identifier := by
  rw [← matching_map]
  refine resolveImage_of_name ?_ ?_ ne name
  · simp only [InventoryService.byName, listed]
  · simp only [InventoryService.byName, listed]

/-- A name is resolved to a usable newest image under every sort, exactly when every
matching image with an ID that can be sorted first is one. -/
theorem name_resolves_to_usable_newest_iff {service : InventoryService}
    (listed : ∀ visibility, service.listImages visibility = .ok (inventory visibility))
    (name : isImageID identifier = false) :
    (∀ (sorter : Sorter newer) (id : String),
        resolveImage lower sorter service.byName identifier = .ok id →
          ∃ image, UsableNewest lower inventory identifier id image) ↔
      identifier = "" ∨ ∀ image,
        MayLead newer ((listedMatching lower inventory identifier).map ListedImage.toImage) image →
          ∀ id, image.id = some id → ∃ found, UsableNewest lower inventory identifier id found := by
  by_cases empty : identifier = ""
  · refine iff_of_true (fun sorter id resolved => ?_) (.inl empty)
    rw [resolveImage, if_pos empty] at resolved
    cases resolved
  simp only [resolveImage_byName listed empty name, newestOf_eq_ok_iff, empty, false_or]
  constructor
  · intro resolves image leads id given
    obtain ⟨sorter, first⟩ := exists_sorter_of_mayLead leads
    exact resolves sorter id ⟨image, first, given⟩
  · rintro leaders sorter id ⟨image, first, given⟩
    exact leaders image (sorter.mayLead_of_head first) id given

end

/-! ## A withdrawn build -/

def inventoryService (inventory : Visibility → List ListedImage) : InventoryService where
  getImage _ := .ok ()
  listImages visibility := .ok (inventory visibility)

def availableBuild : ListedImage := ⟨thirdBuild, some "available", some "ubuntu"⟩
def obsoleteBuild : ListedImage := ⟨laterBuild, some "obsolete", some "ubuntu"⟩

def buildInventory : Visibility → List ListedImage
  | .isPublic => [availableBuild, obsoleteBuild]
  | .isPrivate => []

theorem name_resolves_to_usable_newest_iff_sample : (∀ (sorter : Sorter newer) (id : String),
        resolveImage lowerText sorter (inventoryService buildInventory).byName "ubuntu" = .ok id →
          ∃ image, UsableNewest lowerText buildInventory "ubuntu" id image) ↔
      "ubuntu" = "" ∨ ∀ image, MayLead newer ((listedMatching lowerText buildInventory "ubuntu").map
            ListedImage.toImage) image →
          ∀ id, image.id = some id →
            ∃ found, UsableNewest lowerText buildInventory "ubuntu" id found :=
  name_resolves_to_usable_newest_iff (fun _ => rfl) (by decide)

theorem listedMatching_builds :
    listedMatching lowerText buildInventory "ubuntu" = [availableBuild, obsoleteBuild] := by
  decide

/-- The newest match is obsolete, and the lookup by name takes it. -/
theorem obsolete_build_taken_for_name : isImageID "ubuntu" = false ∧ ∃ sorter : Sorter newer,
        resolveImage lowerText sorter (inventoryService buildInventory).byName "ubuntu" =
            .ok "new" ∧
          ¬ ∃ image, UsableNewest lowerText buildInventory "ubuntu" "new" image := by
  refine ⟨by decide, ?_⟩
  have leads : MayLead newer [thirdBuild, laterBuild] laterBuild := ⟨by simp, fun _ => by decide⟩
  obtain ⟨sorter, first⟩ := exists_sorter_of_mayLead leads
  refine ⟨sorter, ?_, ?_⟩
  · rw [@resolveImage_byName lowerText buildInventory "ubuntu" _ _ (fun _ => rfl) (by decide)
      (by decide), newestOf_eq_ok_iff, listedMatching_builds]
    exact ⟨laterBuild, first, rfl⟩
  rintro ⟨image, found⟩
  have member := found.member
  rw [listedMatching_builds] at member
  simp only [List.mem_cons, List.not_mem_nil, or_false] at member
  rcases member with rfl | rfl
  · exact absurd found.identified (by decide)
  · exact absurd found.usable (by decide)

end KarpenterIBM.ImageResolver
