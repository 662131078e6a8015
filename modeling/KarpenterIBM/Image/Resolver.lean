import KarpenterIBM.Errors
import KarpenterIBM.Lib.SortSlice

/-!
# Resolving an image by its name

`ResolveImage` of `pkg/providers/common/image`. A name is looked up among the public images, and
among the private ones when no public image matches.
-/

namespace KarpenterIBM.ImageResolver

open Errors List SortSlice Text

structure Image where
  id : Option String
  name : Option String
  /-- In milliseconds since 1970: `CreatedAt.String()`, which the sorts parse, keeps no more. -/
  createdAt : Option Int
deriving DecidableEq

inductive Visibility where
  | isPublic
  | isPrivate
deriving DecidableEq

/-- The image calls of the VPC client, as they answer during one resolution. -/
structure ImageService where
  getImage : String → Except GoError Unit
  listImages : Visibility → Except GoError (List Image)

/-! ## Identifiers and names -/

def isImageID (text : String) : Bool :=
  if text.utf8ByteSize < 10 then false
  else if !hasLead text "r" then false
  else
    match splitText text '-' with
    | first :: rest =>
      if rest.length + 1 < 6 then false
      else if first.utf8ByteSize < 2 then false
      else first.toList.tail.all fun c => '0' ≤ c && c ≤ '9'
    | [] => false

def hasTrail (text trail : String) : Bool :=
  trail.toList.isSuffixOf text.toList

def matchesPattern (text pattern : String) : Bool :=
  if pattern = "*" then true
  else if hasLead pattern "*" && hasTrail pattern "*" then
    containsChars pattern.toList.tail.dropLast text.toList
  else if hasLead pattern "*" then pattern.toList.tail.isSuffixOf text.toList
  else if hasTrail pattern "*" then pattern.toList.dropLast.isPrefixOf text.toList
  else decide (text = pattern)

section

-- `lower` is `strings.ToLower`
variable (lower : String → String)

def matchesImageName (imageName pattern : String) : Bool :=
  if lower imageName = lower pattern then true
  else if containsText (lower imageName) (lower pattern) then true
  else if containsText (lower pattern) "*" then
    matchesPattern (lower imageName) (lower pattern)
  else false

def candidatesIn (images : List Image) (imageName : String) : List Image :=
  images.filter fun image => image.name.any fun name => matchesImageName lower name imageName

/-- The comparison of the sort: both dates are known and the first is later. -/
def newer (first second : Image) : Bool :=
  match first.createdAt, second.createdAt with
  | some time, some other => decide (other < time)
  | _, _ => false

/-! ## Resolution -/

variable (sorter : Sorter newer) (service : ImageService)

def newestOf (candidates : List Image) (imageName : String) : Except GoError String :=
  match sorter.slice candidates with
  | [] => .error (.plain ("no image found matching name '" ++ imageName ++ "'"))
  | first :: _ =>
    match first.id with
    | none => .error (.plain ("image " ++ first.name.getD "" ++ " has no ID"))
    | some id => .ok id

def resolveImageByName (imageName : String) : Except GoError String :=
  match service.listImages .isPublic with
  | .error error => .error (.wrap "listing images: " error "")
  | .ok publicImages =>
    if candidatesIn lower publicImages imageName ≠ [] then
      newestOf sorter (candidatesIn lower publicImages imageName) imageName
    else
      match service.listImages .isPrivate with
      | .error error => .error (.wrap "listing private images: " error "")
      | .ok privateImages =>
        newestOf sorter (candidatesIn lower privateImages imageName) imageName

def resolveImage (imageIdentifier : String) : Except GoError String :=
  if imageIdentifier = "" then .error (.plain "image identifier cannot be empty")
  else if isImageID imageIdentifier then
    match service.getImage imageIdentifier with
    | .ok _ => .ok imageIdentifier
    | .error error => .error (.wrap ("image ID " ++ imageIdentifier ++ " not found: ") error "")
  else resolveImageByName lower sorter service imageIdentifier

end

/-! ## Exact names -/

section
variable (lower : String → String) (publicImages privateImages : List Image)
  (identifier : String)

/-- The images that match: public ones, or private ones when no public one does. -/
def matching : List Image :=
  if candidatesIn lower publicImages identifier ≠ [] then
    candidatesIn lower publicImages identifier
  else candidatesIn lower privateImages identifier

/-- An image with exactly this name is there to be found. -/
def ExactAvailable : Prop :=
  (∃ image ∈ publicImages, image.name = some identifier) ∨
    candidatesIn lower publicImages identifier = [] ∧
      ∃ image ∈ privateImages, image.name = some identifier

/-- The ID of an image with exactly this name. -/
def ExactID (id : String) : Prop :=
  ∃ image ∈ publicImages ++ privateImages,
    image.name = some identifier ∧ image.id = some id

variable {lower publicImages privateImages identifier}

theorem mem_candidatesIn_of_exact {images : List Image} {image : Image}
    (mem : image ∈ images) (named : image.name = some identifier) :
    image ∈ candidatesIn lower images identifier := by
  refine mem_filter.mpr ⟨mem, ?_⟩
  simp [named, matchesImageName]

theorem matching_ne_nil (available : ExactAvailable lower publicImages privateImages identifier) :
    matching lower publicImages privateImages identifier ≠ [] := by
  unfold matching
  rcases available with ⟨image, mem, named⟩ | ⟨noPublic, image, mem, named⟩
  · have inside : image ∈ candidatesIn lower publicImages identifier :=
      mem_candidatesIn_of_exact mem named
    rw [if_pos (ne_nil_of_mem inside)]
    exact ne_nil_of_mem inside
  · rw [if_neg (not_not.mpr noPublic)]
    exact ne_nil_of_mem (mem_candidatesIn_of_exact mem named)

theorem newestOf_eq_ok_iff (sorter : Sorter newer) (candidates : List Image) (id : String) :
    newestOf sorter candidates identifier = .ok id ↔
      ∃ image, (sorter.slice candidates).head? = some image ∧ image.id = some id := by
  unfold newestOf
  cases sorter.slice candidates with
  | nil => simp
  | cons first rest =>
    cases given : first.id with
    | none | some found => simp [given]

theorem resolveImage_of_name {sorter : Sorter newer} {service : ImageService}
    (listed : service.listImages .isPublic = .ok publicImages)
    (listedToo : service.listImages .isPrivate = .ok privateImages)
    (ne : identifier ≠ "") (name : isImageID identifier = false) :
    resolveImage lower sorter service identifier =
      newestOf sorter (matching lower publicImages privateImages identifier) identifier := by
  unfold resolveImage resolveImageByName matching
  rw [if_neg ne, name, if_neg Bool.false_ne_true, listed, listedToo]
  dsimp only
  split <;> rfl

/-- A name is resolved to an image with exactly that name under every sort, exactly when
every matching image that can be sorted first is such an image. -/
theorem exact_name_wins_iff {service : ImageService}
    (listed : service.listImages .isPublic = .ok publicImages)
    (listedToo : service.listImages .isPrivate = .ok privateImages)
    (name : isImageID identifier = false)
    (available : ExactAvailable lower publicImages privateImages identifier) :
    (∀ sorter : Sorter newer, ∃ id, resolveImage lower sorter service identifier = .ok id ∧
        ExactID publicImages privateImages identifier id) ↔
      identifier ≠ "" ∧ ∀ image,
        MayLead newer (matching lower publicImages privateImages identifier) image →
          ∃ id, image.id = some id ∧ ExactID publicImages privateImages identifier id := by
  constructor
  · intro wins
    have nonempty : identifier ≠ "" := by
      intro empty
      obtain ⟨sorter⟩ := nonempty_sorter newer
      obtain ⟨id, resolved, _⟩ := wins sorter
      rw [resolveImage, if_pos empty] at resolved
      cases resolved
    refine ⟨nonempty, fun image leads => ?_⟩
    obtain ⟨sorter, first⟩ := exists_sorter_of_mayLead leads
    obtain ⟨id, resolved, isExact⟩ := wins sorter
    rw [resolveImage_of_name listed listedToo nonempty name, newestOf_eq_ok_iff] at resolved
    obtain ⟨found, leading, given⟩ := resolved
    obtain rfl : image = found := Option.some.inj (first.symm.trans leading)
    exact ⟨id, given, isExact⟩
  · rintro ⟨nonempty, leaders⟩ sorter
    have filled : sorter.slice (matching lower publicImages privateImages identifier) ≠ [] := by
      intro empty
      have perm := sorter.perm (matching lower publicImages privateImages identifier)
      rw [empty] at perm
      exact matching_ne_nil available perm.symm.eq_nil
    obtain ⟨first, rest, sorted⟩ := exists_cons_of_ne_nil filled
    have leads : (sorter.slice (matching lower publicImages privateImages identifier)).head? =
        some first := by rw [sorted]; rfl
    obtain ⟨id, given, isExact⟩ := leaders first (sorter.mayLead_of_head leads)
    refine ⟨id, ?_, isExact⟩
    rw [resolveImage_of_name listed listedToo nonempty name, newestOf_eq_ok_iff]
    exact ⟨first, leads, given⟩

end

/-! ## Two builds of one image, created on 1 January and 1 February 2024 -/

def thirdBuild : Image := ⟨some "old", some "ubuntu-amd64-3", some 1704067200000⟩
def laterBuild : Image := ⟨some "new", some "ubuntu-amd64-31", some 1706745600000⟩

def buildService (images : List Image) : ImageService where
  getImage _ := .ok ()
  listImages
    | .isPublic => .ok images
    | .isPrivate => .ok []

theorem exact_name_wins_iff_alone : (∀ sorter : Sorter newer, ∃ id,
        resolveImage lowerText sorter (buildService [thirdBuild]) "ubuntu-amd64-3" = .ok id ∧
        ExactID [thirdBuild] [] "ubuntu-amd64-3" id) ↔
      "ubuntu-amd64-3" ≠ "" ∧ ∀ image,
        MayLead newer (matching lowerText [thirdBuild] [] "ubuntu-amd64-3") image →
          ∃ id, image.id = some id ∧ ExactID [thirdBuild] [] "ubuntu-amd64-3" id :=
  exact_name_wins_iff rfl rfl (by decide) (.inl ⟨thirdBuild, by simp, rfl⟩)

theorem matching_builds : matching lowerText [thirdBuild, laterBuild] [] "ubuntu-amd64-3" =
      [thirdBuild, laterBuild] := by
  decide

/-- The name of build 3 is the beginning of the name of build 31, which is newer. -/
theorem later_build_taken_for_exact_name : isImageID "ubuntu-amd64-3" = false ∧
      ExactAvailable lowerText [thirdBuild, laterBuild] [] "ubuntu-amd64-3" ∧
      ∃ sorter : Sorter newer, resolveImage lowerText sorter (buildService [thirdBuild, laterBuild])
            "ubuntu-amd64-3" = .ok "new" ∧
          ¬ ExactID [thirdBuild, laterBuild] [] "ubuntu-amd64-3" "new" := by
  refine ⟨by decide, .inl ⟨thirdBuild, by simp, rfl⟩, ?_⟩
  have leads : MayLead newer [thirdBuild, laterBuild] laterBuild := ⟨by simp, fun _ => by decide⟩
  obtain ⟨sorter, first⟩ := exists_sorter_of_mayLead leads
  refine ⟨sorter, ?_, ?_⟩
  · rw [resolveImage_of_name rfl rfl (by decide) (by decide), newestOf_eq_ok_iff, matching_builds]
    exact ⟨laterBuild, first, rfl⟩
  rintro ⟨image, member, named, given⟩
  simp only [append_nil, mem_cons, not_mem_nil, or_false] at member
  rcases member with rfl | rfl
  · exact absurd given (by decide)
  · exact absurd named (by decide)

end KarpenterIBM.ImageResolver
