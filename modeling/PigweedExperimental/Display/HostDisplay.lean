import PigweedExperimental.Display.PanelContents
import PigweedExperimental.Foundation.Updates
import PigweedExperimental.Framebuffer.ColorRGBA

namespace PigweedExperimental.HostDisplay

open DisplayDriver (FrameRelease)

/-! # The display on the host

`DisplayDriverImgUI` copies what it is given into the texture of a window. The texture
has a fixed size, and a framebuffer that is smaller leaves the rest of it as it was.
-/

def kDisplayWidth : Nat := 320

def kDisplayHeight : Nat := 240

def kDisplayDataSize : Nat := kDisplayWidth * kDisplayHeight

/-- `lcd_pixel_data`, each element by its four bytes. -/
abbrev Texture := Vector ColorRGBA kDisplayDataSize

/-- The texture's element for a column and a row. -/
def texel (texture : Texture) (place : Nat × Nat) : ColorRGBA :=
  texture.toArray.getD (place.2 * kDisplayWidth + place.1) ⟨0, 0, 0, 0⟩

/-- `none` beyond the end of the data. -/
def setTexturePixel (texture : Texture) (x y : Nat) (rgb565 : UInt16) : Option Texture :=
  if inData : y * kDisplayWidth + x < kDisplayDataSize then
    some (texture.set (y * kDisplayWidth + x) (.ofRgb565 rgb565))
  else
    none

/-- `FramebufferReader::GetPixel` -/
def getPixel (release : FrameRelease) (x y : Nat) : Except Status UInt16 :=
  if x < release.framebuffer.size.width.toNat ∧ y < release.framebuffer.size.height.toNat then
    .ok (release.fbdata (y * release.framebuffer.size.width.toNat + x))
  else
    .error .outOfRange

def copyPixel (release : FrameRelease) (x : Nat) (texture : Texture) (y : Nat) :
    Option Texture :=
  match getPixel release x y with
  | .ok c => setTexturePixel texture x y c
  | .error _ => some texture

/-- The loops of `WriteFramebuffer`, after its assertions. -/
def writeFramebuffer (texture : Texture) (release : FrameRelease) : Option Texture :=
  if release.framebuffer.isValid ∧ release.framebuffer.pixelFormat = .rgb565 then
    (List.range kDisplayWidth).foldlM (fun texture x =>
      (List.range kDisplayHeight).foldlM (copyPixel release x) texture) texture
  else
    none

/-- The loop of `WriteRow`, which counts the column up in 16 bits. -/
def writeRowFrom (rowIdx colIdx : UInt16) : (rowPixels : List UInt16) → Texture → Option Texture
  | [], texture => some texture
  | c :: rowPixels, texture => do
      let texture ← setTexturePixel texture colIdx.toNat rowIdx.toNat c
      writeRowFrom rowIdx (colIdx + 1) rowPixels texture

def writeRow (texture : Texture) (write : RowWrite) : Option Texture :=
  writeRowFrom write.rowIdx write.colIdx write.rowPixels texture

/-- `ReleaseFramebuffer`, up to the end of the write callback. -/
def present (display : Display) (texture : Texture) (release : FrameRelease) :
    Option Texture :=
  match display.releaseFramebuffer release.surroundings release.framebuffer with
  | .ok .rejected => some texture
  | .ok .writing => writeFramebuffer texture release
  | .ok (.resized ..) =>
      match NearestNeighbor.updateNearestNeighbor (release.resizeInput display) with
      | .ok (_, writes) => writes.foldlM writeRow texture
      | .error _ => none
  | .error _ => none

/-- The texture is what a memory of pixels says, place by place. -/
def Holds (texture : Texture) (memory : Nat × Nat → ColorRGBA) : Prop :=
  ∀ x < kDisplayWidth, ∀ y < kDisplayHeight, texel texture (x, y) = memory (x, y)

theorem setTexturePixel_makes {x y : Nat} (x_lt : x < kDisplayWidth) (y_lt : y < kDisplayHeight)
    (rgb565 : UInt16) :
    Makes Holds [((x, y), .ofRgb565 rgb565)] (setTexturePixel · x y rgb565) := by
  intro texture memory isHeld
  have inData : y * kDisplayWidth + x < kDisplayDataSize := by
    rw [kDisplayDataSize, Nat.mul_comm kDisplayWidth]
    exact rowMajor_lt y_lt x_lt
  refine ⟨_, dif_pos inData, ?_⟩
  intro x' x'_lt y' y'_lt
  have position_iff : y * kDisplayWidth + x = y' * kDisplayWidth + x' ↔ (x', y') = (x, y) := by
    rw [kDisplayWidth] at *
    rw [Prod.mk.injEq]
    omega
  rw [updateAll_cons, updateAll_nil, Function.update_apply, texel, Vector.toArray_set,
    Array.getD_eq_getD_getElem?, Array.getElem?_set]
  simp only [position_iff]
  split
  · rfl
  · rw [← isHeld x' x'_lt y' y'_lt, texel, Array.getD_eq_getD_getElem?]

/-- The pixels of a framebuffer that the texture has room for. -/
def columnUpdates (release : FrameRelease) (x : Nat) : List ((Nat × Nat) × ColorRGBA) :=
  (List.range kDisplayHeight).flatMap fun y =>
    match getPixel release x y with
    | .ok c => [((x, y), .ofRgb565 c)]
    | .error _ => []

theorem copyPixel_makes (release : FrameRelease) {x y : Nat} (x_lt : x < kDisplayWidth)
    (y_lt : y < kDisplayHeight) :
    Makes Holds (match getPixel release x y with
      | .ok c => [((x, y), .ofRgb565 c)]
      | .error _ => []) (copyPixel release x · y) := by
  simp only [copyPixel]
  cases getPixel release x y with
  | ok c => exact setTexturePixel_makes x_lt y_lt c
  | error => exact Makes.nothing

theorem writeFramebuffer_makes {release : FrameRelease} (valid : release.framebuffer.isValid)
    (format : release.framebuffer.pixelFormat = .rgb565) :
    Makes Holds ((List.range kDisplayWidth).flatMap (columnUpdates release))
      (writeFramebuffer · release) := by
  simp only [writeFramebuffer, if_pos (And.intro valid format)]
  apply Makes.foldlM
  intro x isColumn
  apply Makes.foldlM
  intro y isRow
  exact copyPixel_makes release (List.mem_range.mp isColumn) (List.mem_range.mp isRow)

/-- A row write that ends within the texture. -/
theorem writeRowFrom_makes {rowIdx colIdx : UInt16} {rowPixels : List UInt16}
    (row_lt : rowIdx.toNat < kDisplayHeight)
    (fits : colIdx.toNat + rowPixels.length ≤ kDisplayWidth) :
    Makes Holds (rowPixels.mapIdx fun offset value =>
      ((colIdx.toNat + offset, rowIdx.toNat), .ofRgb565 value))
      (writeRowFrom rowIdx colIdx rowPixels) := by
  induction rowPixels generalizing colIdx with
  | nil => exact Makes.nothing
  | cons c rowPixels induction =>
      rw [List.length_cons] at fits
      rw [kDisplayWidth] at fits
      have next : (colIdx + 1).toNat = colIdx.toNat + 1 := by
        rw [UInt16.toNat_add]
        exact Nat.mod_eq_of_lt (by simp; omega)
      have rest := @induction (colIdx + 1) (by rw [next, kDisplayWidth]; omega)
      rw [next] at rest
      have first := setTexturePixel_makes (x := colIdx.toNat) (by rw [kDisplayWidth]; omega)
        row_lt c
      rw [List.mapIdx_cons]
      have both := first.bind rest
      simp only [Nat.add_assoc, Nat.add_comm 1] at both
      exact both

def pixelUpdate (pixel : NearestNeighbor.DisplayPixel) : (Nat × Nat) × ColorRGBA :=
  ((pixel.column, pixel.row), .ofRgb565 pixel.value)

/-- The display is not larger than the texture. -/
def FitsTexture (size : Size UInt16) : Prop :=
  size.width.toNat ≤ kDisplayWidth ∧ size.height.toNat ≤ kDisplayHeight

theorem writeRow_makes {size : Size UInt16} {write : RowWrite} (fits : FitsTexture size)
    (within : NearestNeighbor.Within size write) :
    Makes Holds ((NearestNeighbor.covered write).map pixelUpdate) (writeRow · write) := by
  have made := @writeRowFrom_makes write.rowIdx write.colIdx write.rowPixels
    (Nat.lt_of_lt_of_le within.1 fits.2) (within.2.2.trans fits.1)
  have sameUpdates : (NearestNeighbor.covered write).map pixelUpdate =
      write.rowPixels.mapIdx fun offset value =>
        ((write.colIdx.toNat + offset, write.rowIdx.toNat), .ofRgb565 value) := by
    apply List.ext_getElem
    · simp [NearestNeighbor.covered]
    · simp [NearestNeighbor.covered, pixelUpdate]
  rw [sameUpdates]
  exact made

section Present

variable {display : Display} {release : FrameRelease}

/-- A framebuffer that the reader accepts or, if it is resized, one that the resize can
compute for a display of at most the texture's size. -/
structure Presentable (display : Display) (release : FrameRelease) : Prop where
  valid : release.framebuffer.isValid
  resized : display.resizesInSoftware release.framebuffer →
    FitsTexture display.size ∧ NearestNeighbor.Computable (release.resizeInput display)
  sent : display.resizesInSoftware release.framebuffer = false →
    release.framebuffer.pixelFormat = .rgb565

/-- What a release changes. -/
def updates (display : Display) (release : FrameRelease) : List ((Nat × Nat) × ColorRGBA) :=
  if display.resizesInSoftware release.framebuffer then
    (NearestNeighbor.displayPixels (release.resizeInput display)
      display.size.height.toNat).map pixelUpdate
  else
    (List.range kDisplayWidth).flatMap (columnUpdates release)

theorem present_sent (presentable : Presentable display release)
    (byDriver : display.resizesInSoftware release.framebuffer = false) :
    (present display · release) = (writeFramebuffer · release) := by
  funext texture
  rw [present, Display.releaseFramebuffer_writing presentable.valid byDriver]

theorem present_resized (presentable : Presentable display release)
    (bySoftware : display.resizesInSoftware release.framebuffer) :
    (present display · release) = (NearestNeighbor.allWrites (release.resizeInput display)
      display.size.height.toNat).foldlM writeRow := by
  have computable := (presentable.resized bySoftware).2
  have updated : NearestNeighbor.updateNearestNeighbor (release.resizeInput display) =
      .ok (.ok, NearestNeighbor.allWrites (release.resizeInput display)
        display.size.height.toNat) :=
    DisplayDriver.updateNearestNeighbor_accepted presentable.valid computable fun _ => rfl
  have released : display.releaseFramebuffer release.surroundings release.framebuffer =
      .ok (.resized .ok (display.framebufferPool.releaseFramebuffer release.framebuffer).2) := by
    rw [Display.releaseFramebuffer_resized presentable.valid bySoftware]
    change (NearestNeighbor.updateNearestNeighbor (release.resizeInput display)).bind _ = _
    rw [updated]
    rfl
  funext texture
  rw [present, released]
  dsimp only
  rw [updated]

theorem present_makes (presentable : Presentable display release) :
    Makes Holds (updates display release) (present display · release) := by
  rw [updates]
  split
  · rename_i bySoftware
    rcases presentable.resized bySoftware with ⟨fits, computable⟩
    rw [present_resized presentable bySoftware]
    have pixels := (NearestNeighbor.allWrites_rowMajor (release.resizeInput display)).pixels
    change List.flatMap _ (NearestNeighbor.allWrites _ display.size.height.toNat) =
      NearestNeighbor.displayPixels _ display.size.height.toNat at pixels
    rw [← pixels, List.map_flatMap]
    apply Makes.foldlM
    intro write isWrite
    have updated := DisplayDriver.updateNearestNeighbor_accepted presentable.valid computable
      fun _ => rfl
    exact writeRow_makes fits (NearestNeighbor.updateNearestNeighbor_within updated write isWrite)
  · rename_i byDriver
    rw [Bool.not_eq_true] at byDriver
    rw [present_sent presentable byDriver]
    exact writeFramebuffer_makes presentable.valid (presentable.sent byDriver)

/-- The places at which a released framebuffer appears. -/
def Appears (display : Display) (x y : Nat) (release : FrameRelease) : Prop :=
  x < (release.shownSize display).width.toNat ∧ y < (release.shownSize display).height.toNat

instance (display : Display) (x y : Nat) (release : FrameRelease) :
    Decidable (Appears display x y release) :=
  inferInstanceAs (Decidable (_ ∧ _))

/-- The pixel that appears there. Without resizing it is the one that the application
has drawn at the place. -/
def pixelAt (display : Display) (release : FrameRelease) (x y : Nat) : UInt16 :=
  if display.resizesInSoftware release.framebuffer then
    NearestNeighbor.shown (release.resizeInput display) y x
  else
    release.fbdata (y * release.framebuffer.size.width.toNat + x)

theorem mem_updates {update : (Nat × Nat) × ColorRGBA}
    (isUpdate : update ∈ updates display release) :
    ∃ x y, Appears display x y release ∧
      update = ((x, y), .ofRgb565 (pixelAt display release x y)) := by
  rw [updates] at isUpdate
  simp only [Appears, FrameRelease.shownSize, pixelAt]
  split at isUpdate
  case isTrue bySoftware =>
    rcases List.mem_map.mp isUpdate with ⟨pixel, isPixel, rfl⟩
    rcases DisplayDriver.mem_displayPixels.mp isPixel with ⟨row, row_lt, column, column_lt, rfl⟩
    simp only [if_pos bySoftware]
    exact ⟨column, row, ⟨column_lt, row_lt⟩, rfl⟩
  case isFalse byDriver =>
    rw [List.mem_flatMap] at isUpdate
    rcases isUpdate with ⟨x, _, isUpdate⟩
    rw [columnUpdates, List.mem_flatMap] at isUpdate
    rcases isUpdate with ⟨y, _, isUpdate⟩
    simp only [getPixel] at isUpdate
    simp only [if_neg byDriver]
    by_cases inside : x < release.framebuffer.size.width.toNat ∧
        y < release.framebuffer.size.height.toNat
    · rw [if_pos inside] at isUpdate
      exact ⟨x, y, inside, List.mem_singleton.mp isUpdate⟩
    · rw [if_neg inside] at isUpdate
      cases isUpdate

theorem updates_mem {x y : Nat} (x_lt : x < kDisplayWidth) (y_lt : y < kDisplayHeight)
    (appears : Appears display x y release) :
    ((x, y), .ofRgb565 (pixelAt display release x y)) ∈ updates display release := by
  rw [updates]
  simp only [Appears, FrameRelease.shownSize] at appears
  simp only [pixelAt]
  split
  case isTrue bySoftware =>
    simp only [if_pos bySoftware] at appears
    rw [List.mem_map]
    exact ⟨_, DisplayDriver.mem_displayPixels.mpr ⟨y, appears.2, x, appears.1, rfl⟩, rfl⟩
  case isFalse byDriver =>
    simp only [if_neg byDriver] at appears
    rw [List.mem_flatMap]
    refine ⟨x, List.mem_range.mpr x_lt, ?_⟩
    rw [columnUpdates, List.mem_flatMap]
    refine ⟨y, List.mem_range.mpr y_lt, ?_⟩
    simp only [getPixel, if_pos appears, List.mem_singleton]

theorem updates_place (memory : Nat × Nat → ColorRGBA) {x y : Nat} (x_lt : x < kDisplayWidth)
    (y_lt : y < kDisplayHeight) :
    updateAll memory (updates display release) (x, y) =
      if Appears display x y release then
        .ofRgb565 (pixelAt display release x y)
      else
        memory (x, y) := by
  split
  case isTrue appears =>
    apply updateAll_of_mem
    · exact ⟨_, updates_mem x_lt y_lt appears, rfl⟩
    · intro update isUpdate same
      rcases mem_updates isUpdate with ⟨x', y', _, rfl⟩
      cases same
      rfl
  case isFalse apart =>
    apply updateAll_elsewhere
    intro update isUpdate same
    rcases mem_updates isUpdate with ⟨x', y', appears, rfl⟩
    cases same
    exact apart appears

end Present

def host (display : Display) : Machine Texture FrameRelease where
  Enabled _ release := Presentable display release
  step := present display

/-- The framebuffer that was released last of those that appear at a place. -/
def latestAt (display : Display) (releases : List FrameRelease) (x y : Nat) :
    Option FrameRelease :=
  (releases.filter fun release => Appears display x y release).getLast?

theorem updates_latestAt (display : Display) (memory : Nat × Nat → ColorRGBA)
    (releases : List FrameRelease) {x y : Nat} (x_lt : x < kDisplayWidth)
    (y_lt : y < kDisplayHeight) :
    releases.foldl (fun memory release => updateAll memory (updates display release)) memory
        (x, y) =
      match latestAt display releases x y with
      | some release => .ofRgb565 (pixelAt display release x y)
      | none => memory (x, y) := by
  induction releases using List.reverseRecOn with
  | nil => rfl
  | append_singleton releases release induction =>
      rw [List.foldl_append, List.foldl_cons, List.foldl_nil, updates_place _ x_lt y_lt,
        latestAt, List.filter_append, List.filter_singleton]
      split
      case isTrue appears => simp [appears]
      case isFalse apart =>
        simp only [apart, decide_false, cond_false, List.append_nil]
        exact induction

/-- Whatever framebuffers that can be presented are released one after another, the
texture has at each place the colour of the last one that appears there, and is unchanged
where none does. From the colour the framebuffer's pixel can be read back. -/
theorem releases_appear {display : Display} {releases : List FrameRelease}
    (presentable : ∀ release ∈ releases, Presentable display release) (texture : Texture) :
    ∃ last, (host display).Run texture releases last ∧
      ∀ x < kDisplayWidth, ∀ y < kDisplayHeight,
        match latestAt display releases x y with
        | some release =>
            texel last (x, y) = .ofRgb565 (pixelAt display release x y) ∧
              (texel last (x, y)).toRgb565 = pixelAt display release x y
        | none => texel last (x, y) = texel texture (x, y) := by
  have ran := @Machine.Run.exists_of_progress _ _ (host display) texture releases _ Holds
    (fun memory release => updateAll memory (updates display release)) (Presentable display)
    (fun texture memory release isHeld isPresentable =>
      ⟨isPresentable, present_makes isPresentable texture memory isHeld⟩)
    (texel texture) (fun _ _ _ _ => rfl) presentable
  rcases ran with ⟨last, run, isHeld⟩
  refine ⟨last, run, ?_⟩
  intro x x_lt y y_lt
  have isTexel := isHeld x x_lt y y_lt
  rw [updates_latestAt display _ releases x_lt y_lt] at isTexel
  split
  · rename_i release isLatest
    rw [isLatest] at isTexel
    exact ⟨isTexel, by rw [isTexel, ColorRGBA.toRgb565_ofRgb565]⟩
  · rename_i none
    rw [none] at isTexel
    exact isTexel

open DisplayDriver (smallDisplay smallRelease smallRelease_computable)

theorem smallReleases_presentable :
    ∀ release ∈ [smallRelease ⟨4, 2⟩ 1, smallRelease ⟨3, 3⟩ 9],
      Presentable (smallDisplay ⟨4, 2⟩) release := by
  intro release isRelease
  simp only [List.mem_cons, List.not_mem_nil, or_false] at isRelease
  rcases isRelease with rfl | rfl
  · exact ⟨rfl, fun bySoftware => absurd bySoftware Bool.false_ne_true, fun _ => rfl⟩
  · refine ⟨rfl, fun _ => ⟨?_, smallRelease_computable 9⟩, fun _ => rfl⟩
    rw [FitsTexture]
    decide

/-- Of two small frames the second one, resized, is seen; beside it is nothing. -/
theorem releases_appear_small :
    ∃ last, (host (smallDisplay ⟨4, 2⟩)).Run (Vector.replicate kDisplayDataSize ⟨0, 0, 0, 0⟩)
      [smallRelease ⟨4, 2⟩ 1, smallRelease ⟨3, 3⟩ 9] last ∧
      texel last (3, 1) = .ofRgb565 17 ∧
      texel last (4, 0) =
        texel (Vector.replicate kDisplayDataSize ⟨0, 0, 0, 0⟩) (4, 0) := by
  rcases releases_appear smallReleases_presentable
    (Vector.replicate kDisplayDataSize ⟨0, 0, 0, 0⟩) with ⟨last, run, shown⟩
  have inside := shown 3 (by decide) 1 (by decide)
  have beside := shown 4 (by decide) 0 (by decide)
  have isLatest : latestAt (smallDisplay ⟨4, 2⟩)
      [smallRelease ⟨4, 2⟩ 1, smallRelease ⟨3, 3⟩ 9] 3 1 = some (smallRelease ⟨3, 3⟩ 9) := rfl
  have isNone : latestAt (smallDisplay ⟨4, 2⟩)
      [smallRelease ⟨4, 2⟩ 1, smallRelease ⟨3, 3⟩ 9] 4 0 = none := rfl
  rw [isLatest] at inside
  rw [isNone] at beside
  exact ⟨last, run, inside.1, beside⟩

end PigweedExperimental.HostDisplay
