import Minigbm.Drv.Defs

/-!
Per-format plane geometry and the generic plane packing of drv_helpers.c, which the xe
backend calls for DRM_FORMAT_YVU420_ANDROID and reimplements for the other formats.
drv_helpers.c and drv_priv.h are not under src/: the planar layouts, the stride and
height helpers and drv_bo_from_format are modelled from the spec's account of them (a
lookup table of each format's subsampling, planes packed contiguously), with the uint32
arithmetic of their signatures. `packPlanes` is the plane loop that drv_bo_from_format
and xe_bo_from_format share.
-/

namespace Minigbm

/-- Modelled from the spec: struct planar_layout of drv_helpers.c, the subsampling and
bytes per pixel of each plane of a format. -/
structure PlanarLayout where
  numPlanes : Nat
  horizontalSubsampling : List Nat
  verticalSubsampling : List Nat
  bytesPerPixel : List Nat
  deriving DecidableEq, Repr

def packed1bpp : PlanarLayout := ⟨1, [1], [1], [1]⟩
def packed2bpp : PlanarLayout := ⟨1, [1], [1], [2]⟩
def packed3bpp : PlanarLayout := ⟨1, [1], [1], [3]⟩
def packed4bpp : PlanarLayout := ⟨1, [1], [1], [4]⟩
def packed8bpp : PlanarLayout := ⟨1, [1], [1], [8]⟩
def biplanarYuv420 : PlanarLayout := ⟨2, [1, 2], [1, 2], [1, 2]⟩
def biplanarYuvP010 : PlanarLayout := ⟨2, [1, 2], [1, 2], [2, 4]⟩
def triplanarYuv420 : PlanarLayout := ⟨3, [1, 2, 2], [1, 2, 2], [1, 1, 1]⟩

/-- Modelled from the spec: layout_from_format of drv_helpers.c for the formats the xe
backend registers, and P016; any other format has no layout (NULL). -/
def layoutFromFormat (format : UInt32) : Option PlanarLayout :=
  if format = drmFormatR8 then some packed1bpp
  else if format = drmFormatRgb565 then some packed2bpp
  else if format = drmFormatBgr888 then some packed3bpp
  else if format ∈ [drmFormatAbgr2101010, drmFormatAbgr8888, drmFormatArgb2101010,
      drmFormatArgb8888, drmFormatXbgr2101010, drmFormatXbgr8888, drmFormatXrgb2101010,
      drmFormatXrgb8888] then some packed4bpp
  else if format = drmFormatAbgr16161616f then some packed8bpp
  else if format = drmFormatNv12 then some biplanarYuv420
  else if format = drmFormatP010 ∨ format = drmFormatP016 then some biplanarYuvP010
  else if format = drmFormatYvu420 ∨ format = drmFormatYvu420Android then some triplanarYuv420
  else none

/-- Modelled from the spec: drv_num_planes_from_format, 0 for a format with no layout. -/
def drvNumPlanesFromFormat (format : UInt32) : Nat :=
  match layoutFromFormat format with
  | some layout => layout.numPlanes
  | none => 0

/-- Modelled from the spec: drv_stride_from_format, the plane's width in subsampled pixels
times its bytes per pixel; Android's YV12 wants a 32-byte luma and 16-byte chroma stride. -/
def drvStrideFromFormat (format : UInt32) (width plane : Nat) : Checked Nat :=
  match layoutFromFormat format with
  | none => pure 0
  | some layout => do
    let planeWidth ← divRoundUp width (layout.horizontalSubsampling.getD plane 1)
    let stride ← uint 32 (planeWidth * layout.bytesPerPixel.getD plane 0)
    if format = drmFormatYvu420Android then
      if plane = 0 then align 32 stride 32 else align 32 stride 16
    else pure stride

/-- Modelled from the spec: drv_height_from_format, the height divided by the plane's
vertical subsampling, rounded up. drv_helpers.c dereferences the NULL layout of an unknown
format here; the model divides by 1. -/
def drvHeightFromFormat (format : UInt32) (height plane : Nat) : Checked Nat :=
  match layoutFromFormat format with
  | some layout => divRoundUp height (layout.verticalSubsampling.getD plane 1)
  | none => divRoundUp height 1

/-- Modelled from the spec: drv_size_from_format, the stride times the plane's height. -/
def drvSizeFromFormat (format : UInt32) (stride height plane : Nat) : Checked Nat := do
  let planeHeight ← drvHeightFromFormat format height plane
  uint 32 (stride * planeHeight)

/-- Modelled from the spec: subsample_stride of drv_helpers.c. The chroma planes of the
YV12 formats take half the luma stride, rounded up and aligned to `strideAlign`. -/
def subsampleStride (stride strideAlign : Nat) (format : UInt32) (plane : Nat) : Checked Nat :=
  if plane ≠ 0 ∧ (format = drmFormatYvu420 ∨ format = drmFormatYvu420Android) then do
    let half ← divRoundUp stride 2
    align 32 half strideAlign
  else pure stride

/-- struct bo_metadata of drv_priv.h (not under src/), with the fields the xe backend reads
or writes. The per-plane arrays are functions of the plane index. -/
structure BoMetadata where
  tiling : Nat
  numPlanes : Nat
  offsets : Nat → Nat
  sizes : Nat → Nat
  strides : Nat → Nat
  formatModifier : UInt64
  useFlags : UInt64
  totalSize : Nat

/-- Writing `strides[plane]`, `sizes[plane]` and `offsets[plane]`. -/
def BoMetadata.setPlane (meta : BoMetadata) (plane stride size offset : Nat) : BoMetadata :=
  { meta with
    strides := fun k => if k = plane then stride else meta.strides k
    sizes := fun k => if k = plane then size else meta.sizes k
    offsets := fun k => if k = plane then offset else meta.offsets k }

/-- Planes `0 .. n-1` of a layout lie one after another and end by `limit`. -/
structure PlanesPacked (meta : BoMetadata) (n limit : Nat) : Prop where
  within : ∀ k < n, meta.offsets k + meta.sizes k ≤ limit
  ordered : ∀ j k, j < k → k < n → meta.offsets j + meta.sizes j ≤ meta.offsets k

/-- The plane loop of drv_bo_from_format and xe_bo_from_format, from plane `plane` on with
`n` planes to go: `check` is what the loop asserts about the running offset on entry to a
plane, `planeLayout` gives the plane's stride and size. Returns the final offset. -/
def packPlanes (check : Nat → Checked Unit) (planeLayout : Nat → Checked (Nat × Nat)) :
    Nat → Nat → Nat → BoMetadata → Checked (Nat × BoMetadata)
  | _, 0, offset, meta => pure (offset, meta)
  | plane, n + 1, offset, meta => do
    check offset
    let layout ← planeLayout plane
    let next ← uint 32 (offset + layout.2)
    packPlanes check planeLayout (plane + 1) n next (meta.setPlane plane layout.1 layout.2 offset)

/-- Modelled from the spec: drv_bo_from_format, the generic per-plane path with every
plane `alignedHeight` rows of its format; total_size is the packed size. It returns 0. -/
def drvBoFromFormat (meta : BoMetadata) (stride strideAlign alignedHeight : Nat)
    (format : UInt32) : Checked BoMetadata := do
  let packed ← packPlanes (fun _ => pure ())
    (fun plane => do
      let planeStride ← subsampleStride stride strideAlign format plane
      let size ← drvSizeFromFormat format planeStride alignedHeight plane
      pure (planeStride, size))
    0 (drvNumPlanesFromFormat format) 0 meta
  pure { packed.2 with totalSize := packed.1 }

@[simp] theorem setPlane_tiling (meta : BoMetadata) (plane stride size offset : Nat) :
    (meta.setPlane plane stride size offset).tiling = meta.tiling := rfl
@[simp] theorem setPlane_numPlanes (meta : BoMetadata) (plane stride size offset : Nat) :
    (meta.setPlane plane stride size offset).numPlanes = meta.numPlanes := rfl
@[simp] theorem setPlane_formatModifier (meta : BoMetadata) (plane stride size offset : Nat) :
    (meta.setPlane plane stride size offset).formatModifier = meta.formatModifier := rfl
@[simp] theorem setPlane_useFlags (meta : BoMetadata) (plane stride size offset : Nat) :
    (meta.setPlane plane stride size offset).useFlags = meta.useFlags := rfl
@[simp] theorem setPlane_totalSize (meta : BoMetadata) (plane stride size offset : Nat) :
    (meta.setPlane plane stride size offset).totalSize = meta.totalSize := rfl
@[simp] theorem setPlane_strides (meta : BoMetadata) (plane stride size offset k : Nat) :
    (meta.setPlane plane stride size offset).strides k =
      if k = plane then stride else meta.strides k := rfl
@[simp] theorem setPlane_sizes (meta : BoMetadata) (plane stride size offset k : Nat) :
    (meta.setPlane plane stride size offset).sizes k =
      if k = plane then size else meta.sizes k := rfl
@[simp] theorem setPlane_offsets (meta : BoMetadata) (plane stride size offset k : Nat) :
    (meta.setPlane plane stride size offset).offsets k =
      if k = plane then offset else meta.offsets k := rfl

/-! The plane loop writes the plane arrays and nothing else. -/

section Packing
variable (check : Nat → Checked Unit) (planeLayout : Nat → Checked (Nat × Nat))

/-- The bytes of the `n` planes from `plane` on, as `planeLayout` sizes them. -/
def sizeSum (plane : Nat) : Nat → Nat
  | 0 => 0
  | n + 1 => (planeLayout plane).value.2 + sizeSum (plane + 1) n

theorem packPlanes_fields (plane n offset : Nat) (meta : BoMetadata) :
    let packed := (packPlanes check planeLayout plane n offset meta).value.2
    packed.tiling = meta.tiling ∧ packed.numPlanes = meta.numPlanes ∧
      packed.formatModifier = meta.formatModifier ∧ packed.useFlags = meta.useFlags ∧
      packed.totalSize = meta.totalSize := by
  induction n generalizing plane offset meta with
  | zero => simp [packPlanes]
  | succ n ih => simpa [packPlanes] using ih (plane + 1) _ _

theorem packPlanes_strides (plane n offset : Nat) (meta : BoMetadata) (k : Nat) :
    (packPlanes check planeLayout plane n offset meta).value.2.strides k =
      if plane ≤ k ∧ k < plane + n then (planeLayout k).value.1 else meta.strides k := by
  induction n generalizing plane offset meta with
  | zero => rw [if_neg (by omega)]; rfl
  | succ n ih =>
    simp only [packPlanes, Checked.value_bind, ih, setPlane_strides]
    by_cases at_plane : k = plane
    · subst at_plane
      rw [if_neg (by omega), if_pos rfl, if_pos (by omega)]
    · by_cases inside : plane + 1 ≤ k ∧ k < plane + 1 + n
      · rw [if_pos inside, if_pos (by omega)]
      · rw [if_neg inside, if_neg at_plane, if_neg (by omega)]

theorem packPlanes_sizes (plane n offset : Nat) (meta : BoMetadata) (k : Nat) :
    (packPlanes check planeLayout plane n offset meta).value.2.sizes k =
      if plane ≤ k ∧ k < plane + n then (planeLayout k).value.2 else meta.sizes k := by
  induction n generalizing plane offset meta with
  | zero => rw [if_neg (by omega)]; rfl
  | succ n ih =>
    simp only [packPlanes, Checked.value_bind, ih, setPlane_sizes]
    by_cases at_plane : k = plane
    · subst at_plane
      rw [if_neg (by omega), if_pos rfl, if_pos (by omega)]
    · by_cases inside : plane + 1 ≤ k ∧ k < plane + 1 + n
      · rw [if_pos inside, if_pos (by omega)]
      · rw [if_neg inside, if_neg at_plane, if_neg (by omega)]

theorem packPlanes_offsets (plane n offset : Nat) (meta : BoMetadata) (fits : offset < 2 ^ 32) :
    (packPlanes check planeLayout plane n offset meta).value.1 =
        (offset + sizeSum planeLayout plane n) % 2 ^ 32 ∧
      ∀ k, (packPlanes check planeLayout plane n offset meta).value.2.offsets k =
        if plane ≤ k ∧ k < plane + n then (offset + sizeSum planeLayout plane (k - plane)) % 2 ^ 32
        else meta.offsets k := by
  induction n generalizing plane offset meta with
  | zero =>
    refine ⟨(Nat.mod_eq_of_lt fits).symm, fun k => ?_⟩
    rw [if_neg (by omega)]
    rfl
  | succ n ih =>
    obtain ⟨final, offsets⟩ := ih (plane + 1) ((offset + (planeLayout plane).value.2) % 2 ^ 32)
      (meta.setPlane plane (planeLayout plane).value.1 (planeLayout plane).value.2 offset)
      (Nat.mod_lt _ (Nat.two_pow_pos 32))
    simp only [packPlanes, Checked.value_bind, value_uint]
    refine ⟨by rw [final, sizeSum, Nat.mod_add_mod, Nat.add_assoc], fun k => ?_⟩
    rw [offsets k, setPlane_offsets]
    by_cases at_plane : k = plane
    · subst at_plane
      rw [if_neg (by omega), if_pos rfl, if_pos (by omega), Nat.sub_self, sizeSum, Nat.add_zero,
        Nat.mod_eq_of_lt fits]
    · by_cases inside : plane + 1 ≤ k ∧ k < plane + 1 + n
      · rw [if_pos inside, if_pos (by omega), show k - plane = k - (plane + 1) + 1 by omega,
          sizeSum, Nat.mod_add_mod, Nat.add_assoc]
      · rw [if_neg inside, if_neg at_plane, if_neg (by omega)]

theorem packPlanes_noWrap (plane n offset : Nat) (meta : BoMetadata) (fits : offset < 2 ^ 32)
    (exact : (packPlanes check planeLayout plane n offset meta).noWrap = true) :
    (∀ i < n, (planeLayout (plane + i)).noWrap = true) ∧
      ∀ i ≤ n, offset + sizeSum planeLayout plane i < 2 ^ 32 := by
  induction n generalizing plane offset meta with
  | zero => exact ⟨fun _ none => absurd none (Nat.not_lt_zero _), fun i zero => by
      simpa [Nat.le_zero.mp zero, sizeSum] using fits⟩
  | succ n ih =>
    simp only [packPlanes, Checked.noWrap_bind, Checked.value_bind, noWrap_uint,
      Bool.and_eq_true, decide_eq_true_eq] at exact
    obtain ⟨-, layoutExact, next, restExact⟩ := exact
    rw [value_uint, Nat.mod_eq_of_lt next] at restExact
    obtain ⟨layouts, sums⟩ := ih (plane + 1) _ _ next restExact
    refine ⟨fun i below => ?_, fun i upTo => ?_⟩
    · cases i with
      | zero => simpa using layoutExact
      | succ i => simpa [Nat.add_assoc, Nat.add_comm 1] using layouts i (by omega)
    · cases i with
      | zero => simpa [sizeSum] using fits
      | succ i => rw [sizeSum, ← Nat.add_assoc]; exact sums i (by omega)

theorem sizeSum_succ (plane n : Nat) :
    sizeSum planeLayout plane (n + 1) =
      sizeSum planeLayout plane n + (planeLayout (plane + n)).value.2 := by
  induction n generalizing plane with
  | zero => simp [sizeSum]
  | succ n ih =>
    rw [sizeSum, ih, sizeSum, show plane + 1 + n = plane + (n + 1) by omega, Nat.add_assoc]

theorem sizeSum_mono (plane : Nat) {i j : Nat} (le : i ≤ j) :
    sizeSum planeLayout plane i ≤ sizeSum planeLayout plane j := by
  induction le with
  | refl => exact Nat.le_refl _
  | step _ ih => rw [sizeSum_succ]; exact Nat.le_add_right_of_le ih

theorem packPlanes_packed (n : Nat) (meta : BoMetadata)
    (exact : (packPlanes check planeLayout 0 n 0 meta).noWrap = true) :
    let packed := (packPlanes check planeLayout 0 n 0 meta).value
    packed.1 = sizeSum planeLayout 0 n ∧ PlanesPacked packed.2 n packed.1 ∧
      ∀ k < n, (planeLayout k).noWrap = true ∧ packed.2.strides k = (planeLayout k).value.1 ∧
        packed.2.sizes k = (planeLayout k).value.2 := by
  intro packed
  obtain ⟨layouts, sums⟩ := packPlanes_noWrap check planeLayout 0 n 0 meta (by decide) exact
  obtain ⟨final, offsets⟩ := packPlanes_offsets check planeLayout 0 n 0 meta (by decide)
  have total : packed.1 = sizeSum planeLayout 0 n := by
    rw [final, Nat.zero_add, Nat.mod_eq_of_lt (by simpa using sums n (Nat.le_refl n))]
  have sizes : ∀ k < n, packed.2.sizes k = (planeLayout k).value.2 := fun k below => by
    rw [packPlanes_sizes, if_pos ⟨Nat.zero_le k, by omega⟩]
  -- plane k ends where the first k + 1 planes end
  have ends : ∀ k < n, packed.2.offsets k + packed.2.sizes k = sizeSum planeLayout 0 (k + 1) :=
    fun k below => by
      rw [offsets k, if_pos ⟨Nat.zero_le k, by omega⟩, Nat.zero_add, Nat.sub_zero,
        Nat.mod_eq_of_lt (by simpa using sums k (by omega)), sizes k below, sizeSum_succ,
        Nat.zero_add]
  refine ⟨total, ⟨fun k below => ?_, fun j k before below => ?_⟩, fun k below =>
    ⟨by simpa using layouts k below, by rw [packPlanes_strides, if_pos ⟨Nat.zero_le k, by omega⟩],
      sizes k below⟩⟩
  · rw [ends k below, total]
    exact sizeSum_mono planeLayout 0 below
  · rw [ends j (by omega), offsets k, if_pos ⟨Nat.zero_le k, by omega⟩, Nat.zero_add, Nat.sub_zero,
      Nat.mod_eq_of_lt (by simpa using sums k (by omega))]
    exact sizeSum_mono planeLayout 0 before

theorem sizeSum_dvd {d : Nat} (sizes : ∀ k, d ∣ (planeLayout k).value.2) (plane n : Nat) :
    d ∣ sizeSum planeLayout plane n := by
  induction n generalizing plane with
  | zero => exact Nat.dvd_zero d
  | succ n ih => exact Nat.dvd_add (sizes plane) (ih (plane + 1))

/-! With every plane size a multiple of some `d` dividing 2^32, the running offset stays a
multiple of `d` through the uint32 wraps. -/

theorem packPlanes_offsets_dvd {d : Nat} (divides : d ∣ 2 ^ 32)
    (sizes : ∀ k, d ∣ (planeLayout k).value.2) (n : Nat) (meta : BoMetadata) :
    ∀ k < n, d ∣ (packPlanes check planeLayout 0 n 0 meta).value.2.offsets k := by
  intro k below
  rw [(packPlanes_offsets check planeLayout 0 n 0 meta (by decide)).2 k,
    if_pos ⟨Nat.zero_le k, by omega⟩, Nat.dvd_mod_iff divides]
  exact Nat.dvd_add (Nat.dvd_zero d) (sizeSum_dvd planeLayout sizes 0 _)

theorem packPlanes_assertsHold {d : Nat} (divides : d ∣ 2 ^ 32)
    (sizes : ∀ k, d ∣ (planeLayout k).value.2)
    (checks : ∀ offset, d ∣ offset → (check offset).assertsHold = true)
    (layouts : ∀ k, (planeLayout k).assertsHold = true) (plane n offset : Nat)
    (meta : BoMetadata) (aligned : d ∣ offset) :
    (packPlanes check planeLayout plane n offset meta).assertsHold = true := by
  induction n generalizing plane offset meta with
  | zero => rfl
  | succ n ih =>
    simp only [packPlanes, Checked.assertsHold_bind_eq_true, Checked.value_bind, value_uint,
      assertsHold_uint, true_and]
    exact ⟨checks offset aligned, layouts plane,
      ih _ _ _ ((Nat.dvd_mod_iff divides).mpr (Nat.dvd_add aligned (sizes plane)))⟩

end Packing

/-! What an image needs, in exact arithmetic, against what the helpers compute. -/

/-- The bytes of one row of plane `plane` of a `width`-pixel image: its subsampled width
times its bytes per pixel. -/
def planeRowBytes (format : UInt32) (width plane : Nat) : Nat :=
  match layoutFromFormat format with
  | none => 0
  | some layout =>
    (width + layout.horizontalSubsampling.getD plane 1 - 1) /
      layout.horizontalSubsampling.getD plane 1 * layout.bytesPerPixel.getD plane 0

/-- The rows of plane `plane` of a `height`-row image. -/
def planeRows (format : UInt32) (height plane : Nat) : Nat :=
  match layoutFromFormat format with
  | none => height
  | some layout =>
    (height + layout.verticalSubsampling.getD plane 1 - 1) / layout.verticalSubsampling.getD plane 1

section Geometry
variable {format : UInt32} {width height plane : Nat}

@[simp] theorem drvStrideFromFormat_assertsHold :
    (drvStrideFromFormat format width plane).assertsHold = true := by
  unfold drvStrideFromFormat
  split
  · rfl
  · simp only [Checked.assertsHold_bind, assertsHold_divRoundUp, assertsHold_uint,
      Bool.true_and]
    split_ifs <;> rfl

@[simp] theorem drvHeightFromFormat_assertsHold :
    (drvHeightFromFormat format height plane).assertsHold = true := by
  unfold drvHeightFromFormat
  split <;> rfl

@[simp] theorem drvStrideFromFormat_defined :
    (drvStrideFromFormat format width plane).defined = true := by
  unfold drvStrideFromFormat
  split
  · rfl
  · simp only [Checked.defined_bind, defined_divRoundUp, defined_uint, Bool.true_and]
    split_ifs <;> rfl

@[simp] theorem drvHeightFromFormat_defined :
    (drvHeightFromFormat format height plane).defined = true := by
  unfold drvHeightFromFormat
  split <;> rfl

theorem drvStrideFromFormat_ge (exact : (drvStrideFromFormat format width plane).noWrap = true) :
    planeRowBytes format width plane ≤ (drvStrideFromFormat format width plane).value := by
  unfold drvStrideFromFormat planeRowBytes at *
  rcases found : layoutFromFormat format with _ | layout <;> simp only [found] at exact ⊢
  · exact Nat.zero_le _
  simp only [Checked.noWrap_bind, Checked.value_bind, Bool.and_eq_true] at exact ⊢
  obtain ⟨rounded, stored, aligned⟩ := exact
  rw [uint_exact stored, divRoundUp_exact rounded] at *
  split_ifs at aligned ⊢
  · exact (align_exact (by decide) aligned).1
  · exact (align_exact (by decide) aligned).1
  · exact le_refl _

theorem drvHeightFromFormat_exact (exact : (drvHeightFromFormat format height plane).noWrap = true) :
    (drvHeightFromFormat format height plane).value = planeRows format height plane := by
  unfold drvHeightFromFormat planeRows at *
  rcases found : layoutFromFormat format with _ | layout <;> simp only [found] at exact ⊢
  · rw [divRoundUp_exact exact, Nat.add_sub_cancel, Nat.div_one]
  · exact divRoundUp_exact exact

theorem drvSizeFromFormat_exact {stride : Nat}
    (exact : (drvSizeFromFormat format stride height plane).noWrap = true) :
    (drvSizeFromFormat format stride height plane).value = stride * planeRows format height plane := by
  unfold drvSizeFromFormat at exact ⊢
  simp only [Checked.noWrap_bind, Checked.value_bind, Bool.and_eq_true] at exact ⊢
  rw [uint_exact exact.2, drvHeightFromFormat_exact exact.1]

theorem layoutFromFormat_yvu420Android :
    layoutFromFormat drmFormatYvu420Android = some triplanarYuv420 := rfl

theorem subsampleStride_yvu420Android_ge {stride : Nat} (wide : width ≤ stride)
    (exact : (subsampleStride stride 1 drmFormatYvu420Android plane).noWrap = true) :
    planeRowBytes drmFormatYvu420Android width plane ≤
      (subsampleStride stride 1 drmFormatYvu420Android plane).value := by
  unfold subsampleStride at exact ⊢
  rcases plane with _ | plane
  · simpa [planeRowBytes, layoutFromFormat_yvu420Android, triplanarYuv420] using wide
  have chroma : plane + 1 ≠ 0 ∧ (drmFormatYvu420Android = drmFormatYvu420 ∨
      drmFormatYvu420Android = drmFormatYvu420Android) := ⟨by omega, .inr rfl⟩
  rw [if_pos chroma] at exact ⊢
  simp only [Checked.noWrap_bind, Checked.value_bind, Bool.and_eq_true] at exact ⊢
  have half : planeRowBytes drmFormatYvu420Android width (plane + 1) ≤ (width + 1) / 2 := by
    unfold planeRowBytes
    rcases plane with _ | _ | plane <;> simp [layoutFromFormat_yvu420Android, triplanarYuv420]
  calc planeRowBytes drmFormatYvu420Android width (plane + 1)
    _ ≤ (stride + 2 - 1) / 2 := le_trans half (Nat.div_le_div_right (by omega))
    _ = (divRoundUp stride 2).value := (divRoundUp_exact exact.1).symm
    _ ≤ _ := (align_exact Nat.one_pos exact.2).1

theorem layoutFromFormat_plane_zero {layout : PlanarLayout}
    (found : layoutFromFormat format = some layout) :
    layout.horizontalSubsampling.getD 0 1 = 1 ∧ layout.verticalSubsampling.getD 0 1 = 1 := by
  unfold layoutFromFormat at found
  iterate 8
    rcases ite_eq_iff.mp found with ⟨-, found⟩ | ⟨-, found⟩
    · cases found; exact ⟨rfl, rfl⟩
  cases found

theorem planeRows_zero : planeRows format height 0 = height := by
  unfold planeRows
  rcases found : layoutFromFormat format with _ | layout <;> simp only [found]
  rw [(layoutFromFormat_plane_zero found).2, Nat.add_sub_cancel, Nat.div_one]

theorem drvHeightFromFormat_zero_exact
    (exact : (drvHeightFromFormat format height 0).noWrap = true) :
    (drvHeightFromFormat format height 0).value = height := by
  rw [drvHeightFromFormat_exact exact, planeRows_zero]

end Geometry

@[simp] theorem drvBoFromFormat_tiling (meta : BoMetadata) (stride strideAlign alignedHeight : Nat)
    (format : UInt32) :
    (drvBoFromFormat meta stride strideAlign alignedHeight format).value.tiling = meta.tiling := by
  simp [drvBoFromFormat, (packPlanes_fields _ _ _ _ _ _).1]

@[simp] theorem drvBoFromFormat_numPlanes (meta : BoMetadata)
    (stride strideAlign alignedHeight : Nat) (format : UInt32) :
    (drvBoFromFormat meta stride strideAlign alignedHeight format).value.numPlanes =
      meta.numPlanes := by
  simp [drvBoFromFormat, (packPlanes_fields _ _ _ _ _ _).2.1]

@[simp] theorem drvBoFromFormat_formatModifier (meta : BoMetadata)
    (stride strideAlign alignedHeight : Nat) (format : UInt32) :
    (drvBoFromFormat meta stride strideAlign alignedHeight format).value.formatModifier =
      meta.formatModifier := by
  simp [drvBoFromFormat, (packPlanes_fields _ _ _ _ _ _).2.2.1]

end Minigbm
