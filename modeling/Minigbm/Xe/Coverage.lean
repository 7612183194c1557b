import Minigbm.Xe.Negotiation

/-!
Whether the layouts of xe_bo_compute_metadata cover the image they are made for: the planes
lie one after another within total_size, every plane of the format has a row at least as
wide as the image's row and at least as many rows as the image, and total_size is a whole
number of pages. Each layout path does so when none of its uint32 computations wraps, no
shift is undefined and every assertion holds. A wrap breaks it: a linear 65536x65536 ARGB
buffer gets a plane of size 0. Android's YV12 keeps the contract the format asks of it on every
path: a luma stride of whole 32 bytes and chroma strides of ALIGN(Y_stride / 2, 16).
-/

namespace Minigbm

/-- A layout that covers a `width`x`height` image of `format`. -/
structure LayoutCovers (pagesize : Nat) (format : UInt32) (width height : Nat)
    (meta : BoMetadata) : Prop where
  packed : PlanesPacked meta meta.numPlanes meta.totalSize
  images : drvNumPlanesFromFormat format ≤ meta.numPlanes
  rowBytes : ∀ k < drvNumPlanesFromFormat format, planeRowBytes format width k ≤ meta.strides k
  rows : ∀ k < drvNumPlanesFromFormat format,
    meta.strides k * planeRows format height k ≤ meta.sizes k
  paged : pagesize ∣ meta.totalSize

section Generic
variable {platform : Platform} {xe : XeDevice} {useFlags : UInt64} {tiling width height : Nat}
  {format : UInt32} {plane : Nat}

theorem xePlaneLayout_covers
    (exact : (xePlaneLayout platform xe useFlags tiling width height format plane).noWrap = true) :
    let layout := (xePlaneLayout platform xe useFlags tiling width height format plane).value
    planeRowBytes format width plane ≤ layout.1 ∧
      layout.1 * planeRows format height plane ≤ layout.2 := by
  unfold xePlaneLayout at exact ⊢
  simp only [Checked.noWrap_bind, Checked.value_bind, Checked.value_pure, Checked.noWrap_pure,
    xeAlignDimensions_noWrap, xeAlignDimensions_value, noWrap_uint, value_uint, Bool.and_true,
    Bool.and_eq_true, decide_eq_true_eq] at exact ⊢
  obtain ⟨strideExact, heightExact, ⟨heightAligned, strideAligned⟩, lcu, sizeExact⟩ := exact
  obtain ⟨wide, tall⟩ := xeAlignment_pos platform useFlags format tiling
    (drvHeightFromFormat format height plane).value
  have rowsBelow := calc
    planeRows format height plane = (drvHeightFromFormat format height plane).value :=
      (drvHeightFromFormat_exact heightExact).symm
    _ ≤ _ := (align_exact tall heightAligned).1
    _ ≤ _ := xeLcuAlign_spec lcu
  rw [Nat.mod_eq_of_lt sizeExact]
  exact ⟨le_trans (drvStrideFromFormat_ge strideExact) (align_exact wide strideAligned).1,
    Nat.mul_le_mul_left _ rowsBelow⟩

theorem xeBoFromFormat_covers {meta : BoMetadata}
    (numPlanes : meta.numPlanes = drvNumPlanesFromFormat format)
    (exact : (xeBoFromFormat platform xe meta width height format).noWrap = true) :
    LayoutCovers platform.pagesize format width height
      (xeBoFromFormat platform xe meta width height format).value := by
  unfold xeBoFromFormat at exact ⊢
  simp only [Checked.noWrap_bind, Checked.value_bind, Checked.value_pure, Checked.noWrap_pure,
    Bool.and_true, Bool.and_eq_true] at exact ⊢
  obtain ⟨packExact, totalExact⟩ := exact
  obtain ⟨total, packed, planes⟩ := packPlanes_packed _ _ _ _ packExact
  rw [(packPlanes_fields _ _ 0 _ 0 meta).2.1, numPlanes]
  refine ⟨⟨fun k below => le_trans (packed.within k below) (align_exact ?_ totalExact).1,
    packed.ordered⟩, Nat.le_refl _, fun k below => ?_, fun k below => ?_, dvd_align _ _ _⟩
  · exact Nat.pos_of_dvd_of_pos platform.pagesize_dvd (by decide)
  · obtain ⟨layoutExact, stride, -⟩ := planes k below
    rw [stride]
    exact (xePlaneLayout_covers layoutExact).1
  · obtain ⟨layoutExact, stride, size⟩ := planes k below
    rw [stride, size]
    exact (xePlaneLayout_covers layoutExact).2

theorem xeYvu420AndroidLayout_covers {meta : BoMetadata}
    (numPlanes : meta.numPlanes = drvNumPlanesFromFormat drmFormatYvu420Android)
    (exact : (xeYvu420AndroidLayout platform meta width height drmFormatYvu420Android).noWrap =
      true) :
    LayoutCovers platform.pagesize drmFormatYvu420Android width height
      (xeYvu420AndroidLayout platform meta width height drmFormatYvu420Android).value := by
  unfold xeYvu420AndroidLayout drvBoFromFormat at exact ⊢
  simp only [Checked.noWrap_bind, Checked.value_bind, Checked.value_pure, Checked.noWrap_pure,
    Bool.and_true, Bool.and_eq_true] at exact ⊢
  obtain ⟨strideExact, packExact, totalExact⟩ := exact
  obtain ⟨total, packed, planes⟩ := packPlanes_packed _ _ _ _ packExact
  rw [(packPlanes_fields _ _ 0 _ 0 meta).2.1, numPlanes]
  refine ⟨⟨fun k below => le_trans (packed.within k below) (align_exact ?_ totalExact).1,
    packed.ordered⟩, Nat.le_refl _, fun k below => ?_, fun k below => ?_, dvd_align _ _ _⟩
  · exact Nat.pos_of_dvd_of_pos platform.pagesize_dvd (by decide)
  all_goals
    obtain ⟨layoutExact, stride, size⟩ := planes k below
    simp only [Checked.noWrap_bind, Checked.value_bind, Checked.value_pure, Checked.noWrap_pure,
      Bool.and_true, Bool.and_eq_true] at layoutExact stride size
    rw [stride]
  · exact subsampleStride_yvu420Android_ge (align_exact (by decide) strideExact).1 layoutExact.1
  · rw [size, drvSizeFromFormat_exact layoutExact.2]

end Generic

/-! The two compression schemes: a main surface for the one-plane image, then its control
surface. -/

section Compressed
variable {platform : Platform} {xe : XeDevice} {meta : BoMetadata} {width height : Nat}
  {format : UInt32} {modifier : UInt64}

theorem twoSurfaces_covers {pagesize stride0 size0 stride1 size1 total : Nat}
    (onePlane : drvNumPlanesFromFormat format = 1)
    (wide : planeRowBytes format width 0 ≤ stride0)
    (tall : stride0 * planeRows format height 0 ≤ size0)
    (within : size0 + size1 ≤ total) (paged : pagesize ∣ total) :
    LayoutCovers pagesize format width height
      { (meta.setPlane 0 stride0 size0 0).setPlane 1 stride1 size1 size0 with
        numPlanes := 2, totalSize := total } := by
  refine ⟨⟨fun k below => ?_, fun j k before below => ?_⟩, by rw [onePlane]; exact Nat.le_succ 1,
    fun k below => ?_, fun k below => ?_, paged⟩
  · rcases k with _ | _ | k
    · simpa using le_trans (Nat.le_add_right _ _) within
    · simpa using within
    · simp at below; omega
  · obtain ⟨rfl, rfl⟩ : j = 0 ∧ k = 1 := by simp at below; omega
    simp
  all_goals obtain rfl : k = 0 := by omega
  · simpa using wide
  · simpa using tall

theorem xeYTiledCcsLayout_covers (ccs : modifier = i915FormatModYTiledCcs)
    (exact : (xeYTiledCcsLayout meta width height format modifier).noWrap = true)
    (asserted : (xeYTiledCcsLayout meta width height format modifier).assertsHold = true) :
    LayoutCovers platform.pagesize format width height
      (xeYTiledCcsLayout meta width height format modifier).value := by
  unfold xeYTiledCcsLayout at exact asserted ⊢
  simp only [Checked.noWrap_bind_eq_true, Checked.assertsHold_bind_eq_true, Checked.value_bind,
    Checked.value_pure] at exact asserted ⊢
  obtain ⟨strideExact, wideExact, tallExact, sizeExact, mainExact, offsetExact, -, -,
    ccsSizeExact, -, totalExact, -⟩ := exact
  obtain ⟨two, onePlane⟩ :=
    xeNumPlanesFromModifier_compressed (.inl ccs) asserted.2.2.2.2.2.2.2.2.2.2.2.1
  have rowFits := drvStrideFromFormat_ge strideExact
  rw [divRoundUp_exact wideExact, divRoundUp_exact tallExact] at *
  rw [uint_exact sizeExact, Nat.zero_add] at *
  rw [uint_exact offsetExact, uint_exact mainExact, uint_exact ccsSizeExact, two] at *
  rw [uint_exact totalExact]
  generalize (drvStrideFromFormat format width 0).value = stride at *
  refine twoSurfaces_covers onePlane (le_trans rowFits (by omega)) ?_ (Nat.le_refl _) ?_
  · rw [planeRows_zero]
    calc (stride + 128 - 1) / 128 * 128 * height
      _ ≤ (stride + 128 - 1) / 128 * 128 * ((height + 32 - 1) / 32 * 32) :=
        Nat.mul_le_mul_left _ (by omega)
      _ = _ := by simp only [Nat.mul_assoc, Nat.mul_left_comm 128]
  · exact Nat.dvd_add (Nat.dvd_trans platform.pagesize_dvd (Nat.dvd_mul_left 4096 _))
      (Nat.dvd_trans platform.pagesize_dvd (Nat.dvd_mul_left 4096 _))

theorem xeLpdShape_covers {stride : Nat} (wide : 1 < stride) (below : stride < 2 ^ 32)
    (exact : (xeLpdShape format stride height).noWrap = true)
    (defined : (xeLpdShape format stride height).defined = true) :
    stride ≤ (xeLpdShape format stride height).value.1 ∧
      height ≤ (xeLpdShape format stride height).value.2 := by
  unfold xeLpdShape at exact defined ⊢
  simp only [Checked.noWrap_bind_eq_true, Checked.defined_bind_eq_true, Checked.value_bind,
    Checked.value_pure, defined_shiftLeftOne, value_shiftLeftOne, decide_eq_true_eq]
    at exact defined ⊢
  obtain ⟨-, above, -⟩ := @builtinClz_spec (stride - 1) (by omega) (by omega)
  rw [Nat.mod_eq_of_lt (by omega : 32 - builtinClz (stride - 1) < 32)]
  refine ⟨by omega, ?_⟩
  calc height = (drvHeightFromFormat format height 0).value :=
      (drvHeightFromFormat_zero_exact exact.2.1).symm
    _ ≤ _ := (align_exact (by decide) exact.2.2.1).1

theorem xeGen12RcCcsShape_covers
    (exact : (xeGen12RcCcsShape xe width height format).noWrap = true)
    (defined : (xeGen12RcCcsShape xe width height format).defined = true) :
    planeRowBytes format width 0 ≤ (xeGen12RcCcsShape xe width height format).value.1 ∧
      height ≤ (xeGen12RcCcsShape xe width height format).value.2 := by
  unfold xeGen12RcCcsShape at exact defined ⊢
  simp only [Checked.noWrap_bind_eq_true, Checked.defined_bind_eq_true, Checked.value_bind]
    at exact defined ⊢
  obtain ⟨unalignedExact, strideAligned, heightExact, heightAligned, branchExact⟩ := exact
  have rowFits := le_trans (drvStrideFromFormat_ge unalignedExact)
    (align_exact (by decide) strideAligned).1
  have tall := Nat.le_trans (Nat.le_of_eq (drvHeightFromFormat_zero_exact heightExact).symm)
    (align_exact (by decide) heightAligned).1
  split_ifs at branchExact defined ⊢ with xelpd
  · obtain ⟨wider, taller⟩ :=
      xeLpdShape_covers xelpd.2 (align_lt _ _ _) branchExact defined.2.2.2.2
    exact ⟨le_trans rowFits wider, le_trans tall taller⟩
  · exact ⟨rowFits, tall⟩

theorem xeGen12RcCcsLayout_covers (rc : modifier = i915FormatModYTiledGen12RcCcs)
    (exact : (xeGen12RcCcsLayout platform xe meta width height format modifier).noWrap = true)
    (defined : (xeGen12RcCcsLayout platform xe meta width height format modifier).defined = true)
    (asserted :
      (xeGen12RcCcsLayout platform xe meta width height format modifier).assertsHold = true) :
    LayoutCovers platform.pagesize format width height
      (xeGen12RcCcsLayout platform xe meta width height format modifier).value := by
  unfold xeGen12RcCcsLayout at exact defined asserted ⊢
  simp only [Checked.noWrap_bind_eq_true, Checked.defined_bind_eq_true,
    Checked.assertsHold_bind_eq_true, Checked.value_bind, Checked.value_pure]
    at exact defined asserted ⊢
  obtain ⟨shapeExact, productExact, size0Exact, -, -, totalExact, -⟩ := exact
  obtain ⟨two, onePlane⟩ := xeNumPlanesFromModifier_compressed (.inr rc) asserted.2.2.2.2.1
  obtain ⟨wide, tall⟩ := xeGen12RcCcsShape_covers shapeExact defined.1
  rw [uint_exact totalExact, two]
  rw [uint_exact productExact] at size0Exact ⊢
  refine twoSurfaces_covers onePlane wide ?_ (Nat.le_refl _) ?_
  · rw [planeRows_zero]
    exact le_trans (Nat.mul_le_mul_left _ tall) (align_exact (by decide) size0Exact).1
  · exact Nat.dvd_add (Nat.dvd_trans platform.pagesize_dvd
      (Nat.dvd_trans (by decide : 4096 ∣ 65536) (dvd_align _ _ _))) (dvd_align _ _ _)

end Compressed

section Layout
variable {platform : Platform} {xe : XeDevice} {meta : BoMetadata} {width height : Nat}
  {format : UInt32} {modifier : UInt64}

theorem xeLayoutFromModifier_covers (numPlanes : meta.numPlanes = drvNumPlanesFromFormat format)
    (exact : (xeLayoutFromModifier platform xe meta width height format modifier).noWrap = true)
    (defined :
      (xeLayoutFromModifier platform xe meta width height format modifier).defined = true)
    (asserted :
      (xeLayoutFromModifier platform xe meta width height format modifier).assertsHold = true) :
    LayoutCovers platform.pagesize format width height
      (xeLayoutFromModifier platform xe meta width height format modifier).value := by
  by_cases yv12 : format = drmFormatYvu420Android
  · subst yv12
    rw [xeLayoutFromModifier, if_pos rfl] at exact ⊢
    exact xeYvu420AndroidLayout_covers numPlanes exact
  by_cases ccs : modifier = i915FormatModYTiledCcs
  · rw [xeLayoutFromModifier, if_neg yv12, if_pos ccs] at exact asserted ⊢
    exact xeYTiledCcsLayout_covers ccs exact asserted
  by_cases rc : modifier = i915FormatModYTiledGen12RcCcs
  · rw [xeLayoutFromModifier, if_neg yv12, if_neg ccs, if_pos rc] at exact defined asserted ⊢
    exact xeGen12RcCcsLayout_covers rc exact defined asserted
  rw [xeLayoutFromModifier_generic _ _ _ _ _ _ _ yv12 ccs rc] at exact ⊢
  exact xeBoFromFormat_covers numPlanes exact

end Layout

/-- A layout that xe_bo_compute_metadata returns, with no uint32 computation wrapped, no
undefined shift and every assertion holding, covers the image: whatever the device, format,
size, uses and peer list. -/
theorem xeBoComputeMetadata_covers (platform : Platform) (drv : Driver)
    (width height format : UInt32) (useFlags : UInt64) (modifiers : Option (List UInt64))
    {w : Checked BoMetadata}
    (computed : xeBoComputeMetadata platform (drvBoNew drv format useFlags) width height format
      useFlags modifiers = .ok w)
    (exact : w.noWrap = true) (defined : w.defined = true) (asserted : w.assertsHold = true) :
    LayoutCovers platform.pagesize format width.toNat height.toNat w.value := by
  obtain ⟨selected, -, rfl⟩ := xeBoComputeMetadata_ok computed
  exact xeLayoutFromModifier_covers rfl exact defined asserted

theorem xeBoComputeMetadata_covers_adlp :
    ∃ drv, xeInit true true (some 0x46A0) 0 = (0, some drv) ∧
      ∃ w, xeBoComputeMetadata x86Platform (drvBoNew drv drmFormatArgb8888 boUseTexture) 256 256
          drmFormatArgb8888 boUseTexture (some [i915FormatModYTiledGen12RcCcs]) = .ok w ∧
        w.noWrap = true ∧ w.defined = true ∧ w.assertsHold = true ∧
        LayoutCovers 4096 drmFormatArgb8888 256 256 w.value :=
  ⟨_, rfl, _, rfl, rfl, rfl, rfl, xeBoComputeMetadata_covers x86Platform _ 256 256
    drmFormatArgb8888 boUseTexture (some [i915FormatModYTiledGen12RcCcs]) rfl rfl rfl rfl⟩

/-- A linear 65536x65536 ARGB buffer on Tiger Lake: its plane of 2^34 bytes wraps to a size of
0, and xe_bo_compute_metadata still returns 0. -/
theorem xeBoComputeMetadata_linear_wrap :
    ∃ drv, xeInit true true (some 0x9A49) 0 = (0, some drv) ∧
      ∃ w, xeBoComputeMetadata x86Platform (drvBoNew drv drmFormatArgb8888 boUseLinear) 65536
          65536 drmFormatArgb8888 boUseLinear none = .ok w ∧
        w.noWrap = false ∧ w.value.strides 0 = 262144 ∧ w.value.sizes 0 = 0 ∧
        w.value.totalSize = 0 ∧ ¬ LayoutCovers 4096 drmFormatArgb8888 65536 65536 w.value :=
  ⟨_, rfl, _, rfl, rfl, rfl, rfl, rfl,
    fun covers => absurd (covers.rows 0 (by decide)) (by decide)⟩

/-! Android's YV12 contract, which the comment of xe_bo_compute_metadata cites: a luma stride
that is a multiple of 16, and chroma strides of ALIGN(luma_stride / 2, 16). -/

theorem subsampleStride_yvu420Android_chroma {stride plane : Nat} (aligned : 32 ∣ stride)
    (below : stride < 2 ^ 32) (chroma : plane ≠ 0) :
    (subsampleStride stride 1 drmFormatYvu420Android plane).value = stride / 2 := by
  unfold subsampleStride
  rw [if_pos ⟨chroma, .inr rfl⟩]
  simp only [Checked.value_bind, value_divRoundUp, value_align]
  omega

/-- Android's YV12 as xe_bo_compute_metadata lays it out, for every driver, size, use and peer
list: the luma stride is a multiple of 32, and each chroma stride is ALIGN(luma_stride / 2, 16),
as Android's format expects. No bound on the width is needed: ALIGN keeps a uint32 multiple of
32 even where it wraps. -/
theorem xeBoComputeMetadata_yvu420Android_strides (platform : Platform) (drv : Driver)
    (width height : UInt32) (useFlags : UInt64) (modifiers : Option (List UInt64))
    {w : Checked BoMetadata}
    (computed : xeBoComputeMetadata platform (drvBoNew drv drmFormatYvu420Android useFlags) width
      height drmFormatYvu420Android useFlags modifiers = .ok w) :
    32 ∣ w.value.strides 0 ∧
      ∀ k, 1 ≤ k → k < 3 → w.value.strides k = (align 32 (w.value.strides 0 / 2) 16).value := by
  obtain ⟨selected, -, rfl⟩ := xeBoComputeMetadata_ok computed
  have aligned := dvd_align 32 width.toNat 32
  have below := align_lt 32 width.toNat 32
  rw [xeLayoutFromModifier, if_pos rfl]
  simp only [xeYvu420AndroidLayout, drvBoFromFormat, Checked.value_bind, Checked.value_pure,
    packPlanes_strides, show drvNumPlanesFromFormat drmFormatYvu420Android = 3 from rfl]
  generalize (align 32 width.toNat 32).value = stride at aligned below
  refine ⟨?_, fun k chroma three => ?_⟩
  · rw [if_pos (by decide)]
    exact aligned
  · rw [if_pos (by omega), if_pos (by decide), subsampleStride_yvu420Android_chroma aligned below
      (by omega)]
    exact (align_of_dvd (by decide) (by omega) (by omega)).symm

theorem xeBoComputeMetadata_yvu420Android_strides_100 :
    let drv : Driver := ⟨⟨12, 0x9A49, false, false, 0, xeLpdpModifierOrder⟩, [], true⟩
    ∃ w, xeBoComputeMetadata x86Platform (drvBoNew drv drmFormatYvu420Android boUseTexture) 100 50
        drmFormatYvu420Android boUseTexture (some [drmFormatModLinear]) = .ok w ∧
      32 ∣ w.value.strides 0 ∧
        ∀ k, 1 ≤ k → k < 3 → w.value.strides k = (align 32 (w.value.strides 0 / 2) 16).value :=
  ⟨_, rfl, xeBoComputeMetadata_yvu420Android_strides x86Platform
    ⟨⟨12, 0x9A49, false, false, 0, xeLpdpModifierOrder⟩, [], true⟩ 100 50 boUseTexture
    (some [drmFormatModLinear]) rfl⟩

end Minigbm
