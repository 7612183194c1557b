import Minigbm.Xe.Device

/-!
xe_bo_compute_metadata of xe.c and the layout code it calls: the choice of a modifier
(from a peer's list or from the combination table), the fallback when compression is
disabled, the tiling each modifier implies, and the four layout paths (Android YV12, the
two compression schemes, and the generic plane loop of xe_bo_from_format with
xe_align_dimensions). The source function is cut into one definition per stage, and
`xeBoComputeMetadata` runs them in the source's order.
-/

namespace Minigbm

/-- The host and build the backend runs on: getpagesize() and the LINEAR_ALIGN_256 build
option. The xe backend is x86 code (it flushes with clflush), whose pages divide 4 KiB; a
power-of-two page is also what util.h's ALIGN needs. -/
structure Platform where
  linearAlign256 : Bool
  pagesize : Nat
  pagesize_dvd : pagesize ∣ 4096

/-- The horizontal and vertical alignment xe_align_dimensions picks for a tiling. -/
def xeAlignment (platform : Platform) (useFlags : UInt64) (format : UInt32)
    (tiling alignedHeight : Nat) : Nat × Nat :=
  if tiling = xeTilingX then (512, 8)
  else if tiling = xeTilingY ∨ tiling = xeTiling4 then (128, 32)
  else
    -- XE_TILING_NONE and any other value
    (if platform.linearAlign256 then 256 else 64,
      if useFlags &&& boUseHwVideoEncoder ≠ 0 then 8
      else if format = drmFormatR8 ∧ alignedHeight = 1 then 1
      else 4)

/-- xe_align_dimensions: the stride and aligned height of one plane. It returns 0. -/
def xeAlignDimensions (platform : Platform) (useFlags : UInt64) (format : UInt32)
    (tiling stride alignedHeight : Nat) : Checked (Nat × Nat) := do
  let alignment := xeAlignment platform useFlags format tiling alignedHeight
  let alignedHeight ← align 32 alignedHeight alignment.2
  let stride ← align 32 stride alignment.1
  pure (stride, alignedHeight)

/-- Whether a plane's height is aligned to the largest coded unit, as gmmlib does. -/
def xeFormatNeedsLCUAlignment (format : UInt32) (plane : Nat) (xe : XeDevice) : Bool :=
  (format = drmFormatNv12 ∨ format = drmFormatP010 ∨ format = drmFormatP016) ∧
    xe.graphicsVersion = 12 ∧ plane = 1

/-- Lines 420–427: the V plane of the formats gmmlib aligns to the largest coded unit gets a
height that is a multiple of 64 rows. -/
def xeLcuAlign (xe : XeDevice) (format : UInt32) (plane planeHeight : Nat) : Checked Nat :=
  if xeFormatNeedsLCUAlignment format plane xe then align 32 planeHeight 64 else pure planeHeight

/-- The body of xe_bo_from_format's loop for one plane: its stride and size. -/
def xePlaneLayout (platform : Platform) (xe : XeDevice) (useFlags : UInt64) (tiling : Nat)
    (width height : Nat) (format : UInt32) (plane : Nat) : Checked (Nat × Nat) := do
  let stride ← drvStrideFromFormat format width plane
  let planeHeight ← drvHeightFromFormat format height plane
  let aligned ← xeAlignDimensions platform useFlags format tiling stride planeHeight
  let planeHeight ← xeLcuAlign xe format plane aligned.2
  let size ← uint 32 (aligned.1 * planeHeight)
  pure (aligned.1, size)

/-- xe_bo_from_format: planes packed from offset 0, the total page-aligned. A tiled buffer
asserts that every plane starts on a page. It returns 0. -/
def xeBoFromFormat (platform : Platform) (xe : XeDevice) (meta : BoMetadata)
    (width height : Nat) (format : UInt32) : Checked BoMetadata := do
  let packed ← packPlanes
    (fun offset =>
      if meta.tiling ≠ xeTilingNone then cAssert (isAligned offset platform.pagesize)
      else pure ())
    (xePlaneLayout platform xe meta.useFlags meta.tiling width height format)
    0 (drvNumPlanesFromFormat format) 0 meta
  let totalSize ← align 32 packed.1 platform.pagesize
  pure { packed.2 with totalSize }

/-- xe_num_planes_from_modifier: a compressed layout has a main and a control surface, and
asserts that the format itself has one plane. -/
def xeNumPlanesFromModifier (format : UInt32) (modifier : UInt64) : Checked Nat :=
  if modifier = i915FormatModYTiledCcs ∨ modifier = i915FormatModYTiledGen12RcCcs then do
    cAssert (drvNumPlanesFromFormat format == 1)
    pure 2
  else pure (drvNumPlanesFromFormat format)

/-- Lines 460–474 of xe_bo_compute_metadata: the peer list's modifier by the device's
preference order, or the best combination's, with MTL's 4-tiled override. -/
def xeSelectModifier (drv : Driver) (format : UInt32) (useFlags : UInt64)
    (modifiers : Option (List UInt64)) : Except Int UInt64 :=
  match modifiers with
  | some modifiers => pure (drvPickModifier modifiers drv.priv.modifier)
  | none =>
    match drvGetCombination drv.combos format useFlags with
    | none => throw (-einval)
    | some combo =>
      if drv.priv.isMtlOrNewer ∧
          useFlags = boUseScanout ||| boUseTexture ||| boUseHwVideoDecoder then
        pure i915FormatMod4Tiled
      else pure combo.metadata.modifier

/-- Lines 476–490: with compression disabled, I915_FORMAT_MOD_Y_TILED_CCS becomes Y_TILED
if the peer list offers it, and LINEAR otherwise (also with no list: `i == count == 0`). -/
def xeCompressionFallback (compression : Bool) (modifiers : Option (List UInt64))
    (modifier : UInt64) : UInt64 :=
  if !compression ∧ modifier = i915FormatModYTiledCcs then
    if (modifiers.getD []).contains i915FormatModYTiled then i915FormatModYTiled
    else drmFormatModLinear
  else modifier

/-- Lines 492–510: the tiling of each modifier the switch names; a modifier it does not name
leaves bo->meta.tiling as it was. -/
def xeTilingFromModifier (tiling : Nat) (modifier : UInt64) : Nat :=
  if modifier = drmFormatModLinear then xeTilingNone
  else if modifier = i915FormatModXTiled then xeTilingX
  else if modifier = i915FormatModYTiled ∨ modifier = i915FormatModYTiledCcs ∨
      modifier = i915FormatModYTiledGen12RcCcs then xeTilingY
  else if modifier = i915FormatMod4Tiled then xeTiling4
  else tiling

/-- The DRM_FORMAT_YVU420_ANDROID path: laid out as a linear texture with a 32-byte luma
stride, the size_t total aligned to a page. -/
def xeYvu420AndroidLayout (platform : Platform) (meta : BoMetadata) (width height : Nat)
    (format : UInt32) : Checked BoMetadata := do
  let stride ← align 32 width 32
  let meta ← drvBoFromFormat meta stride 1 height format
  let totalSize ← align 64 meta.totalSize platform.pagesize
  pure { meta with totalSize }

/-- The I915_FORMAT_MOD_Y_TILED_CCS path: a main surface of 128x32 Y tiles and a control
surface with one tile per 32x16 main tiles, placed right after it. -/
def xeYTiledCcsLayout (meta : BoMetadata) (width height : Nat) (format : UInt32)
    (modifier : UInt64) : Checked BoMetadata := do
  let stride ← drvStrideFromFormat format width 0
  let widthInTiles ← divRoundUp stride 128
  let heightInTiles ← divRoundUp height 32
  let size ← uint 32 (widthInTiles * heightInTiles * 4096)
  let mainStride ← uint 32 (widthInTiles * 128)
  let offset ← uint 32 (0 + size)
  let ccsWidthInTiles ← divRoundUp widthInTiles 32
  let ccsHeightInTiles ← divRoundUp heightInTiles 16
  let ccsSize ← uint 32 (ccsWidthInTiles * ccsHeightInTiles * 4096)
  let ccsStride ← uint 32 (ccsWidthInTiles * 128)
  let total ← uint 32 (offset + ccsSize)
  let numPlanes ← xeNumPlanesFromModifier format modifier
  pure { (meta.setPlane 0 mainStride size 0).setPlane 1 ccsStride ccsSize offset with
    numPlanes, totalSize := total }

/-- Lines 578–581, Xe-LPD's main surface: the stride rounded up to a power of two by
`1 << (32 - __builtin_clz(stride - 1))`, the height re-subsampled and aligned to 128 rows. -/
def xeLpdShape (format : UInt32) (stride height : Nat) : Checked (Nat × Nat) := do
  let stride ← shiftLeftOne (32 - builtinClz (stride - 1))
  let planeHeight ← drvHeightFromFormat format height 0
  let height ← align 32 planeHeight 128
  pure (stride, height)

/-- The main surface of the I915_FORMAT_MOD_Y_TILED_GEN12_RC_CCS path: its stride aligned
to 512 bytes and height to 32 rows, reshaped on Xe-LPD. -/
def xeGen12RcCcsShape (xe : XeDevice) (width height : Nat) (format : UInt32) :
    Checked (Nat × Nat) := do
  let unaligned ← drvStrideFromFormat format width 0
  let stride ← align 32 unaligned 512
  let planeHeight ← drvHeightFromFormat format height 0
  let height ← align 32 planeHeight 32
  if xe.isXelpd ∧ stride > 1 then xeLpdShape format stride height
  else pure (stride, height)

/-- The I915_FORMAT_MOD_Y_TILED_GEN12_RC_CCS path: the main surface sized in 64 KiB units,
then the control surface of a 256th of its size, page-aligned. -/
def xeGen12RcCcsLayout (platform : Platform) (xe : XeDevice) (meta : BoMetadata)
    (width height : Nat) (format : UInt32) (modifier : UInt64) : Checked BoMetadata := do
  let shape ← xeGen12RcCcsShape xe width height format
  let product ← uint 32 (shape.1 * shape.2)
  let size0 ← align 32 product 65536
  let size1 ← align 32 (size0 / 256) platform.pagesize
  let numPlanes ← xeNumPlanesFromModifier format modifier
  let total ← uint 32 (size0 + size1)
  pure { (meta.setPlane 0 shape.1 size0 0).setPlane 1 (shape.1 / 8) size1 size0 with
    numPlanes, totalSize := total }

/-- Lines 514–603: the layout path of the format and modifier. -/
def xeLayoutFromModifier (platform : Platform) (xe : XeDevice) (meta : BoMetadata)
    (width height : Nat) (format : UInt32) (modifier : UInt64) : Checked BoMetadata :=
  if format = drmFormatYvu420Android then xeYvu420AndroidLayout platform meta width height format
  else if modifier = i915FormatModYTiledCcs then
    xeYTiledCcsLayout meta width height format modifier
  else if modifier = i915FormatModYTiledGen12RcCcs then
    xeGen12RcCcsLayout platform xe meta width height format modifier
  else xeBoFromFormat platform xe meta width height format

/-- xe_bo_compute_metadata. `modifiers` is the peer list (NULL, or `count` entries). An
error is the negative return with the bo untouched; otherwise it returns 0 and the
metadata, with what a checked build would have observed on the way. -/
def xeBoComputeMetadata (platform : Platform) (bo : Bo) (width height format : UInt32)
    (useFlags : UInt64) (modifiers : Option (List UInt64)) : Except Int (Checked BoMetadata) := do
  let modifier ← xeSelectModifier bo.drv format useFlags modifiers
  let modifier := xeCompressionFallback bo.drv.compression modifiers modifier
  let meta := { bo.meta with
    tiling := xeTilingFromModifier bo.meta.tiling modifier
    formatModifier := modifier }
  pure (xeLayoutFromModifier platform bo.drv.priv meta width.toNat height.toNat format modifier)

/-- An x86 host with 4 KiB pages, built without LINEAR_ALIGN_256. -/
def x86Platform : Platform := ⟨false, 4096, Nat.dvd_refl 4096⟩

section Alignment
variable (platform : Platform) (useFlags : UInt64) (format : UInt32) (tiling stride alignedHeight : Nat)

theorem xeAlignment_pos :
    0 < (xeAlignment platform useFlags format tiling alignedHeight).1 ∧
      0 < (xeAlignment platform useFlags format tiling alignedHeight).2 := by
  unfold xeAlignment
  split_ifs <;> decide

@[simp] theorem xeAlignDimensions_value :
    (xeAlignDimensions platform useFlags format tiling stride alignedHeight).value =
      ((align 32 stride (xeAlignment platform useFlags format tiling alignedHeight).1).value,
        (align 32 alignedHeight (xeAlignment platform useFlags format tiling alignedHeight).2).value) :=
  rfl

@[simp] theorem xeAlignDimensions_noWrap :
    (xeAlignDimensions platform useFlags format tiling stride alignedHeight).noWrap =
      ((align 32 alignedHeight (xeAlignment platform useFlags format tiling alignedHeight).2).noWrap &&
        (align 32 stride (xeAlignment platform useFlags format tiling alignedHeight).1).noWrap) := by
  simp [xeAlignDimensions]

end Alignment

theorem xeLcuAlign_spec {xe : XeDevice} {format : UInt32} {plane alignedHeight : Nat}
    (exact : (xeLcuAlign xe format plane alignedHeight).noWrap = true) :
    alignedHeight ≤ (xeLcuAlign xe format plane alignedHeight).value := by
  unfold xeLcuAlign at exact ⊢
  split_ifs at exact ⊢
  · exact (align_exact (by decide) exact).1
  · exact Nat.le_refl _

theorem xeLcuAlign_dvd (xe : XeDevice) (format : UInt32) (plane : Nat) {alignedHeight rows : Nat} (divides : rows ∣ 64)
    (aligned : rows ∣ alignedHeight) : rows ∣ (xeLcuAlign xe format plane alignedHeight).value := by
  unfold xeLcuAlign
  split_ifs
  · exact Nat.dvd_trans divides (dvd_align _ _ _)
  · exact aligned

@[simp] theorem xePlaneLayout_assertsHold (platform : Platform) (xe : XeDevice)
    (useFlags : UInt64) (tiling width height : Nat) (format : UInt32) (plane : Nat) :
    (xePlaneLayout platform xe useFlags tiling width height format plane).assertsHold = true := by
  simp only [xePlaneLayout, xeAlignDimensions, xeLcuAlign, Checked.assertsHold_bind,
    drvStrideFromFormat_assertsHold, drvHeightFromFormat_assertsHold, assertsHold_align,
    assertsHold_uint, Checked.assertsHold_pure, Bool.true_and]
  split_ifs <;> rfl

@[simp] theorem xeNumPlanesFromModifier_noWrap (format : UInt32) (modifier : UInt64) :
    (xeNumPlanesFromModifier format modifier).noWrap = true := by
  unfold xeNumPlanesFromModifier
  split_ifs <;> rfl

@[simp] theorem xeNumPlanesFromModifier_defined (format : UInt32) (modifier : UInt64) :
    (xeNumPlanesFromModifier format modifier).defined = true := by
  unfold xeNumPlanesFromModifier
  split_ifs <;> rfl

theorem xeNumPlanesFromModifier_onePlane {format : UInt32} {modifier : UInt64}
    (compressed : modifier = i915FormatModYTiledCcs ∨ modifier = i915FormatModYTiledGen12RcCcs)
    (onePlane : drvNumPlanesFromFormat format = 1) :
    (xeNumPlanesFromModifier format modifier).value = 2 ∧
      (xeNumPlanesFromModifier format modifier).assertsHold = true := by
  unfold xeNumPlanesFromModifier
  rw [if_pos compressed]
  simp [onePlane]

@[simp] theorem xeGen12RcCcsShape_assertsHold (xe : XeDevice) (width height : Nat)
    (format : UInt32) : (xeGen12RcCcsShape xe width height format).assertsHold = true := by
  unfold xeGen12RcCcsShape
  simp only [Checked.assertsHold_bind, drvStrideFromFormat_assertsHold, assertsHold_align,
    drvHeightFromFormat_assertsHold, Bool.true_and]
  split_ifs
  · simp [xeLpdShape]
  · rfl

theorem xeNumPlanesFromModifier_compressed {format : UInt32} {modifier : UInt64}
    (compressed : modifier = i915FormatModYTiledCcs ∨ modifier = i915FormatModYTiledGen12RcCcs)
    (asserted : (xeNumPlanesFromModifier format modifier).assertsHold = true) :
    (xeNumPlanesFromModifier format modifier).value = 2 ∧ drvNumPlanesFromFormat format = 1 := by
  unfold xeNumPlanesFromModifier at asserted ⊢
  rw [if_pos compressed] at asserted ⊢
  simpa using asserted

/-! Every layout path keeps the tiling and modifier the switch recorded. -/

section Layout
variable (platform : Platform) (xe : XeDevice) (meta : BoMetadata) (width height : Nat)
  (format : UInt32) (modifier : UInt64)

@[simp] theorem xeBoFromFormat_tiling :
    (xeBoFromFormat platform xe meta width height format).value.tiling = meta.tiling := by
  simp [xeBoFromFormat, (packPlanes_fields _ _ _ _ _ _).1]

@[simp] theorem xeBoFromFormat_formatModifier :
    (xeBoFromFormat platform xe meta width height format).value.formatModifier =
      meta.formatModifier := by
  simp [xeBoFromFormat, (packPlanes_fields _ _ _ _ _ _).2.2.1]

@[simp] theorem xeBoFromFormat_numPlanes :
    (xeBoFromFormat platform xe meta width height format).value.numPlanes = meta.numPlanes := by
  simp [xeBoFromFormat, (packPlanes_fields _ _ _ _ _ _).2.1]

theorem xeLayoutFromModifier_generic (notYv12 : format ≠ drmFormatYvu420Android)
    (notCcs : modifier ≠ i915FormatModYTiledCcs)
    (notRc : modifier ≠ i915FormatModYTiledGen12RcCcs) :
    xeLayoutFromModifier platform xe meta width height format modifier =
      xeBoFromFormat platform xe meta width height format := by
  rw [xeLayoutFromModifier, if_neg notYv12, if_neg notCcs, if_neg notRc]

@[simp] theorem xeLayoutFromModifier_tiling :
    (xeLayoutFromModifier platform xe meta width height format modifier).value.tiling =
      meta.tiling := by
  unfold xeLayoutFromModifier
  split_ifs
  · simp [xeYvu420AndroidLayout]
  all_goals first | rfl | simp

@[simp] theorem xeLayoutFromModifier_formatModifier :
    (xeLayoutFromModifier platform xe meta width height format modifier).value.formatModifier =
      meta.formatModifier := by
  unfold xeLayoutFromModifier
  split_ifs
  · simp [xeYvu420AndroidLayout]
  all_goals first | rfl | simp

end Layout

theorem xeBoComputeMetadata_ok {platform : Platform} {bo : Bo} {width height format : UInt32}
    {useFlags : UInt64} {modifiers : Option (List UInt64)} {w : Checked BoMetadata}
    (computed : xeBoComputeMetadata platform bo width height format useFlags modifiers = .ok w) :
    ∃ selected, xeSelectModifier bo.drv format useFlags modifiers = .ok selected ∧
      let modifier := xeCompressionFallback bo.drv.compression modifiers selected
      w = xeLayoutFromModifier platform bo.drv.priv
        { bo.meta with tiling := xeTilingFromModifier bo.meta.tiling modifier,
                       formatModifier := modifier }
        width.toNat height.toNat format modifier := by
  unfold xeBoComputeMetadata at computed
  cases selection : xeSelectModifier bo.drv format useFlags modifiers with
  | error e => simp [selection, bind, Except.bind] at computed
  | ok selected =>
    simp only [selection, bind, Except.bind, pure, Except.pure, Except.ok.injEq] at computed
    exact ⟨selected, rfl, computed.symm⟩

theorem xeBoComputeMetadata_error {platform : Platform} {bo : Bo} {width height format : UInt32}
    {useFlags : UInt64} {modifiers : Option (List UInt64)} {e : Int}
    (computed : xeBoComputeMetadata platform bo width height format useFlags modifiers = .error e) :
    xeSelectModifier bo.drv format useFlags modifiers = .error e := by
  unfold xeBoComputeMetadata at computed
  cases selection : xeSelectModifier bo.drv format useFlags modifiers with
  | error e' => simpa [selection, bind, Except.bind] using computed
  | ok selected => simp [selection, bind, Except.bind, pure, Except.pure] at computed

end Minigbm
