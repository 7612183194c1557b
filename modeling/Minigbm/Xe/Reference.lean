import Minigbm.Xe.Metadata

/-!
The spec's reference layouts, in exact arithmetic, and the theorems that the layout code of
xe.c computes them whenever none of its uint32 computations wraps.

The generic path of xe_bo_from_format: each plane's stride rounded up to the tiling's
horizontal alignment, its rows to the vertical one (and then to 64 rows where gmmlib aligns the
chroma plane to the largest coded unit), the planes packed one after another from offset 0, and
the total rounded up to a page. The alignments are the spec's table, written out here and
shown to be the ones xe_align_dimensions and xe_format_needs_LCU_alignment choose.

The GEN12_RC_CCS branch on Xe-LPD: the 512-aligned main stride rounded up to a power of two, the
main surface in 64 KiB units, and a page-aligned control surface of a 256th of it right after.
Its shift `1 << (32 - __builtin_clz(s - 1))` is an int expression, defined in C only while the
power stays below 2^31.
-/

namespace Minigbm

/-- The least multiple of `b` at or above `a`. -/
def roundUp (a b : Nat) : Nat := (a + b - 1) / b * b

section RoundUp
variable {a b c m : Nat}

theorem dvd_roundUp (a b : Nat) : b ∣ roundUp a b := Nat.dvd_mul_left b _

theorem le_roundUp (positive : 0 < b) : a ≤ roundUp a b := by
  have := @Nat.lt_div_mul_add (a + b - 1) b positive
  unfold roundUp
  omega

theorem roundUp_le (positive : 0 < b) (divides : b ∣ m) (above : a ≤ m) : roundUp a b ≤ m := by
  obtain ⟨q, rfl⟩ := divides
  have below : a + b - 1 < (q + 1) * b := by
    rw [Nat.succ_mul, Nat.mul_comm q b]
    omega
  calc roundUp a b ≤ q * b :=
      Nat.mul_le_mul_right b (Nat.lt_succ_iff.mp ((Nat.div_lt_iff_lt_mul positive).mpr below))
    _ = b * q := Nat.mul_comm q b

theorem roundUp_of_dvd (positive : 0 < b) (divides : b ∣ a) : roundUp a b = a :=
  Nat.le_antisymm (roundUp_le positive divides (Nat.le_refl a)) (le_roundUp positive)

theorem roundUp_roundUp (positive : 0 < b) (divides : b ∣ c) (coarser : 0 < c) :
    roundUp (roundUp a b) c = roundUp a c :=
  Nat.le_antisymm
    (roundUp_le coarser (dvd_roundUp a c)
      (roundUp_le positive (Nat.dvd_trans divides (dvd_roundUp a c)) (le_roundUp coarser)))
    (roundUp_le coarser (dvd_roundUp _ c) (Nat.le_trans (le_roundUp positive) (le_roundUp coarser)))

end RoundUp

theorem align_eq_roundUp {bits a b : Nat} (fits : (align bits a b).noWrap = true) :
    (align bits a b).value = roundUp a b := by
  simp only [noWrap_align, decide_eq_true_eq] at fits
  rw [value_align, Nat.mod_eq_of_lt fits]
  rfl

/-! The generic path. -/

section Generic
variable (platform : Platform) (xe : XeDevice) (meta : BoMetadata) (width height : Nat)
  (format : UInt32)

/-- The spec's horizontal alignment H: 512 bytes for X tiling, 128 for Y and 4 tiling, and for
XE_TILING_NONE or any other value 64, or 256 under LINEAR_ALIGN_256. -/
def referenceHorizontal (linearAlign256 : Bool) (tiling : Nat) : Nat :=
  if tiling = xeTilingX then 512
  else if tiling = xeTilingY ∨ tiling = xeTiling4 then 128
  else if linearAlign256 then 256
  else 64

/-- The spec's vertical alignment V: 8 rows for X tiling, 32 for Y and 4 tiling, and for any
other value 8 for a video encoder buffer, 1 for an R8 plane one row high, and 4 otherwise. -/
def referenceVertical (useFlags : UInt64) (format : UInt32) (tiling planeHeight : Nat) : Nat :=
  if tiling = xeTilingX then 8
  else if tiling = xeTilingY ∨ tiling = xeTiling4 then 32
  else if useFlags &&& boUseHwVideoEncoder ≠ 0 then 8
  else if format = drmFormatR8 ∧ planeHeight = 1 then 1
  else 4

/-- The spec's stride of plane `k`: the format's stride rounded up to H. -/
def referenceStride (k : Nat) : Nat :=
  roundUp (drvStrideFromFormat format width k).value
    (referenceHorizontal platform.linearAlign256 meta.tiling)

/-- The spec's rows of plane `k`: the format's height rounded up to V, and then to 64 rows for
plane 1 of NV12, P010 and P016 on graphics version 12. -/
def referenceRows (k : Nat) : Nat :=
  let planeHeight := (drvHeightFromFormat format height k).value
  let rows := roundUp planeHeight (referenceVertical meta.useFlags format meta.tiling planeHeight)
  if k = 1 ∧ (format = drmFormatNv12 ∨ format = drmFormatP010 ∨ format = drmFormatP016) ∧
      xe.graphicsVersion = 12 then roundUp rows 64
  else rows

def referenceSize (k : Nat) : Nat :=
  referenceStride platform meta width format k *
    referenceRows xe meta height format k

/-- The spec's offsets: plane 0 at 0, each next plane right after the one before. -/
def referenceOffset : Nat → Nat
  | 0 => 0
  | k + 1 => referenceOffset k + referenceSize platform xe meta width height format k

/-- The spec's total: the planes' sum rounded up to a page. -/
def referenceTotalSize : Nat :=
  roundUp (referenceOffset platform xe meta width height format (drvNumPlanesFromFormat format))
    platform.pagesize

variable {platform xe meta width height format}

theorem xeAlignment_reference (useFlags : UInt64) (tiling planeHeight : Nat) :
    xeAlignment platform useFlags format tiling planeHeight =
      (referenceHorizontal platform.linearAlign256 tiling,
        referenceVertical useFlags format tiling planeHeight) := by
  unfold xeAlignment referenceHorizontal referenceVertical
  split_ifs <;> rfl

theorem xeLcuAlign_reference {plane rows : Nat}
    (exact : (xeLcuAlign xe format plane rows).noWrap = true) :
    (xeLcuAlign xe format plane rows).value =
      if plane = 1 ∧ (format = drmFormatNv12 ∨ format = drmFormatP010 ∨ format = drmFormatP016) ∧
          xe.graphicsVersion = 12 then roundUp rows 64
      else rows := by
  unfold xeLcuAlign xeFormatNeedsLCUAlignment at *
  by_cases lcu : plane = 1 ∧ (format = drmFormatNv12 ∨ format = drmFormatP010 ∨
      format = drmFormatP016) ∧ xe.graphicsVersion = 12
  · simp only [lcu, decide_True, and_self, ↓reduceIte] at exact ⊢
    exact align_eq_roundUp exact
  · have other : ¬ ((format = drmFormatNv12 ∨ format = drmFormatP010 ∨ format = drmFormatP016) ∧
        xe.graphicsVersion = 12 ∧ plane = 1) := by tauto
    simp only [lcu, other, decide_False, ↓reduceIte, Bool.false_eq_true]
    rfl

theorem xePlaneLayout_reference {k : Nat}
    (exact : (xePlaneLayout platform xe meta.useFlags meta.tiling width height format k).noWrap =
      true) :
    (xePlaneLayout platform xe meta.useFlags meta.tiling width height format k).value =
      (referenceStride platform meta width format k,
        referenceSize platform xe meta width height format k) := by
  unfold xePlaneLayout at exact ⊢
  simp only [Checked.noWrap_bind_eq_true, Checked.value_bind, Checked.value_pure,
    xeAlignDimensions_noWrap, xeAlignDimensions_value, noWrap_uint, value_uint,
    Checked.noWrap_pure, Bool.and_eq_true, decide_eq_true_eq] at exact ⊢
  obtain ⟨-, -, ⟨rowsFit, strideFit⟩, lcu, sizeFit, -⟩ := exact
  rw [xeLcuAlign_reference lcu, align_eq_roundUp rowsFit] at sizeFit ⊢
  simp only [xeAlignment_reference] at sizeFit strideFit ⊢
  rw [align_eq_roundUp strideFit] at sizeFit ⊢
  rw [Nat.mod_eq_of_lt sizeFit]
  rfl

theorem sizeSum_reference {n : Nat}
    (planes : ∀ k < n,
      (xePlaneLayout platform xe meta.useFlags meta.tiling width height format k).noWrap = true) :
    ∀ k ≤ n, sizeSum (xePlaneLayout platform xe meta.useFlags meta.tiling width height format) 0 k =
      referenceOffset platform xe meta width height format k
  | 0, _ => rfl
  | k + 1, within => by
    rw [sizeSum_succ, sizeSum_reference planes k (by omega), Nat.zero_add,
      xePlaneLayout_reference (planes k within)]
    rfl

/-- Without a uint32 wrap, xe_bo_from_format lays out every plane of the format as the spec's
reference does, for every tiling, use mask and size: strides and sizes rounded up as the spec
says, plane 0 at offset 0 and each next plane right after the one before, and the total
rounded up to a page. -/
theorem xeBoFromFormat_reference
    (exact : (xeBoFromFormat platform xe meta width height format).noWrap = true) :
    let layout := (xeBoFromFormat platform xe meta width height format).value
    (∀ k < drvNumPlanesFromFormat format,
        layout.strides k = referenceStride platform meta width format k ∧
        layout.sizes k = referenceSize platform xe meta width height format k ∧
        layout.offsets k = referenceOffset platform xe meta width height format k) ∧
      layout.totalSize = referenceTotalSize platform xe meta width height format := by
  unfold xeBoFromFormat at exact ⊢
  simp only [Checked.noWrap_bind_eq_true, Checked.value_bind, Checked.value_pure,
    Checked.noWrap_pure, and_true] at exact ⊢
  obtain ⟨packExact, totalFit⟩ := exact
  obtain ⟨total, -, planes⟩ := packPlanes_packed _ _ _ _ packExact
  obtain ⟨-, sums⟩ := packPlanes_noWrap _ _ 0 _ 0 meta (by decide) packExact
  have reference := sizeSum_reference fun k below => (planes k below).1
  refine ⟨fun k below => ?_, ?_⟩
  · obtain ⟨layoutExact, stride, size⟩ := planes k below
    rw [stride, size, (packPlanes_offsets _ _ 0 _ 0 meta (by decide)).2 k,
      if_pos ⟨Nat.zero_le k, by omega⟩, xePlaneLayout_reference layoutExact,
      Nat.zero_add, Nat.sub_zero, Nat.mod_eq_of_lt (by simpa using sums k (by omega)),
      reference k (by omega)]
    exact ⟨rfl, rfl, rfl⟩
  · rw [align_eq_roundUp totalFit, total, reference _ (Nat.le_refl _)]
    rfl

end Generic

theorem xeBoFromFormat_reference_nv12 :
    let xe : XeDevice := ⟨12, 0x9A49, false, false, 0, xeLpdpModifierOrder⟩
    let meta : BoMetadata :=
      ⟨xeTilingNone, 2, fun _ => 0, fun _ => 0, fun _ => 0, drmFormatModLinear, boUseTexture, 0⟩
    let layout := (xeBoFromFormat x86Platform xe meta 1920 1080 drmFormatNv12).value
    (xeBoFromFormat x86Platform xe meta 1920 1080 drmFormatNv12).noWrap = true ∧
      (∀ k < drvNumPlanesFromFormat drmFormatNv12,
        layout.strides k = referenceStride x86Platform meta 1920 drmFormatNv12 k ∧
        layout.sizes k = referenceSize x86Platform xe meta 1920 1080 drmFormatNv12 k ∧
        layout.offsets k = referenceOffset x86Platform xe meta 1920 1080 drmFormatNv12 k) ∧
      layout.totalSize = referenceTotalSize x86Platform xe meta 1920 1080 drmFormatNv12 :=
  ⟨rfl, xeBoFromFormat_reference rfl⟩

/-! The GEN12_RC_CCS branch on Xe-LPD. -/

/-- The spec's `s`: the format's plane-0 stride rounded up to 512 bytes. -/
def referenceRcCcsStride (format : UInt32) (width : Nat) : Nat :=
  roundUp (drvStrideFromFormat format width 0).value 512

/-- The spec's GEN12_RC_CCS layout for a 512-aligned stride `s` and a plane-0 height: the main
stride the least power of two at or above `s` (the power `p` with `s ≤ p < 2s`), the main
surface that stride times the height rounded up to 128 rows, rounded up to 64 KiB; the control
surface right after it, at a multiple of 64 KiB and of the main stride, an eighth of the main
stride wide and a 256th of the main size rounded up to a page; two planes, and a total of
whole pages. -/
structure RcCcsReference (pagesize s planeHeight : Nat) (layout : BoMetadata) : Prop where
  stride_pow : ∃ c, layout.strides 0 = 2 ^ c ∧ s ≤ 2 ^ c ∧ 2 ^ c < 2 * s
  main_size : layout.sizes 0 = roundUp (layout.strides 0 * roundUp planeHeight 128) 65536
  main_offset : layout.offsets 0 = 0
  ccs_offset : layout.offsets 1 = layout.sizes 0
  ccs_offset_units : 65536 ∣ layout.offsets 1
  ccs_offset_stride : layout.strides 0 ∣ layout.offsets 1
  ccs_stride : layout.strides 1 = layout.strides 0 / 8
  ccs_size : layout.sizes 1 = roundUp (layout.sizes 0 / 256) pagesize
  total : layout.totalSize = layout.sizes 0 + layout.sizes 1
  paged : pagesize ∣ layout.totalSize
  planes : layout.numPlanes = 2

section RcCcs
variable {platform : Platform} {xe : XeDevice} {meta : BoMetadata} {width height : Nat}
  {format : UInt32} {modifier : UInt64}

theorem xeGen12RcCcsShape_reference (xelpd : xe.isXelpd = true)
    (nonzero : 0 < referenceRcCcsStride format width)
    (bounded : referenceRcCcsStride format width ≤ 2 ^ 31)
    (exact : (xeGen12RcCcsShape xe width height format).noWrap = true) :
    (∃ c, (xeGen12RcCcsShape xe width height format).value.1 = 2 ^ c ∧
        referenceRcCcsStride format width ≤ 2 ^ c ∧ 2 ^ c < 2 * referenceRcCcsStride format width) ∧
      (xeGen12RcCcsShape xe width height format).value.2 = roundUp (planeRows format height 0) 128 ∧
      ((xeGen12RcCcsShape xe width height format).defined = true ↔
        referenceRcCcsStride format width ≤ 2 ^ 30) := by
  unfold xeGen12RcCcsShape at exact ⊢
  simp only [Checked.noWrap_bind_eq_true, Checked.value_bind, Checked.defined_bind,
    drvStrideFromFormat_defined, defined_align, drvHeightFromFormat_defined, Bool.true_and]
    at exact ⊢
  obtain ⟨-, strideFit, heightExact, heightFit, branchExact⟩ := exact
  have stride : (align 32 (drvStrideFromFormat format width 0).value 512).value =
      referenceRcCcsStride format width := align_eq_roundUp strideFit
  have wide : 512 ≤ referenceRcCcsStride format width := Nat.le_of_dvd nonzero (dvd_roundUp _ _)
  rw [stride, if_pos ⟨xelpd, by omega⟩] at branchExact ⊢
  unfold xeLpdShape at branchExact ⊢
  simp only [Checked.noWrap_bind_eq_true, Checked.value_bind, Checked.value_pure,
    Checked.defined_bind, drvHeightFromFormat_defined, defined_align, Checked.defined_pure,
    Bool.and_true, noWrap_shiftLeftOne, true_and] at branchExact ⊢
  obtain ⟨resubsampled, rowsFit, -⟩ := branchExact
  refine ⟨(shiftLeftOne_clz (by omega) bounded).1, ?_, (shiftLeftOne_clz (by omega) bounded).2⟩
  rw [align_eq_roundUp rowsFit, drvHeightFromFormat_zero_exact resubsampled,
    align_eq_roundUp heightFit, drvHeightFromFormat_zero_exact heightExact,
    roundUp_roundUp (by decide) (by decide) (by decide), planeRows_zero]

/-- The GEN12_RC_CCS branch on Xe-LPD, for a one-plane format whose 512-aligned stride `s` is
nonzero and at most 2^31 and whose computations do not wrap, is the spec's layout, and the
assertion of xe_num_planes_from_modifier holds. The int shift that makes the power of two is
defined exactly when `s ≤ 2^30`: above it the shift is `1 << 31`, which overflows an int. -/
theorem xeGen12RcCcsLayout_reference (xelpd : xe.isXelpd = true)
    (rc : modifier = i915FormatModYTiledGen12RcCcs) (onePlane : drvNumPlanesFromFormat format = 1)
    (nonzero : 0 < referenceRcCcsStride format width)
    (bounded : referenceRcCcsStride format width ≤ 2 ^ 31)
    (exact : (xeGen12RcCcsLayout platform xe meta width height format modifier).noWrap = true) :
    RcCcsReference platform.pagesize (referenceRcCcsStride format width) (planeRows format height 0)
        (xeGen12RcCcsLayout platform xe meta width height format modifier).value ∧
      (xeGen12RcCcsLayout platform xe meta width height format modifier).assertsHold = true ∧
      ((xeGen12RcCcsLayout platform xe meta width height format modifier).defined = true ↔
        referenceRcCcsStride format width ≤ 2 ^ 30) := by
  unfold xeGen12RcCcsLayout at exact ⊢
  simp only [Checked.noWrap_bind_eq_true, Checked.value_bind, Checked.value_pure,
    Checked.defined_bind, Checked.assertsHold_bind, defined_uint, defined_align,
    xeNumPlanesFromModifier_defined, Checked.defined_pure, assertsHold_uint, assertsHold_align,
    xeGen12RcCcsShape_assertsHold, Checked.assertsHold_pure, Bool.and_true, Bool.true_and]
    at exact ⊢
  obtain ⟨shapeExact, productFit, size0Fit, size1Fit, -, totalFit, -⟩ := exact
  obtain ⟨⟨c, power, above, below⟩, rows, defined⟩ :=
    xeGen12RcCcsShape_reference xelpd nonzero bounded shapeExact
  obtain ⟨two, asserted⟩ := xeNumPlanesFromModifier_onePlane (.inr rc) onePlane
  rw [uint_exact productFit] at size0Fit size1Fit totalFit ⊢
  rw [align_eq_roundUp size0Fit] at size1Fit totalFit ⊢
  rw [align_eq_roundUp size1Fit] at totalFit ⊢
  rw [uint_exact totalFit, two]
  refine ⟨?_, asserted, defined⟩
  generalize (xeGen12RcCcsShape xe width height format).value = shape at *
  obtain ⟨stride, height128⟩ := shape
  simp only at power rows ⊢
  subst power rows
  -- the main surface is already in 64 KiB units: a power of two of at least 512 times a
  -- multiple of 128 rows
  have wide : 512 ≤ referenceRcCcsStride format width := Nat.le_of_dvd nonzero (dvd_roundUp _ _)
  have large : 9 ≤ c := (Nat.pow_le_pow_iff_right (by decide : 1 < 2)).mp (by omega)
  have units : 65536 ∣ 2 ^ c * roundUp (planeRows format height 0) 128 :=
    calc 65536 = 2 ^ 9 * 128 := by decide
      _ ∣ _ := Nat.mul_dvd_mul (Nat.pow_dvd_pow 2 large) (dvd_roundUp _ _)
  have paged : platform.pagesize ∣ 2 ^ c * roundUp (planeRows format height 0) 128 :=
    Nat.dvd_trans platform.pagesize_dvd (Nat.dvd_trans (by decide) units)
  refine ⟨⟨c, ?_, above, below⟩, ?_, ?_, ?_, ?_, ?_, ?_, ?_, ?_, ?_, ?_⟩ <;>
    simp only [setPlane_offsets, setPlane_sizes, setPlane_strides, Nat.zero_ne_one,
      Nat.one_ne_zero, ↓reduceIte, roundUp_of_dvd (by decide) units]
  · exact units
  · exact Nat.dvd_mul_right _ _
  · exact Nat.dvd_add paged (dvd_roundUp _ _)

theorem xeGen12RcCcsLayout_reference_adlp :
    let xe : XeDevice := ⟨12, 0x46A0, true, false, 0, gen12ModifierOrder⟩
    let meta : BoMetadata := ⟨xeTilingY, 1, fun _ => 0, fun _ => 0, fun _ => 0,
      i915FormatModYTiledGen12RcCcs, boUseTexture, 0⟩
    let w := xeGen12RcCcsLayout x86Platform xe meta 256 256 drmFormatArgb8888
      i915FormatModYTiledGen12RcCcs
    xe.isXelpd = true ∧ drvNumPlanesFromFormat drmFormatArgb8888 = 1 ∧
      0 < referenceRcCcsStride drmFormatArgb8888 256 ∧
      referenceRcCcsStride drmFormatArgb8888 256 ≤ 2 ^ 31 ∧ w.noWrap = true ∧
      RcCcsReference 4096 (referenceRcCcsStride drmFormatArgb8888 256)
        (planeRows drmFormatArgb8888 256 0) w.value ∧ w.assertsHold = true ∧
      (w.defined = true ↔ referenceRcCcsStride drmFormatArgb8888 256 ≤ 2 ^ 30) :=
  ⟨rfl, rfl, by decide, by decide, rfl,
    @xeGen12RcCcsLayout_reference x86Platform _ _ 256 256 drmFormatArgb8888 _ rfl rfl rfl
      (by decide) (by decide) rfl⟩

/-- A 2^29-pixel-wide ARGB buffer of height 0 on ADL-P: `s` is 2^31, within the bounds, and no
computation wraps, but the power of two is `1 << 31`, an int overflow: the branch's behaviour is
undefined in C, though x86 yields the stride of 2^31 stated. -/
theorem xeGen12RcCcsLayout_shift_overflow :
    let xe : XeDevice := ⟨12, 0x46A0, true, false, 0, gen12ModifierOrder⟩
    let meta : BoMetadata := ⟨xeTilingY, 1, fun _ => 0, fun _ => 0, fun _ => 0,
      i915FormatModYTiledGen12RcCcs, boUseTexture, 0⟩
    let w := xeGen12RcCcsLayout x86Platform xe meta 536870912 0 drmFormatArgb8888
      i915FormatModYTiledGen12RcCcs
    referenceRcCcsStride drmFormatArgb8888 536870912 = 2 ^ 31 ∧ w.noWrap = true ∧
      w.value.strides 0 = 2 ^ 31 ∧ w.defined = false :=
  ⟨by decide, rfl, rfl, rfl⟩

end RcCcs

end Minigbm
