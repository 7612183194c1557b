import Minigbm.Xe.Coverage

/-!
The tiled layouts of xe_bo_compute_metadata: a buffer whose tiling is X, Y or 4 has each image
plane in whole tiles of that tiling, a stride that is a multiple of the tile's width and a size
that is the stride times a multiple of the tile's height. This holds on the generic path with
xe_align_dimensions and LCU alignment, and on the GEN12_RC_CCS path. It fails on the
DRM_FORMAT_YVU420_ANDROID path, whose stride is 32-byte aligned whatever the tiling.
-/

namespace Minigbm

/-- The tile of each tiling, bytes across and rows down: X tiles are 512x8, Y and 4 tiles
128x32. -/
def tileAlignment (tiling : Nat) : Nat × Nat :=
  if tiling = xeTilingX then (512, 8) else (128, 32)

/-- The planes of a layout that hold the image: all of them, except the control surface
(plane 1) of a compressed modifier. -/
def isImagePlane (meta : BoMetadata) (k : Nat) : Prop :=
  k < meta.numPlanes ∧ ¬ ((meta.formatModifier = i915FormatModYTiledCcs ∨
    meta.formatModifier = i915FormatModYTiledGen12RcCcs) ∧ k = 1)

instance (meta : BoMetadata) (k : Nat) : Decidable (isImagePlane meta k) :=
  inferInstanceAs (Decidable (_ ∧ _))

/-- Plane `k` is in whole tiles: its stride is a multiple of the tile's width and its uint32
size is the stride times a multiple of the tile's height. -/
def TiledPlane (tile : Nat × Nat) (meta : BoMetadata) (k : Nat) : Prop :=
  tile.1 ∣ meta.strides k ∧ ∃ rows, tile.2 ∣ rows ∧ meta.sizes k = meta.strides k * rows % 2 ^ 32

theorem tileAlignment_rows_dvd (tiling : Nat) : (tileAlignment tiling).2 ∣ 64 := by
  unfold tileAlignment
  split_ifs <;> decide

theorem tileAlignment_area (tiling : Nat) :
    (tileAlignment tiling).1 * (tileAlignment tiling).2 = 4096 := by
  unfold tileAlignment
  split_ifs <;> rfl

theorem xeAlignment_tiled {platform : Platform} {useFlags : UInt64} {format : UInt32}
    {tiling alignedHeight : Nat}
    (tiled : tiling = xeTilingX ∨ tiling = xeTilingY ∨ tiling = xeTiling4) :
    xeAlignment platform useFlags format tiling alignedHeight = tileAlignment tiling := by
  rcases tiled with rfl | rfl | rfl <;> rfl

section Generic
variable {platform : Platform} {xe : XeDevice} {useFlags : UInt64} {width height : Nat}
  {format : UInt32}

theorem xePlaneLayout_tiled {tiling plane : Nat}
    (tiled : tiling = xeTilingX ∨ tiling = xeTilingY ∨ tiling = xeTiling4) :
    let layout := (xePlaneLayout platform xe useFlags tiling width height format plane).value
    (tileAlignment tiling).1 ∣ layout.1 ∧
      ∃ rows, (tileAlignment tiling).2 ∣ rows ∧ layout.2 = layout.1 * rows % 2 ^ 32 := by
  simp only [xePlaneLayout, Checked.value_bind, xeAlignDimensions_value, value_uint,
    Checked.value_pure, xeAlignment_tiled tiled]
  exact ⟨dvd_align _ _ _, _, xeLcuAlign_dvd xe format plane (tileAlignment_rows_dvd tiling)
    (dvd_align _ _ _), rfl⟩

theorem xeBoFromFormat_tiled {meta : BoMetadata}
    (tiled : meta.tiling = xeTilingX ∨ meta.tiling = xeTilingY ∨ meta.tiling = xeTiling4) :
    ∀ k < drvNumPlanesFromFormat format, TiledPlane (tileAlignment meta.tiling)
      (xeBoFromFormat platform xe meta width height format).value k := by
  intro k below
  have inside : 0 ≤ k ∧ k < 0 + drvNumPlanesFromFormat format := ⟨Nat.zero_le k, by omega⟩
  simp only [TiledPlane, xeBoFromFormat, Checked.value_bind, Checked.value_pure]
  rw [packPlanes_strides, packPlanes_sizes, if_pos inside, if_pos inside]
  exact xePlaneLayout_tiled tiled

theorem xePlaneLayout_size_dvd {tiling : Nat}
    (tiled : tiling = xeTilingX ∨ tiling = xeTilingY ∨ tiling = xeTiling4) (plane : Nat) :
    4096 ∣ (xePlaneLayout platform xe useFlags tiling width height format plane).value.2 := by
  obtain ⟨wide, rows, tall, size⟩ :=
    @xePlaneLayout_tiled platform xe useFlags width height format _ plane tiled
  rw [size, Nat.dvd_mod_iff (by decide), ← tileAlignment_area tiling]
  exact Nat.mul_dvd_mul wide tall

/-- xe_bo_from_format under a tiling: at the start of every plane the running offset is a
multiple of 4096, through uint32 wraps, so the page-alignment assertion holds on every host
whose page divides 4096. -/
theorem xeBoFromFormat_tiled_offsets {meta : BoMetadata}
    (tiled : meta.tiling = xeTilingX ∨ meta.tiling = xeTilingY ∨ meta.tiling = xeTiling4) :
    (∀ k < drvNumPlanesFromFormat format,
        4096 ∣ (xeBoFromFormat platform xe meta width height format).value.offsets k) ∧
      (xeBoFromFormat platform xe meta width height format).assertsHold = true := by
  have sizes := @xePlaneLayout_size_dvd platform xe meta.useFlags width height format _ tiled
  have notNone : meta.tiling ≠ xeTilingNone := by
    rcases tiled with tiling | tiling | tiling <;> rw [tiling] <;> decide
  refine ⟨packPlanes_offsets_dvd _ _ (by decide) sizes _ _, ?_⟩
  simp only [xeBoFromFormat, Checked.assertsHold_bind_eq_true, Checked.assertsHold_pure,
    assertsHold_align, and_true]
  refine packPlanes_assertsHold _ _ (by decide) sizes (fun offset aligned => ?_)
    (fun k => xePlaneLayout_assertsHold _ _ _ _ _ _ _ k) _ _ _ _ (Nat.dvd_zero _)
  rw [if_pos notNone, assertsHold_cAssert, isAligned, beq_iff_eq]
  exact Nat.mod_eq_zero_of_dvd (Nat.dvd_trans platform.pagesize_dvd aligned)

theorem xeBoFromFormat_tiled_offsets_nv12 :
    let xe : XeDevice := ⟨12, 0x9A49, false, false, 0, xeLpdpModifierOrder⟩
    let meta : BoMetadata :=
      ⟨xeTilingY, 2, fun _ => 0, fun _ => 0, fun _ => 0, i915FormatModYTiled, boUseTexture, 0⟩
    (meta.tiling = xeTilingX ∨ meta.tiling = xeTilingY ∨ meta.tiling = xeTiling4) ∧
      (∀ k < drvNumPlanesFromFormat drmFormatNv12,
          4096 ∣ (xeBoFromFormat x86Platform xe meta 1920 1080 drmFormatNv12).value.offsets k) ∧
        (xeBoFromFormat x86Platform xe meta 1920 1080 drmFormatNv12).assertsHold = true :=
  ⟨.inr (.inl rfl), xeBoFromFormat_tiled_offsets (.inr (.inl rfl))⟩

end Generic

section RcCcs
variable {platform : Platform} {xe : XeDevice} {meta : BoMetadata} {width height : Nat}
  {format : UInt32} {modifier : UInt64}

theorem xeGen12RcCcsShape_xelpd (xelpd : xe.isXelpd = true)
    (defined : (xeGen12RcCcsShape xe width height format).defined = true) :
    let shape := (xeGen12RcCcsShape xe width height format).value
    32 ∣ shape.2 ∧ (shape.1 = 0 ∨ ∃ c, 9 ≤ c ∧ c ≤ 30 ∧ shape.1 = 2 ^ c ∧ 128 ∣ shape.2) := by
  unfold xeGen12RcCcsShape at defined ⊢
  simp only [Checked.defined_bind_eq_true, Checked.value_bind] at defined ⊢
  have aligned := dvd_align 32 (drvStrideFromFormat format width 0).value 512
  have bounded := align_lt 32 (drvStrideFromFormat format width 0).value 512
  generalize (align 32 (drvStrideFromFormat format width 0).value 512) = stride at *
  split_ifs at defined ⊢ with reshaped
  · unfold xeLpdShape at defined ⊢
    simp only [Checked.defined_bind_eq_true, Checked.value_bind, Checked.value_pure,
      defined_shiftLeftOne, value_shiftLeftOne, decide_eq_true_eq] at defined ⊢
    have wide : 512 ≤ stride.value := Nat.le_of_dvd (by omega) aligned
    obtain ⟨-, above, -⟩ :=
      @builtinClz_spec (stride.value - 1) (by omega) (by omega)
    generalize 32 - builtinClz (stride.value - 1) = count at *
    refine ⟨Nat.dvd_trans (by decide : 32 ∣ 128) (dvd_align _ _ _),
      .inr ⟨count, ?_, by omega, by rw [Nat.mod_eq_of_lt (by omega)], dvd_align _ _ _⟩⟩
    by_contra small
    have := @Nat.pow_le_pow_right 2 (by decide) count 8 (by omega)
    omega
  · have flat : stride.value = 0 :=
      Nat.eq_zero_of_dvd_of_lt aligned (by simp only [xelpd, true_and] at reshaped; omega)
    exact ⟨dvd_align _ _ _, .inl flat⟩

theorem xeGen12RcCcsLayout_tiled (xelpd : xe.isXelpd = true)
    (defined : (xeGen12RcCcsLayout platform xe meta width height format modifier).defined = true) :
    TiledPlane (128, 32) (xeGen12RcCcsLayout platform xe meta width height format modifier).value 0 := by
  unfold xeGen12RcCcsLayout at defined ⊢
  simp only [Checked.defined_bind_eq_true, Checked.value_bind, Checked.value_pure] at defined ⊢
  obtain ⟨rows, shapes⟩ := xeGen12RcCcsShape_xelpd xelpd defined.1
  generalize (xeGen12RcCcsShape xe width height format).value = shape at *
  simp only [TiledPlane, setPlane_strides, setPlane_sizes, value_uint, Nat.zero_ne_one,
    ↓reduceIte]
  rcases shapes with flat | ⟨count, least, most, power, tiles⟩
  · rw [flat, Nat.zero_mul, Nat.zero_mod]
    exact ⟨Nat.dvd_zero _, shape.2, rows, by rw [Nat.zero_mul, Nat.zero_mod]; decide⟩
  · have units : 65536 ∣ shape.1 * shape.2 % 2 ^ 32 := by
      rw [Nat.dvd_mod_iff (by decide), power]
      calc 65536 = 2 ^ 9 * 128 := by decide
        _ ∣ 2 ^ count * shape.2 := Nat.mul_dvd_mul (Nat.pow_dvd_pow 2 least) tiles
    rw [align_of_dvd (by decide) units (Nat.mod_lt _ (by decide))]
    exact ⟨power ▸ Nat.dvd_trans (by decide) (Nat.pow_dvd_pow 2 (by omega : 7 ≤ count)), shape.2,
      rows, rfl⟩

end RcCcs

/-- On a device that xe_init accepts, a layout with a tiling has every image plane in whole
tiles of that tiling, for any format but YVU420_ANDROID, when its shift is defined. -/
theorem xeBoComputeMetadata_tiled_planes {compression allocated : Bool} {config : Option Nat}
    {errno : Int} {drv : Driver}
    (accepted : xeInit compression allocated config errno = (0, some drv))
    (platform : Platform) (width height format : UInt32) (useFlags : UInt64)
    (modifiers : Option (List UInt64)) {w : Checked BoMetadata}
    (computed : xeBoComputeMetadata platform (drvBoNew drv format useFlags) width height format
      useFlags modifiers = .ok w)
    (notYv12 : format ≠ drmFormatYvu420Android) (defined : w.defined = true)
    (tiled : w.value.tiling ≠ xeTilingNone) :
    ∀ k, isImagePlane w.value k → TiledPlane (tileAlignment w.value.tiling) w.value k := by
  obtain ⟨-, -, init⟩ := xeInit_initialized accepted
  obtain ⟨selected, select, rfl⟩ := xeBoComputeMetadata_ok computed
  rw [xeCompressionFallback_of_ne (xeSelectModifier_ne_yTiledCcs init select)] at defined tiled ⊢
  rw [xeLayoutFromModifier_tiling] at tiled ⊢
  intro k image
  rcases xeSelectModifier_cases init select with rfl | rfl | rfl | rfl | ⟨rfl, xelpd⟩
  · exact (tiled rfl).elim
  -- X, Y and 4-tiled: the generic path, over every plane of the format
  iterate 3
    rw [xeLayoutFromModifier_generic _ _ _ _ _ _ _ notYv12 (by decide) (by decide)] at image ⊢
    rw [isImagePlane, xeBoFromFormat_numPlanes] at image
    exact xeBoFromFormat_tiled
      (by first | exact .inl rfl | exact .inr (.inl rfl) | exact .inr (.inr rfl)) k image.1
  -- GEN12_RC_CCS, on Xe-LPD: plane 0 is the main surface, plane 1 its control surface
  rw [xeLayoutFromModifier, if_neg notYv12, if_neg (by decide), if_pos rfl] at defined image ⊢
  have two : k < 2 := image.1
  obtain rfl : k = 0 := by
    have control : k ≠ 1 := fun one => image.2 ⟨.inr rfl, one⟩
    omega
  exact xeGen12RcCcsLayout_tiled xelpd defined

theorem xeBoComputeMetadata_tiled_planes_adlp :
    ∃ drv, xeInit true true (some 0x46A0) 0 = (0, some drv) ∧
      ∃ w, xeBoComputeMetadata x86Platform (drvBoNew drv drmFormatArgb8888 boUseTexture) 256 256
          drmFormatArgb8888 boUseTexture (some [i915FormatModYTiledGen12RcCcs]) = .ok w ∧
        drmFormatArgb8888 ≠ drmFormatYvu420Android ∧ w.defined = true ∧
        w.value.tiling ≠ xeTilingNone ∧
        ∀ k, isImagePlane w.value k → TiledPlane (tileAlignment w.value.tiling) w.value k :=
  ⟨_, rfl, _, rfl, by decide, rfl, by decide,
    @xeBoComputeMetadata_tiled_planes true true (some 0x46A0) 0 _ rfl x86Platform 256 256
      drmFormatArgb8888 boUseTexture (some [i915FormatModYTiledGen12RcCcs]) _ rfl (by decide) rfl
      (by decide)⟩

/-- A YVU420_ANDROID buffer that a peer list gets X-tiled on Tiger Lake keeps the linear path's
32-byte stride: its luma plane is not in whole X tiles. -/
theorem xeBoComputeMetadata_yv12_tiled :
    ∃ drv, xeInit true true (some 0x9A49) 0 = (0, some drv) ∧
      ∃ w, xeBoComputeMetadata x86Platform (drvBoNew drv drmFormatYvu420Android boUseTexture) 32 2
          drmFormatYvu420Android boUseTexture (some [i915FormatModXTiled]) = .ok w ∧
        w.value.tiling = xeTilingX ∧ w.value.strides 0 = 32 ∧ isImagePlane w.value 0 ∧
        ¬ TiledPlane (tileAlignment w.value.tiling) w.value 0 :=
  ⟨_, rfl, _, rfl, rfl, rfl, by decide, fun tiled => absurd tiled.1 (by decide)⟩

end Minigbm
