import Minigbm.Xe.Metadata

/-!
The entry points of backend_xe that turn a computed layout into a GEM object and that import
one (xe.c): the DRM_IOCTL_XE_GEM_CREATE request of xe_bo_create_from_metadata, and the plane
count of xe_bo_import. The kernel's answers are parameters, and so is the return value of
drv_prime_bo_import (drv_helpers.c, not under src/).

Whatever xe_bo_compute_metadata lays out, the request that follows asks for a whole number of
pages, on every layout path and even where the layout's uint32 arithmetic wraps, with
write-combined caching exactly for scanout. Importing the layout's format and modifier gives
back the plane count the allocation stored, except for Android's YV12 under a compression
modifier.
-/

namespace Minigbm

/-- The CPU caching of an xe GEM object: DRM_XE_GEM_CPU_CACHING_WB or _WC. -/
inductive CpuCaching
  | wb
  | wc
  deriving DecidableEq, Repr

/-- struct drm_xe_gem_create as xe_bo_create_from_metadata fills it: VM 0, so that the object
can be exported as a PRIME fd; the layout's total size; DRM_XE_GEM_CREATE_FLAG_SCANOUT or no
flag; the CPU caching; and the placement, whose only bit is system memory's. -/
structure GemCreate where
  vmId : Nat
  size : Nat
  scanout : Bool
  cpuCaching : CpuCaching
  sysmemPlacement : Bool
  deriving DecidableEq, Repr

/-- The request xe_bo_create_from_metadata builds from the bo's metadata. -/
def xeGemCreate (meta : BoMetadata) : GemCreate :=
  if meta.useFlags &&& boUseScanout ≠ 0 then ⟨0, meta.totalSize, true, .wc, true⟩
  else ⟨0, meta.totalSize, false, .wb, true⟩

/-- xe_bo_create_from_metadata, with the kernel's answer to DRM_IOCTL_XE_GEM_CREATE: the new
object's handle, or errno when the ioctl fails. The request, the return value, and the handle
stored in `bo->handle.u32`. -/
def xeBoCreateFromMetadata (meta : BoMetadata) (answer : Except Nat Nat) :
    GemCreate × Int × Option Nat :=
  match answer with
  | .error errno => (xeGemCreate meta, -errno, none)
  | .ok handle => (xeGemCreate meta, 0, some handle)

/-- struct drv_import_fd_data, with the fields xe_bo_import reads. -/
structure ImportFdData where
  format : UInt32
  formatModifier : UInt64
  deriving DecidableEq, Repr

/-- xe_bo_import: the plane count of the imported format and modifier, then
drv_prime_bo_import, whose return value `primeRet` it passes on (`if (ret) return ret;`,
then 0). -/
def xeBoImport (meta : BoMetadata) (data : ImportFdData) (primeRet : Int) :
    Checked (Int × BoMetadata) := do
  let numPlanes ← xeNumPlanesFromModifier data.format data.formatModifier
  pure (primeRet, { meta with numPlanes })

/-! What each layout path leaves in the fields the two entry points read. -/

section Layout
variable (platform : Platform) (xe : XeDevice) (meta : BoMetadata) (width height : Nat)
  (format : UInt32) (modifier : UInt64)

theorem pagesize_dvd_uint32 {n : Nat} (divides : platform.pagesize ∣ n) :
    platform.pagesize ∣ (uint 32 n).value :=
  (Nat.dvd_mod_iff (Nat.dvd_trans platform.pagesize_dvd (by decide))).mpr divides

theorem xeLayoutFromModifier_paged :
    platform.pagesize ∣
      (xeLayoutFromModifier platform xe meta width height format modifier).value.totalSize := by
  have page : ∀ {n}, 4096 ∣ n → platform.pagesize ∣ n := Nat.dvd_trans platform.pagesize_dvd
  unfold xeLayoutFromModifier
  split_ifs
  · exact dvd_align _ _ _
  · simp only [xeYTiledCcsLayout, Checked.value_bind, Checked.value_pure]
    refine pagesize_dvd_uint32 _ (Nat.dvd_add (pagesize_dvd_uint32 _ ?_) (page ?_))
    · exact Nat.dvd_add (Nat.dvd_zero _) (pagesize_dvd_uint32 _ (page (Nat.dvd_mul_left _ _)))
    · exact (Nat.dvd_mod_iff (by decide)).mpr (Nat.dvd_mul_left _ _)
  · simp only [xeGen12RcCcsLayout, Checked.value_bind, Checked.value_pure]
    exact pagesize_dvd_uint32 _ (Nat.dvd_add
      (page (Nat.dvd_trans (by decide) (dvd_align _ _ _))) (dvd_align _ _ _))
  · exact dvd_align _ _ _

@[simp] theorem xeLayoutFromModifier_useFlags :
    (xeLayoutFromModifier platform xe meta width height format modifier).value.useFlags =
      meta.useFlags := by
  unfold xeLayoutFromModifier
  split_ifs
  · simp only [xeYvu420AndroidLayout, drvBoFromFormat, Checked.value_bind, Checked.value_pure,
      (packPlanes_fields _ _ _ _ _ _).2.2.2.1]
  · simp only [xeYTiledCcsLayout, Checked.value_bind, Checked.value_pure, setPlane_useFlags]
  · simp only [xeGen12RcCcsLayout, Checked.value_bind, Checked.value_pure, setPlane_useFlags]
  · simp only [xeBoFromFormat, Checked.value_bind, Checked.value_pure,
      (packPlanes_fields _ _ _ _ _ _).2.2.2.1]

theorem xeLayoutFromModifier_numPlanes :
    (xeLayoutFromModifier platform xe meta width height format modifier).value.numPlanes =
      if format ≠ drmFormatYvu420Android ∧
          (modifier = i915FormatModYTiledCcs ∨ modifier = i915FormatModYTiledGen12RcCcs) then
        (xeNumPlanesFromModifier format modifier).value
      else meta.numPlanes := by
  unfold xeLayoutFromModifier
  by_cases yv12 : format = drmFormatYvu420Android
  · rw [if_pos yv12, if_neg fun h => h.1 yv12]
    simp only [xeYvu420AndroidLayout, Checked.value_bind, Checked.value_pure,
      drvBoFromFormat_numPlanes]
  by_cases ccs : modifier = i915FormatModYTiledCcs
  · rw [if_neg yv12, if_pos ccs, if_pos ⟨yv12, .inl ccs⟩]
    simp only [xeYTiledCcsLayout, Checked.value_bind, Checked.value_pure]
  by_cases rc : modifier = i915FormatModYTiledGen12RcCcs
  · rw [if_neg yv12, if_neg ccs, if_pos rc, if_pos ⟨yv12, .inr rc⟩]
    simp only [xeGen12RcCcsLayout, Checked.value_bind, Checked.value_pure]
  · rw [if_neg yv12, if_neg ccs, if_neg rc, if_neg fun h => h.2.elim ccs rc,
      xeBoFromFormat_numPlanes]

end Layout

theorem xeBoCreateFromMetadata_fst (meta : BoMetadata) (answer : Except Nat Nat) :
    let request := (xeBoCreateFromMetadata meta answer).1
    request.size = meta.totalSize ∧ request.sysmemPlacement = true ∧
      (request.scanout = true ↔ meta.useFlags &&& boUseScanout ≠ 0) ∧
      request.cpuCaching = if request.scanout then .wc else .wb := by
  cases answer <;> unfold xeBoCreateFromMetadata xeGemCreate <;> split_ifs with scanout <;>
    simp [scanout]

/-- Whatever xe_bo_compute_metadata lays out, for every driver and request, the
DRM_IOCTL_XE_GEM_CREATE request that xe_bo_create_from_metadata makes of it asks for a whole
number of pages, on every layout path and even where the layout's uint32 arithmetic wraps; it
places the object in system memory, and sets the scanout flag and write-combined caching exactly
when the requested uses include scanout, write-back caching otherwise. -/
theorem xeBoCreateFromMetadata_request (platform : Platform) (drv : Driver)
    (width height format : UInt32) (useFlags : UInt64) (modifiers : Option (List UInt64))
    {w : Checked BoMetadata}
    (computed : xeBoComputeMetadata platform (drvBoNew drv format useFlags) width height format
      useFlags modifiers = .ok w) (answer : Except Nat Nat) :
    let request := (xeBoCreateFromMetadata w.value answer).1
    platform.pagesize ∣ request.size ∧ request.sysmemPlacement = true ∧
      (request.scanout = true ↔ useFlags &&& boUseScanout ≠ 0) ∧
      request.cpuCaching = if request.scanout then .wc else .wb := by
  obtain ⟨size, sysmem, scanout, caching⟩ := xeBoCreateFromMetadata_fst w.value answer
  obtain ⟨selected, -, rfl⟩ := xeBoComputeMetadata_ok computed
  refine ⟨?_, sysmem, ?_, caching⟩
  · rw [size]
    exact xeLayoutFromModifier_paged _ _ _ _ _ _ _
  · rw [scanout, xeLayoutFromModifier_useFlags]
    rfl

theorem xeBoCreateFromMetadata_request_scanout :
    let drv : Driver := ⟨⟨12, 0x46A0, true, false, 0, gen12ModifierOrder⟩, [], true⟩
    ∃ w, xeBoComputeMetadata x86Platform (drvBoNew drv drmFormatArgb8888 boUseScanout) 1920 1080
        drmFormatArgb8888 boUseScanout (some [i915FormatModXTiled, drmFormatModLinear]) = .ok w ∧
      let request := (xeBoCreateFromMetadata w.value (.ok 1)).1
      x86Platform.pagesize ∣ request.size ∧ request.sysmemPlacement = true ∧
        (request.scanout = true ↔ boUseScanout &&& boUseScanout ≠ 0) ∧
        request.cpuCaching = if request.scanout then .wc else .wb :=
  ⟨_, rfl, xeBoCreateFromMetadata_request x86Platform
    ⟨⟨12, 0x46A0, true, false, 0, gen12ModifierOrder⟩, [], true⟩ 1920 1080 drmFormatArgb8888
    boUseScanout (some [i915FormatModXTiled, drmFormatModLinear]) rfl (.ok 1)⟩

@[simp] theorem xeBoImport_numPlanes_value (meta : BoMetadata) (data : ImportFdData)
    (primeRet : Int) :
    (xeBoImport meta data primeRet).value.2.numPlanes =
      (xeNumPlanesFromModifier data.format data.formatModifier).value := rfl

@[simp] theorem xeBoImport_assertsHold (meta : BoMetadata) (data : ImportFdData)
    (primeRet : Int) :
    (xeBoImport meta data primeRet).assertsHold =
      (xeNumPlanesFromModifier data.format data.formatModifier).assertsHold := by
  simp [xeBoImport]

/-- Importing what xe_bo_compute_metadata laid out, by its format and modifier, gives back the
plane count the allocation stored, for every driver and request. The one exception is Android's
YV12 under a compression modifier: laid out as its three planes, it is imported as two, and
xe_bo_import's assertion fails. -/
theorem xeBoImport_numPlanes (platform : Platform) (drv : Driver) (width height format : UInt32)
    (useFlags : UInt64) (modifiers : Option (List UInt64)) {w : Checked BoMetadata}
    (computed : xeBoComputeMetadata platform (drvBoNew drv format useFlags) width height format
      useFlags modifiers = .ok w) (meta : BoMetadata) (primeRet : Int) :
    let imported := xeBoImport meta ⟨format, w.value.formatModifier⟩ primeRet
    imported.value.2.numPlanes = w.value.numPlanes ∨
      format = drmFormatYvu420Android ∧
        (w.value.formatModifier = i915FormatModYTiledCcs ∨
          w.value.formatModifier = i915FormatModYTiledGen12RcCcs) ∧
        imported.value.2.numPlanes = 2 ∧ w.value.numPlanes = 3 ∧ imported.assertsHold = false := by
  obtain ⟨selected, -, rfl⟩ := xeBoComputeMetadata_ok computed
  simp only [xeBoImport_numPlanes_value, xeBoImport_assertsHold,
    xeLayoutFromModifier_formatModifier, xeLayoutFromModifier_numPlanes]
  generalize xeCompressionFallback (drvBoNew drv format useFlags).drv.compression modifiers
    selected = modifier
  by_cases compressed : modifier = i915FormatModYTiledCcs ∨
      modifier = i915FormatModYTiledGen12RcCcs
  · by_cases yv12 : format = drmFormatYvu420Android
    · subst yv12
      refine .inr ⟨rfl, compressed, ?_⟩
      unfold xeNumPlanesFromModifier
      rw [if_pos compressed, if_neg fun h => h.1 rfl]
      exact ⟨rfl, rfl, rfl⟩
    · exact .inl (by rw [if_pos ⟨yv12, compressed⟩])
  · refine .inl ?_
    unfold xeNumPlanesFromModifier
    rw [if_neg compressed, if_neg fun h => compressed h.2]
    rfl

theorem xeBoImport_numPlanes_yv12_rcCcs :
    let drv : Driver := ⟨⟨12, 0x46A0, true, false, 0, gen12ModifierOrder⟩, [], true⟩
    ∃ w, xeBoComputeMetadata x86Platform (drvBoNew drv drmFormatYvu420Android boUseTexture) 64 64
        drmFormatYvu420Android boUseTexture (some [i915FormatModYTiledGen12RcCcs]) = .ok w ∧
      let imported := xeBoImport w.value ⟨drmFormatYvu420Android, w.value.formatModifier⟩ 0
      imported.value.2.numPlanes = w.value.numPlanes ∨
        drmFormatYvu420Android = drmFormatYvu420Android ∧
          (w.value.formatModifier = i915FormatModYTiledCcs ∨
            w.value.formatModifier = i915FormatModYTiledGen12RcCcs) ∧
          imported.value.2.numPlanes = 2 ∧ w.value.numPlanes = 3 ∧ imported.assertsHold = false :=
  ⟨_, rfl, xeBoImport_numPlanes x86Platform
    ⟨⟨12, 0x46A0, true, false, 0, gen12ModifierOrder⟩, [], true⟩ 64 64 drmFormatYvu420Android
    boUseTexture (some [i915FormatModYTiledGen12RcCcs]) rfl _ 0⟩

end Minigbm
