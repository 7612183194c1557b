import Minigbm.Drv.Combination

/-!
The xe backend's device record and its combination table (xe.c and intel_defines.h):
how xe_init classifies the device from its PCI id, which modifier preference order it
gives the device, and the table xe_add_combinations builds. The fields that
xe_query_config fills (VRAM, GTT size, alignment, revision) are read by no modelled
function and are left out. xe_init accepts exactly the devices whose 16-bit id is in the ADL-P,
RPL-P, MTL or Gen12 list, and installs the flags that the lists give them.
-/

namespace Minigbm

/-! XE_TILING_* are defined in a header that is not under src/: four distinct codes, with
XE_TILING_NONE the 0 of a zeroed bo and of LINEAR_METADATA. -/

def xeTilingNone : Nat := 0
def xeTilingX : Nat := 1
def xeTilingY : Nat := 2
def xeTiling4 : Nat := 3

/-- struct xe_device, with the fields the modelled functions read; `modifier` is the
preference order of struct modifier_support_t (its `order` and `count`). -/
structure XeDevice where
  graphicsVersion : Nat
  deviceId : Nat
  isXelpd : Bool
  isMtlOrNewer : Bool
  hasHwProtection : Int
  modifier : List UInt64
  deriving DecidableEq, Repr

/-- struct driver as the xe backend sees it once xe_init has installed drv->priv. -/
structure Driver where
  priv : XeDevice
  combos : List Combination
  compression : Bool

/-- struct bo, with the driver and metadata the backend reads and writes. -/
structure Bo where
  drv : Driver
  meta : BoMetadata

def scanoutRenderFormats : List UInt32 :=
  [drmFormatAbgr2101010, drmFormatAbgr8888, drmFormatArgb2101010, drmFormatArgb8888,
    drmFormatRgb565, drmFormatXbgr2101010, drmFormatXbgr8888, drmFormatXrgb2101010,
    drmFormatXrgb8888]

def renderFormats : List UInt32 := [drmFormatAbgr16161616f]

def textureOnlyFormats : List UInt32 :=
  [drmFormatR8, drmFormatNv12, drmFormatP010, drmFormatYvu420, drmFormatYvu420Android]

def gen12ModifierOrder : List UInt64 :=
  [i915FormatModYTiledGen12RcCcs, i915FormatModYTiled, i915FormatModXTiled, drmFormatModLinear]

def xeLpdpModifierOrder : List UInt64 :=
  [i915FormatMod4Tiled, i915FormatModXTiled, drmFormatModLinear]

def gen12Ids : List Nat :=
  [0x4c8a, 0x4c8b, 0x4c8c, 0x4c90, 0x4c9a, 0x4680, 0x4681, 0x4682, 0x4683, 0x4688,
    0x4689, 0x4690, 0x4691, 0x4692, 0x4693, 0x4698, 0x4699, 0x4626, 0x4628, 0x462a,
    0x46a0, 0x46a1, 0x46a2, 0x46a3, 0x46a6, 0x46a8, 0x46aa, 0x46b0, 0x46b1, 0x46b2,
    0x46b3, 0x46c0, 0x46c1, 0x46c2, 0x46c3, 0x9A40, 0x9A49, 0x9A59, 0x9A60, 0x9A68,
    0x9A70, 0x9A78, 0x9AC0, 0x9AC9, 0x9AD9, 0x9AF8, 0x4905, 0x4906, 0x4907, 0x4908]

def adlpIds : List Nat :=
  [0x46A0, 0x46A1, 0x46A2, 0x46A3, 0x46A6, 0x46A8, 0x46AA,
    0x462A, 0x4626, 0x4628, 0x46B0, 0x46B1, 0x46B2, 0x46B3,
    0x46C0, 0x46C1, 0x46C2, 0x46C3, 0x46D0, 0x46D1, 0x46D2]

def rplpIds : List Nat := [0xA720, 0xA721, 0xA7A0, 0xA7A1, 0xA7A8, 0xA7A9]

def mtlIds : List Nat := [0x7D40, 0x7D60, 0x7D45, 0x7D55, 0x7DD5]

def lnlIds : List Nat := [0x6420, 0x64A0, 0x64B0]

def ptlIds : List Nat := [0xB080, 0xB081, 0xB082, 0xB083, 0xB08F, 0xB090, 0xB0A0, 0xB0B0]

/-- xe_info_from_device_id: the lists are searched from most to least specific. -/
def xeInfoFromDeviceId (xe : XeDevice) : XeDevice :=
  let xe := { xe with graphicsVersion := 0, isXelpd := false, isMtlOrNewer := false }
  if adlpIds.contains xe.deviceId then { xe with isXelpd := true, graphicsVersion := 12 }
  else if rplpIds.contains xe.deviceId then { xe with isXelpd := true, graphicsVersion := 12 }
  else if mtlIds.contains xe.deviceId then { xe with graphicsVersion := 12, isMtlOrNewer := true }
  else if gen12Ids.contains xe.deviceId then { xe with graphicsVersion := 12 }
  else xe

def xeGetModifierOrder (xe : XeDevice) : XeDevice :=
  if xe.isMtlOrNewer then { xe with modifier := xeLpdpModifierOrder }
  else if xe.isXelpd then { xe with modifier := gen12ModifierOrder }
  else { xe with modifier := xeLpdpModifierOrder }

def unsetFlags (currentFlags mask : UInt64) : UInt64 := currentFlags &&& ~~~mask

/-- `linear_mask` of xe_add_combinations: the uses that need a linear layout. -/
def linearMask : UInt64 :=
  boUseRenderscript ||| boUseLinear ||| boUseSwReadOften ||| boUseSwWriteOften |||
    boUseSwReadRarely ||| boUseSwWriteRarely

def xeAddCombinations (xe : XeDevice) (combos : List Combination) : List Combination :=
  let scanoutAndRender := boUseRenderMask ||| boUseScanout
  let render := boUseRenderMask
  let textureOnly := boUseTextureMask
  -- HW protected buffers also need to be scanned out.
  let hwProtected := if xe.hasHwProtection ≠ 0 then boUseProtected ||| boUseScanout else 0
  let metadataLinear : FormatMetadata := ⟨1, xeTilingNone, drmFormatModLinear⟩
  let combos := drvAddCombinations combos scanoutRenderFormats metadataLinear scanoutAndRender
  let combos := drvAddCombinations combos renderFormats metadataLinear render
  let combos := drvAddCombinations combos textureOnlyFormats metadataLinear textureOnly
  let combos := drvModifyLinearCombinations combos
  -- NV12 format for camera, display, decoding and encoding.
  let combos := drvModifyCombination combos drmFormatNv12 metadataLinear
    (boUseCameraRead ||| boUseCameraWrite ||| boUseScanout ||| boUseHwVideoDecoder |||
      boUseHwVideoEncoder ||| hwProtected)
  -- P010 linear can be used for scanout too.
  let combos := drvModifyCombination combos drmFormatP010 metadataLinear boUseScanout
  let combos := drvModifyCombination combos drmFormatYvu420Android metadataLinear
    boUseCameraWrite
  let combos := drvAddCombination combos drmFormatBgr888 metadataLinear boUseSwMask
  let combos := drvModifyCombination combos drmFormatR8 metadataLinear
    (boUseCameraRead ||| boUseCameraWrite ||| boUseHwVideoDecoder ||| boUseHwVideoEncoder |||
      boUseGpuDataBuffer ||| boUseSensorDirectData)
  let renderNotLinear := unsetFlags render linearMask
  let scanoutAndRenderNotLinear := renderNotLinear ||| boUseScanout
  let metadataXTiled : FormatMetadata := ⟨2, xeTilingX, i915FormatModXTiled⟩
  let combos := drvAddCombinations combos renderFormats metadataXTiled renderNotLinear
  let combos := drvAddCombinations combos scanoutRenderFormats metadataXTiled
    scanoutAndRenderNotLinear
  let nv12Usage := boUseTexture ||| boUseHwVideoDecoder ||| boUseScanout ||| hwProtected
  let p010Usage := boUseTexture ||| boUseHwVideoDecoder ||| hwProtected |||
    (if 11 ≤ xe.graphicsVersion then boUseScanout else 0)
  if xe.isMtlOrNewer then
    let metadata4Tiled : FormatMetadata := ⟨3, xeTiling4, i915FormatMod4Tiled⟩
    let combos := drvAddCombination combos drmFormatNv12 metadata4Tiled nv12Usage
    let combos := drvAddCombination combos drmFormatP010 metadata4Tiled p010Usage
    let combos := drvAddCombinations combos renderFormats metadata4Tiled renderNotLinear
    drvAddCombinations combos scanoutRenderFormats metadata4Tiled scanoutAndRenderNotLinear
  else
    let metadataYTiled : FormatMetadata := ⟨3, xeTilingY, i915FormatModYTiled⟩
    let combos := drvAddCombinations combos renderFormats metadataYTiled renderNotLinear
    let combos := drvAddCombinations combos scanoutRenderFormats metadataYTiled
      scanoutAndRenderNotLinear
    let combos := drvAddCombination combos drmFormatNv12 metadataYTiled nv12Usage
    drvAddCombination combos drmFormatP010 metadataYTiled p010Usage

/-- The device record as calloc leaves it. -/
def xeDeviceZeroed : XeDevice := ⟨0, 0, false, false, 0, []⟩

/-- xe_device_probe: the device id is the low 16 bits of the
DRM_XE_QUERY_CONFIG_REV_AND_DEVICE_ID word the kernel reports; `config` is none when
either DRM_IOCTL_XE_DEVICE_QUERY or the calloc between them fails. -/
def xeDeviceProbe (xe : XeDevice) (config : Option Nat) : Option XeDevice :=
  config.map fun revAndDeviceId =>
    { xe with deviceId := (((revAndDeviceId <<< 16) % 2 ^ 64) >>> 16) &&& 0xFFFF }

/-- xe_init on a driver fresh from drv_create (no combinations yet). `allocated` is whether
the calloc of the record succeeded and `errno` what errno holds when the platform is
rejected. The result is the return value and the record left in drv->priv, if any. -/
def xeInit (compression allocated : Bool) (config : Option Nat) (errno : Int) :
    Int × Option Driver :=
  if !allocated then (-enomem, none) else
  match xeDeviceProbe xeDeviceZeroed config with
  | none => (-einval, none)
  | some xe =>
    -- must call before xe->graphics_version is used anywhere else
    let xe := xeGetModifierOrder (xeInfoFromDeviceId xe)
    if 12 ≤ xe.graphicsVersion then
      let xe := { xe with hasHwProtection := 0 }
      (0, some ⟨xe, xeAddCombinations xe [], compression⟩)
    else (-errno, none)

/-- Modelled from the spec: drv_bo_new of drv.c (not under src/) makes the zeroed bo that
bo_compute_metadata fills, with its format's plane count and the requested uses. -/
def drvBoNew (drv : Driver) (format : UInt32) (useFlags : UInt64) : Bo :=
  ⟨drv, ⟨xeTilingNone, drvNumPlanesFromFormat format, fun _ => 0, fun _ => 0, fun _ => 0,
    drmFormatModLinear, useFlags, 0⟩⟩

@[simp] theorem drvBoNew_drv (drv : Driver) (format : UInt32) (useFlags : UInt64) :
    (drvBoNew drv format useFlags).drv = drv := rfl
@[simp] theorem drvBoNew_tiling (drv : Driver) (format : UInt32) (useFlags : UInt64) :
    (drvBoNew drv format useFlags).meta.tiling = xeTilingNone := rfl

@[simp] theorem xeGetModifierOrder_graphicsVersion (xe : XeDevice) :
    (xeGetModifierOrder xe).graphicsVersion = xe.graphicsVersion := by
  unfold xeGetModifierOrder; split_ifs <;> rfl

@[simp] theorem xeGetModifierOrder_isXelpd (xe : XeDevice) :
    (xeGetModifierOrder xe).isXelpd = xe.isXelpd := by
  unfold xeGetModifierOrder; split_ifs <;> rfl

@[simp] theorem xeGetModifierOrder_isMtlOrNewer (xe : XeDevice) :
    (xeGetModifierOrder xe).isMtlOrNewer = xe.isMtlOrNewer := by
  unfold xeGetModifierOrder; split_ifs <;> rfl

@[simp] theorem xeGetModifierOrder_modifier (xe : XeDevice) :
    (xeGetModifierOrder xe).modifier =
      if xe.isMtlOrNewer then xeLpdpModifierOrder
      else if xe.isXelpd then gen12ModifierOrder else xeLpdpModifierOrder := by
  unfold xeGetModifierOrder; split_ifs <;> rfl

theorem xeInfoFromDeviceId_cases (xe : XeDevice) :
    (xeInfoFromDeviceId xe).graphicsVersion = 0 ∨
      ((xeInfoFromDeviceId xe).graphicsVersion = 12 ∧
        ((xeInfoFromDeviceId xe).isXelpd = true → (xeInfoFromDeviceId xe).isMtlOrNewer = false)) := by
  dsimp only [xeInfoFromDeviceId]
  split_ifs <;> simp

theorem xeAddCombinations_tiledAvoid (xe : XeDevice) {combos : List Combination}
    (valid : TiledAvoid linearMask combos) :
    TiledAvoid linearMask (xeAddCombinations xe combos) := by
  dsimp only [xeAddCombinations]
  split_ifs <;>
  · repeat
      first
      | with_reducible apply TiledAvoid.addCombinations
      | with_reducible apply TiledAvoid.addCombination
      | with_reducible apply TiledAvoid.modifyCombination
      | with_reducible apply TiledAvoid.modifyLinearCombinations
    all_goals first | exact valid | decide

/-- The table of a device that xe_init accepts; it depends on MTL-or-newer alone. -/
def xeTable (mtl : Bool) : List Combination := xeAddCombinations ⟨12, 0, false, mtl, 0, []⟩ []

/-- What xe_init leaves in a driver it accepts. -/
structure XeInitialized (drv : Driver) : Prop where
  graphics_version : drv.priv.graphicsVersion = 12
  order : drv.priv.modifier =
    if drv.priv.isMtlOrNewer then xeLpdpModifierOrder
    else if drv.priv.isXelpd then gen12ModifierOrder else xeLpdpModifierOrder
  exclusive : drv.priv.isXelpd = true → drv.priv.isMtlOrNewer = false
  combos : drv.combos = xeTable drv.priv.isMtlOrNewer

theorem xeInit_initialized {compression allocated : Bool} {config : Option Nat} {errno r : Int}
    {drv : Driver} (accepted : xeInit compression allocated config errno = (r, some drv)) :
    r = 0 ∧ drv.compression = compression ∧ XeInitialized drv := by
  unfold xeInit at accepted
  cases allocated with
  | false => simp at accepted
  | true =>
  cases probe : xeDeviceProbe xeDeviceZeroed config with
  | none => simp [probe] at accepted
  | some probed =>
    simp only [probe, Bool.not_true, Bool.false_eq_true, ↓reduceIte] at accepted
    split at accepted
    · rename_i supported
      simp only [Prod.mk.injEq, Option.some.injEq] at accepted
      obtain ⟨rfl, rfl⟩ := accepted
      simp only [xeGetModifierOrder_graphicsVersion] at supported
      rcases xeInfoFromDeviceId_cases probed with zero | ⟨version, exclusive⟩
      · omega
      refine ⟨rfl, rfl, ⟨?_, ?_, ?_, ?_⟩⟩ <;>
        simp only [xeGetModifierOrder_graphicsVersion, xeGetModifierOrder_isXelpd,
          xeGetModifierOrder_isMtlOrNewer, xeGetModifierOrder_modifier]
      · exact version
      · exact exclusive
      · simp [xeTable, xeAddCombinations, version]
    · simp at accepted

theorem xeInfoFromDeviceId_unclassified (xe : XeDevice) :
    (xeInfoFromDeviceId xe).graphicsVersion = 0 ↔
      xe.deviceId ∉ adlpIds ∧ xe.deviceId ∉ rplpIds ∧ xe.deviceId ∉ mtlIds ∧
        xe.deviceId ∉ gen12Ids := by
  dsimp only [xeInfoFromDeviceId]
  split_ifs <;> simp_all

theorem xeInit_unclassified (compression : Bool) {config : Option Nat} {xe : XeDevice}
    (errno : Int) (probed : xeDeviceProbe xeDeviceZeroed config = some xe)
    (unclassified : xe.deviceId ∉ adlpIds ∧ xe.deviceId ∉ rplpIds ∧ xe.deviceId ∉ mtlIds ∧
      xe.deviceId ∉ gen12Ids) :
    xeInit compression true config errno = (-errno, none) := by
  have version := (xeInfoFromDeviceId_unclassified xe).mpr unclassified
  simp [xeInit, probed, version]

theorem xeDeviceProbe_deviceId (xe : XeDevice) (word : Nat) :
    xeDeviceProbe xe (some word) = some { xe with deviceId := word % 65536 } := by
  simp only [xeDeviceProbe, Option.map_some', Option.some.injEq, XeDevice.mk.injEq, and_true,
    true_and]
  rw [Nat.shiftLeft_eq, Nat.shiftRight_eq_div_pow, show (0xFFFF : Nat) = 2 ^ 16 - 1 from rfl,
    Nat.and_pow_two_sub_one_eq_mod]
  omega

/-- A Lunar Lake device (0x6420, listed in intel_defines.h but searched by no loop) probed
while errno holds 0: xe_init returns 0 and installs no device record. -/
theorem xeInit_lnl_errno_zero : xeInit true true (some 0x6420) 0 = (0, none) :=
  xeInit_unclassified true 0 (xeDeviceProbe_deviceId _ _) (by decide)

theorem xeTable_modifiers (mtl : Bool) :
    ∀ c ∈ xeTable mtl, c.metadata.modifier ∈
      [drmFormatModLinear, i915FormatModXTiled, i915FormatModYTiled, i915FormatMod4Tiled] := by
  cases mtl <;> decide

end Minigbm
