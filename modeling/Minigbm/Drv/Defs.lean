import Minigbm.Arith

/-!
The constants the xe backend and the gralloc layer name: DRM fourcc formats and format
modifiers (drm_fourcc.h), minigbm's buffer use flags and masks (drv.h, drv_priv.h) and
the errno values they return. None of these headers is under src/. The values are the
ones those headers define; the code relies on them only through equality of codes and
through which flag bits overlap.
-/

namespace Minigbm

/-- `fourcc_code(a, b, c, d)`: the four characters, least significant byte first. -/
def fourccCode (a b c d : Char) : UInt32 :=
  UInt32.ofNat (a.toNat ||| b.toNat <<< 8 ||| c.toNat <<< 16 ||| d.toNat <<< 24)

def drmFormatR8 : UInt32 := fourccCode 'R' '8' ' ' ' '
def drmFormatRgb565 : UInt32 := fourccCode 'R' 'G' '1' '6'
def drmFormatBgr888 : UInt32 := fourccCode 'B' 'G' '2' '4'
def drmFormatXrgb8888 : UInt32 := fourccCode 'X' 'R' '2' '4'
def drmFormatXbgr8888 : UInt32 := fourccCode 'X' 'B' '2' '4'
def drmFormatArgb8888 : UInt32 := fourccCode 'A' 'R' '2' '4'
def drmFormatAbgr8888 : UInt32 := fourccCode 'A' 'B' '2' '4'
def drmFormatXrgb2101010 : UInt32 := fourccCode 'X' 'R' '3' '0'
def drmFormatXbgr2101010 : UInt32 := fourccCode 'X' 'B' '3' '0'
def drmFormatArgb2101010 : UInt32 := fourccCode 'A' 'R' '3' '0'
def drmFormatAbgr2101010 : UInt32 := fourccCode 'A' 'B' '3' '0'
def drmFormatAbgr16161616f : UInt32 := fourccCode 'A' 'B' '4' 'H'
def drmFormatNv12 : UInt32 := fourccCode 'N' 'V' '1' '2'
def drmFormatP010 : UInt32 := fourccCode 'P' '0' '1' '0'
def drmFormatP016 : UInt32 := fourccCode 'P' '0' '1' '6'
def drmFormatYvu420 : UInt32 := fourccCode 'Y' 'V' '1' '2'
-- minigbm's own code for Android's HAL_PIXEL_FORMAT_YV12
def drmFormatYvu420Android : UInt32 := fourccCode '9' '9' '9' '7'

/-- `fourcc_mod_code(vendor, val)`: the vendor in the top byte, the value below it. -/
def fourccModCode (vendor value : Nat) : UInt64 :=
  UInt64.ofNat (vendor <<< 56 ||| value % 2 ^ 56)

def drmFormatModVendorNone : Nat := 0
def drmFormatModVendorIntel : Nat := 0x01

def drmFormatModLinear : UInt64 := fourccModCode drmFormatModVendorNone 0
def i915FormatModXTiled : UInt64 := fourccModCode drmFormatModVendorIntel 1
def i915FormatModYTiled : UInt64 := fourccModCode drmFormatModVendorIntel 2
def i915FormatModYTiledCcs : UInt64 := fourccModCode drmFormatModVendorIntel 4
def i915FormatModYTiledGen12RcCcs : UInt64 := fourccModCode drmFormatModVendorIntel 6
def i915FormatMod4Tiled : UInt64 := fourccModCode drmFormatModVendorIntel 9

def boUseScanout : UInt64 := (1 : UInt64) <<< 0
def boUseCursor : UInt64 := (1 : UInt64) <<< 1
def boUseRendering : UInt64 := (1 : UInt64) <<< 2
-- bit 3 is left for GBM_BO_USE_WRITE
def boUseLinear : UInt64 := (1 : UInt64) <<< 4
def boUseTexture : UInt64 := (1 : UInt64) <<< 5
def boUseCameraWrite : UInt64 := (1 : UInt64) <<< 6
def boUseCameraRead : UInt64 := (1 : UInt64) <<< 7
def boUseProtected : UInt64 := (1 : UInt64) <<< 8
def boUseSwReadOften : UInt64 := (1 : UInt64) <<< 9
def boUseSwReadRarely : UInt64 := (1 : UInt64) <<< 10
def boUseSwWriteOften : UInt64 := (1 : UInt64) <<< 11
def boUseSwWriteRarely : UInt64 := (1 : UInt64) <<< 12
def boUseHwVideoDecoder : UInt64 := (1 : UInt64) <<< 13
def boUseHwVideoEncoder : UInt64 := (1 : UInt64) <<< 14
-- bit 15 is BO_USE_TEST_ALLOC, which no modelled function reads
def boUseFrontRendering : UInt64 := (1 : UInt64) <<< 16
def boUseRenderscript : UInt64 := (1 : UInt64) <<< 17
def boUseGpuDataBuffer : UInt64 := (1 : UInt64) <<< 18
def boUseSensorDirectData : UInt64 := (1 : UInt64) <<< 19

def boUseSwMask : UInt64 :=
  boUseSwReadOften ||| boUseSwWriteOften ||| boUseSwReadRarely ||| boUseSwWriteRarely |||
    boUseFrontRendering

def boUseRenderMask : UInt64 :=
  boUseLinear ||| boUseRendering ||| boUseRenderscript ||| boUseSwReadOften |||
    boUseSwWriteOften ||| boUseSwReadRarely ||| boUseSwWriteRarely ||| boUseTexture |||
    boUseFrontRendering

def boUseTextureMask : UInt64 :=
  boUseLinear ||| boUseRenderscript ||| boUseSwReadOften ||| boUseSwWriteOften |||
    boUseSwReadRarely ||| boUseSwWriteRarely ||| boUseTexture ||| boUseFrontRendering

def enomem : Int := 12
def efault : Int := 14
def einval : Int := 22

end Minigbm
