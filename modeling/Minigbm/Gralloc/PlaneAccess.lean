import Minigbm.Gralloc.BufferLock
import Minigbm.Xe.Backend
import Minigbm.Xe.Coverage

/-!
cros_gralloc_buffer::lock over a buffer the xe backend laid out. lock reads the plane count of
the handle and drv_bo_get_plane_offset of the bo; cros_gralloc_driver (not under src/) fills the
handle from the bo, so both come from the layout xe_bo_compute_metadata stored. The layout has
at most three planes, so lock's loop stays inside `addr[DRV_MAX_PLANES]`, and every address it
hands out lies, with the plane's bytes, inside the mapping it holds.
-/

namespace Minigbm.Gralloc

/-- What cros_gralloc_buffer reads of a bo laid out as `meta`: its size, the handle's plane
count and drv_bo_get_plane_offset, which reads `meta.offsets`. -/
def BoView.ofMetadata (width height : Nat) (meta : BoMetadata) : BoView :=
  ⟨width, height, meta.numPlanes, meta.offsets⟩

theorem drvNumPlanesFromFormat_le_three (format : UInt32) : drvNumPlanesFromFormat format ≤ 3 := by
  unfold drvNumPlanesFromFormat
  split
  · next layout found =>
    unfold layoutFromFormat at found
    iterate 8
      rcases ite_eq_iff.mp found with ⟨-, found⟩ | ⟨-, found⟩
      · cases found; decide
    cases found
  · decide

theorem xeLayoutFromModifier_numPlanes_le (platform : Platform) (xe : XeDevice) {meta : BoMetadata}
    (width height : Nat) (format : UInt32) (modifier : UInt64)
    (numPlanes : meta.numPlanes = drvNumPlanesFromFormat format) :
    (xeLayoutFromModifier platform xe meta width height format modifier).value.numPlanes ≤ 3 := by
  rw [xeLayoutFromModifier_numPlanes]
  split_ifs with compressed
  · simp only [xeNumPlanesFromModifier, if_pos compressed.2, Checked.value_bind,
      Checked.value_pure]
    decide
  · exact numPlanes ▸ drvNumPlanesFromFormat_le_three format

theorem xeBoComputeMetadata_numPlanes_le {platform : Platform} {drv : Driver}
    {width height format : UInt32} {useFlags : UInt64} {modifiers : Option (List UInt64)}
    {w : Checked BoMetadata}
    (computed : xeBoComputeMetadata platform (drvBoNew drv format useFlags) width height format
      useFlags modifiers = .ok w) :
    w.value.numPlanes ≤ 3 := by
  obtain ⟨selected, -, rfl⟩ := xeBoComputeMetadata_ok computed
  exact xeLayoutFromModifier_numPlanes_le _ _ _ _ _ _ rfl

theorem planeAddrs_getD (bo : BoView) (vaddr : Nat) {k : Nat} (plane : k < bo.numPlanes) :
    (planeAddrs bo vaddr).getD k 0 = (vaddr + bo.planeOffset k) % 2 ^ 64 := by
  simp [planeAddrs, List.getD_eq_getElem?_getD, plane]

/-- A CPU lock of a buffer that xe_bo_compute_metadata laid out exactly, with its asserts
holding: the layout has fewer planes than `DRV_MAX_PLANES`, and when the lock succeeds it holds
a mapping and every plane address it hands out lies, with all of the plane's bytes, inside
`[vaddr, vaddr + total_size)` of that mapping, given that each mapping lock may use has room
below 2^64. -/
theorem lock_planes_within_mapping (platform : Platform) (drv : Driver)
    (width height format : UInt32) (useFlags : UInt64) (modifiers : Option (List UInt64))
    {w : Checked BoMetadata}
    (computed : xeBoComputeMetadata platform (drvBoNew drv format useFlags) width height format
      useFlags modifiers = .ok w)
    (exact : w.noWrap = true) (defined : w.defined = true) (asserted : w.assertsHold = true)
    (s : LockState) (rect : Rectangle) {mapFlags : Nat} (mapped : Option Mapping)
    (cpu : mapFlags ≠ 0)
    (room : ∀ m, s.lockData = some m ∨ mapped = some m → m.addr + w.value.totalSize < 2 ^ 64)
    (locked : (lock (BoView.ofMetadata width.toNat height.toNat w.value) s rect mapFlags
      mapped).ret = 0) :
    let out := lock (BoView.ofMetadata width.toNat height.toNat w.value) s rect mapFlags mapped
    w.value.numPlanes < drvMaxPlanes ∧ ∃ m, out.state.lockData = some m ∧
      ∀ k < w.value.numPlanes, m.addr ≤ out.addrs.getD k 0 ∧
        out.addrs.getD k 0 + w.value.sizes k ≤ m.addr + w.value.totalSize := by
  have few := xeBoComputeMetadata_numPlanes_le computed
  obtain ⟨selected, -, rfl⟩ := xeBoComputeMetadata_ok computed
  have within := (xeLayoutFromModifier_covers rfl exact defined asserted).packed.within
  generalize (xeLayoutFromModifier platform _ _ _ _ _ _).value = meta at within few room locked ⊢
  obtain ⟨m, held, addrs, origin⟩ := lock_holds_mapping cpu locked
  have fits := room m origin
  refine ⟨by unfold drvMaxPlanes; omega, m, held, fun k plane => ?_⟩
  have bytes := within k plane
  rw [addrs, planeAddrs_getD _ _ plane]
  dsimp only [BoView.ofMetadata]
  rw [Nat.mod_eq_of_lt (by omega)]
  omega

theorem lock_planes_within_mapping_nv12 :
    let drv : Driver := ⟨⟨12, 0x9A49, false, false, 0, xeLpdpModifierOrder⟩, [], true⟩
    let mapping : Mapping := ⟨7, 0x7F0000000000, by decide⟩
    ∃ w, xeBoComputeMetadata x86Platform (drvBoNew drv drmFormatNv12 boUseTexture) 64 64
        drmFormatNv12 boUseTexture (some [drmFormatModLinear]) = .ok w ∧
      w.noWrap = true ∧ w.defined = true ∧ w.assertsHold = true ∧
      (∀ m, LockState.init.lockData = some m ∨ some mapping = some m →
        m.addr + w.value.totalSize < 2 ^ 64) ∧
      (lock (BoView.ofMetadata 64 64 w.value) LockState.init ⟨0, 0, 0, 0⟩ 3 (some mapping)).ret = 0 ∧
      let out := lock (BoView.ofMetadata 64 64 w.value) LockState.init ⟨0, 0, 0, 0⟩ 3 (some mapping)
      w.value.numPlanes < drvMaxPlanes ∧ ∃ m, out.state.lockData = some m ∧
        ∀ k < w.value.numPlanes, m.addr ≤ out.addrs.getD k 0 ∧
          out.addrs.getD k 0 + w.value.sizes k ≤ m.addr + w.value.totalSize := by
  refine ⟨_, rfl, rfl, rfl, rfl, ?room, rfl, lock_planes_within_mapping x86Platform
    ⟨⟨12, 0x9A49, false, false, 0, xeLpdpModifierOrder⟩, [], true⟩ 64 64 drmFormatNv12 boUseTexture
    (some [drmFormatModLinear]) rfl rfl rfl rfl LockState.init ⟨0, 0, 0, 0⟩ _ (by decide) ?room rfl⟩
  rintro m (held | same)
  · simp [LockState.init] at held
  · rw [← Option.some.inj same]
    decide

end Minigbm.Gralloc
