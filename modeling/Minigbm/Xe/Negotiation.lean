import Minigbm.Xe.Metadata

/-!
The modifier xe_bo_compute_metadata records. Without a peer list it comes from the
combination table, and the table's invariant `TiledAvoid linearMask` makes every request for
a CPU-visible use linear. With a peer list it is the first entry of the device's preference
order that the list offers: on Xe-LPD that is GEN12_RC_CCS whatever the format and the
compression setting, and on a plain Gen12 device 4-tiled, which its table never registers.
On every accepted device the tiling and the modifier agree, Y_TILED_CCS is never recorded, and
a modifier taken from a peer list is one the peer offered or LINEAR.
-/

namespace Minigbm

section Selection
variable {drv : Driver} {format : UInt32} {useFlags : UInt64} {m : UInt64} {e : Int}

theorem xeSelectModifier_peer (peer : List UInt64) :
    xeSelectModifier drv format useFlags (some peer) =
      .ok (drvPickModifier peer drv.priv.modifier) := rfl

theorem xeSelectModifier_table_error (selected : xeSelectModifier drv format useFlags none = .error e) :
    e = -einval ∧ drvGetCombination drv.combos format useFlags = none := by
  simp only [xeSelectModifier] at selected
  cases found : drvGetCombination drv.combos format useFlags with
  | none => simp only [found] at selected; cases selected; exact ⟨rfl, rfl⟩
  | some combo => simp only [found] at selected; split at selected <;> cases selected

theorem xeSelectModifier_table_ok (selected : xeSelectModifier drv format useFlags none = .ok m) :
    ∃ combo, drvGetCombination drv.combos format useFlags = some combo ∧
      m = if drv.priv.isMtlOrNewer ∧ useFlags = boUseScanout ||| boUseTexture ||| boUseHwVideoDecoder
        then i915FormatMod4Tiled else combo.metadata.modifier := by
  simp only [xeSelectModifier] at selected
  cases found : drvGetCombination drv.combos format useFlags with
  | none => simp only [found] at selected; cases selected
  | some combo =>
    simp only [found] at selected
    refine ⟨combo, rfl, ?_⟩
    split at selected
    · cases selected; rw [if_pos ‹_›]
    · cases selected; rw [if_neg ‹_›]

end Selection

theorem xeTable_override :
    ∀ c ∈ xeTable true, (boUseScanout ||| boUseTexture ||| boUseHwVideoDecoder) &&& c.useFlags = (boUseScanout ||| boUseTexture ||| boUseHwVideoDecoder) →
      ∃ d ∈ xeTable true, d.format = c.format ∧ (boUseScanout ||| boUseTexture ||| boUseHwVideoDecoder) &&& d.useFlags = (boUseScanout ||| boUseTexture ||| boUseHwVideoDecoder) ∧
        d.metadata.modifier = i915FormatMod4Tiled := by
  decide

section Initialized
variable {drv : Driver} {format : UInt32} {useFlags : UInt64} {m : UInt64}

theorem xeSelectModifier_table_mem (init : XeInitialized drv)
    (selected : xeSelectModifier drv format useFlags none = .ok m) :
    ∃ c ∈ drv.combos, c.format = format ∧ useFlags &&& c.useFlags = useFlags ∧
      c.metadata.modifier = m := by
  obtain ⟨combo, found, rfl⟩ := xeSelectModifier_table_ok selected
  obtain ⟨member, sameFormat, covers⟩ := drvGetCombination_mem format useFlags found
  split_ifs with override
  · obtain ⟨mtl, rfl⟩ := override
    rw [init.combos, mtl] at member ⊢
    obtain ⟨d, dMember, dFormat, dCovers, tiled⟩ := xeTable_override combo member covers
    exact ⟨d, dMember, dFormat.trans sameFormat, dCovers, tiled⟩
  · exact ⟨combo, member, sameFormat, covers, rfl⟩

theorem xeSelectModifier_cases (init : XeInitialized drv) {modifiers : Option (List UInt64)}
    (selected : xeSelectModifier drv format useFlags modifiers = .ok m) :
    m = drmFormatModLinear ∨ m = i915FormatModXTiled ∨ m = i915FormatModYTiled ∨
      m = i915FormatMod4Tiled ∨ (m = i915FormatModYTiledGen12RcCcs ∧ drv.priv.isXelpd = true) := by
  cases modifiers with
  | some peer =>
    have picked := drvPickModifier_mem peer drv.priv.modifier
    rw [Except.ok.inj selected] at picked
    rcases picked with ordered | linear
    · rw [init.order] at ordered
      split_ifs at ordered with mtl xelpd <;>
        simp only [xeLpdpModifierOrder, gen12ModifierOrder, List.mem_cons, List.mem_singleton,
          List.not_mem_nil, or_false] at ordered <;>
        rcases ordered with rfl | rfl | rfl | rfl <;> simp [*]
    · exact .inl linear
  | none =>
    obtain ⟨c, member, -, -, rfl⟩ := xeSelectModifier_table_mem init selected
    rw [init.combos] at member
    have listed := xeTable_modifiers _ c member
    simp only [List.mem_cons, List.mem_singleton, List.not_mem_nil, or_false] at listed
    rcases listed with same | same | same | same <;> simp [same]

theorem xeSelectModifier_ne_yTiledCcs (init : XeInitialized drv)
    {modifiers : Option (List UInt64)}
    (selected : xeSelectModifier drv format useFlags modifiers = .ok m) :
    m ≠ i915FormatModYTiledCcs := by
  rcases xeSelectModifier_cases init selected with rfl | rfl | rfl | rfl | ⟨rfl, -⟩ <;> decide

end Initialized

theorem xeCompressionFallback_of_ne {compression : Bool} {modifiers : Option (List UInt64)}
    {modifier : UInt64} (other : modifier ≠ i915FormatModYTiledCcs) :
    xeCompressionFallback compression modifiers modifier = modifier := by
  simp [xeCompressionFallback, other]

theorem xeCompressionFallback_disabled (modifiers : Option (List UInt64)) (modifier : UInt64) :
    xeCompressionFallback false modifiers modifier =
      if modifier = i915FormatModYTiledCcs then
        (if (modifiers.getD []).contains i915FormatModYTiled then i915FormatModYTiled
          else drmFormatModLinear)
      else modifier := by
  simp [xeCompressionFallback]

/-- Without a peer list, xe_bo_compute_metadata fails with -EINVAL exactly when no entry of
the table covers the request, and otherwise records the modifier of an entry for the format
that allows every requested use (4-tiled under MTL's override). A request with any use of
`linear_mask` is laid out linear and untiled. -/
theorem xeBoComputeMetadata_table_choice {compression allocated : Bool} {config : Option Nat}
    {errno : Int} {drv : Driver} (accepted : xeInit compression allocated config errno = (0, some drv))
    (platform : Platform) (width height format : UInt32) (useFlags : UInt64) :
    let result := xeBoComputeMetadata platform (drvBoNew drv format useFlags) width height format
      useFlags none
    ((result = .error (-einval) ∧
        ∀ c ∈ drv.combos, ¬ (c.format = format ∧ useFlags &&& c.useFlags = useFlags)) ∨
      ∃ w, result = .ok w ∧ ∃ c ∈ drv.combos, c.format = format ∧
        useFlags &&& c.useFlags = useFlags ∧ w.value.formatModifier = c.metadata.modifier) ∧
    ∀ w, result = .ok w → useFlags &&& linearMask ≠ 0 →
      w.value.formatModifier = drmFormatModLinear ∧ w.value.tiling = xeTilingNone := by
  intro result
  obtain ⟨-, -, init⟩ := xeInit_initialized accepted
  -- the modifier recorded is the selected one, and an entry of the table has it
  have recorded : ∀ w, result = .ok w → ∃ c ∈ drv.combos, c.format = format ∧
      useFlags &&& c.useFlags = useFlags ∧ w.value.formatModifier = c.metadata.modifier ∧
      w.value.tiling = xeTilingFromModifier xeTilingNone c.metadata.modifier := by
    intro w computed
    obtain ⟨selected, select, rfl⟩ := xeBoComputeMetadata_ok computed
    obtain ⟨c, member, sameFormat, covers, rfl⟩ := xeSelectModifier_table_mem init select
    have kept := @xeCompressionFallback_of_ne drv.compression none _
      (xeSelectModifier_ne_yTiledCcs init select)
    exact ⟨c, member, sameFormat, covers, by simp [kept], by simp [kept, drvBoNew]⟩
  refine ⟨?_, fun w computed linear => ?_⟩
  · cases computed : result with
    | error e =>
      obtain ⟨rfl, none⟩ := xeSelectModifier_table_error (xeBoComputeMetadata_error computed)
      exact .inl ⟨rfl, (drvGetCombination_eq_none format useFlags _).mp none⟩
    | ok w =>
      obtain ⟨c, member, sameFormat, covers, modifier, -⟩ := recorded w computed
      exact .inr ⟨w, rfl, c, member, sameFormat, covers, modifier⟩
  · obtain ⟨c, member, -, covers, modifier, tiling⟩ := recorded w computed
    have avoid : TiledAvoid linearMask drv.combos :=
      init.combos ▸ xeAddCombinations_tiledAvoid _ (fun _ absent => nomatch absent)
    have linearEntry : c.metadata.modifier = drmFormatModLinear :=
      Classical.byContradiction fun tiled =>
        and_ne_zero_of_allowed covers linear (avoid c member tiled)
    rw [modifier, tiling, linearEntry]
    exact ⟨rfl, rfl⟩

theorem xeBoComputeMetadata_table_choice_mtl :
    xeInit true true (some 0x7D40) 0 =
        (0, some ⟨⟨12, 0x7D40, false, true, 0, xeLpdpModifierOrder⟩, xeTable true, true⟩) ∧
      let drv : Driver := ⟨⟨12, 0x7D40, false, true, 0, xeLpdpModifierOrder⟩, xeTable true, true⟩
      let useFlags := boUseScanout ||| boUseTexture ||| boUseHwVideoDecoder
      let result := xeBoComputeMetadata x86Platform (drvBoNew drv drmFormatNv12 useFlags) 64 64
        drmFormatNv12 useFlags none
      ((result = .error (-einval) ∧
          ∀ c ∈ drv.combos, ¬ (c.format = drmFormatNv12 ∧ useFlags &&& c.useFlags = useFlags)) ∨
        ∃ w, result = .ok w ∧ ∃ c ∈ drv.combos, c.format = drmFormatNv12 ∧
          useFlags &&& c.useFlags = useFlags ∧ w.value.formatModifier = c.metadata.modifier) ∧
      ∀ w, result = .ok w → useFlags &&& linearMask ≠ 0 →
        w.value.formatModifier = drmFormatModLinear ∧ w.value.tiling = xeTilingNone := by
  have accepted : xeInit true true (some 0x7D40) 0 =
      (0, some ⟨⟨12, 0x7D40, false, true, 0, xeLpdpModifierOrder⟩, xeTable true, true⟩) := rfl
  exact ⟨accepted, xeBoComputeMetadata_table_choice accepted x86Platform 64 64 drmFormatNv12 _⟩

/-- On an ADL-P device a peer list offering GEN12_RC_CCS gets it for two-plane NV12, whose
assertion that the format has one plane then fails; the layout has the main and control
surfaces only, no chroma plane. -/
theorem xeBoComputeMetadata_rcCcs_nv12 :
    ∃ drv, xeInit true true (some 0x46A0) 0 = (0, some drv) ∧
      ∃ w, xeBoComputeMetadata x86Platform (drvBoNew drv drmFormatNv12 boUseTexture) 64 64
          drmFormatNv12 boUseTexture (some [i915FormatModYTiledGen12RcCcs]) = .ok w ∧
        w.value.formatModifier = i915FormatModYTiledGen12RcCcs ∧
        drvNumPlanesFromFormat drmFormatNv12 = 2 ∧ w.assertsHold = false ∧ w.value.numPlanes = 2 :=
  ⟨_, rfl, _, rfl, rfl, rfl, rfl, rfl⟩

/-- On a plain Gen12 device (Tiger Lake) the preference order is Xe-LPD+'s, so a peer list
offering 4-tiled gets it, though the device's table has no 4-tiled entry. -/
theorem xeBoComputeMetadata_4Tiled_gen12 :
    ∃ drv, xeInit true true (some 0x9A49) 0 = (0, some drv) ∧
      (∀ c ∈ drv.combos, c.metadata.modifier ≠ i915FormatMod4Tiled) ∧
      ∃ w, xeBoComputeMetadata x86Platform (drvBoNew drv drmFormatArgb8888 boUseScanout) 256 256
          drmFormatArgb8888 boUseScanout (some [i915FormatMod4Tiled]) = .ok w ∧
        w.value.formatModifier = i915FormatMod4Tiled ∧ w.value.tiling = xeTiling4 :=
  ⟨_, rfl, by decide, _, rfl, rfl, rfl⟩

/-- With compression disabled, an ADL-P device still records GEN12_RC_CCS for a peer list
offering it: the fallback looks for Y_TILED_CCS only. -/
theorem xeBoComputeMetadata_rcCcs_uncompressed :
    ∃ drv, xeInit false true (some 0x46A0) 0 = (0, some drv) ∧ drv.compression = false ∧
      ∃ w, xeBoComputeMetadata x86Platform (drvBoNew drv drmFormatArgb8888 boUseTexture) 64 64
          drmFormatArgb8888 boUseTexture (some [i915FormatModYTiledGen12RcCcs]) = .ok w ∧
        w.value.formatModifier = i915FormatModYTiledGen12RcCcs :=
  ⟨_, rfl, rfl, _, rfl, rfl⟩

end Minigbm
