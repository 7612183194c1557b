import Minigbm.Xe.Coverage

/-!
xe_bo_map, xe_bo_flush and xe_clflush of xe.c: xe_bo_map maps the whole buffer, and after the
CPU writes a linear buffer through its mapping every cache line of the mapping is flushed,
between two memory fences, so every byte of every plane the layout holds is written back. Addresses are the 64-bit
values of `uintptr_t`. The loop `while (p < end)` runs with fuel: fuel for one more iteration
than the mapping has lines makes it finish, and more fuel changes nothing. A build with
__CLFLUSHOPT__ issues clflushopt where the other issues clflush; both flush the same line, and
the model records one flush either way.
-/

namespace Minigbm

def xeCachelineSize : UInt64 := 64
def xeCachelineMask : UInt64 := xeCachelineSize - 1

/-- What xe_clflush issues: a memory fence, or the flush of the cache line at an address. -/
inductive CacheOp
  | mfence
  | clflush (addr : Nat)
  deriving DecidableEq, Repr

/-- The loop of xe_clflush from `p` up to `stop`, for at most `fuel` tests of its condition;
none when the fuel runs out first. -/
def xeClflushLoop : Nat → UInt64 → UInt64 → Option (List CacheOp)
  | 0, _, _ => none
  | fuel + 1, p, stop =>
    if p < stop then (CacheOp.clflush p.toNat :: ·) <$> xeClflushLoop fuel (p + xeCachelineSize) stop
    else some []

/-- xe_clflush(start, size): from the cache line holding `start` up to `start + size`. -/
def xeClflush (fuel : Nat) (start size : UInt64) : Option (List CacheOp) :=
  let p := start &&& ~~~xeCachelineMask
  let stop := start + size
  (fun flushes => [CacheOp.mfence] ++ flushes ++ [CacheOp.mfence]) <$> xeClflushLoop fuel p stop

/-- struct vma, with the mapping's address and length. -/
structure Vma where
  addr : UInt64
  length : UInt64
  deriving DecidableEq, Repr

/-- xe_bo_flush: a linear buffer's mapping is flushed; a tiled one is left as it is. It
returns 0. -/
def xeBoFlush (fuel : Nat) (meta : BoMetadata) (vma : Vma) : Option (List CacheOp) :=
  if meta.tiling = xeTilingNone then xeClflush fuel vma.addr vma.length else some []

/-- The number of 64-byte lines from `p` up to `stop`. -/
def lineCount (p stop : Nat) : Nat := (stop - p + 63) / 64

/-- `lines` are the cache lines of `[start, stop)`: every 64-byte-aligned address from the line
holding `start` up to `stop`, each once and in increasing order. -/
structure FlushesLines (start stop : Nat) (lines : List Nat) : Prop where
  increasing : lines.Pairwise (· < ·)
  exact : ∀ p, p ∈ lines ↔ p % 64 = 0 ∧ start / 64 * 64 ≤ p ∧ p < stop

/-! 64-bit address arithmetic. -/

section Address
variable {a b : UInt64}

theorem uint64_lt_iff : a < b ↔ a.toNat < b.toNat := by
  rw [UInt64.lt_def, BitVec.lt_def]
  rfl

theorem uint64_toNat_add (fits : a.toNat + b.toNat < 2 ^ 64) : (a + b).toNat = a.toNat + b.toNat :=
  (BitVec.toNat_add a.toBitVec b.toBitVec).trans (Nat.mod_eq_of_lt fits)

theorem cachelineBase (start : UInt64) :
    (start &&& ~~~xeCachelineMask).toNat = start.toNat / 64 * 64 := by
  have below : start.toNat < 2 ^ 64 := start.toBitVec.isLt
  rw [UInt64.and_toNat, show (~~~xeCachelineMask).toNat = 2 ^ 6 * (2 ^ 58 - 1) by decide,
    show start.toNat / 64 * 64 = 2 ^ 6 * (start.toNat >>> 6) by
      rw [Nat.shiftRight_eq_div_pow]; omega]
  apply Nat.eq_of_testBit_eq
  intro i
  rw [Nat.testBit_and, Nat.testBit_mul_pow_two, Nat.testBit_mul_pow_two, Nat.testBit_shiftRight,
    Nat.testBit_two_pow_sub_one]
  by_cases low : 6 ≤ i
  · rw [show 6 + (i - 6) = i by omega]
    by_cases high : i < 64
    · simp [low, show i - 6 < 58 by omega]
    · simp [Nat.testBit_lt_two_pow (Nat.lt_of_lt_of_le below
        (Nat.pow_le_pow_right (by decide) (by omega : 64 ≤ i)))]
  · simp [low]

end Address

theorem xeClflushLoop_lines {stop : UInt64} (room : stop.toNat + 64 ≤ 2 ^ 64) :
    ∀ n (p : UInt64), lineCount p.toNat stop.toNat = n → ∀ fuel, n < fuel →
      xeClflushLoop fuel p stop = some ((List.range' p.toNat n 64).map CacheOp.clflush)
  | _, _, _, 0, enough => absurd enough (Nat.not_lt_zero _)
  | 0, p, count, fuel + 1, _ => by
    have done : ¬ p < stop := by rw [uint64_lt_iff]; unfold lineCount at count; omega
    rw [xeClflushLoop, if_neg done]
    rfl
  | n + 1, p, count, fuel + 1, enough => by
    have running : p < stop := by rw [uint64_lt_iff]; unfold lineCount at count; omega
    have next : (p + xeCachelineSize).toNat = p.toNat + 64 := by
      have size : xeCachelineSize.toNat = 64 := rfl
      rw [uint64_lt_iff] at running
      exact uint64_toNat_add (by omega)
    have rest := xeClflushLoop_lines room n (p + xeCachelineSize)
      (by rw [next]; unfold lineCount at count ⊢; omega) fuel (by omega)
    rw [xeClflushLoop, if_pos running, rest, next, List.range'_succ]
    rfl

theorem lineRange_flushesLines (start stop : Nat) :
    FlushesLines start stop (List.range' (start / 64 * 64) (lineCount (start / 64 * 64) stop) 64) where
  increasing := List.pairwise_lt_range' _ _ 64
  exact p := by
    rw [List.mem_range']
    unfold lineCount
    constructor
    · rintro ⟨i, below, rfl⟩
      omega
    · rintro ⟨aligned, above, below⟩
      exact ⟨(p - start / 64 * 64) / 64, by omega, by omega⟩

theorem FlushesLines.covers {start stop : Nat} {lines : List Nat}
    (flushes : FlushesLines start stop lines) {a : Nat} (inside : start ≤ a) (below : a < stop) :
    a / 64 * 64 ∈ lines :=
  (flushes.exact _).mpr ⟨by omega, by omega, by omega⟩

/-- For every mapping start and length with `start + size + 64 ≤ 2^64`, xe_clflush finishes
given fuel for one more test than the lines it flushes: between its two fences it flushes every
cache line of `[start, start + size)` once, in increasing order, and nothing else, so the line
of every byte of the range is flushed; xe_bo_flush on a linear buffer mapped there does the
same. -/
theorem xeClflush_flushes_lines (start size : UInt64)
    (fits : start.toNat + size.toNat + 64 ≤ 2 ^ 64) :
    ∃ fuel lines,
      (∀ more, fuel ≤ more →
        xeClflush more start size =
            some ([CacheOp.mfence] ++ lines.map CacheOp.clflush ++ [CacheOp.mfence]) ∧
          ∀ meta : BoMetadata, meta.tiling = xeTilingNone →
            xeBoFlush more meta ⟨start, size⟩ =
              some ([CacheOp.mfence] ++ lines.map CacheOp.clflush ++ [CacheOp.mfence])) ∧
      FlushesLines start.toNat (start.toNat + size.toNat) lines ∧
      ∀ a, start.toNat ≤ a → a < start.toNat + size.toNat → a / 64 * 64 ∈ lines := by
  have stop : (start + size).toNat = start.toNat + size.toNat := uint64_toNat_add (by omega)
  have flushes := lineRange_flushesLines start.toNat (start.toNat + size.toNat)
  refine ⟨lineCount (start.toNat / 64 * 64) (start.toNat + size.toNat) + 1, _,
    fun more enough => ?_, flushes, fun a => flushes.covers⟩
  have loop := xeClflushLoop_lines (by rw [stop]; exact fits) _ (start &&& ~~~xeCachelineMask)
    (by rw [cachelineBase, stop]) more enough
  rw [cachelineBase] at loop
  have clflush : xeClflush more start size =
      some ([CacheOp.mfence] ++ (List.range' (start.toNat / 64 * 64)
        (lineCount (start.toNat / 64 * 64) (start.toNat + size.toNat)) 64).map CacheOp.clflush ++
        [CacheOp.mfence]) := by
    rw [xeClflush, loop]
    rfl
  exact ⟨clflush, fun meta linear => by rw [xeBoFlush, if_pos linear, clflush]⟩

theorem xeClflush_flushes_lines_unaligned :
    let start : UInt64 := 0x7F0000000010
    let size : UInt64 := 4096
    start.toNat + size.toNat + 64 ≤ 2 ^ 64 ∧
      ∃ fuel lines,
        (∀ more, fuel ≤ more →
          xeClflush more start size =
              some ([CacheOp.mfence] ++ lines.map CacheOp.clflush ++ [CacheOp.mfence]) ∧
            ∀ meta : BoMetadata, meta.tiling = xeTilingNone →
              xeBoFlush more meta ⟨start, size⟩ =
                some ([CacheOp.mfence] ++ lines.map CacheOp.clflush ++ [CacheOp.mfence])) ∧
        FlushesLines start.toNat (start.toNat + size.toNat) lines ∧
        ∀ a, start.toNat ≤ a → a < start.toNat + size.toNat → a / 64 * 64 ∈ lines :=
  ⟨by decide, xeClflush_flushes_lines _ _ (by decide)⟩

/- 80 bytes from 48 bytes into a line touch two lines. -/
example : xeClflush 3 0x7F0000000030 80 =
    some [.mfence, .clflush 0x7F0000000000, .clflush 0x7F0000000040, .mfence] := by
  decide

/-! The CPU mapping. -/

/-- PROT_READ, PROT_WRITE and MAP_SHARED of <sys/mman.h>. -/
def protRead : Nat := 0x1
def protWrite : Nat := 0x2
def mapShared : Nat := 0x01

/-- The calls xe_bo_map makes: DRM_IOCTL_XE_GEM_MMAP_OFFSET on the bo's GEM handle, and mmap of
the buffer at the fake offset the kernel gives back. -/
inductive MapCall
  | gemMmapOffset (fd handle : Nat)
  | mmap (length prot flags fd offset : Nat)
  deriving DecidableEq, Repr

/-- xe_bo_map(bo, vma, map_flags) for the kernel's answers: the fake offset, none when the ioctl
fails, and the address of mmap, none for MAP_FAILED. Returns the address (none for MAP_FAILED),
the vma and the calls made. map_flags is not read: the mapping is always read-write. -/
def xeBoMap (fd handle : Nat) (meta : BoMetadata) (vma : Vma) (fakeOffset mmapAddr : Option UInt64) :
    Option UInt64 × Vma × List MapCall :=
  match fakeOffset with
  | none => (none, vma, [.gemMmapOffset fd handle])
  | some offset =>
    let calls := [.gemMmapOffset fd handle,
      .mmap meta.totalSize (protRead ||| protWrite) mapShared fd offset.toNat]
    match mmapAddr with
    | none => (none, vma, calls)
    | some addr => (some addr, { vma with length := UInt64.ofNat meta.totalSize }, calls)

theorem xeBoMap_failed (fd handle : Nat) (meta : BoMetadata) (vma : Vma)
    {fakeOffset mmapAddr : Option UInt64} (failed : (xeBoMap fd handle meta vma fakeOffset mmapAddr).1 = none) :
    (xeBoMap fd handle meta vma fakeOffset mmapAddr).2.1 = vma ∧
      (fakeOffset = none → (xeBoMap fd handle meta vma fakeOffset mmapAddr).2.2 = [.gemMmapOffset fd handle]) := by
  unfold xeBoMap at failed ⊢
  rcases fakeOffset with _ | _ <;> rcases mmapAddr with _ | _ <;> simp_all

theorem xeClflush_range {start size : UInt64} (fits : start.toNat + size.toNat + 64 ≤ 2 ^ 64)
    {more : Nat} (enough : lineCount (start.toNat / 64 * 64) (start.toNat + size.toNat) < more) :
    xeClflush more start size = some ([CacheOp.mfence] ++ (List.range' (start.toNat / 64 * 64)
      (lineCount (start.toNat / 64 * 64) (start.toNat + size.toNat)) 64).map CacheOp.clflush ++
      [CacheOp.mfence]) := by
  have stop : (start + size).toNat = start.toNat + size.toNat := uint64_toNat_add (by omega)
  have loop := xeClflushLoop_lines (by rw [stop]; exact fits) _ (start &&& ~~~xeCachelineMask)
    (by rw [cachelineBase, stop]) more enough
  rw [cachelineBase] at loop
  rw [xeClflush, loop]
  rfl

/-- A buffer that xe_bo_compute_metadata lays out linearly, exactly and with its asserts holding,
mapped by xe_bo_map at an address with room for it below 2^64, then flushed by xe_bo_flush
through the vma drv_bo_map records (that address, and the length xe_bo_map sets): the mapping
is the buffer's whole total size, and the fenced flush reaches the cache line of every byte of
every plane. -/
theorem xeBoMap_flush_planes (platform : Platform) (drv : Driver) (width height format : UInt32)
    (useFlags : UInt64) (modifiers : Option (List UInt64)) {w : Checked BoMetadata}
    (computed : xeBoComputeMetadata platform (drvBoNew drv format useFlags) width height format
      useFlags modifiers = .ok w)
    (exact : w.noWrap = true) (defined : w.defined = true) (asserted : w.assertsHold = true)
    (linear : w.value.tiling = xeTilingNone) (fd handle : Nat) (vma : Vma) (offset addr : UInt64)
    (room : addr.toNat + w.value.totalSize + 64 ≤ 2 ^ 64) :
    let mapped := xeBoMap fd handle w.value vma (some offset) (some addr)
    mapped.1 = some addr ∧ mapped.2.1.length.toNat = w.value.totalSize ∧
      ∃ fuel, ∃ lines : List Nat, (∀ more, fuel ≤ more →
          xeBoFlush more w.value ⟨addr, mapped.2.1.length⟩ =
            some ([CacheOp.mfence] ++ lines.map CacheOp.clflush ++ [CacheOp.mfence])) ∧
        ∀ k < w.value.numPlanes, ∀ byte, w.value.offsets k ≤ byte →
          byte < w.value.offsets k + w.value.sizes k → (addr.toNat + byte) / 64 * 64 ∈ lines := by
  obtain ⟨selected, -, rfl⟩ := xeBoComputeMetadata_ok computed
  have within := (xeLayoutFromModifier_covers rfl exact defined asserted).packed.within
  generalize (xeLayoutFromModifier platform _ _ _ _ _ _).value = meta at within linear room ⊢
  have length : (UInt64.ofNat meta.totalSize).toNat = meta.totalSize :=
    Nat.mod_eq_of_lt (by omega)
  refine ⟨rfl, length, lineCount (addr.toNat / 64 * 64) (addr.toNat + meta.totalSize) + 1, _,
    fun more enough => ?_, fun k below byte after before =>
    (lineRange_flushesLines addr.toNat (addr.toNat + meta.totalSize)).covers (by omega)
      (by have := within k below; omega)⟩
  have flush := @xeClflush_range addr (UInt64.ofNat meta.totalSize) (by rw [length]; omega) more
    (by rw [length]; omega)
  rw [length] at flush
  rw [xeBoFlush, if_pos linear]
  exact flush

theorem xeBoMap_flush_planes_linear :
    let drv : Driver := ⟨⟨12, 0x9A49, false, false, 0, xeLpdpModifierOrder⟩, [], true⟩
    ∃ w, xeBoComputeMetadata x86Platform (drvBoNew drv drmFormatArgb8888 boUseTexture) 100 10
        drmFormatArgb8888 boUseTexture (some [drmFormatModLinear]) = .ok w ∧
      w.noWrap = true ∧ w.defined = true ∧ w.assertsHold = true ∧ w.value.tiling = xeTilingNone ∧
      (0x7F0000000000 : UInt64).toNat + w.value.totalSize + 64 ≤ 2 ^ 64 ∧
      let mapped := xeBoMap 3 1 w.value ⟨0, 0⟩ (some 0x100000) (some 0x7F0000000000)
      mapped.1 = some 0x7F0000000000 ∧ mapped.2.1.length.toNat = w.value.totalSize ∧
        ∃ fuel, ∃ lines : List Nat, (∀ more, fuel ≤ more →
            xeBoFlush more w.value ⟨0x7F0000000000, mapped.2.1.length⟩ =
              some ([CacheOp.mfence] ++ lines.map CacheOp.clflush ++ [CacheOp.mfence])) ∧
          ∀ k < w.value.numPlanes, ∀ byte, w.value.offsets k ≤ byte →
            byte < w.value.offsets k + w.value.sizes k →
              ((0x7F0000000000 : UInt64).toNat + byte) / 64 * 64 ∈ lines :=
  ⟨_, rfl, rfl, rfl, rfl, rfl, by decide, xeBoMap_flush_planes x86Platform
    ⟨⟨12, 0x9A49, false, false, 0, xeLpdpModifierOrder⟩, [], true⟩ 100 10 drmFormatArgb8888
    boUseTexture (some [drmFormatModLinear]) rfl rfl rfl rfl rfl 3 1 ⟨0, 0⟩ 0x100000 0x7F0000000000
    (by decide)⟩

end Minigbm
