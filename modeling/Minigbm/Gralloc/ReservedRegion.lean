import Minigbm.Gralloc.BufferLock

/-!
The reserved region of cros_gralloc_buffer (cros_gralloc_buffer.cc): the shared memory that
holds the buffer's mutable metadata, mapped on the first access by get_reserved_region and
cached in `reserved_region_addr_` until the destructor unmaps it. Every metadata accessor
(initialize_metadata and each getter and setter) goes through get_metadata, and the client
part through get_client_reserved_region; mmap's answer is part of each access, and the calls
to mmap and munmap are recorded.

The cache is the value of `reserved_region_addr_`, and a failed mmap stores MAP_FAILED
there before it is checked: from then on every access finds a non-null address and hands it
out. Over the whole life of a buffer whose region fd is valid, the ledger of calls is one mmap
of the region and, at destruction, one munmap of the address that mmap returned.
-/

namespace Minigbm.Gralloc

/-- The handle fields the region code reads: `fds[num_planes]` and `reserved_region_size`. -/
structure ReservedHandle where
  reservedRegionFd : Int
  reservedRegionSize : Nat
  deriving DecidableEq, Repr

inductive MemCall
  | mmap (size : Nat) (fd : Int)
  | munmap (addr size : Nat)
  deriving DecidableEq, Repr

/-- What one mmap call answers: the address it returns (MAP_FAILED when it fails) and errno,
which a failing mmap sets to a positive code. -/
structure MmapAnswer where
  addr : Nat
  errno : Nat
  errno_pos : 0 < errno
  deriving DecidableEq

/-- What get_reserved_region returns (`*addr` and `*size` only when it returns 0), the value
it leaves in `reserved_region_addr_`, and its calls. -/
structure RegionOutcome where
  ret : Int
  region : Option (Nat × Nat)
  regionAddr : Nat
  calls : List MemCall
  deriving DecidableEq, Repr

/-- cros_gralloc_buffer::get_reserved_region. -/
def getReservedRegion (hnd : ReservedHandle) (regionAddr : Nat) (answer : MmapAnswer) :
    RegionOutcome :=
  if hnd.reservedRegionFd < 0 then ⟨-einval, none, regionAddr, []⟩
  else if regionAddr = 0 then
    let call := MemCall.mmap hnd.reservedRegionSize hnd.reservedRegionFd
    let regionAddr := answer.addr
    if regionAddr = mapFailed then ⟨-answer.errno, none, regionAddr, [call]⟩
    else ⟨0, some (regionAddr, hnd.reservedRegionSize), regionAddr, [call]⟩
  else ⟨0, some (regionAddr, hnd.reservedRegionSize), regionAddr, []⟩

/-- sizeof(struct cros_gralloc_buffer_metadata): the 1024-byte name, the blend mode and
dataspace enums of 4 bytes, and the two cros_buffer_optional records, each a 4-byte tag and
its value (Cta861_3, two floats; Smpte2086, ten floats). -/
def metadataSize : Nat := 1024 + 4 + 4 + (4 + 2 * 4) + (4 + 10 * 4)

inductive RegionAccess
  /-- get_metadata, under initialize_metadata and every metadata getter and setter -/
  | metadata
  /-- get_client_reserved_region -/
  | clientRegion
  deriving DecidableEq, Repr

/-- What an access returns: its return value, the pointer and size it hands out, the value it
leaves in `reserved_region_addr_`, and its calls. -/
structure AccessOutcome where
  ret : Int
  pointer : Option (Nat × Nat)
  regionAddr : Nat
  calls : List MemCall
  deriving DecidableEq, Repr

/-- get_metadata: the region's start is the metadata struct; a null region is -1. -/
def getMetadata (hnd : ReservedHandle) (regionAddr : Nat) (answer : MmapAnswer) :
    AccessOutcome :=
  let r := getReservedRegion hnd regionAddr answer
  match r.region with
  | none => ⟨r.ret, none, r.regionAddr, r.calls⟩
  | some (addr, _) =>
    if addr = 0 then ⟨-1, none, r.regionAddr, r.calls⟩
    else ⟨0, some (addr, metadataSize), r.regionAddr, r.calls⟩

/-- get_client_reserved_region: what follows the metadata struct, in uint64 arithmetic. -/
def getClientReservedRegion (hnd : ReservedHandle) (regionAddr : Nat) (answer : MmapAnswer) :
    AccessOutcome :=
  let r := getReservedRegion hnd regionAddr answer
  match r.region with
  | none => ⟨r.ret, none, r.regionAddr, r.calls⟩
  | some (addr, size) =>
    ⟨0, some ((addr + metadataSize) % 2 ^ 64, (size + 2 ^ 64 - metadataSize) % 2 ^ 64),
      r.regionAddr, r.calls⟩

def regionAccess (hnd : ReservedHandle) (regionAddr : Nat) (answer : MmapAnswer) :
    RegionAccess → AccessOutcome
  | .metadata => getMetadata hnd regionAddr answer
  | .clientRegion => getClientReservedRegion hnd regionAddr answer

/-- A run of accesses, each with mmap's answer should it be called: the final
`reserved_region_addr_` and each access's outcome. -/
def runRegion (hnd : ReservedHandle) :
    Nat → List (RegionAccess × MmapAnswer) → Nat × List AccessOutcome
  | regionAddr, [] => (regionAddr, [])
  | regionAddr, (kind, answer) :: rest =>
    let out := regionAccess hnd regionAddr answer kind
    let after := runRegion hnd out.regionAddr rest
    (after.1, out :: after.2)

/-- The destructor's part: munmap of whatever non-null value the cache holds. -/
def destroyRegion (hnd : ReservedHandle) (regionAddr : Nat) : List MemCall :=
  if regionAddr ≠ 0 then [.munmap regionAddr hnd.reservedRegionSize] else []

section Cached
variable {hnd : ReservedHandle} {regionAddr : Nat}

theorem regionAccess_cached (valid : 0 ≤ hnd.reservedRegionFd) (filled : regionAddr ≠ 0)
    (answer : MmapAnswer) (kind : RegionAccess) :
    let out := regionAccess hnd regionAddr answer kind
    out.ret = 0 ∧ out.calls = [] ∧ out.regionAddr = regionAddr ∧
      (kind = .metadata → out.pointer = some (regionAddr, metadataSize)) := by
  have fd : ¬ hnd.reservedRegionFd < 0 := by omega
  cases kind <;>
    simp [regionAccess, getMetadata, getClientReservedRegion, getReservedRegion, fd, filled]

theorem getMetadata_cached (valid : 0 ≤ hnd.reservedRegionFd) (filled : regionAddr ≠ 0)
    (answer : MmapAnswer) :
    getMetadata hnd regionAddr answer = ⟨0, some (regionAddr, metadataSize), regionAddr, []⟩ := by
  have fd : ¬ hnd.reservedRegionFd < 0 := by omega
  simp [getMetadata, getReservedRegion, fd, filled]

theorem runRegion_cached (valid : 0 ≤ hnd.reservedRegionFd) (filled : regionAddr ≠ 0)
    (accesses : List (RegionAccess × MmapAnswer)) :
    let run := runRegion hnd regionAddr accesses
    run.1 = regionAddr ∧
      (∀ out ∈ run.2, out.ret = 0 ∧ out.calls = [] ∧ out.regionAddr = regionAddr) ∧
      destroyRegion hnd run.1 = [.munmap regionAddr hnd.reservedRegionSize] := by
  induction accesses with
  | nil => simp [runRegion, destroyRegion, filled]
  | cons access rest ih =>
    obtain ⟨kind, answer⟩ := access
    obtain ⟨ret, calls, kept, -⟩ := regionAccess_cached valid filled answer kind
    simp only [runRegion, kept, List.mem_cons, forall_eq_or_imp]
    exact ⟨ih.1, ⟨⟨ret, calls, trivial⟩, ih.2.1⟩, ih.2.2⟩

/-- A failed mmap is answered with -errno but leaves MAP_FAILED in the cache: every later
access of the run then succeeds with it and maps nothing, and the destructor munmaps it. -/
theorem runRegion_failed_map (valid : 0 ≤ hnd.reservedRegionFd) {answer : MmapAnswer}
    (failed : answer.addr = mapFailed) (kind : RegionAccess)
    (rest : List (RegionAccess × MmapAnswer)) :
    let run := runRegion hnd 0 ((kind, answer) :: rest)
    run.2.head?.map AccessOutcome.ret = some (-(answer.errno : Int)) ∧
      (∀ out ∈ run.2.tail, out.ret = 0 ∧ out.calls = [] ∧ out.regionAddr = mapFailed) ∧
      destroyRegion hnd run.1 = [.munmap mapFailed hnd.reservedRegionSize] := by
  have fd : ¬ hnd.reservedRegionFd < 0 := by omega
  have first : (regionAccess hnd 0 answer kind).ret = -answer.errno ∧
      (regionAccess hnd 0 answer kind).regionAddr = mapFailed := by
    cases kind <;>
      simp [regionAccess, getMetadata, getClientReservedRegion, getReservedRegion, fd, failed]
  obtain ⟨final, outs, unmapped⟩ := runRegion_cached valid (by decide : mapFailed ≠ 0) rest
  simp only [runRegion, first.2, List.head?_cons, Option.map_some', List.tail_cons]
  exact ⟨by rw [first.1], outs, final ▸ unmapped⟩

theorem regionAccess_noRegion (noRegion : hnd.reservedRegionFd < 0) (answer : MmapAnswer)
    (kind : RegionAccess) : regionAccess hnd regionAddr answer kind = ⟨-einval, none, regionAddr, []⟩ := by
  cases kind <;> simp [regionAccess, getMetadata, getClientReservedRegion, getReservedRegion, noRegion]

theorem regionAccess_first (valid : 0 ≤ hnd.reservedRegionFd) (answer : MmapAnswer)
    (kind : RegionAccess) :
    (regionAccess hnd 0 answer kind).calls = [.mmap hnd.reservedRegionSize hnd.reservedRegionFd] ∧
      (regionAccess hnd 0 answer kind).regionAddr = answer.addr := by
  have fd : ¬ hnd.reservedRegionFd < 0 := by omega
  cases kind <;> simp only [regionAccess, getMetadata, getClientReservedRegion, getReservedRegion,
    fd, ↓reduceIte] <;> split_ifs <;> simp [apply_ite AccessOutcome.calls,
      apply_ite AccessOutcome.regionAddr]

theorem runRegion_noRegion (noRegion : hnd.reservedRegionFd < 0) (regionAddr : Nat)
    (accesses : List (RegionAccess × MmapAnswer)) :
    (runRegion hnd regionAddr accesses).1 = regionAddr ∧
      ∀ out ∈ (runRegion hnd regionAddr accesses).2, out.calls = [] := by
  induction accesses with
  | nil => simp [runRegion]
  | cons access rest ih =>
    simp only [runRegion, regionAccess_noRegion noRegion, List.mem_cons, forall_eq_or_imp]
    exact ⟨ih.1, trivial, ih.2⟩

end Cached

/-- Over a buffer's whole life, from the constructor's null `reserved_region_addr_` through any
run of region accesses to the destructor, and as long as mmap never answers NULL: a handle
without a reserved region, or a buffer whose region nothing reached, makes no memory call;
otherwise the first access makes the one mmap of the life and the destructor the one munmap, of
the address that mmap returned, MAP_FAILED included. -/
theorem region_lifecycle_calls (hnd : ReservedHandle) (accesses : List (RegionAccess × MmapAnswer))
    (nonNull : ∀ access ∈ accesses, access.2.addr ≠ 0) :
    let run := runRegion hnd 0 accesses
    let calls := run.2.flatMap AccessOutcome.calls ++ destroyRegion hnd run.1
    (calls = [] ∧ (hnd.reservedRegionFd < 0 ∨ accesses = [])) ∨
      ∃ kind answer rest, accesses = (kind, answer) :: rest ∧ 0 ≤ hnd.reservedRegionFd ∧
        calls = [.mmap hnd.reservedRegionSize hnd.reservedRegionFd,
          .munmap answer.addr hnd.reservedRegionSize] := by
  by_cases noRegion : hnd.reservedRegionFd < 0
  · obtain ⟨final, outs⟩ := runRegion_noRegion noRegion 0 accesses
    refine .inl ⟨?_, .inl noRegion⟩
    simp only [final, destroyRegion, ne_eq, not_true_eq_false, ↓reduceIte, List.append_nil,
      List.flatMap_eq_nil_iff]
    exact outs
  · have valid : 0 ≤ hnd.reservedRegionFd := by omega
    cases accesses with
    | nil => exact .inl ⟨by simp [runRegion, destroyRegion], .inr rfl⟩
    | cons first rest =>
      obtain ⟨kind, answer⟩ := first
      obtain ⟨mapped, cached⟩ := regionAccess_first valid answer kind
      obtain ⟨final, outs, unmapped⟩ :=
        runRegion_cached valid (nonNull _ (List.mem_cons_self _ _)) rest
      refine .inr ⟨kind, answer, rest, rfl, valid, ?_⟩
      have quiet : (runRegion hnd answer.addr rest).2.flatMap AccessOutcome.calls = [] :=
        List.flatMap_eq_nil_iff.mpr fun out member => (outs out member).2.1
      simp only [runRegion, cached, List.flatMap_cons, mapped, quiet, unmapped]
      rfl

theorem region_lifecycle_calls_two_accesses :
    let hnd : ReservedHandle := ⟨3, 4096⟩
    let accesses : List (RegionAccess × MmapAnswer) :=
      [(.metadata, ⟨0x7F0000000000, 1, by decide⟩), (.clientRegion, ⟨0x7F0000100000, 1, by decide⟩)]
    (∀ access ∈ accesses, access.2.addr ≠ 0) ∧
      let run := runRegion hnd 0 accesses
      let calls := run.2.flatMap AccessOutcome.calls ++ destroyRegion hnd run.1
      (calls = [] ∧ (hnd.reservedRegionFd < 0 ∨ accesses = [])) ∨
        ∃ kind answer rest, accesses = (kind, answer) :: rest ∧ 0 ≤ hnd.reservedRegionFd ∧
          calls = [.mmap hnd.reservedRegionSize hnd.reservedRegionFd,
            .munmap answer.addr hnd.reservedRegionSize] :=
  ⟨by decide, region_lifecycle_calls _ _ (by decide)⟩

theorem runRegion_failed_map_enomem :
    let hnd : ReservedHandle := ⟨3, 4096⟩
    let answer : MmapAnswer := ⟨mapFailed, 12, by decide⟩
    0 ≤ hnd.reservedRegionFd ∧ answer.addr = mapFailed ∧
      let run := runRegion hnd 0
        ((.metadata, answer) :: [(.clientRegion, answer), (.clientRegion, answer)])
      run.2.head?.map AccessOutcome.ret = some (-(answer.errno : Int)) ∧
        (∀ out ∈ run.2.tail, out.ret = 0 ∧ out.calls = [] ∧ out.regionAddr = mapFailed) ∧
        destroyRegion hnd run.1 = [.munmap mapFailed hnd.reservedRegionSize] :=
  ⟨by decide, rfl, runRegion_failed_map (by decide) rfl .metadata _⟩

/-- The first access of a buffer whose mmap fails with ENOMEM returns -ENOMEM but leaves
MAP_FAILED in the cache; the next access makes no mmap call and returns 0 with MAP_FAILED as
the metadata pointer, and the destructor munmaps MAP_FAILED. -/
theorem reserved_region_map_failed_cached :
    let hnd : ReservedHandle := ⟨3, 4096⟩
    let run := runRegion hnd 0
      [(.metadata, ⟨mapFailed, 12, by decide⟩), (.metadata, ⟨0x7F0000000000, 1, by decide⟩)]
    run.2.map AccessOutcome.ret = [-12, 0] ∧
      run.2.map AccessOutcome.pointer = [none, some (mapFailed, metadataSize)] ∧
      run.2.map AccessOutcome.calls = [[.mmap 4096 3], []] ∧
      destroyRegion hnd run.1 = [.munmap mapFailed 4096] := by
  decide

/-! Neither get_metadata nor get_client_reserved_region compares reserved_region_size with the
size of the metadata struct. -/

/-- A handle with reserved-region fd 3 and a reserved_region_size of 16 bytes, which mmap maps:
get_metadata returns 0 with the 1088-byte struct at the region's start, and
get_client_reserved_region returns 0 with a client size that wrapped to 2^64 - 1072. -/
theorem reserved_region_too_small :
    let hnd : ReservedHandle := ⟨3, 16⟩
    let answer : MmapAnswer := ⟨0x7F0000000000, 1, by decide⟩
    metadataSize = 1088 ∧ (getMetadata hnd 0 answer).ret = 0 ∧
      (getMetadata hnd 0 answer).pointer = some (0x7F0000000000, 1088) ∧
      (getClientReservedRegion hnd 0 answer).ret = 0 ∧
      (getClientReservedRegion hnd 0 answer).pointer = some (0x7F0000000440, 2 ^ 64 - 1072) := by
  decide

end Minigbm.Gralloc
