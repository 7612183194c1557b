import Minigbm.Drv.Defs

/-!
The lock state of cros_gralloc_buffer (cros_gralloc_buffer.cc): `lockcount_` and
`lock_data_[0]`, driven by lock, unlock, invalidate and flush. The driver entry points these
call (drv_bo_map, drv_bo_invalidate, drv_bo_flush and drv_bo_flush_or_unmap of drv.c, not
under src/) are recorded as calls, and what the driver answers is part of the operation:
drv_bo_map's mapping or MAP_FAILED, and what drv_bo_invalidate or drv_bo_flush returns.

A run is a list of operations from the constructor's state. Each operation is checked
against what the buffer promises (`StepSound`), and the run keeps the count of outstanding
locks, the invariant `LockInvariant`, and the ledger of mappings obtained and released.
-/

namespace Minigbm.Gralloc

structure Rectangle where
  x : Nat
  y : Nat
  width : Nat
  height : Nat
  deriving DecidableEq, Repr

/-- `MAP_FAILED`, `(void *)-1` on a 64-bit target. -/
def mapFailed : Nat := 2 ^ 64 - 1

/-- A struct mapping of drv_priv.h, by its identity and its `vma->addr`. A mapping exists only
once drv_bo_map has succeeded, so its address is never MAP_FAILED. -/
structure Mapping where
  id : Nat
  addr : Nat
  addr_ne : addr ≠ mapFailed
  deriving DecidableEq

/-- What lock reads of the bo and the handle: drv_bo_get_width, drv_bo_get_height,
`hnd_->num_planes` and drv_bo_get_plane_offset. -/
structure BoView where
  width : Nat
  height : Nat
  numPlanes : Nat
  planeOffset : Nat → Nat

/-- The lock members of cros_gralloc_buffer: `lockcount_` and `lock_data_[0]` (the
constructor nulls the other entries and nothing writes them). -/
structure LockState where
  lockcount : Int
  lockData : Option Mapping
  deriving DecidableEq

/-- The state the constructor leaves. -/
def LockState.init : LockState := ⟨0, none⟩

inductive DrvCall
  | map (rect : Rectangle) (mapFlags : Nat)
  | invalidate (mapping : Mapping)
  | flush (mapping : Mapping)
  | flushOrUnmap (mapping : Mapping)
  deriving DecidableEq

@[simp] def DrvCall.isMap : DrvCall → Bool
  | .map .. => true
  | _ => false

/-- An operation with the driver's answers to it: `mapped` is drv_bo_map's mapping if lock
calls it (none for MAP_FAILED), `driverRet` what drv_bo_invalidate or drv_bo_flush returns. -/
inductive LockOp
  | lock (rect : Rectangle) (mapFlags : Nat) (mapped : Option Mapping)
  | unlock
  | invalidate (driverRet : Int)
  | flush (driverRet : Int)
  deriving DecidableEq

@[simp] def LockOp.isLock : LockOp → Bool
  | .lock .. => true
  | _ => false

/-- What an operation returns, the driver calls it makes and the state it leaves. `addrs`
is lock's `addr` array; the other operations leave it empty. -/
structure Outcome where
  ret : Int
  addrs : List Nat
  calls : List DrvCall
  state : LockState

def drvMaxPlanes : Nat := 4

/-- int32_t arithmetic. Signed overflow is undefined in C; the model wraps, as the compiled
code does. -/
def int32Wrap (x : Int) : Int := (x + 2 ^ 31) % 2 ^ 32 - 2 ^ 31

/-- lock's `addr` array: zeroed, then `vaddr` plus the plane's offset for each plane below the
handle's num_planes. The loop does not stop at DRV_MAX_PLANES: for a handle with more planes
its writes past the array are the entries after the fourth. -/
def planeAddrs (bo : BoView) (vaddr : Nat) : List Nat :=
  (List.range (max drvMaxPlanes bo.numPlanes)).map fun plane =>
    if plane < bo.numPlanes then (vaddr + bo.planeOffset plane) % 2 ^ 64 else 0

theorem planeAddrs_length (bo : BoView) (vaddr : Nat) :
    (planeAddrs bo vaddr).length = max drvMaxPlanes bo.numPlanes := by
  simp [planeAddrs]

/-- An all-zero rectangle means the whole buffer (Android IMapper.hal). -/
def accessRegion (bo : BoView) (rect : Rectangle) : Rectangle :=
  if rect.width = 0 ∧ rect.height = 0 ∧ rect.x = 0 ∧ rect.y = 0 then
    { rect with width := bo.width, height := bo.height }
  else rect

/-- The end of lock once `vaddr` is known: MAP_FAILED fails with -EFAULT and leaves the
state; otherwise the plane addresses, one more lock, and the mapping to keep. -/
def lockFinish (bo : BoView) (s : LockState) (vaddr : Nat) (calls : List DrvCall)
    (lockData : Option Mapping) : Outcome :=
  if vaddr = mapFailed then ⟨-efault, List.replicate drvMaxPlanes 0, calls, s⟩
  else ⟨0, planeAddrs bo vaddr, calls, ⟨int32Wrap (s.lockcount + 1), lockData⟩⟩

/-- cros_gralloc_buffer::lock. An existing mapping is invalidated and reused; otherwise
drv_bo_map is called, which on failure leaves `lock_data_[0]` null. With no map flags
`vaddr` stays nullptr. -/
def lock (bo : BoView) (s : LockState) (rect : Rectangle) (mapFlags : Nat)
    (mapped : Option Mapping) : Outcome :=
  if mapFlags ≠ 0 then
    match s.lockData with
    | some m => lockFinish bo s m.addr [.invalidate m] (some m)
    | none =>
      lockFinish bo s ((mapped.map Mapping.addr).getD mapFailed)
        [.map (accessRegion bo rect) mapFlags] mapped
  else lockFinish bo s 0 [] s.lockData

/-- cros_gralloc_buffer::unlock: the last unlock flushes or unmaps the mapping and clears
it. -/
def unlock (s : LockState) : Outcome :=
  if s.lockcount ≤ 0 then ⟨-einval, [], [], s⟩
  else
    let lockcount := s.lockcount - 1
    if lockcount = 0 then
      match s.lockData with
      | some m => ⟨0, [], [.flushOrUnmap m], ⟨lockcount, none⟩⟩
      | none => ⟨0, [], [], ⟨lockcount, none⟩⟩
    else ⟨0, [], [], ⟨lockcount, s.lockData⟩⟩

/-- invalidate and flush: not locked is -EINVAL; with a mapping, the driver's call and its
return value; with none, 0. -/
def lockedDriverCall (call : Mapping → DrvCall) (s : LockState) (driverRet : Int) : Outcome :=
  if s.lockcount ≤ 0 then ⟨-einval, [], [], s⟩
  else
    match s.lockData with
    | some m => ⟨driverRet, [], [call m], s⟩
    | none => ⟨0, [], [], s⟩

/-- cros_gralloc_buffer::invalidate. -/
def invalidate (s : LockState) (driverRet : Int) : Outcome :=
  lockedDriverCall DrvCall.invalidate s driverRet

/-- cros_gralloc_buffer::flush. -/
def flush (s : LockState) (driverRet : Int) : Outcome :=
  lockedDriverCall DrvCall.flush s driverRet

def step (bo : BoView) (s : LockState) : LockOp → Outcome
  | .lock rect mapFlags mapped => lock bo s rect mapFlags mapped
  | .unlock => unlock s
  | .invalidate driverRet => invalidate s driverRet
  | .flush driverRet => flush s driverRet

/-- One operation of a run: the state before it, the operation, and its outcome. -/
structure Step where
  pre : LockState
  op : LockOp
  out : Outcome

/-- A run of operations: the final state and the steps taken. -/
def run (bo : BoView) : LockState → List LockOp → LockState × List Step
  | s, [] => (s, [])
  | s, op :: ops =>
    let rest := run bo (step bo s op).state ops
    (rest.1, ⟨s, op, step bo s op⟩ :: rest.2)

def Step.delta (e : Step) : Int :=
  match e.op with
  | .lock .. => if e.out.ret = 0 then 1 else 0
  | .unlock => if e.out.ret = 0 then -1 else 0
  | _ => 0

/-- Successful locks minus successful unlocks. -/
def outstanding : List Step → Int
  | [] => 0
  | e :: rest => e.delta + outstanding rest

/-- The mapping drv_bo_map handed out in this step, if it was called and succeeded. -/
def Step.obtained (e : Step) : List Mapping :=
  match e.op with
  | .lock _ _ mapped => if e.out.calls.any DrvCall.isMap then mapped.toList else []
  | _ => []

/-- The mapping a call hands back to the driver: drv_bo_flush_or_unmap's. -/
@[simp] def DrvCall.released : DrvCall → Option Mapping
  | .flushOrUnmap m => some m
  | _ => none

/-- The mappings this step passed to drv_bo_flush_or_unmap. -/
def Step.released (e : Step) : List Mapping := e.out.calls.filterMap DrvCall.released

/-- What the buffer promises of every operation: drv_bo_map only without a mapping; a
mapping released only by the unlock that brings the count to 0; unlock, invalidate and
flush refused with -EINVAL and no driver call exactly when nothing is locked; a failure
changes nothing. -/
structure StepSound (e : Step) : Prop where
  map_unmapped : e.out.calls.any DrvCall.isMap → e.pre.lockData = none
  release_last : ∀ m, DrvCall.flushOrUnmap m ∈ e.out.calls →
    e.op = .unlock ∧ e.pre.lockData = some m ∧ e.out.state.lockcount = 0
  not_locked : e.op.isLock = false →
    (e.out.ret = -einval ∧ e.out.calls = [] ↔ e.pre.lockcount = 0)
  failed_unchanged : e.out.ret ≠ 0 → e.out.state = e.pre

/-- The lock state's invariant: the count is never negative and a mapping is held only
while locked. -/
structure LockInvariant (s : LockState) : Prop where
  nonneg : 0 ≤ s.lockcount
  mapped_locked : s.lockData ≠ none → 0 < s.lockcount

theorem LockState.init_inv : LockInvariant LockState.init := ⟨Int.le_refl 0, fun h => absurd rfl h⟩

theorem LockInvariant.idle {s : LockState} (inv : LockInvariant s) (zero : s.lockcount = 0) :
    s = LockState.init := by
  obtain ⟨lockcount, lockData⟩ := s
  cases lockData with
  | none => simp_all [LockState.init]
  | some m => exact absurd (inv.mapped_locked (by simp)) (by simp_all)

theorem int32Wrap_of_lt {x : Int} (lo : -2 ^ 31 ≤ x) (hi : x < 2 ^ 31) : int32Wrap x = x := by
  unfold int32Wrap
  rw [Int.emod_eq_of_lt (by omega) (by omega)]
  omega

/-- What one step does to the ledger, given the invariant before it. -/
structure StepAccounts (e : Step) : Prop where
  count : e.out.state.lockcount = e.pre.lockcount + e.delta
  invariant : LockInvariant e.out.state
  mappings : e.pre.lockData.toList ++ e.obtained = e.released ++ e.out.state.lockData.toList
  sound : StepSound e

theorem Step.no_flushOrUnmap {e : Step} (released : e.released = []) (m : Mapping) :
    DrvCall.flushOrUnmap m ∉ e.out.calls := fun call => by
  have kept : m ∈ e.released := List.mem_filterMap.mpr ⟨_, call, rfl⟩
  rw [released] at kept
  exact List.not_mem_nil m kept

theorem StepAccounts.of_kept {e : Step} (inv : LockInvariant e.pre) (kept : e.out.state = e.pre)
    (delta : e.delta = 0) (obtained : e.obtained = []) (released : e.released = [])
    (map_unmapped : e.out.calls.any DrvCall.isMap → e.pre.lockData = none)
    (not_locked : e.op.isLock = false →
      (e.out.ret = -einval ∧ e.out.calls = [] ↔ e.pre.lockcount = 0)) :
    StepAccounts e :=
  ⟨by rw [kept, delta, Int.add_zero], kept ▸ inv,
    by rw [kept, obtained, released, List.append_nil, List.nil_append],
    ⟨map_unmapped, fun m call => absurd call (Step.no_flushOrUnmap released m), not_locked,
      fun _ => kept⟩⟩

theorem StepAccounts.of_locked {e : Step} {rect : Rectangle} {mapFlags : Nat}
    {mapped : Option Mapping} (inv : LockInvariant e.pre) (op : e.op = .lock rect mapFlags mapped)
    (ok : e.out.ret = 0) (counted : e.out.state.lockcount = e.pre.lockcount + 1)
    (mappings : e.pre.lockData.toList ++ e.obtained = e.out.state.lockData.toList)
    (released : e.released = [])
    (map_unmapped : e.out.calls.any DrvCall.isMap → e.pre.lockData = none) :
    StepAccounts e := by
  have delta : e.delta = 1 := by simp [Step.delta, op, ok]
  refine ⟨by rw [counted, delta], ⟨by have := inv.nonneg; omega, fun _ => by
    have := inv.nonneg; omega⟩, by rw [mappings, released]; rfl,
    ⟨map_unmapped, fun m call => absurd call (Step.no_flushOrUnmap released m),
      fun notLock => by simp [op] at notLock, fun failed => absurd ok failed⟩⟩

section Steps
variable {bo : BoView} {s : LockState}

theorem lock_accounts (inv : LockInvariant s) (rect : Rectangle) (mapFlags : Nat)
    (mapped : Option Mapping)
    (noWrap : (lock bo s rect mapFlags mapped).ret = 0 → s.lockcount + 1 < 2 ^ 31) :
    StepAccounts ⟨s, .lock rect mapFlags mapped, lock bo s rect mapFlags mapped⟩ := by
  have wrap : s.lockcount + 1 < 2 ^ 31 → int32Wrap (s.lockcount + 1) = s.lockcount + 1 :=
    int32Wrap_of_lt (by have := inv.nonneg; omega)
  by_cases flags : mapFlags = 0
  · -- no map flags: vaddr stays null and the lock succeeds
    have null : (0 : Nat) ≠ mapFailed := by decide
    have out : lock bo s rect mapFlags mapped =
        ⟨0, planeAddrs bo 0, [], ⟨int32Wrap (s.lockcount + 1), s.lockData⟩⟩ := by
      simp [lock, lockFinish, flags, null]
    rw [out] at noWrap ⊢
    exact StepAccounts.of_locked inv rfl rfl (wrap (noWrap rfl)) (by simp [Step.obtained]) rfl
      (by simp)
  cases held : s.lockData with
  | some m =>
    -- an existing mapping is invalidated and reused
    have out : lock bo s rect mapFlags mapped =
        ⟨0, planeAddrs bo m.addr, [.invalidate m], ⟨int32Wrap (s.lockcount + 1), some m⟩⟩ := by
      simp [lock, lockFinish, flags, held, m.addr_ne]
    rw [out] at noWrap ⊢
    exact StepAccounts.of_locked inv rfl rfl (wrap (noWrap rfl))
      (by simp [Step.obtained, held]) rfl (by simp)
  | none =>
    cases mapped with
    | none =>
      -- drv_bo_map fails: -EFAULT, nothing changes
      have out : lock bo s rect mapFlags none =
          ⟨-efault, List.replicate drvMaxPlanes 0, [.map (accessRegion bo rect) mapFlags], s⟩ := by
        simp [lock, lockFinish, flags, held]
      rw [out]
      exact StepAccounts.of_kept inv rfl (by simp [Step.delta, efault]) (by simp [Step.obtained])
        rfl (fun _ => held) (by simp)
    | some m =>
      -- drv_bo_map succeeds and the mapping is kept
      have out : lock bo s rect mapFlags (some m) =
          ⟨0, planeAddrs bo m.addr, [.map (accessRegion bo rect) mapFlags],
            ⟨int32Wrap (s.lockcount + 1), some m⟩⟩ := by
        simp [lock, lockFinish, flags, held, m.addr_ne]
      rw [out] at noWrap ⊢
      exact StepAccounts.of_locked inv rfl rfl (wrap (noWrap rfl))
        (by simp [Step.obtained, held]) rfl (fun _ => held)

theorem unlock_accounts (inv : LockInvariant s) : StepAccounts ⟨s, .unlock, unlock s⟩ := by
  have nonneg := inv.nonneg
  by_cases idle : s.lockcount ≤ 0
  · -- not locked: -EINVAL, nothing changes
    have out : unlock s = ⟨-einval, [], [], s⟩ := by simp [unlock, idle]
    rw [out]
    exact StepAccounts.of_kept inv rfl (by simp [Step.delta, einval]) rfl rfl (by simp)
      fun _ => by simp; omega
  by_cases last : s.lockcount - 1 = 0
  · cases held : s.lockData with
    | some m =>
      -- the last unlock hands the mapping back
      have out : unlock s = ⟨0, [], [.flushOrUnmap m], ⟨0, none⟩⟩ := by
        simp [unlock, idle, last, held]
      rw [out]
      refine ⟨by simp [Step.delta]; omega, ⟨Int.le_refl 0, fun h => absurd rfl h⟩,
        by simp [Step.obtained, Step.released, held], ⟨by simp, fun m' call => ?_,
          fun _ => by simp [einval]; omega, fun failed => absurd rfl failed⟩⟩
      simp only [List.mem_singleton, DrvCall.flushOrUnmap.injEq] at call
      exact ⟨rfl, call ▸ held, rfl⟩
    | none =>
      have out : unlock s = ⟨0, [], [], ⟨0, none⟩⟩ := by simp [unlock, idle, last, held]
      rw [out]
      refine ⟨by simp [Step.delta]; omega, ⟨Int.le_refl 0, fun h => absurd rfl h⟩,
        by simp [Step.obtained, Step.released, held], ⟨by simp, by simp,
          fun _ => by simp [einval]; omega, fun failed => absurd rfl failed⟩⟩
  · -- an inner unlock: one lock fewer, the mapping kept
    have out : unlock s = ⟨0, [], [], ⟨s.lockcount - 1, s.lockData⟩⟩ := by
      simp [unlock, idle, last]
    rw [out]
    refine ⟨by simp [Step.delta]; omega, ⟨by simp; omega, fun _ => by simp; omega⟩,
      by simp [Step.obtained, Step.released], ⟨by simp, by simp,
        fun _ => by simp [einval]; omega, fun failed => absurd rfl failed⟩⟩

theorem lockedDriverCall_accounts (inv : LockInvariant s) {call : Mapping → DrvCall} {op : LockOp}
    (driverRet : Int) (other : op.isLock = false ∧ op ≠ .unlock)
    (notMap : ∀ m, (call m).isMap = false) (notRelease : ∀ m, (call m).released = none) :
    StepAccounts ⟨s, op, lockedDriverCall call s driverRet⟩ := by
  have nonneg := inv.nonneg
  -- neither a lock nor an unlock: nothing counted, nothing obtained
  have delta : ∀ out, Step.delta ⟨s, op, out⟩ = 0 := fun out => by
    cases op with
    | lock => simp at other
    | unlock => exact absurd rfl other.2
    | invalidate | flush => rfl
  have obtained : ∀ out, Step.obtained ⟨s, op, out⟩ = [] := fun out => by
    cases op with
    | lock => simp at other
    | _ => rfl
  by_cases idle : s.lockcount ≤ 0
  · have out : lockedDriverCall call s driverRet = ⟨-einval, [], [], s⟩ := by
      simp [lockedDriverCall, idle]
    rw [out]
    exact StepAccounts.of_kept inv rfl (delta _) (obtained _) rfl (by simp)
      fun _ => by simp; omega
  cases held : s.lockData with
  | some m =>
    have out : lockedDriverCall call s driverRet = ⟨driverRet, [], [call m], s⟩ := by
      simp [lockedDriverCall, idle, held]
    rw [out]
    exact StepAccounts.of_kept inv rfl (delta _) (obtained _)
      (by simp only [Step.released, List.filterMap_cons, notRelease, List.filterMap_nil])
      (fun any => absurd any (by simp only [List.any_cons, List.any_nil, notMap]; decide))
      fun _ => by simp; omega
  | none =>
    have out : lockedDriverCall call s driverRet = ⟨0, [], [], s⟩ := by
      simp [lockedDriverCall, idle, held]
    rw [out]
    exact StepAccounts.of_kept inv rfl (delta _) (obtained _) rfl (by simp)
      fun _ => by simp [einval]; omega

theorem step_accounts (inv : LockInvariant s) (op : LockOp)
    (noWrap : s.lockcount + Step.delta ⟨s, op, step bo s op⟩ < 2 ^ 31) :
    StepAccounts ⟨s, op, step bo s op⟩ := by
  cases op with
  | lock rect mapFlags mapped =>
    refine lock_accounts inv rect mapFlags mapped fun ok => ?_
    simpa [Step.delta, step, ok] using noWrap
  | unlock => exact unlock_accounts inv
  | invalidate driverRet =>
    exact lockedDriverCall_accounts inv driverRet (by simp [LockOp.isLock])
      (fun _ => rfl) (fun _ => rfl)
  | flush driverRet =>
    exact lockedDriverCall_accounts inv driverRet (by simp [LockOp.isLock])
      (fun _ => rfl) (fun _ => rfl)

end Steps

theorem run_accounts (bo : BoView) (ops : List LockOp) {s : LockState} (inv : LockInvariant s)
    (bounded : ∀ n ≤ ops.length, s.lockcount + outstanding ((run bo s ops).2.take n) < 2 ^ 31) :
    (run bo s ops).1.lockcount = s.lockcount + outstanding (run bo s ops).2 ∧
      LockInvariant (run bo s ops).1 ∧
      s.lockData.toList ++ (run bo s ops).2.flatMap Step.obtained =
        (run bo s ops).2.flatMap Step.released ++ (run bo s ops).1.lockData.toList ∧
      ∀ e ∈ (run bo s ops).2, StepSound e := by
  induction ops generalizing s with
  | nil => simp [run, outstanding, inv]
  | cons op ops ih =>
    have first := bounded 1 (by simp)
    simp only [run, List.take, outstanding, Int.add_zero] at first
    obtain ⟨count, inv', ledger, sound⟩ := @step_accounts bo s inv op first
    dsimp only at count inv' ledger
    obtain ⟨restCount, restInv, restLedger, restSound⟩ := ih inv' fun n short => by
      have upTo := bounded (n + 1) (by simp; omega)
      simp only [run, List.take_succ_cons, outstanding] at upTo
      omega
    refine ⟨?_, restInv, ?_, ?_⟩
    · simp only [run, outstanding]
      omega
    · simp only [run, List.flatMap_cons, ← List.append_assoc, ledger]
      simp only [List.append_assoc, restLedger]
    · simpa [run] using ⟨sound, restSound⟩

/-- What a run from the constructor keeps: the count is the successful locks minus the
successful unlocks; the invariant; an idle buffer is back in the constructor's state; every
mapping obtained is released once, in order, or still held; every step is sound. -/
structure RunSound (final : LockState) (trace : List Step) : Prop where
  count : final.lockcount = outstanding trace
  invariant : LockInvariant final
  idle : final.lockcount = 0 → final = LockState.init
  ledger : trace.flatMap Step.obtained = trace.flatMap Step.released ++ final.lockData.toList
  steps : ∀ e ∈ trace, StepSound e

theorem lock_run_sound (bo : BoView) (ops : List LockOp)
    (bounded : ∀ n ≤ ops.length, outstanding ((run bo LockState.init ops).2.take n) < 2 ^ 31) :
    RunSound (run bo LockState.init ops).1 (run bo LockState.init ops).2 := by
  obtain ⟨count, inv, ledger, steps⟩ :=
    run_accounts bo ops LockState.init_inv (by simpa [LockState.init] using bounded)
  exact ⟨by simpa [LockState.init] using count, inv, inv.idle,
    by simpa [LockState.init] using ledger, steps⟩

theorem lock_run_sound_remap :
    let bo : BoView := ⟨64, 64, 1, fun _ => 0⟩
    let ops := [LockOp.lock ⟨0, 0, 0, 0⟩ 1 none, .lock ⟨0, 0, 0, 0⟩ 1 (some ⟨7, 4096, by decide⟩),
      .lock ⟨0, 0, 8, 8⟩ 0 none, .invalidate 0, .unlock, .unlock, .flush 0, .unlock]
    (∀ n ≤ ops.length, outstanding ((run bo LockState.init ops).2.take n) < 2 ^ 31) ∧
      RunSound (run bo LockState.init ops).1 (run bo LockState.init ops).2 :=
  ⟨by decide, lock_run_sound _ _ (by decide)⟩

/-! While a buffer stays locked, the mapping its first CPU lock obtained stays, and every later
CPU lock hands out its addresses. -/

section Mapping
variable {bo : BoView} {s : LockState} {m : Mapping}

theorem run_append (bo : BoView) (s : LockState) (xs ys : List LockOp) :
    (run bo s (xs ++ ys)).1 = (run bo (run bo s xs).1 ys).1 := by
  induction xs generalizing s with
  | nil => rfl
  | cons op rest ih => exact ih _

theorem lock_holds_mapping {rect : Rectangle} {mapFlags : Nat} {mapped : Option Mapping}
    (cpu : mapFlags ≠ 0) (ok : (lock bo s rect mapFlags mapped).ret = 0) :
    ∃ m, (lock bo s rect mapFlags mapped).state.lockData = some m ∧
      (lock bo s rect mapFlags mapped).addrs = planeAddrs bo m.addr ∧
      (s.lockData = some m ∨ mapped = some m) := by
  cases held : s.lockData with
  | some m => exact ⟨m, by simp [lock, lockFinish, cpu, held, m.addr_ne]⟩
  | none =>
    cases mapped with
    | none => simp [lock, lockFinish, cpu, held, efault] at ok
    | some m => exact ⟨m, by simp [lock, lockFinish, cpu, held, m.addr_ne]⟩

theorem lock_reuses_mapping {rect : Rectangle} {mapFlags : Nat} {mapped : Option Mapping}
    (cpu : mapFlags ≠ 0) (held : s.lockData = some m) :
    (lock bo s rect mapFlags mapped).ret = 0 ∧
      (lock bo s rect mapFlags mapped).addrs = planeAddrs bo m.addr := by
  simp [lock, lockFinish, cpu, held, m.addr_ne]

theorem step_keeps_mapping (held : s.lockData = some m) (op : LockOp)
    (positive : 0 < (step bo s op).state.lockcount) : (step bo s op).state.lockData = some m := by
  cases op with
  | lock rect mapFlags mapped =>
    have null : (0 : Nat) ≠ mapFailed := by decide
    by_cases cpu : mapFlags = 0
    · simp [step, lock, lockFinish, cpu, held, null]
    · simp [step, lock, lockFinish, cpu, held, m.addr_ne]
  | unlock =>
    simp only [step, unlock] at positive ⊢
    split_ifs at positive ⊢ with idle last
    · exact held
    · simp [held, last] at positive
    · exact held
  | invalidate driverRet =>
    simp only [step, invalidate, lockedDriverCall, held]
    split_ifs <;> exact held
  | flush driverRet =>
    simp only [step, flush, lockedDriverCall, held]
    split_ifs <;> exact held

theorem run_keeps_mapping (ops : List LockOp) :
    ∀ {s : LockState}, s.lockData = some m →
      (∀ k ≤ ops.length, 0 < (run bo s (ops.take k)).1.lockcount) →
      (run bo s ops).1.lockData = some m := by
  induction ops with
  | nil => exact fun held _ => held
  | cons op rest ih =>
    intro s held positive
    have next := step_keeps_mapping held op (by simpa [run] using positive 1 (by simp))
    exact ih next fun k within => by simpa [run] using positive (k + 1) (by simp; omega)

end Mapping

/-- A buffer locked for CPU access hands out the same plane addresses for as long as it stays
locked: in any run from any state, once a lock with map flags succeeds, every later lock with
map flags, reached with the lock count positive after each step in between, succeeds and
returns the same addresses. -/
theorem lock_addrs_stable (bo : BoView) (s : LockState) (pre mid : List LockOp)
    {rect rect' : Rectangle} {mapFlags mapFlags' : Nat} {mapped mapped' : Option Mapping}
    (cpu : mapFlags ≠ 0) (cpu' : mapFlags' ≠ 0)
    (locked : (step bo (run bo s pre).1 (.lock rect mapFlags mapped)).ret = 0)
    (stays : ∀ k ≤ mid.length,
      0 < (run bo s (pre ++ .lock rect mapFlags mapped :: mid.take k)).1.lockcount) :
    let again := step bo (run bo s (pre ++ .lock rect mapFlags mapped :: mid)).1
      (.lock rect' mapFlags' mapped')
    again.ret = 0 ∧ again.addrs = (step bo (run bo s pre).1 (.lock rect mapFlags mapped)).addrs := by
  obtain ⟨m, held, addrs, -⟩ := lock_holds_mapping cpu locked
  simp only [run_append, run] at stays ⊢
  obtain ⟨ok, same⟩ := @lock_reuses_mapping bo _ m rect' mapFlags' mapped' cpu'
    (run_keeps_mapping mid held stays)
  exact ⟨ok, same.trans addrs.symm⟩

theorem lock_addrs_stable_relock :
    let bo : BoView := ⟨64, 64, 2, fun plane => plane * 4096⟩
    let first := LockOp.lock ⟨0, 0, 0, 0⟩ 1 (some ⟨7, 0x7F0000000000, by decide⟩)
    let mid := [LockOp.lock ⟨0, 0, 8, 8⟩ 0 none, .unlock]
    (1 : Nat) ≠ 0 ∧ (3 : Nat) ≠ 0 ∧ (step bo (run bo LockState.init []).1 first).ret = 0 ∧
      (∀ k ≤ mid.length, 0 < (run bo LockState.init ([] ++ first :: mid.take k)).1.lockcount) ∧
      let again := step bo (run bo LockState.init ([] ++ first :: mid)).1
        (.lock ⟨0, 0, 16, 16⟩ 3 none)
      again.ret = 0 ∧ again.addrs = (step bo (run bo LockState.init []).1 first).addrs :=
  ⟨by decide, by decide, by decide, by decide,
    lock_addrs_stable _ _ [] _ (by decide) (by decide) (by decide) (by decide)⟩

end Minigbm.Gralloc
