import Minigbm.Drv.Defs

/-!
The AIDL allocator service (cros_gralloc/aidl/Allocator.cpp): allocate, allocate2,
allocateBuffer and isSupported. What the file calls but does not define is a parameter: the
mapper's conversion of a descriptor (CrosGralloc4Utils), the driver's is_supported and
allocate (cros_gralloc_driver), and whether operator new can give the two vectors allocate
grows. The driver's answers are given per buffer; the handles allocated, duplicated into the
result and released are recorded.

`allocate` with a descriptor is all or nothing for every count that fits the handle vector,
and aborts for a negative count: `handles.resize(count)` converts it to size_t. allocate2
and isSupported check the same things in a different order and agree, as long as the handle
vector, which allocate grows before it asks the driver anything, can be allocated.
-/

namespace Minigbm.Allocator

inductive AllocationError
  | badDescriptor
  | noResources
  | unsupported
  deriving DecidableEq, Repr

/-- A native_handle_t the driver allocated, by identity, with the pixel stride of its
cros_gralloc_handle. -/
structure Handle where
  id : Nat
  pixelStride : Int
  deriving DecidableEq, Repr

/-- What the driver answers for one buffer: is_supported, and allocate's handle (none when
it fails). -/
structure DriverAnswer where
  supported : Bool
  handle : Option Handle
  deriving DecidableEq, Repr

inductive HandleEvent
  /-- mDriver->allocate returned it -/
  | allocated (handle : Handle)
  /-- dupToAidl copied it into outResult->buffers -/
  | duplicated (handle : Handle)
  /-- releaseBufferAndHandle released it -/
  | released (handle : Handle)
  deriving DecidableEq, Repr

@[simp] def HandleEvent.allocatedHandle : HandleEvent → Option Handle
  | .allocated h => some h
  | _ => none

@[simp] def HandleEvent.duplicatedHandle : HandleEvent → Option Handle
  | .duplicated h => some h
  | _ => none

@[simp] def HandleEvent.releasedHandle : HandleEvent → Option Handle
  | .released h => some h
  | _ => none

/-- AllocationResult: the stride, and the buffers (each the duplicate of a handle). -/
structure AllocationResult where
  stride : Int
  buffers : List Handle
  deriving DecidableEq, Repr

/-- Allocator::allocateBuffer, with the driver's answer. Its own check of mDriver is never
reached: each caller has made it. -/
def allocateBuffer (answer : DriverAnswer) : Except AllocationError Handle :=
  if !answer.supported then .error .unsupported
  else
    match answer.handle with
    | none => .error .noResources
    | some handle => .ok handle

/-- The first loop of allocate, at buffer `handles.length` with `n` buffers to go: every
handle, or the first failing status with the handles allocated before it. -/
def allocateLoop (answers : Nat → DriverAnswer) :
    Nat → List Handle → Except (AllocationError × List Handle) (List Handle)
  | 0, handles => .ok handles
  | n + 1, handles =>
    match allocateBuffer (answers handles.length) with
    | .error e => .error (e, handles)
    | .ok handle => allocateLoop answers n (handles ++ [handle])

/-- What allocate returns (none for OK), the result it leaves and its handle events. -/
structure AllocateOutcome where
  status : Option AllocationError
  result : AllocationResult
  events : List HandleEvent
  deriving DecidableEq, Repr

/-- max_size() of libc++'s std::vector of 8-byte pointers: SIZE_MAX / 8. -/
def vectorMaxSize : Nat := (2 ^ 64 - 1) / 8

/-- The int32_t count converted to size_t by handles.resize. -/
def countAsSize (count : Int) : Nat := (count % 2 ^ 64).toNat

/-- The stride each successful allocateBuffer writes; the last one stays. -/
def strideAfter (stride : Int) (handles : List Handle) : Int :=
  (handles.getLast?.map Handle.pixelStride).getD stride

/-- What operator new answers when a resize grows a vector to `n` entries: `handles` for
`handles.resize(count, nullptr)`, `buffers` for `outResult->buffers.resize(count)`. false is
std::bad_alloc, which aborts in Android's build without exceptions. -/
structure Heap where
  handles : Nat → Bool
  buffers : Nat → Bool

/-- Allocator::allocate(descriptor, count, outResult), the driver answering `answers i` for
buffer `i`. none is the call that never returns: handles.resize throws std::length_error past
max_size(), and either resize throws std::bad_alloc when its allocation fails; Android builds
without exceptions abort. -/
def allocate (initialized : Bool) (heap : Heap) (answers : Nat → DriverAnswer) (count : Int)
    (result : AllocationResult) : Option AllocateOutcome :=
  if !initialized then some ⟨some .noResources, result, []⟩
  else if vectorMaxSize < countAsSize count then none
  else if 0 < countAsSize count ∧ !heap.handles (countAsSize count) then none
  else
    match allocateLoop answers count.toNat [] with
    | .error (e, handles) =>
      some ⟨some e, { result with stride := strideAfter result.stride handles },
        handles.map .allocated ++ handles.map .released⟩
    | .ok handles =>
      if result.buffers.length < count.toNat ∧ !heap.buffers count.toNat then none
      else
        some ⟨none, ⟨strideAfter result.stride handles, handles⟩,
          handles.map .allocated ++ handles.flatMap fun h => [.duplicated h, .released h]⟩

structure ExtendableType where
  name : String
  value : Int
  deriving DecidableEq, Repr

/-- BufferDescriptorInfo of the AIDL interface; `name` is its byte array. -/
structure BufferDescriptorInfo where
  name : List Nat
  width : Int
  height : Int
  layerCount : Int
  format : Int
  usage : Int
  additionalOptions : List ExtendableType
  deriving DecidableEq, Repr

structure BufferDescriptorInfoV4 where
  name : List Nat
  width : Nat
  height : Nat
  layerCount : Nat
  format : Int
  usage : Nat
  reservedSize : Nat
  deriving DecidableEq, Repr

/-- The mapper 4.0 descriptor built from an AIDL one: the name up to its NUL (the whole vector
when it holds none, where the C string read runs past its end), the int32 fields cast to
uint32_t and the usage to uint64_t. -/
def toMapperV4 (info : BufferDescriptorInfo) : BufferDescriptorInfoV4 :=
  ⟨info.name.takeWhile (· ≠ 0), (info.width % 2 ^ 32).toNat, (info.height % 2 ^ 32).toNat,
    (info.layerCount % 2 ^ 32).toNat, info.format, (info.usage % 2 ^ 64).toNat, 0⟩

/-- What Allocator.cpp relies on but does not define, over the driver's descriptor type `D`:
the mapper's convertToCrosDescriptor (none when it fails), the dataspace field, and the
driver's is_supported. -/
structure Collaborators (D : Type) where
  convertV4 : BufferDescriptorInfoV4 → Option D
  setDataspace : D → Int → D
  isSupported : D → Bool

def standardMetadataDataspace : String := "android.hardware.graphics.common.Dataspace"

section Descriptor
variable {D : Type} (ext : Collaborators D)

/-- The loop over the additional options: only the standard dataspace is understood, and it
is set. -/
def applyOptions : List ExtendableType → D → Except AllocationError D
  | [], d => .ok d
  | option :: rest, d =>
    if option.name ≠ standardMetadataDataspace then .error .unsupported
    else applyOptions rest (ext.setDataspace d option.value)

/-- convertToCrosDescriptor of this file: the mapper's conversion, then the options. -/
def convertToCrosDescriptor (info : BufferDescriptorInfo) : Except AllocationError D :=
  match ext.convertV4 (toMapperV4 info) with
  | none => .error .unsupported
  | some d => applyOptions ext info.additionalOptions d

/-- Allocator::allocate2, the driver's allocate answering `allocations i` for buffer `i`. -/
def allocate2 (initialized : Bool) (heap : Heap) (allocations : Nat → Option Handle)
    (info : BufferDescriptorInfo) (count : Int) (result : AllocationResult) :
    Option AllocateOutcome :=
  if !initialized then some ⟨some .noResources, result, []⟩
  else
    match convertToCrosDescriptor ext info with
    | .error e => some ⟨some e, result, []⟩
    | .ok d =>
      allocate initialized heap (fun i => ⟨ext.isSupported d, allocations i⟩) count result

/-- Allocator::isSupported: an error status, or the answer. -/
def isSupported (initialized : Bool) (info : BufferDescriptorInfo) :
    Except AllocationError Bool :=
  if !initialized then .error .noResources
  else if info.additionalOptions.any (·.name ≠ standardMetadataDataspace) then .ok false
  else
    match convertToCrosDescriptor ext info with
    | .error _ => .ok false
    | .ok d => .ok (ext.isSupported d)

theorem applyOptions_cases (options : List ExtendableType) (d : D) :
    (∀ o ∈ options, o.name = standardMetadataDataspace) ∧ (∃ d', applyOptions ext options d = .ok d') ∨
      (∃ o ∈ options, o.name ≠ standardMetadataDataspace) ∧
        applyOptions ext options d = .error .unsupported := by
  induction options generalizing d with
  | nil => exact .inl ⟨by simp, d, rfl⟩
  | cons o rest ih =>
    by_cases known : o.name = standardMetadataDataspace
    · have step : applyOptions ext (o :: rest) d =
          applyOptions ext rest (ext.setDataspace d o.value) := by
        simp [applyOptions, known]
      rw [step]
      rcases ih (ext.setDataspace d o.value) with ⟨all, ok⟩ | ⟨bad, failed⟩
      · exact .inl ⟨List.forall_mem_cons.mpr ⟨known, all⟩, ok⟩
      · obtain ⟨b, member, unknown⟩ := bad
        exact .inr ⟨⟨b, List.mem_cons_of_mem _ member, unknown⟩, failed⟩
    · exact .inr ⟨⟨o, List.mem_cons_self _ _, known⟩, by simp [applyOptions, known]⟩

theorem convertToCrosDescriptor_error {info : BufferDescriptorInfo} {e : AllocationError}
    (failed : convertToCrosDescriptor ext info = .error e) : e = .unsupported := by
  unfold convertToCrosDescriptor at failed
  split at failed
  · cases failed; rfl
  · rcases applyOptions_cases ext info.additionalOptions ‹_› with ⟨-, d', ok⟩ | ⟨-, rejected⟩
    · rw [ok] at failed; cases failed
    · rw [rejected] at failed; cases failed; rfl

theorem isSupported_eq (info : BufferDescriptorInfo) :
    isSupported ext true info =
      .ok (match convertToCrosDescriptor ext info with
        | .error _ => false
        | .ok d => ext.isSupported d) := by
  unfold isSupported
  simp only [Bool.not_true, Bool.false_eq_true, ↓reduceIte]
  split
  · rename_i unknown
    obtain ⟨o, member, bad⟩ := List.any_eq_true.mp unknown
    have failed : ∀ d, applyOptions ext info.additionalOptions d = .error .unsupported := fun d =>
      ((applyOptions_cases ext _ d).resolve_left fun ⟨all, _⟩ =>
        absurd (all o member) (by simpa using bad)).2
    have rejected : convertToCrosDescriptor ext info = .error .unsupported := by
      unfold convertToCrosDescriptor
      split
      · rfl
      · exact failed _
    rw [rejected]
  · split <;> rfl

end Descriptor

theorem allocateBuffer_supported_error {allocation : Option Handle} {e : AllocationError}
    (failed : allocateBuffer ⟨true, allocation⟩ = .error e) : e = .noResources := by
  simp only [allocateBuffer, Bool.not_true, Bool.false_eq_true, ↓reduceIte] at failed
  split at failed <;> cases failed; rfl

theorem allocateLoop_error (answers : Nat → DriverAnswer) {P : AllocationError → Prop}
    (only : ∀ i e, allocateBuffer (answers i) = .error e → P e) :
    ∀ n handles e before, allocateLoop answers n handles = .error (e, before) → P e
  | 0, _, _, _, failed => by cases failed
  | n + 1, handles, e, before, failed => by
    unfold allocateLoop at failed
    split at failed
    · rename_i e' first
      cases failed
      exact only _ _ first
    · exact allocateLoop_error answers only n _ e before failed

theorem countAsSize_fits {count : Int} (nonneg : 0 ≤ count) (fits : count < 2 ^ 31) :
    countAsSize count = count.toNat ∧ ¬ vectorMaxSize < count.toNat := by
  unfold vectorMaxSize countAsSize
  rw [Int.emod_eq_of_lt nonneg (by omega)]
  omega

theorem allocateLoop_spec (answers : Nat → DriverAnswer) :
    ∀ n handles,
      (∀ all, allocateLoop answers n handles = .ok all → ∃ fresh, all = handles ++ fresh ∧
        fresh.length = n ∧
        (List.range' handles.length n).map (allocateBuffer ∘ answers) = fresh.map .ok) ∧
      (∀ e before, allocateLoop answers n handles = .error (e, before) → ∃ fresh,
        before = handles ++ fresh ∧ fresh.length < n ∧
        (List.range' handles.length fresh.length).map (allocateBuffer ∘ answers) =
          fresh.map .ok ∧
        allocateBuffer (answers before.length) = .error e)
  | 0, handles => ⟨fun all done => ⟨[], by cases done; simp, rfl, rfl⟩,
      fun _ _ failed => (nomatch failed)⟩
  | n + 1, handles => by
    unfold allocateLoop
    split
    · rename_i e first
      refine ⟨fun _ failed => (nomatch failed), fun e' before failed => ?_⟩
      cases failed
      exact ⟨[], by simp, by simp, rfl, first⟩
    · rename_i h first
      obtain ⟨ok, failed⟩ := allocateLoop_spec answers n (handles ++ [h])
      refine ⟨fun all done => ?_, fun e before stopped => ?_⟩
      · obtain ⟨fresh, rfl, length, answered⟩ := ok all done
        refine ⟨h :: fresh, by simp, by simp [length], ?_⟩
        simpa [List.range'_succ, first] using answered
      · obtain ⟨fresh, rfl, length, answered, failing⟩ := failed e before stopped
        refine ⟨h :: fresh, by simp, by simp; omega, ?_, failing⟩
        simpa [List.range'_succ, first] using answered

theorem map_events (handles : List Handle) :
    (handles.map .allocated).filterMap HandleEvent.allocatedHandle = handles ∧
      (handles.map .allocated).filterMap HandleEvent.duplicatedHandle = [] ∧
      (handles.map .allocated).filterMap HandleEvent.releasedHandle = [] ∧
      (handles.map .released).filterMap HandleEvent.allocatedHandle = [] ∧
      (handles.map .released).filterMap HandleEvent.releasedHandle = handles := by
  induction handles with
  | nil => exact ⟨rfl, rfl, rfl, rfl, rfl⟩
  | cons h rest ih =>
    obtain ⟨allocated, notDuplicated, notReleased, notAllocated, released⟩ := ih
    exact ⟨congrArg (h :: ·) allocated, notDuplicated, notReleased, notAllocated,
      congrArg (h :: ·) released⟩

theorem pair_events (handles : List Handle) :
    (handles.flatMap fun h => [.duplicated h, .released h]).filterMap
        HandleEvent.allocatedHandle = [] ∧
      (handles.flatMap fun h => [.duplicated h, .released h]).filterMap
        HandleEvent.duplicatedHandle = handles ∧
      (handles.flatMap fun h => [.duplicated h, .released h]).filterMap
        HandleEvent.releasedHandle = handles := by
  induction handles with
  | nil => exact ⟨rfl, rfl, rfl⟩
  | cons h rest ih =>
    obtain ⟨notAllocated, duplicated, released⟩ := ih
    exact ⟨notAllocated, congrArg (h :: ·) duplicated, congrArg (h :: ·) released⟩

theorem allocateLoop_ok_iff (answers : Nat → DriverAnswer) (n : Nat) :
    (∃ all, allocateLoop answers n [] = .ok all) ↔
      ∀ i < n, ∃ h, allocateBuffer (answers i) = .ok h := by
  obtain ⟨ok, failed⟩ := allocateLoop_spec answers n []
  constructor
  · rintro ⟨all, done⟩ i below
    obtain ⟨fresh, -, length, answered⟩ := ok all done
    have member : allocateBuffer (answers i) ∈ fresh.map .ok := by
      rw [← answered]
      exact List.mem_map_of_mem _ (List.mem_range'_1.mpr ⟨Nat.zero_le i, by simpa using below⟩)
    obtain ⟨h, -, same⟩ := List.mem_map.mp member
    exact ⟨h, same.symm⟩
  · intro every
    cases loop : allocateLoop answers n [] with
    | ok all => exact ⟨all, rfl⟩
    | error failure =>
      obtain ⟨fresh, rfl, length, -, failing⟩ := failed failure.1 failure.2 loop
      obtain ⟨h, allocated⟩ := every _ (by simpa using length)
      rw [allocated] at failing
      cases failing

/-- For every count from 0 to 2^31 - 1 and every answer of the heap, allocate aborts exactly when
growing the handle vector fails, or when every buffer was allocated and growing
outResult->buffers fails; otherwise it is all or nothing: every handle it allocates is released
exactly once, in order; on success the buffers are their duplicates, one per requested buffer,
and on failure the status is that of the first failing allocateBuffer and the buffers are left
as they were. -/
theorem allocate_all_or_nothing (heap : Heap) (answers : Nat → DriverAnswer)
    (result : AllocationResult) {count : Int} (nonneg : 0 ≤ count) (fits : count < 2 ^ 31) :
    (allocate true heap answers count result = none ↔
      (0 < count.toNat ∧ heap.handles count.toNat = false) ∨
        (heap.handles count.toNat = true ∧
          (∀ i < count.toNat, ∃ h, allocateBuffer (answers i) = .ok h) ∧
          result.buffers.length < count.toNat ∧ heap.buffers count.toNat = false)) ∧
    ∀ out, allocate true heap answers count result = some out →
      let allocated := out.events.filterMap HandleEvent.allocatedHandle
      out.events.filterMap HandleEvent.releasedHandle = allocated ∧
      (List.range allocated.length).map (allocateBuffer ∘ answers) = allocated.map .ok ∧
      ((out.status = none ∧ out.result.buffers = allocated ∧
          out.events.filterMap HandleEvent.duplicatedHandle = allocated ∧
          allocated.length = count.toNat) ∨
        ∃ e, out.status = some e ∧ out.result.buffers = result.buffers ∧
          allocated.length < count.toNat ∧ allocateBuffer (answers allocated.length) = .error e) := by
  obtain ⟨sized, size⟩ := countAsSize_fits nonneg fits
  obtain ⟨ok, failed⟩ := allocateLoop_spec answers count.toNat []
  have loopOk := allocateLoop_ok_iff answers count.toNat
  unfold allocate
  simp only [Bool.not_true, Bool.false_eq_true, ↓reduceIte, sized, size, Bool.not_eq_true']
  by_cases refused : 0 < count.toNat ∧ heap.handles count.toNat = false
  · rw [if_pos refused]
    exact ⟨iff_of_true rfl (.inl refused), fun _ aborted => nomatch aborted⟩
  rw [if_neg refused]
  cases loop : allocateLoop answers count.toNat [] with
  | error failure =>
    obtain ⟨e, before⟩ := failure
    dsimp only
    obtain ⟨fresh, extended, length, answered, failing⟩ := failed e before loop
    rw [List.nil_append] at extended
    subst extended
    have notAll : ¬ ∀ i < count.toNat, ∃ h, allocateBuffer (answers i) = .ok h := fun every =>
      absurd (loopOk.mpr every) (by simp [loop])
    obtain ⟨allocated, -, notReleased, notAllocated, released⟩ := map_events before
    refine ⟨iff_of_false (nomatch ·) fun aborts =>
      aborts.elim refused fun ⟨_, every, _⟩ => notAll every, fun out returned => ?_⟩
    cases returned
    simp only [List.filterMap_append, allocated, notReleased, notAllocated, released,
      List.append_nil, List.nil_append, List.range_eq_range', List.length_nil] at answered ⊢
    exact ⟨trivial, answered, .inr ⟨e, rfl, trivial, length, failing⟩⟩
  | ok all =>
    dsimp only
    obtain ⟨fresh, extended, length, answered⟩ := ok all loop
    rw [List.nil_append] at extended
    subst extended
    have every := loopOk.mp ⟨all, loop⟩
    by_cases aborted : result.buffers.length < count.toNat ∧ heap.buffers count.toNat = false
    · rw [if_pos aborted]
      refine ⟨iff_of_true rfl (.inr ⟨?_, every, aborted⟩), fun _ returned => nomatch returned⟩
      simpa [aborted.1.trans_le' (Nat.zero_le _)] using refused
    rw [if_neg aborted]
    obtain ⟨allocated, notDuplicated, released, -, -⟩ := map_events all
    obtain ⟨pairsAllocated, duplicated, pairsReleased⟩ := pair_events all
    refine ⟨iff_of_false (nomatch ·) fun aborts =>
      aborts.elim refused fun ⟨_, _, short⟩ => aborted short, fun out returned => ?_⟩
    cases returned
    simp only [List.filterMap_append, allocated, notDuplicated, released, pairsAllocated,
      duplicated, pairsReleased, List.append_nil, List.nil_append, List.range_eq_range',
      List.length_nil] at answered length ⊢
    exact ⟨trivial, length ▸ answered, .inl ⟨trivial, trivial, trivial, length⟩⟩

theorem allocate_all_or_nothing_second_fails :
    let heap : Heap := ⟨fun _ => true, fun _ => true⟩
    let answers : Nat → DriverAnswer := fun i => ⟨true, if i = 0 then some ⟨0, 64⟩ else none⟩
    let result : AllocationResult := ⟨0, []⟩
    (0 : Int) ≤ 3 ∧ (3 : Int) < 2 ^ 31 ∧
      (allocate true heap answers 3 result = none ↔
        (0 < (3 : Int).toNat ∧ heap.handles (3 : Int).toNat = false) ∨
          (heap.handles (3 : Int).toNat = true ∧
            (∀ i < (3 : Int).toNat, ∃ h, allocateBuffer (answers i) = .ok h) ∧
            result.buffers.length < (3 : Int).toNat ∧ heap.buffers (3 : Int).toNat = false)) ∧
      ∀ out, allocate true heap answers 3 result = some out →
        let allocated := out.events.filterMap HandleEvent.allocatedHandle
        out.events.filterMap HandleEvent.releasedHandle = allocated ∧
        (List.range allocated.length).map (allocateBuffer ∘ answers) = allocated.map .ok ∧
        ((out.status = none ∧ out.result.buffers = allocated ∧
            out.events.filterMap HandleEvent.duplicatedHandle = allocated ∧
            allocated.length = (3 : Int).toNat) ∨
          ∃ e, out.status = some e ∧ out.result.buffers = result.buffers ∧
            allocated.length < (3 : Int).toNat ∧
            allocateBuffer (answers allocated.length) = .error e) :=
  ⟨by decide, by decide, allocate_all_or_nothing _ _ _ (by decide) (by decide)⟩

theorem allocate_negative (heap : Heap) (answers : Nat → DriverAnswer) (result : AllocationResult)
    {count : Int} (lo : -2 ^ 31 ≤ count) (negative : count < 0) :
    allocate true heap answers count result = none := by
  have size : vectorMaxSize < countAsSize count := by
    unfold vectorMaxSize countAsSize
    omega
  simp [allocate, size]

/-- allocate with count -1 aborts in handles.resize. -/
theorem allocate_negative_count_aborts (heap : Heap) (answers : Nat → DriverAnswer)
    (result : AllocationResult) :
    allocate true heap answers (-1) result = none :=
  allocate_negative heap answers result (by decide) (by decide)

end Minigbm.Allocator
