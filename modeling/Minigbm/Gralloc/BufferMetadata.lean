import Minigbm.Gralloc.ReservedRegion

/-!
The metadata of cros_gralloc_buffer (cros_gralloc_buffer.cc, cros_gralloc_buffer_metadata.h):
the struct at the start of the reserved region, which initialize_metadata fills from the
descriptor and the getters and setters read and write, each after get_metadata. A getter's
result is the value it assigns to its out-parameter (none when it fails before), and every
accessor logs one line when get_metadata fails.

The struct keeps its C layout: the name a 1024-byte char array, and each std::optional member
a cros_buffer_optional, a uint32 occupancy tag and a value slot. get_cta861_3 and get_smpte2086
assign that member to a std::optional, which has no conversion from it, so they do not compile
and are left out; what a reader of the struct gets back is stated through the header's
to_std_optional. The AIDL types (not under src/) are kept as their fields, each float as its 32
bits, which the code only copies.
-/

namespace Minigbm.Gralloc

/-- CROS_GRALLOC_BUFFER_METADATA_MAX_NAME_SIZE of cros_gralloc_helpers.h. -/
def crosGrallocBufferMetadataMaxNameSize : Nat := 1024

/-- aidl::android::hardware::graphics::common::Cta861_3: two floats. -/
structure Cta861_3 where
  maxContentLightLevel : UInt32
  maxFrameAverageLightLevel : UInt32
  deriving DecidableEq, Repr, Inhabited

/-- aidl::android::hardware::graphics::common::XyColor: two floats. -/
structure XyColor where
  x : UInt32
  y : UInt32
  deriving DecidableEq, Repr, Inhabited

/-- aidl::android::hardware::graphics::common::Smpte2086: four colours and two floats. -/
structure Smpte2086 where
  primaryRed : XyColor
  primaryGreen : XyColor
  primaryBlue : XyColor
  whitePoint : XyColor
  maxLuminance : UInt32
  minLuminance : UInt32
  deriving DecidableEq, Repr, Inhabited

/-- `cros_buffer_optional<T>::state`, an enum class over uint32_t. -/
def optionalVacant : UInt32 := 0
def optionalOccupied : UInt32 := 1

/-- cros_buffer_optional<T>: a tag and a value slot, laid out the same in every ABI. -/
structure CrosBufferOptional (α : Type) where
  occupancy : UInt32
  value : α
  deriving DecidableEq, Repr

/-- The converting constructor from std::optional: the tag, and the value if there is one (the
slot is otherwise default-initialized, which the AIDL types' initializers make zero). -/
def CrosBufferOptional.ofStdOptional {α : Type} [Inhabited α] : Option α → CrosBufferOptional α
  | none => ⟨optionalVacant, default⟩
  | some v => ⟨optionalOccupied, v⟩

/-- to_std_optional: nullopt for a VACANT tag, the slot for any other. -/
def CrosBufferOptional.toStdOptional {α : Type} (o : CrosBufferOptional α) : Option α :=
  if o.occupancy = optionalVacant then none else some o.value

/-- struct cros_gralloc_buffer_metadata. The AIDL enums BlendMode and Dataspace are ints. -/
structure BufferMetadata where
  name : List UInt8
  name_length : name.length = crosGrallocBufferMetadataMaxNameSize
  blendMode : Int
  dataspace : Int
  cta861_3 : CrosBufferOptional Cta861_3
  smpte2086 : CrosBufferOptional Smpte2086

/-- The struct in a zero-filled region: an empty name, both enums 0, both optionals VACANT. -/
def BufferMetadata.zero : BufferMetadata :=
  ⟨List.replicate crosGrallocBufferMetadataMaxNameSize 0, List.length_replicate _ _, 0, 0,
    ⟨optionalVacant, default⟩, ⟨optionalVacant, default⟩⟩

/-- struct cros_gralloc_buffer_descriptor, with the fields initialize_metadata reads: the name's
bytes, the dataspace and the blend mode. -/
structure CrosGrallocBufferDescriptor where
  name : List UInt8
  dataspace : Int
  blend : Int
  deriving DecidableEq, Repr

/-- The C string at `bytes`: its bytes before the first NUL, as std::string's constructor from
a char pointer reads them. -/
def cString (bytes : List UInt8) : List UInt8 := bytes.takeWhile (· ≠ 0)

/-- What snprintf writes with a "%s" of the C string of `source`, into a buffer of
CROS_GRALLOC_BUFFER_METADATA_MAX_NAME_SIZE bytes: the string cut to leave room for its NUL,
then the NUL; the bytes after it stay as they were. -/
def snprintfName (buffer source : List UInt8) : List UInt8 :=
  let text := (cString source).take (crosGrallocBufferMetadataMaxNameSize - 1)
  text ++ 0 :: buffer.drop (text.length + 1)

theorem snprintfName_length {buffer : List UInt8}
    (full : buffer.length = crosGrallocBufferMetadataMaxNameSize) (source : List UInt8) :
    (snprintfName buffer source).length = crosGrallocBufferMetadataMaxNameSize := by
  have short := (cString source).length_take_le (crosGrallocBufferMetadataMaxNameSize - 1)
  simp only [snprintfName, List.length_append, List.length_cons, List.length_drop, full]
  unfold crosGrallocBufferMetadataMaxNameSize at *
  omega

theorem leading_cString {p source : List UInt8} (leading : p <+: source) (noNul : 0 ∉ p) :
    p <+: cString source := by
  induction p generalizing source with
  | nil => exact List.nil_prefix
  | cons c p ih =>
    obtain ⟨rest, rfl⟩ := leading
    have nonzero : c ≠ 0 := fun zero => noNul (zero ▸ List.mem_cons_self c p)
    rw [cString, List.cons_append, List.takeWhile_cons_of_pos (by simpa using nonzero)]
    exact List.cons_prefix_cons.mpr
      ⟨rfl, ih ⟨rest, rfl⟩ fun member => noNul (List.mem_cons_of_mem c member)⟩

theorem take_cString_longest (source : List UInt8) (n : Nat) :
    (cString source).take n <+: source ∧ 0 ∉ (cString source).take n ∧
      ((cString source).take n).length ≤ n ∧
      ∀ p, p <+: source → 0 ∉ p → p.length ≤ n → p <+: (cString source).take n := by
  refine ⟨( List.take_prefix _ _).trans ( List.takeWhile_prefix _), fun member => ?_,
    List.length_take_le _ _, fun p leading noNul short =>
      List.prefix_take_iff.mpr ⟨leading_cString leading noNul, short⟩⟩
  have nonzero := List.all_eq_true.mp List.all_takeWhile 0 (List.mem_of_mem_take member)
  simp at nonzero

/-- A cros_gralloc_buffer as its metadata accessors see it: the handle, the cached
`reserved_region_addr_`, and the struct at the start of the region. -/
structure MetadataBuffer where
  hnd : ReservedHandle
  regionAddr : Nat
  metadata : BufferMetadata

/-- What a setter or initialize_metadata returns, the buffer it leaves, its calls and its log. -/
structure SetterOutcome where
  ret : Int
  buffer : MetadataBuffer
  calls : List MemCall
  log : List String

/-- What a getter returns, the value it assigns to its out-parameter, the buffer it leaves, its
calls and its log. -/
structure GetterOutcome (α : Type) where
  ret : Int
  value : Option α
  buffer : MetadataBuffer
  calls : List MemCall
  log : List String

/-- The setters: get_metadata, then on success the write of one member; on failure the log
line and get_metadata's code. -/
def metadataSetter (write : BufferMetadata → BufferMetadata) (failure : String)
    (b : MetadataBuffer) (answer : MmapAnswer) : SetterOutcome :=
  let out := getMetadata b.hnd b.regionAddr answer
  let b := { b with regionAddr := out.regionAddr }
  if out.ret ≠ 0 then ⟨out.ret, b, out.calls, [failure]⟩
  else ⟨0, { b with metadata := write b.metadata }, out.calls, []⟩

/-- The getters: get_metadata, then on success the read of one member into the out-parameter. -/
def metadataGetter {α : Type} (read : BufferMetadata → α) (failure : String)
    (b : MetadataBuffer) (answer : MmapAnswer) : GetterOutcome α :=
  let out := getMetadata b.hnd b.regionAddr answer
  let b := { b with regionAddr := out.regionAddr }
  if out.ret ≠ 0 then ⟨out.ret, none, b, out.calls, [failure]⟩
  else ⟨0, some (read b.metadata), b, out.calls, []⟩

def setBlendMode (blendMode : Int) : MetadataBuffer → MmapAnswer → SetterOutcome :=
  metadataSetter (fun m => { m with blendMode }) "Failed to set_blend_mode: failed to get metadata."

def setDataspace (dataspace : Int) : MetadataBuffer → MmapAnswer → SetterOutcome :=
  metadataSetter (fun m => { m with dataspace }) "Failed to set_dataspace: failed to get metadata."

def setCta861_3 (cta : Option Cta861_3) : MetadataBuffer → MmapAnswer → SetterOutcome :=
  metadataSetter (fun m => { m with cta861_3 := .ofStdOptional cta })
    "Failed to set_cta861_3: failed to get metadata."

/-- set_smpte2086 logs the line of set_cta861_3. -/
def setSmpte2086 (smpte : Option Smpte2086) : MetadataBuffer → MmapAnswer → SetterOutcome :=
  metadataSetter (fun m => { m with smpte2086 := .ofStdOptional smpte })
    "Failed to set_cta861_3: failed to get metadata."

theorem setSmpte2086_log {b : MetadataBuffer} (noRegion : b.hnd.reservedRegionFd < 0)
    (smpte : Option Smpte2086) (cta : Option Cta861_3) (answer : MmapAnswer) :
    (setSmpte2086 smpte b answer).ret = -einval ∧
      (setSmpte2086 smpte b answer).log = (setCta861_3 cta b answer).log ∧
      (setCta861_3 cta b answer).log = ["Failed to set_cta861_3: failed to get metadata."] := by
  simp [setSmpte2086, setCta861_3, metadataSetter, getMetadata, getReservedRegion, noRegion,
    einval]

def getName : MetadataBuffer → MmapAnswer → GetterOutcome (Option (List UInt8)) :=
  metadataGetter (fun m => some (cString m.name)) "Failed to get_name: failed to get metadata."

def getBlendMode : MetadataBuffer → MmapAnswer → GetterOutcome (Option Int) :=
  metadataGetter (fun m => some m.blendMode) "Failed to get_blend_mode: failed to get metadata."

def getDataspace : MetadataBuffer → MmapAnswer → GetterOutcome (Option Int) :=
  metadataGetter (fun m => some m.dataspace) "Failed to get_dataspace: failed to get metadata."

/-- initialize_metadata: the name by snprintf, then the dataspace and the blend mode. -/
def initializeMetadata (descriptor : CrosGrallocBufferDescriptor) (b : MetadataBuffer)
    (answer : MmapAnswer) : SetterOutcome :=
  let out := getMetadata b.hnd b.regionAddr answer
  let b := { b with regionAddr := out.regionAddr }
  if out.ret ≠ 0 then
    ⟨out.ret, b, out.calls, ["Failed to initialize metadata: failed to get metadata region."]⟩
  else if (out.pointer.map Prod.fst).getD 0 = 0 then
    ⟨-1, b, out.calls, ["Failed to initialize metadata: invalid metadata address."]⟩
  else
    let m := b.metadata
    ⟨0, { b with metadata := { m with
      name := snprintfName m.name descriptor.name
      name_length := snprintfName_length m.name_length descriptor.name
      dataspace := descriptor.dataspace
      blendMode := descriptor.blend } }, out.calls, []⟩

/-- The setter calls a client makes after initialize_metadata. -/
inductive MetadataOp
  | setBlendMode (blendMode : Int)
  | setDataspace (dataspace : Int)
  | setCta861_3 (cta : Option Cta861_3)
  | setSmpte2086 (smpte : Option Smpte2086)
  deriving DecidableEq, Repr

def MetadataOp.apply : MetadataOp → MetadataBuffer → MmapAnswer → SetterOutcome
  | .setBlendMode blendMode => Gralloc.setBlendMode blendMode
  | .setDataspace dataspace => Gralloc.setDataspace dataspace
  | .setCta861_3 cta => Gralloc.setCta861_3 cta
  | .setSmpte2086 smpte => Gralloc.setSmpte2086 smpte

/-- A run of setter calls, each with mmap's answer should it be called: the buffer it leaves
and each call's return. -/
def runMetadata : MetadataBuffer → List (MetadataOp × MmapAnswer) → MetadataBuffer × List Int
  | b, [] => (b, [])
  | b, (op, answer) :: rest =>
    let out := op.apply b answer
    let after := runMetadata out.buffer rest
    (after.1, out.ret :: after.2)

/-! What the getters observe, as plain values: the name as a string and the optionals as
std::optionals. Each setter call replaces one of them. -/

/-- The metadata as the getters read it. -/
structure MetadataView where
  name : List UInt8
  blendMode : Int
  dataspace : Int
  cta861_3 : Option Cta861_3
  smpte2086 : Option Smpte2086
  deriving DecidableEq, Repr

def BufferMetadata.view (m : BufferMetadata) : MetadataView :=
  ⟨cString m.name, m.blendMode, m.dataspace, m.cta861_3.toStdOptional, m.smpte2086.toStdOptional⟩

/-- A setter call on the view: it replaces its own member and no other. -/
def MetadataOp.update : MetadataOp → MetadataView → MetadataView
  | .setBlendMode blendMode, v => { v with blendMode }
  | .setDataspace dataspace, v => { v with dataspace }
  | .setCta861_3 cta, v => { v with cta861_3 := cta }
  | .setSmpte2086 smpte, v => { v with smpte2086 := smpte }

/-! The value each setter call writes, for the last-write reading of a run. -/

def MetadataOp.blendMode? : MetadataOp → Option Int
  | .setBlendMode blendMode => some blendMode
  | _ => none

def MetadataOp.dataspace? : MetadataOp → Option Int
  | .setDataspace dataspace => some dataspace
  | _ => none

def MetadataOp.cta861_3? : MetadataOp → Option (Option Cta861_3)
  | .setCta861_3 cta => some cta
  | _ => none

def MetadataOp.smpte2086? : MetadataOp → Option (Option Smpte2086)
  | .setSmpte2086 smpte => some smpte
  | _ => none

theorem foldl_update (ops : List MetadataOp) (v : MetadataView) :
    let after := ops.foldl (fun v op => op.update v) v
    after.name = v.name ∧
      after.blendMode = (ops.filterMap MetadataOp.blendMode?).getLastD v.blendMode ∧
      after.dataspace = (ops.filterMap MetadataOp.dataspace?).getLastD v.dataspace ∧
      after.cta861_3 = (ops.filterMap MetadataOp.cta861_3?).getLastD v.cta861_3 ∧
      after.smpte2086 = (ops.filterMap MetadataOp.smpte2086?).getLastD v.smpte2086 := by
  induction ops generalizing v with
  | nil => exact ⟨rfl, rfl, rfl, rfl, rfl⟩
  | cons op ops ih =>
    cases op <;>
      simp only [List.foldl_cons, List.filterMap_cons, MetadataOp.blendMode?,
        MetadataOp.dataspace?, MetadataOp.cta861_3?, MetadataOp.smpte2086?, List.getLastD_cons] <;>
      exact ih _

/-! The struct in a mapped region refines the view. -/

@[simp] theorem toStdOptional_ofStdOptional {α : Type} [Inhabited α] (v : Option α) :
    (CrosBufferOptional.ofStdOptional v).toStdOptional = v := by
  cases v <;> rfl

theorem cString_snprintfName (buffer source : List UInt8) :
    cString (snprintfName buffer source) = (cString source).take 1023 := by
  have noNul : ∀ c ∈ (cString source).take 1023, decide (c ≠ 0) = true := fun c member =>
    List.all_eq_true.mp List.all_takeWhile c (List.mem_of_mem_take member)
  show List.takeWhile _ ((cString source).take 1023 ++ 0 :: _) = _
  rw [List.takeWhile_append_of_pos noNul]
  simp

section Mapped
variable {b : MetadataBuffer}

theorem metadataSetter_cached (valid : 0 ≤ b.hnd.reservedRegionFd) (mapped : b.regionAddr ≠ 0)
    (write : BufferMetadata → BufferMetadata) (failure : String) (answer : MmapAnswer) :
    metadataSetter write failure b answer = ⟨0, { b with metadata := write b.metadata }, [], []⟩ := by
  rw [metadataSetter, getMetadata_cached valid mapped]
  rfl

theorem metadataGetter_cached {α : Type} (valid : 0 ≤ b.hnd.reservedRegionFd)
    (mapped : b.regionAddr ≠ 0) (read : BufferMetadata → α) (failure : String)
    (answer : MmapAnswer) : metadataGetter read failure b answer = ⟨0, some (read b.metadata), b, [], []⟩ := by
  rw [metadataGetter, getMetadata_cached valid mapped]
  rfl

theorem MetadataOp.apply_cached (valid : 0 ≤ b.hnd.reservedRegionFd) (mapped : b.regionAddr ≠ 0)
    (op : MetadataOp) (answer : MmapAnswer) :
    (op.apply b answer).ret = 0 ∧ (op.apply b answer).buffer.hnd = b.hnd ∧
      (op.apply b answer).buffer.regionAddr = b.regionAddr ∧
      (op.apply b answer).buffer.metadata.view = op.update b.metadata.view := by
  cases op <;> simp only [MetadataOp.apply, Gralloc.setBlendMode, Gralloc.setDataspace,
    Gralloc.setCta861_3, Gralloc.setSmpte2086, metadataSetter_cached valid mapped, true_and] <;>
    simp [BufferMetadata.view, MetadataOp.update]

theorem runMetadata_cached (valid : 0 ≤ b.hnd.reservedRegionFd) (mapped : b.regionAddr ≠ 0)
    (ops : List (MetadataOp × MmapAnswer)) :
    (∀ r ∈ (runMetadata b ops).2, r = 0) ∧
      (runMetadata b ops).1.hnd = b.hnd ∧ (runMetadata b ops).1.regionAddr = b.regionAddr ∧
      (runMetadata b ops).1.metadata.view =
        (ops.map Prod.fst).foldl (fun v op => op.update v) b.metadata.view := by
  induction ops generalizing b with
  | nil => exact ⟨fun _ none => absurd none (List.not_mem_nil _), rfl, rfl, rfl⟩
  | cons call rest ih =>
    obtain ⟨op, answer⟩ := call
    obtain ⟨ret, hnd, addr, view⟩ := op.apply_cached valid mapped answer
    obtain ⟨rets, hnd', addr', view'⟩ := ih (hnd ▸ valid) (addr ▸ mapped)
    refine ⟨?_, hnd'.trans hnd, addr'.trans addr, view'.trans (by rw [view]; rfl)⟩
    simpa [runMetadata, ret] using rets

theorem initializeMetadata_cached (valid : 0 ≤ b.hnd.reservedRegionFd)
    (mapped : b.regionAddr ≠ 0) (descriptor : CrosGrallocBufferDescriptor) (answer : MmapAnswer) :
    (initializeMetadata descriptor b answer).ret = 0 ∧
      (initializeMetadata descriptor b answer).buffer.hnd = b.hnd ∧
      (initializeMetadata descriptor b answer).buffer.regionAddr = b.regionAddr ∧
      (initializeMetadata descriptor b answer).buffer.metadata.view =
        { b.metadata.view with
          name := (cString descriptor.name).take 1023
          dataspace := descriptor.dataspace
          blendMode := descriptor.blend } := by
  simp only [initializeMetadata, getMetadata_cached valid mapped, ne_eq, not_true_eq_false,
    ↓reduceIte, Option.map_some', Option.getD_some, mapped, true_and]
  simp [BufferMetadata.view, cString_snprintfName]

end Mapped

/-- For a buffer whose reserved region is mapped and zero-filled, initialized from any
descriptor and then given any sequence of set_blend_mode, set_dataspace, set_cta861_3 and
set_smpte2086 calls: every call returns 0; get_name returns the descriptor name's C string cut
to 1023 bytes; get_blend_mode and get_dataspace return what was last written to their member,
or the descriptor's value; and each stored optional gives back through to_std_optional the last
std::optional written to it, or nullopt. -/
theorem metadata_round_trip {hnd : ReservedHandle} {regionAddr : Nat}
    (valid : 0 ≤ hnd.reservedRegionFd) (mapped : regionAddr ≠ 0)
    (descriptor : CrosGrallocBufferDescriptor) (ops : List (MetadataOp × MmapAnswer))
    (answer : MmapAnswer) :
    let init := initializeMetadata descriptor ⟨hnd, regionAddr, .zero⟩ answer
    let run := runMetadata init.buffer ops
    let writes := ops.map Prod.fst
    init.ret = 0 ∧ (∀ r ∈ run.2, r = 0) ∧
      (getName run.1 answer).value = some (some ((cString descriptor.name).take 1023)) ∧
      (getBlendMode run.1 answer).value =
        some (some ((writes.filterMap MetadataOp.blendMode?).getLastD descriptor.blend)) ∧
      (getDataspace run.1 answer).value =
        some (some ((writes.filterMap MetadataOp.dataspace?).getLastD descriptor.dataspace)) ∧
      run.1.metadata.cta861_3.toStdOptional = (writes.filterMap MetadataOp.cta861_3?).getLastD none ∧
      run.1.metadata.smpte2086.toStdOptional =
        (writes.filterMap MetadataOp.smpte2086?).getLastD none := by
  dsimp only
  obtain ⟨initRet, initHnd, initAddr, initView⟩ :=
    @initializeMetadata_cached ⟨hnd, regionAddr, .zero⟩ valid mapped descriptor answer
  generalize initializeMetadata descriptor ⟨hnd, regionAddr, .zero⟩ answer = init at *
  obtain ⟨rets, runHnd, runAddr, runView⟩ :=
    runMetadata_cached (by rw [initHnd]; exact valid) (by rw [initAddr]; exact mapped) ops
  obtain ⟨name, blendMode, dataspace, cta, smpte⟩ :=
    foldl_update (ops.map Prod.fst) init.buffer.metadata.view
  have valid' : 0 ≤ (runMetadata init.buffer ops).1.hnd.reservedRegionFd := by
    rw [runHnd, initHnd]; exact valid
  have mapped' : (runMetadata init.buffer ops).1.regionAddr ≠ 0 := by
    rw [runAddr, initAddr]; exact mapped
  rw [← runView, initView] at name blendMode dataspace cta smpte
  refine ⟨initRet, rets, ?_, ?_, ?_, cta, smpte⟩ <;>
    simp only [getName, getBlendMode, getDataspace, metadataGetter_cached valid' mapped']
  · exact congrArg (some ∘ some) name
  · exact congrArg (some ∘ some) blendMode
  · exact congrArg (some ∘ some) dataspace

theorem metadata_round_trip_buf :
    let hnd : ReservedHandle := ⟨3, 4096⟩
    let answer : MmapAnswer := ⟨0x7F0000000000, 1, by decide⟩
    let descriptor : CrosGrallocBufferDescriptor := ⟨[0x62, 0x75, 0x66], 0, 1⟩
    let ops : List (MetadataOp × MmapAnswer) := [(.setBlendMode 2, answer),
      (.setCta861_3 (some ⟨1, 2⟩), answer), (.setCta861_3 none, answer)]
    let init := initializeMetadata descriptor ⟨hnd, 0x7F0000000000, .zero⟩ answer
    let run := runMetadata init.buffer ops
    let writes := ops.map Prod.fst
    0 ≤ hnd.reservedRegionFd ∧ (0x7F0000000000 : Nat) ≠ 0 ∧
      init.ret = 0 ∧ (∀ r ∈ run.2, r = 0) ∧
      (getName run.1 answer).value = some (some ((cString descriptor.name).take 1023)) ∧
      (getBlendMode run.1 answer).value =
        some (some ((writes.filterMap MetadataOp.blendMode?).getLastD descriptor.blend)) ∧
      (getDataspace run.1 answer).value =
        some (some ((writes.filterMap MetadataOp.dataspace?).getLastD descriptor.dataspace)) ∧
      run.1.metadata.cta861_3.toStdOptional = (writes.filterMap MetadataOp.cta861_3?).getLastD none ∧
      run.1.metadata.smpte2086.toStdOptional =
        (writes.filterMap MetadataOp.smpte2086?).getLastD none :=
  ⟨by decide, by decide, metadata_round_trip (by decide) (by decide) _ _ _⟩

end Minigbm.Gralloc
