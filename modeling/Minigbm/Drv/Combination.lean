import Minigbm.Drv.Format

/-!
The combination table and the two ways a backend turns a request into a modifier:
drv_get_combination over the table and drv_pick_modifier over a peer's list. drv.c and
drv_helpers.c are not under src/; the helpers are modelled from the spec (§3, §4.1):
entries are appended in registration order, a modification ORs uses into the entries of
one layout, a lookup keeps the entries whose use mask contains the request and takes the
highest priority (a later entry winning a tie), and a peer list is intersected with the
backend's preference order.
-/

namespace Minigbm

/-- struct format_metadata of drv_priv.h. -/
structure FormatMetadata where
  priority : Nat
  tiling : Nat
  modifier : UInt64
  deriving DecidableEq, Repr

/-- struct combination of drv_priv.h: a format, a layout and the uses it allows. -/
structure Combination where
  format : UInt32
  metadata : FormatMetadata
  useFlags : UInt64
  deriving DecidableEq, Repr

/-- Modelled from the spec: drv_add_combination appends one entry to the table. -/
def drvAddCombination (combos : List Combination) (format : UInt32) (metadata : FormatMetadata)
    (useFlags : UInt64) : List Combination :=
  combos ++ [⟨format, metadata, useFlags⟩]

/-- Modelled from the spec: drv_add_combinations appends one entry per format, in order. -/
def drvAddCombinations (combos : List Combination) (formats : List UInt32)
    (metadata : FormatMetadata) (useFlags : UInt64) : List Combination :=
  combos ++ formats.map fun format => ⟨format, metadata, useFlags⟩

/-- Modelled from the spec: drv_modify_combination ORs `useFlags` into every entry of the
format with the tiling and modifier of `metadata`. -/
def drvModifyCombination (combos : List Combination) (format : UInt32)
    (metadata : FormatMetadata) (useFlags : UInt64) : List Combination :=
  combos.map fun combo =>
    if combo.format = format ∧ combo.metadata.tiling = metadata.tiling ∧
        combo.metadata.modifier = metadata.modifier then
      { combo with useFlags := combo.useFlags ||| useFlags }
    else combo

/-- LINEAR_METADATA of drv_priv.h: priority 1, tiling 0, the linear modifier. -/
def linearMetadata : FormatMetadata := ⟨1, 0, drmFormatModLinear⟩

/-- Modelled from the spec: drv_modify_linear_combinations lets every driver scan out linear
XRGB8888 and ARGB8888, as a primary plane and as a cursor. -/
def drvModifyLinearCombinations (combos : List Combination) : List Combination :=
  let combos := drvModifyCombination combos drmFormatXrgb8888 linearMetadata
    (boUseCursor ||| boUseScanout)
  drvModifyCombination combos drmFormatArgb8888 linearMetadata (boUseCursor ||| boUseScanout)

/-- One step of the lookup: `curr` replaces the best so far when it is for the format,
allows every requested use, and has at least its priority. -/
def betterCombination (format : UInt32) (useFlags : UInt64) (best : Option Combination)
    (curr : Combination) : Option Combination :=
  if curr.format = format ∧ useFlags &&& curr.useFlags = useFlags then
    match best with
    | some b => if b.metadata.priority ≤ curr.metadata.priority then some curr else best
    | none => some curr
  else best

/-- Modelled from the spec: drv_get_combination, the highest-priority entry for the format
whose use mask contains the requested uses, the later entry winning a tie; NULL if none. -/
def drvGetCombination (combos : List Combination) (format : UInt32) (useFlags : UInt64) :
    Option Combination :=
  combos.foldl (betterCombination format useFlags) none

/-- Modelled from the spec: drv_pick_modifier, the first modifier of the backend's preference
order that the peer list contains. The spec's failure on an empty intersection has no value
of its own in the uint64_t result that xe_bo_compute_metadata uses unchecked; the model
returns DRM_FORMAT_MOD_LINEAR, which ends every preference order. -/
def drvPickModifier (modifiers modifierOrder : List UInt64) : UInt64 :=
  match modifierOrder.find? (modifiers.contains ·) with
  | some modifier => modifier
  | none => drmFormatModLinear

/-! What a lookup can return. -/

section Lookup
variable (format : UInt32) (useFlags : UInt64)

theorem foldl_betterCombination_none (combos : List Combination) (best : Option Combination) :
    combos.foldl (betterCombination format useFlags) best = none ↔
      best = none ∧ ∀ c ∈ combos, ¬ (c.format = format ∧ useFlags &&& c.useFlags = useFlags) := by
  induction combos generalizing best with
  | nil => simp
  | cons c rest ih =>
    rw [List.foldl_cons, ih]
    unfold betterCombination
    by_cases hit : c.format = format ∧ useFlags &&& c.useFlags = useFlags
    · cases best with
      | none => simp [hit]
      | some b => by_cases higher : b.metadata.priority ≤ c.metadata.priority <;> simp [hit, higher]
    · simp only [hit, ↓reduceIte, List.mem_cons, forall_eq_or_imp, not_false_eq_true, true_and]

theorem foldl_betterCombination_some (combos : List Combination) (best : Option Combination)
    (r : Combination) (found : combos.foldl (betterCombination format useFlags) best = some r) :
    best = some r ∨ (r ∈ combos ∧ r.format = format ∧ useFlags &&& r.useFlags = useFlags) := by
  induction combos generalizing best with
  | nil => exact .inl found
  | cons c rest ih =>
    rcases ih _ found with same | later
    · unfold betterCombination at same
      split at same
      · rename_i hit
        split at same
        · split at same
          · cases same; exact .inr ⟨List.mem_cons_self _ _, hit⟩
          · exact .inl same
        · cases same; exact .inr ⟨List.mem_cons_self _ _, hit⟩
      · exact .inl same
    · exact .inr ⟨List.mem_cons_of_mem _ later.1, later.2⟩

theorem drvGetCombination_eq_none (combos : List Combination) :
    drvGetCombination combos format useFlags = none ↔
      ∀ c ∈ combos, ¬ (c.format = format ∧ useFlags &&& c.useFlags = useFlags) := by
  simp [drvGetCombination, foldl_betterCombination_none]

theorem drvGetCombination_mem {combos : List Combination} {combo : Combination}
    (found : drvGetCombination combos format useFlags = some combo) :
    combo ∈ combos ∧ combo.format = format ∧ useFlags &&& combo.useFlags = useFlags := by
  rcases foldl_betterCombination_some format useFlags combos none combo found with empty | hit
  · cases empty
  · exact hit

end Lookup

theorem drvPickModifier_offered (modifiers modifierOrder : List UInt64) :
    drvPickModifier modifiers modifierOrder ∈ modifiers ∨
      drvPickModifier modifiers modifierOrder = drmFormatModLinear := by
  unfold drvPickModifier
  split
  · rename_i modifier found
    exact .inl (by simpa using List.find?_some found)
  · exact .inr rfl

theorem drvPickModifier_mem (modifiers modifierOrder : List UInt64) :
    drvPickModifier modifiers modifierOrder ∈ modifierOrder ∨
      drvPickModifier modifiers modifierOrder = drmFormatModLinear := by
  unfold drvPickModifier
  split
  · rename_i modifier found
    exact .inl (List.mem_of_find?_eq_some found)
  · exact .inr rfl

/-! The steps that build a table, each with what it adds or changes. -/

section Steps
variable {combos : List Combination} {format : UInt32} {formats : List UInt32}
  {metadata : FormatMetadata} {useFlags : UInt64} {c : Combination}

theorem mem_drvAddCombination :
    c ∈ drvAddCombination combos format metadata useFlags ↔
      c ∈ combos ∨ c = ⟨format, metadata, useFlags⟩ := by
  simp [drvAddCombination]

theorem mem_drvAddCombinations :
    c ∈ drvAddCombinations combos formats metadata useFlags ↔
      c ∈ combos ∨ (c.format ∈ formats ∧ c.metadata = metadata ∧ c.useFlags = useFlags) := by
  simp only [drvAddCombinations, List.mem_append, List.mem_map]
  constructor
  · rintro (old | ⟨f, member, rfl⟩)
    exacts [.inl old, .inr ⟨member, rfl, rfl⟩]
  · rintro (old | ⟨member, same, flags⟩)
    exacts [.inl old, .inr ⟨c.format, member, by cases c; simp_all⟩]

theorem mem_drvModifyCombination (member : c ∈ drvModifyCombination combos format metadata useFlags) :
    ∃ c₀ ∈ combos, c.format = c₀.format ∧ c.metadata = c₀.metadata ∧
      (c.useFlags = c₀.useFlags ∨
        c₀.metadata.modifier = metadata.modifier ∧ c.useFlags = c₀.useFlags ||| useFlags) := by
  obtain ⟨c₀, old, rfl⟩ := List.mem_map.mp member
  refine ⟨c₀, old, ?_⟩
  split
  · rename_i hit
    exact ⟨rfl, rfl, .inr ⟨hit.2.2, rfl⟩⟩
  · exact ⟨rfl, rfl, .inl rfl⟩

end Steps

/-- Every tiled entry of a table leaves the uses of `mask` out. -/
def TiledAvoid (mask : UInt64) (combos : List Combination) : Prop :=
  ∀ c ∈ combos, c.metadata.modifier ≠ drmFormatModLinear → c.useFlags &&& mask = 0

namespace TiledAvoid
variable {mask : UInt64} {combos : List Combination} {format : UInt32} {formats : List UInt32}
  {metadata : FormatMetadata} {useFlags : UInt64}

theorem addCombination (valid : TiledAvoid mask combos)
    (fresh : metadata.modifier = drmFormatModLinear ∨ useFlags &&& mask = 0) :
    TiledAvoid mask (drvAddCombination combos format metadata useFlags) := by
  intro c member tiled
  rcases mem_drvAddCombination.mp member with old | rfl
  exacts [valid c old tiled, fresh.resolve_left tiled]

theorem addCombinations (valid : TiledAvoid mask combos)
    (fresh : metadata.modifier = drmFormatModLinear ∨ useFlags &&& mask = 0) :
    TiledAvoid mask (drvAddCombinations combos formats metadata useFlags) := by
  intro c member tiled
  rcases mem_drvAddCombinations.mp member with old | ⟨-, same, flags⟩
  · exact valid c old tiled
  · rw [same] at tiled
    rw [flags]
    exact fresh.resolve_left tiled

theorem modifyCombination (valid : TiledAvoid mask combos)
    (linear : metadata.modifier = drmFormatModLinear) :
    TiledAvoid mask (drvModifyCombination combos format metadata useFlags) := by
  intro c member tiled
  obtain ⟨c₀, old, -, same, flags | ⟨layout, -⟩⟩ := mem_drvModifyCombination member
  · rw [same] at tiled
    rw [flags]
    exact valid c₀ old tiled
  · exact absurd (same ▸ layout.trans linear) tiled

theorem modifyLinearCombinations (valid : TiledAvoid mask combos) :
    TiledAvoid mask (drvModifyLinearCombinations combos) :=
  modifyCombination (modifyCombination valid rfl) rfl

end TiledAvoid

theorem and_ne_zero_of_allowed {useFlags mask other : UInt64}
    (allowed : useFlags &&& mask = useFlags) (meets : useFlags &&& other ≠ 0) :
    mask &&& other ≠ 0 := by
  intro disjoint
  apply meets
  rw [← allowed]
  apply UInt64.eq_of_toBitVec_eq
  show useFlags.toBitVec &&& mask.toBitVec &&& other.toBitVec = 0
  rw [BitVec.and_assoc]
  exact (congrArg (useFlags.toBitVec &&& ·) (congrArg UInt64.toBitVec disjoint)).trans
    (BitVec.and_zero)

end Minigbm
