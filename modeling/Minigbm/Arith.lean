import Mathlib.Algebra.Order.Ring.Nat
import Mathlib.Algebra.Order.Ring.Int

/-!
C's unsigned arithmetic as the layout code of xe.c and of drv_helpers.c performs it.
A `Checked` value is the number the code stores, together with three observations of
the run that a checked build would report: whether every unsigned result fit its type
without being reduced modulo `2^w`, whether every operation had defined behaviour, and
whether every `assert` held. The values never depend on the observations. The macros
ALIGN, DIV_ROUND_UP and IS_ALIGNED come from util.h, which is not under src/.
-/

namespace Minigbm

structure Checked (α : Type) where
  value : α
  noWrap : Bool
  defined : Bool
  assertsHold : Bool

namespace Checked

instance : Monad Checked where
  pure a := ⟨a, true, true, true⟩
  bind x f :=
    ⟨(f x.value).value, x.noWrap && (f x.value).noWrap, x.defined && (f x.value).defined,
      x.assertsHold && (f x.value).assertsHold⟩

variable {α β : Type} (a : α) (x : Checked α) (f : α → Checked β)

@[simp] theorem value_pure : (pure a : Checked α).value = a := rfl
@[simp] theorem noWrap_pure : (pure a : Checked α).noWrap = true := rfl
@[simp] theorem defined_pure : (pure a : Checked α).defined = true := rfl
@[simp] theorem assertsHold_pure : (pure a : Checked α).assertsHold = true := rfl
@[simp] theorem value_bind : (x >>= f).value = (f x.value).value := rfl
@[simp] theorem noWrap_bind : (x >>= f).noWrap = (x.noWrap && (f x.value).noWrap) := rfl
@[simp] theorem defined_bind : (x >>= f).defined = (x.defined && (f x.value).defined) := rfl
@[simp] theorem assertsHold_bind :
    (x >>= f).assertsHold = (x.assertsHold && (f x.value).assertsHold) := rfl

/-! The observations of a sequence as conjunctions, for taking a run apart with `obtain`. -/

theorem noWrap_bind_eq_true :
    (x >>= f).noWrap = true ↔ x.noWrap = true ∧ (f x.value).noWrap = true := Bool.and_eq_true_iff
theorem defined_bind_eq_true :
    (x >>= f).defined = true ↔ x.defined = true ∧ (f x.value).defined = true :=
  Bool.and_eq_true_iff
theorem assertsHold_bind_eq_true :
    (x >>= f).assertsHold = true ↔ x.assertsHold = true ∧ (f x.value).assertsHold = true :=
  Bool.and_eq_true_iff

end Checked

/-- Storing the exact result `n` into a `bits`-bit unsigned variable. -/
def uint (bits n : Nat) : Checked Nat := ⟨n % 2 ^ bits, decide (n < 2 ^ bits), true, true⟩

/-- Modelled from the spec: util.h's ALIGN(A, B) is not under src/. It computes
`((A) + (B)-1) & ~((B)-1)` in the unsigned type of its operands; for the power-of-two `B`
of every use here, clearing the low bits rounds the wrapped sum down to a multiple of `B`. -/
def align (bits a b : Nat) : Checked Nat := do
  let sum ← uint bits (a + b - 1)
  pure (sum / b * b)

/-- Modelled from the spec: util.h's DIV_ROUND_UP(n, d), `((n) + (d) - 1) / (d)` on uint32. -/
def divRoundUp (n d : Nat) : Checked Nat := do
  let sum ← uint 32 (n + d - 1)
  pure (sum / d)

/-- Modelled from the spec: util.h's IS_ALIGNED(A, B), `ALIGN(A, B) == A`; for a
power-of-two `B` this says that `B` divides `A`. -/
def isAligned (a b : Nat) : Bool := a % b == 0

/-- `assert(condition)`: no effect on the values; a checked build stops when it fails. -/
def cAssert (condition : Bool) : Checked Unit := ⟨(), true, true, condition⟩

/-- `__builtin_clz(x)` for a uint32 `x`: the zero bits above its highest set bit. -/
def builtinClz (x : Nat) : Nat := leadingZeros 32
where
  leadingZeros : Nat → Nat
    | 0 => 0
    | n + 1 => if x.testBit n then 0 else leadingZeros n + 1

/-- The int expression `1 << count`, stored into a uint32. From a count of 31 on it is
undefined in C: `2^31` does not fit an int, and a count of 32 or more is past the width.
x86 shifts by the count modulo 32, and the stored bits are the value kept. -/
def shiftLeftOne (count : Nat) : Checked Nat :=
  ⟨2 ^ (count % 32), true, decide (count < 31), true⟩

@[simp] theorem value_uint (bits n : Nat) : (uint bits n).value = n % 2 ^ bits := rfl
@[simp] theorem noWrap_uint (bits n : Nat) : (uint bits n).noWrap = decide (n < 2 ^ bits) := rfl
@[simp] theorem defined_uint (bits n : Nat) : (uint bits n).defined = true := rfl
@[simp] theorem assertsHold_uint (bits n : Nat) : (uint bits n).assertsHold = true := rfl

@[simp] theorem value_align (bits a b : Nat) :
    (align bits a b).value = (a + b - 1) % 2 ^ bits / b * b := rfl
@[simp] theorem noWrap_align (bits a b : Nat) :
    (align bits a b).noWrap = decide (a + b - 1 < 2 ^ bits) := by
  simp [align]
@[simp] theorem defined_align (bits a b : Nat) : (align bits a b).defined = true := rfl
@[simp] theorem assertsHold_align (bits a b : Nat) : (align bits a b).assertsHold = true := rfl

@[simp] theorem value_divRoundUp (n d : Nat) :
    (divRoundUp n d).value = (n + d - 1) % 2 ^ 32 / d := rfl
@[simp] theorem noWrap_divRoundUp (n d : Nat) :
    (divRoundUp n d).noWrap = decide (n + d - 1 < 2 ^ 32) := by
  simp [divRoundUp]
@[simp] theorem defined_divRoundUp (n d : Nat) : (divRoundUp n d).defined = true := rfl
@[simp] theorem assertsHold_divRoundUp (n d : Nat) : (divRoundUp n d).assertsHold = true := rfl

@[simp] theorem value_cAssert (c : Bool) : (cAssert c).value = () := rfl
@[simp] theorem noWrap_cAssert (c : Bool) : (cAssert c).noWrap = true := rfl
@[simp] theorem defined_cAssert (c : Bool) : (cAssert c).defined = true := rfl
@[simp] theorem assertsHold_cAssert (c : Bool) : (cAssert c).assertsHold = c := rfl

@[simp] theorem value_shiftLeftOne (count : Nat) :
    (shiftLeftOne count).value = 2 ^ (count % 32) := rfl
@[simp] theorem noWrap_shiftLeftOne (count : Nat) : (shiftLeftOne count).noWrap = true := rfl
@[simp] theorem defined_shiftLeftOne (count : Nat) :
    (shiftLeftOne count).defined = decide (count < 31) := rfl
@[simp] theorem assertsHold_shiftLeftOne (count : Nat) :
    (shiftLeftOne count).assertsHold = true := rfl

/-! ALIGN: what it computes whether or not the sum wraps, and exactly when it does not. -/

theorem dvd_align (bits a b : Nat) : b ∣ (align bits a b).value :=
  Nat.dvd_mul_left b _

theorem align_lt (bits a b : Nat) : (align bits a b).value < 2 ^ bits :=
  Nat.lt_of_le_of_lt (Nat.div_mul_le_self _ b) (Nat.mod_lt _ (Nat.two_pow_pos bits))

theorem align_exact {bits a b : Nat} (positive : 0 < b)
    (fits : (align bits a b).noWrap = true) :
    a ≤ (align bits a b).value ∧ (align bits a b).value < a + b := by
  simp only [noWrap_align, decide_eq_true_eq] at fits
  simp only [value_align, Nat.mod_eq_of_lt fits]
  have low := @Nat.lt_div_mul_add (a + b - 1) b positive
  have high := Nat.div_mul_le_self (a + b - 1) b
  omega

theorem align_eq_mod {bits a b : Nat} (divides : b ∣ 2 ^ bits) :
    (align bits a b).value = (a + b - 1) / b * b % 2 ^ bits := by
  obtain ⟨k, hk⟩ := divides
  rw [value_align, hk, Nat.mod_mul_right_div_self, Nat.mul_comm b k, Nat.mul_mod_mul_right]

theorem align_of_dvd {bits a b : Nat} (divides : b ∣ 2 ^ bits) (aligned : b ∣ a)
    (below : a < 2 ^ bits) : (align bits a b).value = a := by
  have positive : 0 < b := Nat.pos_of_dvd_of_pos divides (Nat.two_pow_pos bits)
  obtain ⟨q, rfl⟩ := aligned
  rw [align_eq_mod divides, show b * q + b - 1 = b - 1 + b * q by omega,
    Nat.add_mul_div_left _ _ positive, Nat.div_eq_of_lt (by omega), Nat.zero_add, Nat.mul_comm,
    Nat.mod_eq_of_lt below]

theorem divRoundUp_exact {n d : Nat} (fits : (divRoundUp n d).noWrap = true) :
    (divRoundUp n d).value = (n + d - 1) / d := by
  simp only [noWrap_divRoundUp, decide_eq_true_eq] at fits
  rw [value_divRoundUp, Nat.mod_eq_of_lt fits]

theorem uint_exact {bits n : Nat} (fits : (uint bits n).noWrap = true) :
    (uint bits n).value = n := by
  simp only [noWrap_uint, decide_eq_true_eq] at fits
  exact Nat.mod_eq_of_lt fits

/-! `1 << (32 - __builtin_clz(x))` is the least power of two above `x`. -/

theorem leadingZeros_spec (x : Nat) :
    ∀ n, x < 2 ^ n →
      builtinClz.leadingZeros x n ≤ n ∧ x < 2 ^ (n - builtinClz.leadingZeros x n) ∧
        (0 < x → 2 ^ (n - builtinClz.leadingZeros x n - 1) ≤ x)
  | 0, below => by simp [builtinClz.leadingZeros] at below ⊢; omega
  | n + 1, below => by
    by_cases top : x.testBit n
    · simp only [builtinClz.leadingZeros, top, ↓reduceIte, Nat.sub_zero]
      exact ⟨Nat.zero_le _, below, fun _ => by simpa using Nat.testBit_implies_ge top⟩
    · have lower : x < 2 ^ n := by
        rw [Nat.testBit_to_div_mod] at top
        have quotient : x / 2 ^ n < 2 := by
          rw [Nat.div_lt_iff_lt_mul (Nat.two_pow_pos n)]
          rw [Nat.pow_succ] at below
          omega
        have even : ¬ x / 2 ^ n % 2 = 1 := fun odd => top (decide_eq_true odd)
        have zero : x / 2 ^ n = 0 := by
          generalize x / 2 ^ n = q at quotient even
          omega
        exact (Nat.div_eq_zero_iff (Nat.two_pow_pos n)).mp zero
      obtain ⟨bound, above, least⟩ := leadingZeros_spec x n lower
      simp only [builtinClz.leadingZeros, top, Bool.false_eq_true, ↓reduceIte]
      refine ⟨by omega, ?_, ?_⟩
      · simpa [Nat.add_sub_add_right] using above
      · simpa [Nat.add_sub_add_right] using least

theorem builtinClz_spec {x : Nat} (positive : 0 < x) (below : x < 2 ^ 32) :
    builtinClz x ≤ 31 ∧ x < 2 ^ (32 - builtinClz x) ∧ 2 ^ (31 - builtinClz x) ≤ x := by
  obtain ⟨bound, above, least⟩ := leadingZeros_spec x 32 below
  have notAll : builtinClz.leadingZeros x 32 ≠ 32 := by
    intro all
    rw [all] at above
    simp at above
    omega
  refine ⟨by unfold builtinClz; omega, above, ?_⟩
  have := least positive
  unfold builtinClz
  rwa [show 32 - builtinClz.leadingZeros x 32 - 1 = 31 - builtinClz.leadingZeros x 32 by omega]
    at this

theorem shiftLeftOne_clz {s : Nat} (two : 2 ≤ s) (bounded : s ≤ 2 ^ 31) :
    (∃ c, (shiftLeftOne (32 - builtinClz (s - 1))).value = 2 ^ c ∧ s ≤ 2 ^ c ∧ 2 ^ c < 2 * s) ∧
      ((shiftLeftOne (32 - builtinClz (s - 1))).defined = true ↔ s ≤ 2 ^ 30) := by
  obtain ⟨most, above, least⟩ := @builtinClz_spec (s - 1) (by omega) (by omega)
  have leading : 1 ≤ builtinClz (s - 1) := by
    by_contra none
    rw [show builtinClz (s - 1) = 0 by omega] at least
    omega
  simp only [value_shiftLeftOne, defined_shiftLeftOne, decide_eq_true_eq,
    Nat.mod_eq_of_lt (by omega : 32 - builtinClz (s - 1) < 32)]
  have double : 2 ^ (32 - builtinClz (s - 1)) = 2 * 2 ^ (31 - builtinClz (s - 1)) := by
    rw [← Nat.pow_succ', show 32 - builtinClz (s - 1) = 31 - builtinClz (s - 1) + 1 by omega]
  refine ⟨⟨_, rfl, by omega, by omega⟩, ⟨fun defined => ?_, fun small => ?_⟩⟩
  · have := Nat.pow_le_pow_right (by decide : 0 < 2) (by omega : 32 - builtinClz (s - 1) ≤ 30)
    omega
  · by_contra undefined
    have := Nat.pow_le_pow_right (by decide : 0 < 2) (by omega : 30 ≤ 31 - builtinClz (s - 1))
    omega

end Minigbm
