/-
Checked arithmetic within its bounds does not fault, and conversions between
machine words keep the value that both can hold.
-/
import Mathlib.Algebra.Group.Int.Defs
import Mathlib.Algebra.Group.Nat.Defs
import RemoteView.Checked
import RemoteView.Proofs.Except

namespace RemoteView.Checked

theorem int32_yields {fault : Fault} {n : Int} (low : -2 ^ 31 ≤ n) (high : n < 2 ^ 31) :
    (int32 fault n).Yields (·.toInt = n) :=
  ⟨Int32.ofInt n, int32_eq_ok_iff.mpr (Int32.toInt_ofInt_of_le low high), Int32.toInt_ofInt_of_le low high⟩

theorem add_yields {a b : Int32} (low : -2 ^ 31 ≤ a.toInt + b.toInt) (high : a.toInt + b.toInt < 2 ^ 31) :
    (add a b).Yields (·.toInt = a.toInt + b.toInt) := int32_yields low high

theorem sub_yields {a b : Int32} (low : -2 ^ 31 ≤ a.toInt - b.toInt) (high : a.toInt - b.toInt < 2 ^ 31) :
    (sub a b).Yields (·.toInt = a.toInt - b.toInt) := int32_yields low high

theorem mul_yields {a b : Int32} (low : -2 ^ 31 ≤ a.toInt * b.toInt) (high : a.toInt * b.toInt < 2 ^ 31) :
    (mul a b).Yields (·.toInt = a.toInt * b.toInt) := int32_yields low high

theorem addU32_yields {a b : UInt32} (high : a.toNat + b.toNat < 2 ^ 32) :
    (addU32 a b).Yields (·.toNat = a.toNat + b.toNat) :=
  ⟨UInt32.ofNat (a.toNat + b.toNat), addU32_eq_ok_iff.mpr (UInt32.toNat_ofNat_of_lt' high),
    UInt32.toNat_ofNat_of_lt' high⟩

theorem addU64_yields {a b : UInt64} (high : a.toNat + b.toNat < 2 ^ 64) :
    (addU64 a b).Yields (·.toNat = a.toNat + b.toNat) :=
  ⟨UInt64.ofNat (a.toNat + b.toNat), addU64_eq_ok_iff.mpr (UInt64.toNat_ofNat_of_lt' high),
    UInt64.toNat_ofNat_of_lt' high⟩

theorem within64_yields {fault : Fault} {n : Int} (low : -2 ^ 63 ≤ n) (high : n < 2 ^ 63) :
    (within64 fault n).Yields (· = n) := by
  have hmax : n ≤ Int64.maxValue.toInt := by
    rw [Int64.toInt_maxValue]
    omega
  exact ⟨n, within64_eq_ok_iff.mpr ⟨rfl, low, hmax⟩, rfl⟩

/-! ## Conversions -/

theorem toInt_toInt32 {u : UInt32} (h : u.toNat < 2 ^ 31) : u.toInt32.toInt = u.toNat := by
  rw [← UInt32.ofNat_toNat (x := u), UInt32.toInt32_ofNat', Int32.toInt_ofNat_of_lt (by simpa using h)]
  simp

theorem toNat_toUInt32 {i : Int32} (h : 0 ≤ i.toInt) : (i.toUInt32.toNat : Int) = i.toInt := by
  rw [Int32.toNat_toUInt32_of_le (Int32.le_iff_toInt_le.mpr h)]
  exact Int.toNat_of_nonneg h

theorem toInt_max (a b : Int32) : (max a b).toInt = max a.toInt b.toInt := by
  show (if a ≤ b then b else a).toInt = _
  simp only [Int.max_def, ← Int32.le_iff_toInt_le]
  split <;> rfl

theorem toNat_ofNat_le (n : Nat) : (UInt32.ofNat n).toNat ≤ n := by
  rw [UInt32.toNat_ofNat']
  exact Nat.mod_le n _

end RemoteView.Checked
