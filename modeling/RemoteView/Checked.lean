/-
Checked arithmetic on machine words. An operation is carried out on the
integers, and its value is kept only if the word can hold it; otherwise the
operation faults. So a result that was computed always stands for the exact
integer, which is what the lemmas at the end say of each operation.
-/
import RemoteView.Fault

namespace RemoteView.Checked

/-- The integer as a signed 32-bit word, or `fault` if it needs more bits. -/
def int32 (fault : Fault) (n : Int) : Except Fault Int32 :=
  if Int32.minValue.toInt ≤ n ∧ n ≤ Int32.maxValue.toInt then .ok (Int32.ofInt n) else .error fault

/-- The number as an unsigned 32-bit word, or `fault` if it needs more bits. -/
def uint32 (fault : Fault) (n : Nat) : Except Fault UInt32 :=
  if n < UInt32.size then .ok (UInt32.ofNat n) else .error fault

/-- The number as an unsigned 64-bit word, or `fault` if it needs more bits. -/
def uint64 (fault : Fault) (n : Nat) : Except Fault UInt64 :=
  if n < UInt64.size then .ok (UInt64.ofNat n) else .error fault

/-- The integer itself, or `fault` if a signed 64-bit word cannot hold it. -/
def within64 (fault : Fault) (n : Int) : Except Fault Int :=
  if Int64.minValue.toInt ≤ n ∧ n ≤ Int64.maxValue.toInt then .ok n else .error fault

def add (a b : Int32) : Except Fault Int32 := int32 .addOverflow (a.toInt + b.toInt)

def sub (a b : Int32) : Except Fault Int32 := int32 .subOverflow (a.toInt - b.toInt)

def mul (a b : Int32) : Except Fault Int32 := int32 .mulOverflow (a.toInt * b.toInt)

def addU32 (a b : UInt32) : Except Fault UInt32 := uint32 .addOverflow (a.toNat + b.toNat)

def addU64 (a b : UInt64) : Except Fault UInt64 := uint64 .addOverflow (a.toNat + b.toNat)

/-! ## What a result stands for -/

theorem int32_eq_ok_iff {fault : Fault} {n : Int} {r : Int32} :
    int32 fault n = .ok r ↔ r.toInt = n := by
  unfold int32
  constructor
  · intro h
    split at h
    next bounds =>
      obtain rfl : Int32.ofInt n = r := by simpa using h
      exact Int32.toInt_ofInt_of_le (by simpa using bounds.1)
        (by have := bounds.2; simp only [Int32.toInt_maxValue] at this; omega)
    next => cases h
  · rintro rfl
    have low := r.minValue_le_toInt
    have high := r.toInt_le
    rw [if_pos ⟨low, high⟩, Int32.ofInt_toInt]

theorem uint32_eq_ok_iff {fault : Fault} {n : Nat} {r : UInt32} :
    uint32 fault n = .ok r ↔ r.toNat = n := by
  unfold uint32
  constructor
  · intro h
    split at h
    next bound =>
      obtain rfl : UInt32.ofNat n = r := by simpa using h
      exact UInt32.toNat_ofNat_of_lt' bound
    next => cases h
  · rintro rfl
    rw [if_pos r.toNat_lt, UInt32.ofNat_toNat]

theorem uint64_eq_ok_iff {fault : Fault} {n : Nat} {r : UInt64} :
    uint64 fault n = .ok r ↔ r.toNat = n := by
  unfold uint64
  constructor
  · intro h
    split at h
    next bound =>
      obtain rfl : UInt64.ofNat n = r := by simpa using h
      exact UInt64.toNat_ofNat_of_lt' bound
    next => cases h
  · rintro rfl
    rw [if_pos r.toNat_lt, UInt64.ofNat_toNat]

theorem within64_eq_ok_iff {fault : Fault} {n r : Int} :
    within64 fault n = .ok r ↔
      r = n ∧ Int64.minValue.toInt ≤ n ∧ n ≤ Int64.maxValue.toInt := by
  unfold within64
  split
  next bounds => exact ⟨fun h => ⟨by cases h; rfl, bounds⟩, fun h => by rw [h.1]⟩
  next bounds => exact ⟨nofun, fun h => absurd h.2 bounds⟩

theorem add_eq_ok_iff {a b r : Int32} : add a b = .ok r ↔ r.toInt = a.toInt + b.toInt :=
  int32_eq_ok_iff

theorem sub_eq_ok_iff {a b r : Int32} : sub a b = .ok r ↔ r.toInt = a.toInt - b.toInt :=
  int32_eq_ok_iff

theorem mul_eq_ok_iff {a b r : Int32} : mul a b = .ok r ↔ r.toInt = a.toInt * b.toInt :=
  int32_eq_ok_iff

theorem addU32_eq_ok_iff {a b r : UInt32} : addU32 a b = .ok r ↔ r.toNat = a.toNat + b.toNat :=
  uint32_eq_ok_iff

theorem addU64_eq_ok_iff {a b r : UInt64} : addU64 a b = .ok r ↔ r.toNat = a.toNat + b.toNat :=
  uint64_eq_ok_iff

end RemoteView.Checked
