import Mathlib

set_option autoImplicit false

namespace LittleEndian

-- The low `count` bytes of a number, the least significant one first.
def toBytes : (count : Nat) → Nat → List UInt8
  | 0, _ => []
  | count + 1, n => n.toUInt8 :: toBytes count (n / 256)

def ofBytes : List UInt8 → Nat
  | [] => 0
  | byte :: rest => byte.toNat + 256 * ofBytes rest

@[simp] theorem length_toBytes (count n : Nat) : (toBytes count n).length = count := by
  induction count generalizing n with
  | zero => rfl
  | succ count ih => simp [toBytes, ih]

theorem ofBytes_toBytes (count n : Nat) : ofBytes (toBytes count n) = n % 256 ^ count := by
  induction count generalizing n with
  | zero => simp [toBytes, ofBytes, Nat.mod_one]
  | succ count ih =>
    have byte : n.toUInt8.toNat = n % 256 := by simp
    rw [toBytes, ofBytes, ih, byte, Nat.pow_succ, Nat.mul_comm (256 ^ count), Nat.mod_mul]

theorem ofBytes_toBytes_lt {count n : Nat} (fits : n < 256 ^ count) :
    ofBytes (toBytes count n) = n := by
  rw [ofBytes_toBytes, Nat.mod_eq_of_lt fits]

end LittleEndian
