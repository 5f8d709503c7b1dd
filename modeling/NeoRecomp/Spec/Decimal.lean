import NeoRecomp.Lib.Digits
import NeoRecomp.Spec.Arithmetic

/-!
# What ABCD, SBCD and NBCD compute

Packed decimal numbers, two digits a byte, the least significant byte first.
-/

namespace NeoRecomp

open BitArith

/-- ABCD, SBCD and NBCD. -/
def isDecimal : NgM68kMnemonic → Bool
  | .abcd | .sbcd | .nbcd => true
  | _ => false

section Bytes
variable {w : Nat}

/-- Both digits of a byte are decimal. -/
def ValidBcd (v : BitVec w) : Prop := v.toNat / 16 ≤ 9 ∧ v.toNat % 16 ≤ 9

instance (v : BitVec w) : Decidable (ValidBcd v) := inferInstanceAs (Decidable (_ ∧ _))

/-- The number of the two digits of a byte. -/
def bcdValue (v : BitVec w) : Nat := v.toNat / 16 * 10 + v.toNat % 16

/-- The number of a list of bytes. -/
def decimalNumber (vs : List (BitVec w)) : Nat := Nat.ofDigits 100 (vs.map bcdValue)

/-- The exact value of the operation: `dst + src + X`, `dst - src - X` or `0 - dst - X`. -/
def decimalExact (mn : NgM68kMnemonic) (dst src : Int) (x : Bool) : Int :=
  match mn with
  | .abcd => dst + src + x.toNat
  | .sbcd => dst - src - x.toNat
  | _ => 0 - dst - x.toNat

/-- What a chain over the operand pairs `ps` must leave: the bytes `rs` are the digits of the exact
value modulo `100^n`, X and C say whether it is out of range, and Z is set if it was set and every
byte is zero. -/
def DecimalExact (mn : NgM68kMnemonic) (sr : BitVec 16) (ps : List (BitVec w × BitVec w))
    (rs : List (BitVec w)) (sr' : BitVec 16) : Prop :=
  let e := decimalExact mn (decimalNumber (ps.map Prod.fst)) (decimalNumber (ps.map Prod.snd))
    (flagX sr)
  rs.length = ps.length ∧ (∀ r ∈ rs, ValidBcd r) ∧
    (decimalNumber rs : Int) = e % 100 ^ ps.length ∧
    flagX sr' = decide (¬ (0 ≤ e ∧ e < 100 ^ ps.length)) ∧
    (ps ≠ [] → flagC sr' = flagX sr') ∧
    (flagZ sr' = true ↔ flagZ sr = true ∧ ∀ r ∈ rs, r = 0)

end Bytes

end NeoRecomp
