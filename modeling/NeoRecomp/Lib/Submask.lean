import Mathlib.Data.Nat.Bitwise

/-!
# Numbers without the bits of a mask

Adding one through the filled mask steps to the next number that has none of its bits.  A loop that
steps so visits them in order and leaves none out.
-/

namespace Submask

def next (mask n : Nat) : Nat := Nat.ldiff ((n ||| mask) + 1) mask

/-- The numbers without a bit of the mask, from `n` on and below the bound. -/
def between (mask n bound : Nat) : List Nat :=
  (List.range' n (bound - n)).filter fun k => k &&& mask = 0

variable {mask n k bound : Nat}

/-! ## The next number -/

theorem next_and : next mask n &&& mask = 0 := by
  apply Nat.eq_of_testBit_eq
  intro i
  rw [next, Nat.testBit_land, Nat.testBit_ldiff, Nat.zero_testBit]
  cases mask.testBit i <;> simp

theorem next_zero : next 0 n = n + 1 := by
  apply Nat.eq_of_testBit_eq
  intro i
  rw [next, Nat.or_zero, Nat.testBit_ldiff, Nat.zero_testBit, Bool.not_false, Bool.and_true]

-- A set bit hands the carry on.
theorem bit_true_add_one : Nat.bit true n + 1 = Nat.bit false (n + 1) := by
  rw [Nat.bit_val, Nat.bit_val, Bool.toNat_true, Bool.toNat_false]
  omega

theorem next_bit_carry {b c : Bool} (h : (b || c) = true) :
    next (Nat.bit c mask) (Nat.bit b n) = Nat.bit false (next mask n) := by
  unfold next
  rw [Nat.lor_bit, h, bit_true_add_one, Nat.ldiff_bit, Bool.false_and]

-- A free bit that is clear takes the carry up.
theorem next_bit_stop (hn : n &&& mask = 0) :
    next (Nat.bit false mask) (Nat.bit false n) = Nat.bit true n := by
  have hadd : Nat.bit false (n ||| mask) + 1 = Nat.bit true (n ||| mask) := by
    rw [Nat.bit_val, Nat.bit_val, Bool.toNat_true, Bool.toNat_false]
  have hdiff : Nat.ldiff (n ||| mask) mask = n := by
    apply Nat.eq_of_testBit_eq
    intro i
    have hi := congrArg (Nat.testBit · i) hn
    simp only [Nat.testBit_land, Nat.zero_testBit] at hi
    rw [Nat.testBit_ldiff, Nat.testBit_lor]
    cases h : mask.testBit i with
    | false => simp
    | true =>
      rw [h, Bool.and_true] at hi
      simp [hi]
  unfold next
  rw [Nat.lor_bit, Bool.or_self, hadd, Nat.ldiff_bit, hdiff]
  rfl

theorem bit_and_eq_zero {b c : Bool} :
    Nat.bit b n &&& Nat.bit c mask = 0 ↔ (b && c) = false ∧ n &&& mask = 0 := by
  rw [Nat.land_bit, Nat.bit_val]
  cases (b && c) <;> simp

/-- The next number is the least one above. -/
theorem next_least (hn : n &&& mask = 0) :
    n < next mask n ∧ ∀ k, k &&& mask = 0 → n < k → next mask n ≤ k := by
  -- Along the bits of the mask, lowest first: the carry stops at a bit or goes on to the rest.
  induction mask using Nat.binaryRec generalizing n with
  | zero =>
    rw [next_zero]
    exact ⟨Nat.lt_succ_self n, fun k _ hlt => hlt⟩
  | bit c mask ih =>
    obtain ⟨b, n, rfl⟩ : ∃ b m, n = Nat.bit b m := ⟨_, _, (Nat.bit_bodd_div2 n).symm⟩
    obtain ⟨hbc, hrest⟩ := bit_and_eq_zero.mp hn
    obtain ⟨hlt, hleast⟩ := ih hrest
    by_cases hcarry : (b || c) = true
    · rw [next_bit_carry hcarry]
      refine ⟨Nat.bit_lt_bit b false hlt, fun k hk hnk => ?_⟩
      obtain ⟨d, k, rfl⟩ : ∃ d m, k = Nat.bit d m := ⟨_, _, (Nat.bit_bodd_div2 k).symm⟩
      obtain ⟨hdc, hkrest⟩ := bit_and_eq_zero.mp hk
      -- With `b` or `c` set, the lowest bit of `k` alone cannot make it greater.
      have hhigh : n < k := by
        rw [Nat.bit_val, Nat.bit_val] at hnk
        cases b <;> cases c <;> cases d <;> simp at hbc hdc hcarry hnk <;> omega
      have hle := hleast k hkrest hhigh
      rw [Nat.bit_val, Nat.bit_val, Bool.toNat_false]
      omega
    · obtain ⟨rfl, rfl⟩ : b = false ∧ c = false := by
        cases b <;> cases c <;> simp at hcarry ⊢
      rw [next_bit_stop hrest, Nat.bit_val, Nat.bit_val, Bool.toNat_true, Bool.toNat_false]
      exact ⟨by omega, fun k _ hnk => by omega⟩

theorem lt_next (hn : n &&& mask = 0) : n < next mask n := (next_least hn).1

theorem next_le (hn : n &&& mask = 0) (hk : k &&& mask = 0) (hlt : n < k) : next mask n ≤ k :=
  (next_least hn).2 k hk hlt

/-! ## All of them -/

theorem mem_between : k ∈ between mask n bound ↔ n ≤ k ∧ k < bound ∧ k &&& mask = 0 := by
  unfold between
  rw [List.mem_filter, List.mem_range'_1, decide_eq_true_eq]
  omega

theorem nodup_between : (between mask n bound).Nodup := by
  unfold between
  exact List.Pairwise.filter _ (List.nodup_range' 1)

-- Nothing is left out between a number and the next.
theorem between_next (hn : n &&& mask = 0) (hlt : n < bound) :
    between mask n bound = n :: between mask (next mask n) bound := by
  have hstep := lt_next hn
  have hgap (width : Nat) (hwidth : n + 1 + width ≤ next mask n) :
      (List.range' (n + 1) width).filter (fun k => k &&& mask = 0) = [] := by
    rw [List.filter_eq_nil_iff]
    intro k hk
    rw [List.mem_range'_1] at hk
    rw [decide_eq_true_eq]
    intro hfree
    have hle := next_le hn hfree (by omega)
    omega
  have hcount : bound - n = bound - (n + 1) + 1 := by omega
  unfold between
  rw [hcount, List.range'_succ, List.filter_cons, if_pos (decide_eq_true hn)]
  apply congrArg (n :: ·)
  by_cases hle : next mask n ≤ bound
  · have hsplit : bound - (n + 1) = (next mask n - (n + 1)) + (bound - next mask n) := by omega
    have hfirst : n + 1 + 1 * (next mask n - (n + 1)) = next mask n := by omega
    rw [hsplit, ← List.range'_append, List.filter_append, hgap _ (by omega), List.nil_append,
      hfirst]
  · have hnone : bound - next mask n = 0 := by omega
    rw [hgap _ (by omega), hnone]
    rfl

theorem between_self : between mask n n = [] := by
  unfold between
  rw [Nat.sub_self]
  rfl

/-- Below a power of two that the mask does not reach, the last step ends at the power itself. -/
theorem next_le_two_pow {w : Nat} (hmask : mask < 2 ^ w) (hn : n &&& mask = 0) (hlt : n < 2 ^ w) :
    next mask n ≤ 2 ^ w := by
  apply next_le hn _ hlt
  rw [Nat.two_pow_and, Nat.testBit_eq_false_of_lt hmask]
  rfl

/-! ## Words -/

theorem toNat_and_not {w : Nat} (a mask : BitVec w) :
    (a &&& ~~~mask).toNat = Nat.ldiff a.toNat mask.toNat := by
  apply Nat.eq_of_testBit_eq
  intro i
  rw [BitVec.testBit_toNat, BitVec.getLsbD_and, BitVec.getLsbD_not, Nat.testBit_ldiff,
    BitVec.testBit_toNat, BitVec.testBit_toNat]
  by_cases hi : i < w
  · rw [decide_eq_true hi, Bool.true_and]
  · rw [BitVec.getLsbD_of_ge a i (Nat.le_of_not_lt hi), Bool.false_and, Bool.false_and]

end Submask
