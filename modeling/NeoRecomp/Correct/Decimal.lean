import NeoRecomp.Correct.Extended
import NeoRecomp.Correct.LimbChains
import NeoRecomp.Spec.Decimal

/-!
# Decimal chains

ABCD, SBCD and NBCD run byte by byte from the least significant one compute the digits of the exact
result.  One byte is converted to a number below a hundred, combined and packed again.
-/

namespace NeoRecomp

open Gen BitArith

/-! ## One byte -/

theorem toNat_bcdToByte (v : BitVec 8) : (bcdToByte v).toNat = bcdValue v := by
  have hv := v.isLt
  rw [bcdToByte, bcdValue, BitVec.toNat_add, BitVec.toNat_mul, BitVec.toNat_ushiftRight,
    BitVec.toNat_and, Nat.shiftRight_eq_div_pow, show (0x0F : BitVec 8).toNat = 2 ^ 4 - 1 from rfl,
    Nat.and_two_pow_sub_one_eq_mod, show (10 : BitVec 8).toNat = 10 from rfl]
  omega

theorem bcdValue_lt {w : Nat} {v : BitVec w} (h : ValidBcd v) : bcdValue v < 100 := by
  obtain ⟨h1, h2⟩ := h
  rw [bcdValue]
  omega

/-- Packing a number below a hundred. -/
theorem byteToBcd_spec {v : BitVec 8} (h : v.toNat < 100) :
    ValidBcd (byteToBcd v) ∧ bcdValue (byteToBcd v) = v.toNat := by
  have hval : (byteToBcd v).toNat = v.toNat / 10 * 16 + v.toNat % 10 := by
    rw [byteToBcd, BitVec.toNat_or, BitVec.toNat_shiftLeft, BitVec.toNat_udiv, BitVec.toNat_umod,
      show (10 : BitVec 8).toNat = 10 from rfl, Nat.mod_eq_of_lt (by omega),
      ← Nat.shiftLeft_add_eq_or_of_lt (by omega), Nat.shiftLeft_eq]
  rw [ValidBcd, bcdValue, hval]
  omega

/-- The result and borrow the text of NBCD computes. -/
def nbcdResult (value x : BitVec 8) : BitVec 8 × Bool :=
  let decimal := bcdToByte value
  (byteToBcd (((100 - decimal.setWidth 32 - x.setWidth 32 : BitVec 32) % 100).setWidth 8),
    decimal.setWidth 32 + x.setWidth 32 != 0)

/-- The result and carry of a decimal instruction on one byte. -/
def decimalByte (mn : NgM68kMnemonic) (x : Bool) (dst src : BitVec 8) : BitVec 8 × Bool :=
  if mn = .nbcd then nbcdResult dst (BitVec.ofNat 8 x.toNat)
  else decimalResult (mn = .sbcd) src dst (BitVec.ofNat 8 x.toNat)

def decimalOp (mn : NgM68kMnemonic) : LimbOp (ngSizeBits 1) := fun x p =>
  decimalByte mn x p.1 p.2

/-- The sign of the operation and the digits it combines; NBCD subtracts from zero. -/
def decimalSign (mn : NgM68kMnemonic) : Int := if mn = .abcd then 1 else -1

def decimalDigits {w : Nat} (mn : NgM68kMnemonic) (p : BitVec w × BitVec w) : Nat × Nat :=
  if mn = .nbcd then (0, bcdValue p.1) else (bcdValue p.1, bcdValue p.2)

section Byte

theorem toNat_ofNat_bool (x : Bool) : (BitVec.ofNat 8 x.toNat).toNat = x.toNat := by
  cases x <;> rfl

/-- A remainder modulo 100 in a byte. -/
theorem toNat_mod_hundred (v : BitVec 32) : ((v % 100).setWidth 8).toNat = v.toNat % 100 := by
  have hlt := Nat.mod_lt v.toNat (show 0 < 100 by decide)
  rw [BitVec.toNat_setWidth, BitVec.toNat_umod, show (100 : BitVec 32).toNat = 100 from rfl,
    Nat.mod_eq_of_lt (by omega)]

variable {d s : BitVec 8} (hd : bcdValue d < 100) (hs : bcdValue s < 100) (x : Bool)
include hd

section Pair
include hs

theorem abcd_byte : ∃ r : BitVec 8, r.toNat = (bcdValue d + bcdValue s + x.toNat) % 100 ∧
    decimalResult false s d (BitVec.ofNat 8 x.toNat) =
      (byteToBcd r, decide (99 < bcdValue d + bcdValue s + x.toNat)) := by
  have hx := Bool.toNat_le x
  unfold decimalResult
  dsimp only
  rw [if_neg Bool.false_ne_true]
  have hsum : ((((bcdToByte d).setWidth 32 + (bcdToByte s).setWidth 32 +
      (BitVec.ofNat 8 x.toNat).setWidth 32 : BitVec 32).setWidth 16).setWidth 32).toNat =
        bcdValue d + bcdValue s + x.toNat := by
    simp only [BitVec.toNat_setWidth, BitVec.toNat_add, toNat_bcdToByte, toNat_ofNat_bool]
    omega
  generalize (((bcdToByte d).setWidth 32 + (bcdToByte s).setWidth 32 +
      (BitVec.ofNat 8 x.toNat).setWidth 32 : BitVec 32).setWidth 16).setWidth 32 = sum at hsum
  refine ⟨(sum % 100).setWidth 8, by rw [toNat_mod_hundred, hsum], ?_⟩
  rw [← hsum]
  rfl

theorem sbcd_byte : ∃ r : BitVec 8,
    r.toNat = (100 + bcdValue d - (bcdValue s + x.toNat)) % 100 ∧
    decimalResult true s d (BitVec.ofNat 8 x.toNat) =
      (byteToBcd r, decide (bcdValue d < bcdValue s + x.toNat)) := by
  have hx := Bool.toNat_le x
  unfold decimalResult
  dsimp only
  rw [if_pos rfl]
  have hfull : ((((bcdToByte s).setWidth 32 + (BitVec.ofNat 8 x.toNat).setWidth 32 :
      BitVec 32).setWidth 16).setWidth 32).toNat = bcdValue s + x.toNat := by
    simp only [BitVec.toNat_setWidth, BitVec.toNat_add, toNat_bcdToByte, toNat_ofNat_bool]
    omega
  generalize (((bcdToByte s).setWidth 32 + (BitVec.ofNat 8 x.toNat).setWidth 32 :
      BitVec 32).setWidth 16).setWidth 32 = full at hfull
  have hdst : ((bcdToByte d).setWidth 32).toNat = bcdValue d := by
    simp only [BitVec.toNat_setWidth, toNat_bcdToByte]
    omega
  -- a hundred more than the minuend is never below the subtrahend
  have hdiff : (100 + (bcdToByte d).setWidth 32 - full : BitVec 32).toNat =
      100 + bcdValue d - (bcdValue s + x.toNat) := by
    rw [BitVec.toNat_sub, BitVec.toNat_add, hdst, hfull, show (100 : BitVec 32).toNat = 100 from rfl]
    omega
  refine ⟨_, by rw [toNat_mod_hundred, hdiff], ?_⟩
  rw [← hfull, ← hdst]
  rfl

end Pair

theorem nbcd_byte : ∃ r : BitVec 8, r.toNat = (100 - bcdValue d - x.toNat) % 100 ∧
    nbcdResult d (BitVec.ofNat 8 x.toNat) =
      (byteToBcd r, decide (0 < bcdValue d + x.toNat)) := by
  have hx := Bool.toNat_le x
  have hdst : ((bcdToByte d).setWidth 32).toNat = bcdValue d := by
    simp only [BitVec.toNat_setWidth, toNat_bcdToByte]
    omega
  have hext : ((BitVec.ofNat 8 x.toNat).setWidth 32).toNat = x.toNat := by
    simp only [BitVec.toNat_setWidth, toNat_ofNat_bool]
    omega
  unfold nbcdResult
  dsimp only
  generalize (BitVec.ofNat 8 x.toNat).setWidth 32 = ext at hext
  generalize (bcdToByte d).setWidth 32 = dec at hdst
  have hdiff : (100 - dec - ext : BitVec 32).toNat = 100 - bcdValue d - x.toNat := by
    rw [BitVec.toNat_sub, BitVec.toNat_sub, hdst, hext, show (100 : BitVec 32).toNat = 100 from rfl]
    omega
  have hborrow : (dec + ext != 0) = decide (0 < bcdValue d + x.toNat) := by
    rw [bne_zero_eq_decide, BitVec.toNat_add, hdst, hext, Nat.mod_eq_of_lt (by omega)]
  exact ⟨_, by rw [toNat_mod_hundred, hdiff], by rw [hborrow]⟩

end Byte

/-- A packed remainder and its carry are one step to the base 100. -/
theorem digitStep_of_byte {sgn : Int} {x b : Bool} {q : Nat × Nat} {r : BitVec 8}
    (hr : (r.toNat : Int) = digitExact sgn x q % 100)
    (hb : b = decide (¬ (0 ≤ digitExact sgn x q ∧ digitExact sgn x q < 100))) :
    ValidBcd (byteToBcd r) ∧ (bcdValue (byteToBcd r), b) = digitStep 100 sgn x q := by
  obtain ⟨hvalid, hval⟩ := byteToBcd_spec (v := r) (by omega)
  refine ⟨hvalid, ?_⟩
  rw [digitStep, hval, hb]
  congr 1
  omega

theorem decimalByte_spec {mn : NgM68kMnemonic} (hm : isDecimal mn = true) (x : Bool)
    {d s : BitVec 8} (h1 : ValidBcd d) (h2 : mn ≠ .nbcd → ValidBcd s) :
    ValidBcd (decimalByte mn x d s).1 ∧
      (bcdValue (decimalByte mn x d s).1, (decimalByte mn x d s).2) =
        digitStep 100 (decimalSign mn) x (decimalDigits mn (d, s)) := by
  have hd := bcdValue_lt h1
  have hx := Bool.toNat_le x
  cases mn <;> try exact absurd hm (by decide)
  case abcd =>
    have hs := bcdValue_lt (h2 (by decide))
    obtain ⟨r, hr, hout⟩ := abcd_byte hd hs x
    rw [show decimalByte .abcd x d s = _ from hout]
    refine digitStep_of_byte ?_ ?_
    · simp only [digitExact, decimalSign, decimalDigits, reduceCtorEq, if_true, if_false]
      omega
    · simp only [digitExact, decimalSign, decimalDigits, reduceCtorEq, if_true, if_false,
        decide_eq_decide]
      omega
  case sbcd =>
    have hs := bcdValue_lt (h2 (by decide))
    obtain ⟨r, hr, hout⟩ := sbcd_byte hd hs x
    rw [show decimalByte .sbcd x d s = _ from hout]
    refine digitStep_of_byte ?_ ?_
    · simp only [digitExact, decimalSign, decimalDigits, reduceCtorEq, if_false]
      omega
    · simp only [digitExact, decimalSign, decimalDigits, reduceCtorEq, if_false,
        decide_eq_decide]
      omega
  case nbcd =>
    obtain ⟨r, hr, hout⟩ := nbcd_byte hd x
    rw [show decimalByte .nbcd x d s = _ from hout]
    refine digitStep_of_byte ?_ ?_
    · simp only [digitExact, decimalSign, decimalDigits, reduceCtorEq, if_true, if_false]
      omega
    · simp only [digitExact, decimalSign, decimalDigits, reduceCtorEq, if_true, if_false,
        decide_eq_decide]
      omega

/-- One byte is one step to the base 100. -/
theorem decimalOp_spec {mn : NgM68kMnemonic} (hm : isDecimal mn = true) (x : Bool)
    {p : BitVec (ngSizeBits 1) × BitVec (ngSizeBits 1)} (h1 : ValidBcd p.1)
    (h2 : mn ≠ .nbcd → ValidBcd p.2) :
    ValidBcd (decimalOp mn x p).1 ∧
      (bcdValue (decimalOp mn x p).1, (decimalOp mn x p).2) =
        digitStep 100 (decimalSign mn) x (decimalDigits mn p) :=
  decimalByte_spec hm x h1 h2

/-! ## All bytes -/

section Chain
variable {mn : NgM68kMnemonic} (hm : isDecimal mn = true)
  {ps : List (BitVec (ngSizeBits 1) × BitVec (ngSizeBits 1))}
include hm

/-- The chain of bytes is the chain of their digits. -/
theorem decimalChain_spec (x z : Bool) (h1 : ∀ p ∈ ps, ValidBcd p.1)
    (h2 : mn ≠ .nbcd → ∀ p ∈ ps, ValidBcd p.2) :
    (∀ r ∈ (opChain (decimalOp mn) x z ps).1, ValidBcd r) ∧
      digitChain 100 (decimalSign mn) x (ps.map (decimalDigits mn)) =
        ((opChain (decimalOp mn) x z ps).1.map bcdValue, (opChain (decimalOp mn) x z ps).2.1) := by
  induction ps generalizing x z with
  | nil => exact ⟨List.forall_mem_nil _, rfl⟩
  | cons p ps ih =>
    obtain ⟨hp, h1⟩ := List.forall_mem_cons.mp h1
    obtain ⟨hvalid, hstep⟩ := decimalOp_spec hm x hp fun hn => h2 hn p List.mem_cons_self
    obtain ⟨hrest, hchain⟩ := ih (decimalOp mn x p).2 (z && decide ((decimalOp mn x p).1 = 0)) h1
      fun hn q hq => h2 hn q (.tail _ hq)
    refine ⟨List.forall_mem_cons.mpr ⟨hvalid, hrest⟩, ?_⟩
    rw [List.map_cons, digitChain, ← hstep, opChain]
    dsimp only
    rw [hchain]
    rfl

omit hm in
theorem map_decimalDigits (hn : mn ≠ .nbcd) :
    (ps.map (decimalDigits mn)).map Prod.fst = (ps.map Prod.fst).map bcdValue ∧
      (ps.map (decimalDigits mn)).map Prod.snd = (ps.map Prod.snd).map bcdValue := by
  simp only [List.map_map]
  constructor
  · apply List.map_congr_left
    intro p _
    simp only [Function.comp, decimalDigits, if_neg hn]
  · apply List.map_congr_left
    intro p _
    simp only [Function.comp, decimalDigits, if_neg hn]

omit hm in
theorem ofDigits_zeros (ds : List Nat) (h : ∀ d ∈ ds, d = 0) : Nat.ofDigits 100 ds = 0 := by
  induction ds with
  | nil => rfl
  | cons d ds ih =>
    obtain ⟨hd, hds⟩ := List.forall_mem_cons.mp h
    rw [Nat.ofDigits_cons, hd, ih hds]

/-- The exact value in terms of the digits combined. -/
theorem decimalExact_eq (x : Bool) :
    decimalExact mn (decimalNumber (ps.map Prod.fst)) (decimalNumber (ps.map Prod.snd)) x =
      (Nat.ofDigits 100 ((ps.map (decimalDigits mn)).map Prod.fst) : Nat) +
        decimalSign mn *
          ((Nat.ofDigits 100 ((ps.map (decimalDigits mn)).map Prod.snd) : Nat) + x.toNat) := by
  cases mn <;> try exact absurd hm (by decide)
  case abcd =>
    obtain ⟨h1, h2⟩ := @map_decimalDigits .abcd ps (by decide)
    rw [h1, h2, decimalExact, decimalSign, if_pos rfl, decimalNumber, decimalNumber]
    omega
  case sbcd =>
    obtain ⟨h1, h2⟩ := @map_decimalDigits .sbcd ps (by decide)
    rw [h1, h2, decimalExact, decimalSign, if_neg (by decide), decimalNumber, decimalNumber]
    omega
  case nbcd =>
    have h1 : Nat.ofDigits 100 ((ps.map (decimalDigits .nbcd)).map Prod.fst) = 0 := by
      apply ofDigits_zeros
      intro d hd
      rw [List.map_map] at hd
      obtain ⟨p, -, rfl⟩ := List.mem_map.mp hd
      rfl
    have h2 : (ps.map (decimalDigits .nbcd)).map Prod.snd = (ps.map Prod.fst).map bcdValue := by
      rw [List.map_map, List.map_map]
      rfl
    rw [h1, h2, decimalExact, decimalSign, if_neg (by decide), decimalNumber]
    · omega
    · decide
    · decide

theorem decimalExact_of_chain {sr sr' : BitVec 16} (h1 : ∀ p ∈ ps, ValidBcd p.1)
    (h2 : mn ≠ .nbcd → ∀ p ∈ ps, ValidBcd p.2) (hflags : FlagsAfterChain sr sr' (decimalOp mn) ps) :
    DecimalExact mn sr ps (opChain (decimalOp mn) (flagX sr) (flagZ sr) ps).1 sr' := by
  obtain ⟨hvalid, hchain⟩ := decimalChain_spec hm (flagX sr) (flagZ sr) h1 h2
  have hsign : decimalSign mn = 1 ∨ decimalSign mn = -1 := by
    unfold decimalSign
    split_ifs
    · exact .inl rfl
    · exact .inr rfl
  have hdigits : ∀ q ∈ ps.map (decimalDigits mn), q.1 < 100 ∧ q.2 < 100 := by
    intro q hq
    obtain ⟨p, hp, rfl⟩ := List.mem_map.mp hq
    unfold decimalDigits
    split_ifs with hn
    · exact ⟨Nat.zero_lt_succ 99, bcdValue_lt (h1 p hp)⟩
    · exact ⟨bcdValue_lt (h1 p hp), bcdValue_lt (h2 hn p hp)⟩
  have hexact := digitChain_exact hsign (by decide) (flagX sr) hdigits
    (@decimalExact_eq mn hm ps (flagX sr))
  rw [hchain, List.length_map] at hexact
  refine ⟨length_opChain _ _ _ _, hvalid, hexact.1, by rw [hflags.x]; exact hexact.2, hflags.c, ?_⟩
  rw [hflags.z, opChain_zero, Bool.and_eq_true, decide_eq_true_iff]

end Chain

/-! ## One instruction -/

section Instructions
variable {β : Type} [GeneratedAbi β] {instr : NgM68kInstr}

/-- The flag statements of the decimal instructions. -/
theorem flagsAfter_bcd (result : BitVec 8) (borrow : Bool) (sr : BitVec 16) :
    FlagsAfter (w := 8) sr (bcdFlags result borrow sr) (result, borrow) := by
  have hbase : ∀ i, i = 0 ∨ i = 4 →
      (if result != 0 then (sr &&& 0xFFE4) &&& ~~~ngCcrZ else sr &&& 0xFFE4).getLsbD i = false := by
    intro i hi
    split_ifs
    · rcases hi with rfl | rfl <;> simp
    · rcases hi with rfl | rfl <;> simp
  have hzero : (if result != 0 then (sr &&& 0xFFE4) &&& ~~~ngCcrZ
      else sr &&& 0xFFE4).getLsbD 2 = (sr.getLsbD 2 && decide (result = 0)) := by
    by_cases h : result = 0
    · rw [if_neg (by rw [h]; decide), decide_eq_true h]
      simp
    · rw [if_pos (bne_iff_ne.mpr h), decide_eq_false h]
      simp [ngCcrZ]
  refine ⟨?_, ?_, ?_⟩
  · rw [flagX, bcdFlags, getLsbD_orIf, getLsbD_orIf, hbase 4 (.inr rfl)]
    simp [ngCcrC, ngCcrX, ngCcrN]
  · rw [flagC, bcdFlags, getLsbD_orIf, getLsbD_orIf, hbase 0 (.inl rfl)]
    simp [ngCcrC, ngCcrX, ngCcrN]
  · rw [flagZ, bcdFlags, getLsbD_orIf, getLsbD_orIf, hzero, flagZ]
    simp [ngCcrC, ngCcrX, ngCcrN]

/-- A decimal instruction in its byte form, on data registers or on predecremented memory. -/
structure DecimalForm (mode : NgM68kEaMode) (instr : NgM68kInstr) : Prop where
  decimal : isDecimal instr.mnemonic = true
  size : instr.mnemonic = .nbcd → instr.size = 1
  dst : instr.dst.mode = mode
  src : instr.mnemonic ≠ .nbcd → instr.src.mode = mode

omit [GeneratedAbi β] in
theorem storeByteDreg_eq (reg : BitVec 8) (result : BitVec 8) :
    (storeByteDreg reg result : Gen β Unit) =
      modifyCpu fun g => g.setD (regIndex reg) (replaceLow (g.d (regIndex reg)) result) := by
  unfold storeByteDreg
  congr 1
  funext g
  exact congrArg (g.setD (regIndex reg)) (@and_keep_or_promote 1 _ result)

theorem setWidth_and_byte (v : BitVec 32) : (v &&& 0xFF).setWidth 8 = v.setWidth 8 := by
  apply BitVec.eq_of_toNat_eq
  rw [BitVec.toNat_setWidth, BitVec.toNat_and, show (0xFF : BitVec 32).toNat = 2 ^ 8 - 1 from rfl,
    Nat.and_two_pow_sub_one_eq_mod, Nat.mod_mod, BitVec.toNat_setWidth]

theorem decimalByte_nbcd (x : Bool) (d s : BitVec 8) :
    decimalByte .nbcd x d s = nbcdResult d (BitVec.ofNat 8 x.toNat) := rfl

theorem decimalByte_pair {mn : NgM68kMnemonic} (hn : mn ≠ .nbcd) (x : Bool) (d s : BitVec 8) :
    decimalByte mn x d s = decimalResult (mn = .sbcd) s d (BitVec.ofNat 8 x.toNat) := if_neg hn

omit [GeneratedAbi β] in
theorem emitNbcdCore_eq (value x : BitVec 8) (store : BitVec 8 → Gen β Unit) :
    emitNbcdCore value x store = (do
      store (nbcdResult value x).1
      modifyCpu fun g =>
        g.setSr (bcdFlags (nbcdResult value x).1 (nbcdResult value x).2 g.sr)) := rfl

theorem isDecimal_pair {mn : NgM68kMnemonic} (h : isDecimal mn = true) (hn : mn ≠ .nbcd) :
    mn = .abcd ∨ mn = .sbcd := by
  cases mn <;> first | exact .inl rfl | exact .inr rfl | exact absurd rfl hn | cases h

theorem emitInstr_nbcd (h : instr.mnemonic = .nbcd) :
    emitInstr (β := β) instr = orUnsupported instr (emitNbcdGeneric instr) := by
  simp only [emitInstr, h]

theorem emitInstr_pair (h : instr.mnemonic = .abcd ∨ instr.mnemonic = .sbcd) :
    emitInstr (β := β) instr = orUnsupported instr (emitAbcdSbcd instr) := by
  rcases h with h | h <;> simp only [emitInstr, h]

/-- What the text does in data registers. -/
theorem decimal_register_text (h : DecimalForm .dreg instr) (m : Machine β) :
    ∃ out : BitVec 8 × Bool, out = decimalOp instr.mnemonic (flagX m.cpu.sr)
        (limbPair (instr.mnemonic == .nbcd) 1 m instr) ∧
      (emitInstr instr).text m = .next ()
        { m with
          cpu := (m.cpu.setD (regIndex instr.dst.reg)
            (replaceLow (m.cpu.d (regIndex instr.dst.reg)) out.1)).setSr
              (bcdFlags out.1 out.2 m.cpu.sr) } := by
  obtain ⟨hdec, hsize, hdst, hsrc⟩ := h
  by_cases hn : instr.mnemonic = .nbcd
  · refine ⟨nbcdResult (dregLimb 1 m instr.dst.reg) (BitVec.ofNat 8 (flagX m.cpu.sr).toNat),
      by rw [hn]; exact (decimalByte_nbcd _ _ _).symm, ?_⟩
    have hgood : ¬ (instr.mnemonic ≠ .nbcd ∨ instr.dst.mode = .none ∨ instr.size ≠ 1) := by
      rw [hn, hdst, hsize hn]
      decide
    rw [emitInstr_nbcd hn, emitNbcdGeneric, if_neg hgood, if_pos hdst]
    simp only [orUnsupported, fallsThrough, emitNbcdCore, storeByteDreg_eq, setWidth_and_byte,
      extendBit_eq, bind_apply, getCpu_apply, modifyCpu_apply]
    rfl
  · have hs := hsrc hn
    have hpair := isDecimal_pair hdec hn
    have hgood : ¬ (instr.mnemonic ≠ .abcd ∧ instr.mnemonic ≠ .sbcd) := by tauto
    refine ⟨decimalResult (instr.mnemonic = .sbcd) (dregLimb 1 m instr.src.reg)
      (dregLimb 1 m instr.dst.reg) (BitVec.ofNat 8 (flagX m.cpu.sr).toNat), ?_, ?_⟩
    · rw [limbPair, if_neg (by simpa using hn)]
      exact (decimalByte_pair hn _ _ _).symm
    · rw [emitInstr_pair hpair, emitAbcdSbcd, if_neg hgood, if_pos ⟨hs, hdst⟩]
      simp only [orUnsupported, fallsThrough, storeByteDreg_eq, setWidth_and_byte,
        extendBit_eq, bind_apply, getCpu_apply, modifyCpu_apply]
      rfl

theorem decimal_stepsRegister (h : DecimalForm .dreg instr) :
    StepsRegister β (decimalOp instr.mnemonic) (instr.mnemonic == .nbcd) instr := by
  intro m
  obtain ⟨out, hout, htext⟩ := decimal_register_text h m
  rw [← hout]
  exact ⟨_, htext, rfl, flagsAfter_bcd out.1 out.2 m.cpu.sr⟩

variable {area : Set (BitVec 32)} {peek : β → BitVec 32 → BitVec 8}

/-- What the text does on predecremented memory. -/
theorem decimal_stepsMemory (ram : RamArea area peek) (h : DecimalForm .apre instr) :
    @StepsMemory β _ 1 (decimalOp instr.mnemonic) (instr.mnemonic == .nbcd) area peek instr := by
  obtain ⟨hdec, hsize, hdst, hsrc⟩ := h
  intro m p hdin hd has
  have hdreg : ¬ instr.dst.mode = .dreg := by rw [hdst]; decide
  have hdnext : m.cpu.a (regIndex instr.dst.reg) - ngEaStepBytes instr.dst 1 =
    nextLimb m instr.dst 1 := rfl
  by_cases hn : instr.mnemonic = .nbcd
  · have hgood : ¬ (instr.mnemonic ≠ .nbcd ∨ instr.dst.mode = .none ∨ instr.size ≠ 1) := by
      rw [hn, hdst, hsize hn]
      decide
    have hread := ram.read_of_holds hdin hd
    have hop : decimalOp instr.mnemonic (flagX m.cpu.sr) p =
        nbcdResult p.1 (BitVec.ofNat 8 (flagX m.cpu.sr).toNat) := by
      rw [hn]
      exact decimalByte_nbcd _ _ _
    rw [emitInstr_nbcd hn, emitNbcdGeneric, if_neg hgood, if_neg hdreg]
    simp only [emitEaAddress, hdst, orUnsupported, fallsThrough, emitNbcdCore_eq, extendBit_eq,
      bind_apply, getCpu_apply, modifyCpu_apply, stepDown, pure_apply, read8_apply, write8_apply,
      aregAddr, NgM68kState.setA, Function.update_self, hdnext, hread]
    refine ⟨_, rfl, Function.update_self .., fun hu => absurd hn (beq_eq_false_iff_ne.mp hu), ?_,
      ?_, ?_⟩
    · rw [hop]
      exact flagsAfter_bcd _ _ _
    · rw [hop]
      exact ram.holds_write _ _ hdin
    · intro a v ha hdis hold
      exact ram.holds_after_write _ hdin ha hdis (ram.holds_after_read hdin ha hold)
  · obtain ⟨hne, hsin, hs⟩ := has (beq_eq_false_iff_ne.mpr hn)
    have hmode := hsrc hn
    have hsreg : ¬ instr.src.mode = .dreg := by rw [hmode]; decide
    have hpair := isDecimal_pair hdec hn
    have hgood : ¬ (instr.mnemonic ≠ .abcd ∧ instr.mnemonic ≠ .sbcd) := by tauto
    have hsnext : m.cpu.a (regIndex instr.src.reg) - ngEaStepBytes instr.src 1 =
      nextLimb m instr.src 1 := rfl
    have hreads := ram.read_of_holds hsin hs
    have hreadd := ram.read_of_holds hdin (ram.holds_after_read hsin hdin hd)
    have hop : decimalOp instr.mnemonic (flagX m.cpu.sr) p =
        decimalResult (instr.mnemonic = .sbcd) p.2 p.1 (BitVec.ofNat 8 (flagX m.cpu.sr).toNat) :=
      decimalByte_pair hn _ _ _
    rw [emitInstr_pair hpair, emitAbcdSbcd, if_neg hgood, if_neg fun hm => hsreg hm.1,
      if_pos ⟨hmode, hdst⟩]
    simp only [orUnsupported, fallsThrough, extendBit_eq,
      bind_apply, getCpu_apply, modifyCpu_apply, stepDown, read8_apply, write8_apply, aregAddr,
      NgM68kState.setA, Function.update_self, Function.update_of_ne hne.symm, hdnext, hsnext,
      hreads, hreadd]
    refine ⟨_, rfl, Function.update_self .., fun _ => ?_, ?_, ?_, ?_⟩
    · change Function.update (Function.update m.cpu.a _ _) _ _ _ = _
      rw [Function.update_of_ne hne, Function.update_self]
    · rw [hop]
      exact flagsAfter_bcd _ _ _
    · rw [hop]
      exact ram.holds_write _ _ hdin
    · intro a v ha hdis hold
      exact ram.holds_after_write _ hdin ha hdis
        (ram.holds_after_read hdin ha (ram.holds_after_read hsin ha hold))

/-- The digits a decimal chain reads are valid; a chain of NBCD reads the destination only. -/
def ValidDigits {w : Nat} (mn : NgM68kMnemonic) (ps : List (BitVec w × BitVec w)) : Prop :=
  ∀ p ∈ ps, ValidBcd p.1 ∧ (mn ≠ .nbcd → ValidBcd p.2)

/-- Chains of ABCD, SBCD and NBCD compute the digits of the exact number, in data registers and
through predecremented address registers over RAM. -/
theorem decimal_chain_exact (ram : RamArea area peek) {mn : NgM68kMnemonic}
    (hm : isDecimal mn = true) (m : Machine β) :
    (∀ is : List NgM68kInstr, (∀ i ∈ is, i.mnemonic = mn ∧ DecimalForm .dreg i) →
      RegistersDistinct (mn == .nbcd) is →
      ValidDigits mn (is.map (limbPair (mn == .nbcd) 1 m)) →
      ∃ m', runTexts is m = .next () m' ∧
        DecimalExact mn m.cpu.sr (is.map (limbPair (mn == .nbcd) 1 m))
          (is.map fun i => dregLimb 1 m' i.dst.reg) m'.cpu.sr) ∧
    (∀ instr ps, instr.mnemonic = mn → DecimalForm .apre instr →
      OperandChain (mn == .nbcd) area peek 1 instr m ps → ValidDigits mn ps →
      ∃ m' rs, runTexts (List.replicate ps.length instr) m = .next () m' ∧
        List.Forall₂ (HoldsAt peek m'.bus 1) (eaLimbAddrs m instr.dst 1 ps.length) rs ∧
        DecimalExact mn m.cpu.sr ps rs m'.cpu.sr) := by
  constructor
  · intro is hform hdistinct hvalid
    have hsteps : ∀ i ∈ is, @StepsRegister 1 β _ (decimalOp mn) (mn == .nbcd) i := by
      intro i hi
      obtain ⟨rfl, h⟩ := hform i hi
      exact decimal_stepsRegister h
    obtain ⟨m', hrun, hlimbs, hflags, -⟩ := registerChain_of_steps hsteps hdistinct m
    refine ⟨m', hrun, ?_⟩
    rw [hlimbs]
    exact decimalExact_of_chain hm (fun p hp => (hvalid p hp).1)
      (fun hn p hp => (hvalid p hp).2 hn) hflags
  · intro instr ps hmn hform hchain hvalid
    subst hmn
    obtain ⟨m', hrun, hlimbs, hflags, -⟩ :=
      memoryChain_of_steps (decimal_stepsMemory ram hform) hchain
    exact ⟨m', _, hrun, hlimbs, decimalExact_of_chain hm (fun p hp => (hvalid p hp).1)
      (fun hn p hp => (hvalid p hp).2 hn) hflags⟩

/-- `SBCD Ds,Dd`. -/
def sbcdInstr (s d : BitVec 8) : NgM68kInstr :=
  { addr := 0x1000, opcode := 0x8100 ||| (d.setWidth 16 <<< 9) ||| s.setWidth 16, mnemonic := .sbcd,
    byteLength := 2, reg := d, srcReg := s, size := 1, form := .dregToDreg,
    src := { mode := .dreg, reg := s }, dst := { mode := .dreg, reg := d } }

/-- `ABCD -(A1),-(A0)`. -/
def abcdInstr : NgM68kInstr :=
  { addr := 0x1000, opcode := 0xC109, mnemonic := .abcd, byteLength := 2, srcReg := 1, size := 1,
    src := { mode := .apre, reg := 1 }, dst := { mode := .apre } }

/-- Every byte is the low part of its address; A0 and A1 point behind two bytes each. -/
def abcdMachine : Machine Ram where
  cpu := { d := fun r => BitVec.ofNat 32 r, a := fun r => if r = 0 then 0x1092 else 0x2068,
           pc := 0x1000, sr := 0x2014, usp := 0, ssp := 0 }
  bus := ⟨fun a => a.setWidth 8⟩
  traceSr := 0
  log := []

theorem decimal_chain_two_bytes :
    (∃ m', runTexts [sbcdInstr 2 0, sbcdInstr 3 1] abcdMachine = .next () m' ∧
      DecimalExact .sbcd 0x2014 [((0 : BitVec (ngSizeBits 1)), 2), (1, 3)]
        [dregLimb 1 m' 0, dregLimb 1 m' 1] m'.cpu.sr) ∧
    (∃ m' rs, runTexts [abcdInstr, abcdInstr] abcdMachine = .next () m' ∧
      List.Forall₂ (HoldsAt Ram.bytes m'.bus 1) [0x1091, 0x1090] rs ∧
      DecimalExact .abcd 0x2014 [((0x91 : BitVec (ngSizeBits 1)), 0x67), (0x90, 0x66)] rs
        m'.cpu.sr) := by
  refine ⟨(decimal_chain_exact Ram.ramArea (show isDecimal .sbcd = true by decide)
      abcdMachine).1 [sbcdInstr 2 0, sbcdInstr 3 1] ?_ ?_ ?_,
    (decimal_chain_exact Ram.ramArea (show isDecimal .abcd = true by decide) abcdMachine).2
      abcdInstr [(0x91, 0x67), (0x90, 0x66)] rfl ⟨rfl, ?_, rfl, ?_⟩ ⟨rfl, ?_, ?_, ?_, ?_, ?_, ?_, ?_⟩
      ?_⟩
  · intro i hi
    simp only [List.mem_cons, List.not_mem_nil, or_false] at hi
    rcases hi with rfl | rfl
    · exact ⟨rfl, rfl, fun _ => rfl, rfl, fun _ => rfl⟩
    · exact ⟨rfl, rfl, fun _ => rfl, rfl, fun _ => rfl⟩
  · unfold RegistersDistinct
    decide +kernel
  · exact List.forall_mem_cons.mpr ⟨by decide +kernel,
      List.forall_mem_cons.mpr ⟨by decide +kernel, List.forall_mem_nil _⟩⟩
  · decide
  · decide
  · intro a _ k _
    trivial
  · refine .cons ?_ (.cons ?_ .nil) <;> unfold HoldsAt <;> decide
  · change List.Pairwise _ [(0x1091 : BitVec 32), 0x1090]
    unfold OperandsDisjoint
    decide
  · decide
  · intro _ a _ k _
    trivial
  · intro _
    refine .cons ?_ (.cons ?_ .nil) <;> unfold HoldsAt <;> decide
  · intro _ a ha b hb
    change a ∈ [(0x1091 : BitVec 32), 0x1090] at ha
    change b ∈ [(0x2067 : BitVec 32), 0x2066] at hb
    simp only [List.mem_cons, List.not_mem_nil, or_false] at ha hb
    rcases ha with rfl | rfl <;> rcases hb with rfl | rfl <;> unfold OperandsDisjoint <;> decide
  · exact List.forall_mem_cons.mpr ⟨by decide,
      List.forall_mem_cons.mpr ⟨by decide, List.forall_mem_nil _⟩⟩

end Instructions

end NeoRecomp
