import NeoRecomp.Cycles
import NeoRecomp.Lib.Submask

/-!
# What the cycle table holds

The loop of an entry runs through its opcodes once each, whatever it does with them.
-/

namespace NeoRecomp

/-! ## The loop -/

section Loop
variable {mask : BitVec 16} {extra : BitVec 32}

theorem toNat_filled (hlt : extra.toNat < 0x10000) :
    ((extra ||| mask.setWidth 32) + 1).toNat = (extra.toNat ||| mask.toNat) + 1 := by
  have hmask : mask.toNat < 0x10000 := mask.isLt
  have hor : extra.toNat ||| mask.toNat < 2 ^ 16 := Nat.or_lt_two_pow hlt hmask
  have hone : (1 : BitVec 32).toNat = 1 := rfl
  rw [BitVec.toNat_add, BitVec.toNat_or, BitVec.toNat_setWidth, hone,
    Nat.mod_eq_of_lt (by omega : mask.toNat < 2 ^ 32), Nat.mod_eq_of_lt (by omega)]

/-- The next turn takes the next number without a bit of the mask, and 0 behind the last. -/
theorem nextExtra_toNat (hlt : extra.toNat < 0x10000) :
    (nextExtra mask extra).toNat = Submask.next mask.toNat extra.toNat % 0x10000 := by
  have hmask : mask.toNat < 0x10000 := mask.isLt
  have hlow (n : Nat) : n &&& (0xFFFF : BitVec 32).toNat = n % 0x10000 :=
    Nat.and_two_pow_sub_one_eq_mod n 16
  unfold nextExtra
  rw [BitVec.toNat_and, Submask.toNat_and_not, toNat_filled hlt, BitVec.toNat_setWidth,
    Nat.mod_eq_of_lt (by omega : mask.toNat < 2 ^ 32), hlow]
  rfl

/-- The loop from a number on. -/
theorem entryTurns_eq {β : Type} (store : BitVec 16 → β → β) (entry : NgM68kCycleEntry)
    (turns : Nat) {extra : BitVec 32} (out : β) (hlt : extra.toNat < 0x10000)
    (hfree : extra.toNat &&& entry.mask.toNat = 0) (hturns : 0x10000 ≤ extra.toNat + turns) :
    entryTurns store entry turns extra out =
      some ((Submask.between entry.mask.toNat extra.toNat 0x10000).foldl
        (fun out n => store (entry.matchBits ||| BitVec.ofNat 16 n) out) out) := by
  induction turns generalizing extra out with
  | zero => omega
  | succ turns ih =>
    have hstep := Submask.lt_next hfree
    have hend := Submask.next_le_two_pow entry.mask.isLt hfree hlt
    have hnext := @nextExtra_toNat entry.mask extra hlt
    have hopcode : (entry.matchBits.setWidth 32 ||| extra).setWidth 16 =
        entry.matchBits ||| BitVec.ofNat 16 extra.toNat := by
      rw [BitVec.setWidth_or, BitVec.setWidth_setWidth_of_le _ (by omega), BitVec.setWidth_eq]
      rfl
    rw [Submask.between_next hfree hlt, List.foldl_cons, ← hopcode]
    unfold entryTurns
    dsimp only
    by_cases hlast : Submask.next entry.mask.toNat extra.toNat = 0x10000
    · -- behind the last number the 16 bits are 0 again
      have hzero : nextExtra entry.mask extra = 0 := by
        apply BitVec.eq_of_toNat_eq
        rw [hnext, hlast]
        rfl
      rw [if_neg (not_not.mpr hzero), hlast, Submask.between_self]
      rfl
    · rw [Nat.mod_eq_of_lt (by omega)] at hnext
      have hne : nextExtra entry.mask extra ≠ 0 := by
        intro hzero
        rw [hzero] at hnext
        have : (0 : BitVec 32).toNat = 0 := rfl
        omega
      rw [if_pos hne, ← hnext]
      apply ih
      · omega
      · rw [hnext]
        exact Submask.next_and
      · omega

end Loop

/-! ## The opcodes of an entry -/

/-- The opcodes that the loop of an entry stores to, in order. -/
def entryOpcodes (entry : NgM68kCycleEntry) : List (BitVec 16) :=
  (Submask.between entry.mask.toNat 0 0x10000).map fun n => entry.matchBits ||| BitVec.ofNat 16 n

/-- Every 16-bit mask lets its loop end. -/
theorem entryTurns_opcodes {β : Type} (store : BitVec 16 → β → β) (entry : NgM68kCycleEntry)
    {turns : Nat} (hturns : 0x10000 ≤ turns) (out : β) :
    entryTurns store entry turns 0 out =
      some ((entryOpcodes entry).foldl (fun out opcode => store opcode out) out) := by
  unfold entryOpcodes
  have hzero : (0 : BitVec 32).toNat = 0 := rfl
  rw [List.foldl_map, ← hzero]
  apply entryTurns_eq store entry turns out
  · omega
  · exact Nat.zero_and entry.mask.toNat
  · omega

section Opcodes
variable {entry : NgM68kCycleEntry}

-- The bits of the match and the free bits of an opcode do not meet.
theorem matchBits_or_free (hmatch : entry.matchBits &&& ~~~entry.mask = 0) {free : BitVec 16}
    (hfree : free &&& entry.mask = 0) :
    (entry.matchBits ||| free) &&& entry.mask = entry.matchBits ∧
      (entry.matchBits ||| free) &&& ~~~entry.mask = free := by
  have hcases : ∀ m f k : Bool, (m && !k) = false → (f && k) = false →
      ((m || f) && k) = m ∧ ((m || f) && !k) = f := by decide
  have hbits (i : Nat) (hi : i < 16) :
      ((entry.matchBits ||| free) &&& entry.mask).getLsbD i = entry.matchBits.getLsbD i ∧
        ((entry.matchBits ||| free) &&& ~~~entry.mask).getLsbD i = free.getLsbD i := by
    have hm := congrArg (BitVec.getLsbD · i) hmatch
    have hf := congrArg (BitVec.getLsbD · i) hfree
    simp only [BitVec.getLsbD_and, BitVec.getLsbD_or, BitVec.getLsbD_not, hi, decide_true,
      Bool.true_and] at hm hf ⊢
    exact hcases _ _ _ (hm.trans BitVec.getLsbD_zero) (hf.trans BitVec.getLsbD_zero)
  exact ⟨BitVec.eq_of_getLsbD_eq fun i hi => (hbits i hi).1,
    BitVec.eq_of_getLsbD_eq fun i hi => (hbits i hi).2⟩

theorem ofNat_and_mask {n : Nat} (hlt : n < 0x10000) (hfree : n &&& entry.mask.toNat = 0) :
    BitVec.ofNat 16 n &&& entry.mask = 0 := by
  apply BitVec.eq_of_toNat_eq
  rw [BitVec.toNat_and, BitVec.toNat_ofNat, Nat.mod_eq_of_lt hlt, hfree]
  rfl

theorem mem_entryOpcodes (hmatch : entry.matchBits &&& ~~~entry.mask = 0) (opcode : BitVec 16) :
    opcode ∈ entryOpcodes entry ↔ opcode &&& entry.mask = entry.matchBits := by
  unfold entryOpcodes
  rw [List.mem_map]
  constructor
  · rintro ⟨n, hn, rfl⟩
    obtain ⟨-, hlt, hfree⟩ := Submask.mem_between.mp hn
    exact (matchBits_or_free hmatch (ofNat_and_mask hlt hfree)).1
  · intro h
    -- the free bits of the opcode are its number
    refine ⟨(opcode &&& ~~~entry.mask).toNat, Submask.mem_between.mpr ⟨Nat.zero_le _, ?_, ?_⟩, ?_⟩
    · exact (opcode &&& ~~~entry.mask).isLt
    · rw [← BitVec.toNat_and, BitVec.and_assoc, BitVec.and_comm (~~~entry.mask), BitVec.and_not_self]
      exact congrArg BitVec.toNat BitVec.and_zero
    · rw [BitVec.ofNat_toNat, BitVec.setWidth_eq, ← h, ← BitVec.and_or_distrib_left,
        BitVec.or_not_self, BitVec.and_allOnes]

theorem nodup_entryOpcodes (hmatch : entry.matchBits &&& ~~~entry.mask = 0) :
    (entryOpcodes entry).Nodup := by
  unfold entryOpcodes
  apply List.Nodup.map_on _ Submask.nodup_between
  intro n hn k hk heq
  obtain ⟨-, hnlt, hnfree⟩ := Submask.mem_between.mp hn
  obtain ⟨-, hklt, hkfree⟩ := Submask.mem_between.mp hk
  have hwords : BitVec.ofNat 16 n = BitVec.ofNat 16 k := by
    rw [← (matchBits_or_free hmatch (ofNat_and_mask hnlt hnfree)).2, heq,
      (matchBits_or_free hmatch (ofNat_and_mask hklt hkfree)).2]
  have hvalues := congrArg BitVec.toNat hwords
  rw [BitVec.toNat_ofNat, BitVec.toNat_ofNat] at hvalues
  omega

end Opcodes

/-! ## The table -/

/-- The cycles of the last entry that matches an opcode. -/
def lastCycles (entries : List NgM68kCycleEntry) (opcode : BitVec 16) : Option (BitVec 8) :=
  ((entries.filter fun entry => opcode &&& entry.mask = entry.matchBits).map (·.cycles)).getLast?

theorem lastCycles_append (entries : List NgM68kCycleEntry) (entry : NgM68kCycleEntry)
    (opcode : BitVec 16) :
    lastCycles (entries ++ [entry]) opcode =
      if opcode &&& entry.mask = entry.matchBits then some entry.cycles
      else lastCycles entries opcode := by
  unfold lastCycles
  rw [List.filter_append, List.map_append, List.getLast?_append, List.filter_singleton]
  by_cases h : opcode &&& entry.mask = entry.matchBits
  · rw [if_pos h, decide_eq_true h]
    rfl
  · rw [if_neg h, decide_eq_false h]
    rfl

-- Storing one value leaves the rest of the table.
theorem foldl_storeCycles (entry : NgM68kCycleEntry) (opcodes : List (BitVec 16))
    (table : BitVec 16 → BitVec 8) (opcode : BitVec 16) :
    opcodes.foldl (fun table opcode => storeCycles entry opcode table) table opcode =
      if opcode ∈ opcodes then entry.cycles else table opcode := by
  induction opcodes generalizing table with
  | nil => rfl
  | cons first rest ih =>
    rw [List.foldl_cons, ih, storeCycles]
    by_cases hrest : opcode ∈ rest
    · rw [if_pos hrest, if_pos (List.mem_cons_of_mem first hrest)]
    · rw [if_neg hrest]
      by_cases hfirst : opcode = first
      · rw [hfirst, Function.update_self, if_pos List.mem_cons_self]
      · rw [Function.update_of_ne hfirst, if_neg]
        intro hmem
        cases List.mem_cons.mp hmem with
        | inl heq => exact hfirst heq
        | inr hmem => exact hrest hmem

/-- Later entries store over earlier ones. -/
theorem foldlM_entryTurns {turns : Nat} (hturns : 0x10000 ≤ turns)
    (entries : List NgM68kCycleEntry)
    (hmatch : ∀ entry ∈ entries, entry.matchBits &&& ~~~entry.mask = 0)
    (table : BitVec 16 → BitVec 8) :
    entries.foldlM (fun table entry => entryTurns (storeCycles entry) entry turns 0 table) table =
      some fun opcode => (lastCycles entries opcode).getD (table opcode) := by
  -- from the last entry down, which is the one that counts
  induction entries using List.reverseRecOn with
  | nil => rfl
  | append_singleton entries entry ih =>
    have hlast := hmatch entry (List.mem_append_right entries List.mem_cons_self)
    rw [List.foldlM_append, ih fun other hmem => hmatch other (List.mem_append_left [entry] hmem)]
    show entryTurns (storeCycles entry) entry turns 0 _ >>= some = _
    rw [entryTurns_opcodes (storeCycles entry) entry hturns]
    apply congrArg some
    funext opcode
    simp only [foldl_storeCycles, mem_entryOpcodes hlast]
    rw [lastCycles_append]
    by_cases h : opcode &&& entry.mask = entry.matchBits
    · rw [if_pos h, if_pos h]
      rfl
    · rw [if_neg h, if_neg h]

section Init
variable {entries : List NgM68kCycleEntry} {turns : Nat} {state : CycleTable}

theorem initCycleTable_eq (hmatch : ∀ entry ∈ entries, entry.matchBits &&& ~~~entry.mask = 0)
    (hturns : 0x10000 ≤ turns) (hready : state.ready = false) :
    ngM68kInitCycleTable entries turns state =
      some ⟨fun opcode => (lastCycles entries opcode).getD 0, true⟩ := by
  unfold ngM68kInitCycleTable
  rw [hready, if_neg Bool.false_ne_true, foldlM_entryTurns hturns entries hmatch]
  rfl

/-- A lookup finds the table as the first one has built it. -/
theorem baseCycles_built {table : CycleTable} {opcode : BitVec 16}
    (hbuilt : ngM68kInitCycleTable entries turns state = some table) :
    ngM68kBaseCyclesForOpcode entries turns state opcode =
        some (if table.table opcode ≠ 0 then table.table opcode else 4, table) ∧
      ngM68kInitCycleTable entries turns table = some table := by
  constructor
  · unfold ngM68kBaseCyclesForOpcode
    rw [hbuilt]
    rfl
  · unfold ngM68kInitCycleTable at hbuilt ⊢
    by_cases hready : state.ready = true
    · rw [if_pos hready] at hbuilt
      cases hbuilt
      rw [if_pos hready]
    · rw [if_neg hready] at hbuilt
      obtain ⟨_, _, rfl⟩ := Option.map_eq_some_iff.mp hbuilt
      rfl

end Init

/-! ## The cycles of an instruction -/

/-- The table with the cycles of every opcode. -/
def builtTable (entries : List NgM68kCycleEntry) : CycleTable :=
  ⟨fun opcode => (lastCycles entries opcode).getD 0, true⟩

/-- The cycles of an instruction, 4 if no entry has any for it. -/
def instrCycles (entries : List NgM68kCycleEntry) (instr : NgM68kInstr) : BitVec 8 :=
  let cycles := (builtTable entries).table instr.opcode
  if cycles ≠ 0 then cycles else 4

/-- The lookups for one instruction after the other. -/
def lookups (entries : List NgM68kCycleEntry) (turns : Nat) (state : CycleTable) :
    List NgM68kInstr → Option (List (BitVec 8))
  | [] => some []
  | instr :: instrs =>
    (ngM68kBaseCyclesForInstr entries turns state (some instr)).bind fun out =>
      (lookups entries turns out.2 instrs).map (out.1 :: ·)

theorem lookups_built {entries : List NgM68kCycleEntry} {turns : Nat} {state : CycleTable}
    (hbuilt : ngM68kInitCycleTable entries turns state = some (builtTable entries))
    (instrs : List NgM68kInstr) :
    lookups entries turns state instrs = some (instrs.map (instrCycles entries)) := by
  induction instrs generalizing state with
  | nil => rfl
  | cons instr instrs ih =>
    obtain ⟨hlookup, hagain⟩ := @baseCycles_built _ _ _ _ instr.opcode hbuilt
    unfold lookups ngM68kBaseCyclesForInstr
    dsimp only
    rw [hlookup, Option.bind_some, ih hagain]
    rfl

/-- The cycles printed for an instruction are its own, whatever was looked up before. -/
theorem lookups_eq {entries : List NgM68kCycleEntry}
    (hmatch : ∀ entry ∈ entries, entry.matchBits &&& ~~~entry.mask = 0) {turns : Nat}
    (hturns : 0x10000 ≤ turns) {state : CycleTable} (hready : state.ready = false)
    (instrs : List NgM68kInstr) :
    lookups entries turns state instrs = some (instrs.map (instrCycles entries)) :=
  lookups_built (initCycleTable_eq hmatch hturns hready) instrs

/-- The loop of every entry ends and stores to each opcode that the entry matches once, and the
table holds what the last of the matching entries stored. -/
theorem cycle_table_built (entries : List NgM68kCycleEntry)
    (hmatch : ∀ entry ∈ entries, entry.matchBits &&& ~~~entry.mask = 0) (turns : Nat)
    (hturns : 0x10000 ≤ turns) :
    (∀ entry ∈ entries, ∃ opcodes : List (BitVec 16), opcodes.Nodup ∧
      (∀ opcode, opcode ∈ opcodes ↔ opcode &&& entry.mask = entry.matchBits) ∧
      ∀ (β : Type) (store : BitVec 16 → β → β) (out : β),
        entryTurns store entry turns 0 out =
          some (opcodes.foldl (fun out opcode => store opcode out) out)) ∧
    ∀ state : CycleTable, state.ready = false →
      ngM68kInitCycleTable entries turns state =
        some ⟨fun opcode => (lastCycles entries opcode).getD 0, true⟩ := by
  constructor
  · intro entry hentry
    refine ⟨entryOpcodes entry, nodup_entryOpcodes (hmatch entry hentry),
      mem_entryOpcodes (hmatch entry hentry), ?_⟩
    intro β store out
    exact entryTurns_opcodes store entry hturns out
  · intro state hready
    exact initCycleTable_eq hmatch hturns hready

/-- A branch and, in the same opcodes, a call with cycles of its own. -/
theorem cycle_table_built_branches :
    ngM68kInitCycleTable [⟨0x6000, 0xF000, 10⟩, ⟨0x6100, 0xFF00, 18⟩] 0x10000 ⟨fun _ => 0, false⟩ =
        some ⟨fun opcode =>
          (lastCycles [⟨0x6000, 0xF000, 10⟩, ⟨0x6100, 0xFF00, 18⟩] opcode).getD 0, true⟩ ∧
      lastCycles [⟨0x6000, 0xF000, 10⟩, ⟨0x6100, 0xFF00, 18⟩] 0x6700 = some 10 ∧
      lastCycles [⟨0x6000, 0xF000, 10⟩, ⟨0x6100, 0xFF00, 18⟩] 0x6142 = some 18 ∧
      lastCycles [⟨0x6000, 0xF000, 10⟩, ⟨0x6100, 0xFF00, 18⟩] 0x4E71 = none :=
  ⟨(cycle_table_built _ (by decide) 0x10000 (Nat.le_refl _)).2 _ rfl, by decide, by decide,
    by decide⟩

end NeoRecomp
