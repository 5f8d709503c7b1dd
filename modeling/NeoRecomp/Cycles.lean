import Mathlib.Logic.Function.Basic
import NeoRecomp.Instr

/-!
# The cycle table

The lookup of base cycles in `m68k_cycles.c`, for any list of entries.
-/

namespace NeoRecomp

structure NgM68kCycleEntry where
  matchBits : BitVec 16
  mask : BitVec 16
  cycles : BitVec 8

/-- `g_ng_m68k_cycle_table` and `g_ng_m68k_cycle_table_ready`. -/
structure CycleTable where
  table : BitVec 16 → BitVec 8
  ready : Bool

/-- `extra` for the next turn. -/
def nextExtra (mask : BitVec 16) (extra : BitVec 32) : BitVec 32 :=
  (((extra ||| mask.setWidth 32) + 1) &&& ~~~(mask.setWidth 32)) &&& 0xFFFF

/-- The `do` loop of an entry with the turns that it may still take, or `none` if they are not
enough; `store` is its assignment to the table. -/
def entryTurns {β : Type} (store : BitVec 16 → β → β) (entry : NgM68kCycleEntry) :
    Nat → BitVec 32 → β → Option β
  | 0, _, _ => none
  | turns + 1, extra, out =>
    let out := store ((entry.matchBits.setWidth 32 ||| extra).setWidth 16) out
    if nextExtra entry.mask extra ≠ 0 then
      entryTurns store entry turns (nextExtra entry.mask extra) out
    else some out

/-- The assignment of an entry. -/
def storeCycles (entry : NgM68kCycleEntry) (opcode : BitVec 16) (table : BitVec 16 → BitVec 8) :
    BitVec 16 → BitVec 8 :=
  Function.update table opcode entry.cycles

/-- `ng_m68k_init_cycle_table`, each entry with a number of turns. -/
def ngM68kInitCycleTable (entries : List NgM68kCycleEntry) (turns : Nat) (state : CycleTable) :
    Option CycleTable :=
  if state.ready then some state
  else
    (entries.foldlM (fun table entry => entryTurns (storeCycles entry) entry turns 0 table)
      fun _ => 0).map fun table => ⟨table, true⟩

/-- `ng_m68k_base_cycles_for_opcode`. -/
def ngM68kBaseCyclesForOpcode (entries : List NgM68kCycleEntry) (turns : Nat) (state : CycleTable)
    (opcode : BitVec 16) : Option (BitVec 8 × CycleTable) :=
  (ngM68kInitCycleTable entries turns state).map fun state =>
    (if state.table opcode ≠ 0 then state.table opcode else 4, state)

/-- `ng_m68k_base_cycles_for_instr`; null has no instruction. -/
def ngM68kBaseCyclesForInstr (entries : List NgM68kCycleEntry) (turns : Nat) (state : CycleTable)
    (instr : Option NgM68kInstr) : Option (BitVec 8 × CycleTable) :=
  match instr with
  | none => some (4, state)
  | some instr => ngM68kBaseCyclesForOpcode entries turns state instr.opcode

end NeoRecomp
