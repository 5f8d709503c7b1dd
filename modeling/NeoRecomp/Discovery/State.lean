import NeoRecomp.Analyze.JumpTables

/-!
# Discovered function candidates

The record that function discovery fills in, with the operations through which every scanner
changes it.
-/

namespace NeoRecomp

/-- `NG_FUNCTION_DISCOVERY_MAX_CANDIDATES`. -/
def ngFunctionDiscoveryMaxCandidates : Nat := 131072

/-- `NG_FUNCTION_DISCOVERY_BANK_NONE`. -/
def ngFunctionDiscoveryBankNone : BitVec 32 := 0xFFFFFFFF

/-- One row of the parallel arrays of `NgFunctionDiscovery`. -/
structure Candidate where
  addr : BitVec 32
  bank : BitVec 32 := ngFunctionDiscoveryBankNone
  banked : Bool := false
  isEntry : Bool := false
  isScanRoot : Bool := false
  deriving DecidableEq, Repr

/-- `NgFunctionDiscovery`; the rows below `count` are a list no longer than the arrays. -/
structure NgFunctionDiscovery where
  candidates : List Candidate := []
  maxCandidates : BitVec 32 := 131072
  truncated : Bool := false
  count_le : candidates.length ≤ ngFunctionDiscoveryMaxCandidates := by decide
  deriving DecidableEq

/-- The field `count`. -/
def NgFunctionDiscovery.count (d : NgFunctionDiscovery) : Nat := d.candidates.length

/-- `ng_function_discovery_init`. -/
def ngFunctionDiscoveryInit : NgFunctionDiscovery := {}

/-- `ng_function_discovery_set_max_candidates`. -/
def ngFunctionDiscoverySetMaxCandidates (d : NgFunctionDiscovery) (maxCandidates : BitVec 32) :
    NgFunctionDiscovery :=
  { d with
    maxCandidates :=
      if maxCandidates = 0 ∨ ngFunctionDiscoveryMaxCandidates < maxCandidates.toNat then
        BitVec.ofNat 32 ngFunctionDiscoveryMaxCandidates
      else maxCandidates }

/-- `discovery_bank_for_addr`. -/
def discoveryBankForAddr (rom : NgProgramRom) (addr : BitVec 32) : BitVec 32 :=
  if 1 < (ngProgramRomBankCount rom).toNat ∧ ngProgramRomAddrIsBanked rom addr then rom.activeBank
  else ngFunctionDiscoveryBankNone

/-- The bank a row counts for: `banked[i] ? banks[i] : NG_FUNCTION_DISCOVERY_BANK_NONE`. -/
def Candidate.entryBank (c : Candidate) : BitVec 32 :=
  if c.banked then c.bank else ngFunctionDiscoveryBankNone

/-- `ng_function_discovery_contains`. -/
def ngFunctionDiscoveryContains (d : NgFunctionDiscovery) (addr : BitVec 32) : Bool :=
  d.candidates.any fun c => c.addr == addr

/-- `ng_function_discovery_contains_bank`. -/
def ngFunctionDiscoveryContainsBank (d : NgFunctionDiscovery) (addr bank : BitVec 32) : Bool :=
  d.candidates.any fun c => c.addr == addr && c.entryBank == bank

/-- `ng_function_discovery_contains_for_rom`. -/
def ngFunctionDiscoveryContainsForRom (d : NgFunctionDiscovery) (rom : NgProgramRom)
    (addr : BitVec 32) : Bool :=
  ngFunctionDiscoveryContainsBank d addr (discoveryBankForAddr rom addr)

/-- `ng_function_discovery_bank_at`. -/
def ngFunctionDiscoveryBankAt (d : NgFunctionDiscovery) (index : Nat) : BitVec 32 :=
  match d.candidates[index]? with
  | some c => c.entryBank
  | none => ngFunctionDiscoveryBankNone

theorem even_iff {a : BitVec 32} : a &&& 1 = 0 ↔ a.toNat % 2 = 0 := by
  have h : (a &&& 1).toNat = a.toNat % 2 := by
    rw [BitVec.toNat_and]
    exact Nat.and_one_is_mod _
  rw [← h]
  exact ⟨fun h => by rw [h]; rfl, fun h => BitVec.eq_of_toNat_eq h⟩

/-- `is_probable_function_target`. -/
def isProbableFunctionTarget (rom : NgProgramRom) (addr : BitVec 32) : Bool :=
  if addr &&& 1 ≠ 0 ∨ !ngProgramRomAddrIsMapped rom addr then false
  else
    match ngM68kDecode rom addr with
    | (ok, instr) =>
        ok && instr.byteLength != 0 && ngM68kValidate instr && instr.mnemonic != .unknown &&
          instr.mnemonic != .invalid

/-- The flags `ng_function_discovery_add_with_flags` raises on a row it already has. -/
def Candidate.raise (isEntry isScanRoot : Bool) (c : Candidate) : Candidate :=
  { c with isEntry := c.isEntry || isEntry, isScanRoot := c.isScanRoot || isScanRoot }

/-- The capacity `ng_function_discovery_add_with_flags` tests against. -/
def NgFunctionDiscovery.capacity (d : NgFunctionDiscovery) : Nat :=
  if d.maxCandidates = 0 then ngFunctionDiscoveryMaxCandidates
  else min d.maxCandidates.toNat ngFunctionDiscoveryMaxCandidates

theorem NgFunctionDiscovery.capacity_le (d : NgFunctionDiscovery) :
    d.capacity ≤ ngFunctionDiscoveryMaxCandidates := by
  unfold NgFunctionDiscovery.capacity
  split_ifs
  · exact le_refl _
  · exact min_le_right _ _

theorem NgFunctionDiscovery.length_raise_le (d : NgFunctionDiscovery) (i : Nat)
    (isEntry isScanRoot : Bool) :
    (d.candidates.modify i (Candidate.raise isEntry isScanRoot)).length ≤
      ngFunctionDiscoveryMaxCandidates := by
  rw [List.length_modify]
  exact d.count_le

theorem NgFunctionDiscovery.length_push_le (d : NgFunctionDiscovery) (c : Candidate)
    (h : ¬ d.capacity ≤ d.count) :
    (d.candidates ++ [c]).length ≤ ngFunctionDiscoveryMaxCandidates := by
  have := d.capacity_le
  unfold NgFunctionDiscovery.count at h
  rw [List.length_append, List.length_singleton]
  omega

/-- Raise the flags of row `i`. -/
def NgFunctionDiscovery.raise (d : NgFunctionDiscovery) (i : Nat) (isEntry isScanRoot : Bool) :
    NgFunctionDiscovery :=
  { d with
    candidates := d.candidates.modify i (Candidate.raise isEntry isScanRoot)
    count_le := d.length_raise_le i isEntry isScanRoot }

/-- Append a row where there is room for it. -/
def NgFunctionDiscovery.push (d : NgFunctionDiscovery) (c : Candidate)
    (h : ¬ d.capacity ≤ d.count) : NgFunctionDiscovery :=
  { d with candidates := d.candidates ++ [c], count_le := d.length_push_le c h }

/-- `ng_function_discovery_add_with_flags`: the returned flag and the new record. -/
def ngFunctionDiscoveryAddWithFlags (d : NgFunctionDiscovery) (rom : NgProgramRom)
    (addr : BitVec 32) (isEntry isScanRoot : Bool) : Bool × NgFunctionDiscovery :=
  if !isProbableFunctionTarget rom addr then (false, d)
  else
    let bank := discoveryBankForAddr rom addr
    match d.candidates.findIdx? fun c => c.addr == addr && c.entryBank == bank with
    | some i => (true, d.raise i isEntry isScanRoot)
    | none =>
        if h : d.capacity ≤ d.count then (false, { d with truncated := true })
        else
          (true, d.push
            { addr, bank, banked := bank ≠ ngFunctionDiscoveryBankNone, isEntry, isScanRoot } h)

/-- `ng_function_discovery_add_label`. -/
def ngFunctionDiscoveryAddLabel (d : NgFunctionDiscovery) (rom : NgProgramRom) (addr : BitVec 32) :
    NgFunctionDiscovery :=
  (ngFunctionDiscoveryAddWithFlags d rom addr false false).2

/-- `ng_function_discovery_add_scan_root`. -/
def ngFunctionDiscoveryAddScanRoot (d : NgFunctionDiscovery) (rom : NgProgramRom)
    (addr : BitVec 32) : NgFunctionDiscovery :=
  (ngFunctionDiscoveryAddWithFlags d rom addr false true).2

/-- `ng_function_discovery_add`. -/
def ngFunctionDiscoveryAdd (d : NgFunctionDiscovery) (rom : NgProgramRom) (addr : BitVec 32) :
    NgFunctionDiscovery :=
  (ngFunctionDiscoveryAddWithFlags d rom addr true true).2

/-! ## Scanners

A scanner reads the ROM and the configuration and changes the record only through the statements
below, whose results it drops.  It is therefore modelled by the calls it makes, in their order.
-/

/-- One statement of a scanner that changes the record. -/
inductive DiscoveryCall
  /-- `ng_function_discovery_add(out, view, addr)` -/
  | add (view : NgProgramRom) (addr : BitVec 32)
  /-- `ng_function_discovery_add_label(out, view, addr)` -/
  | addLabel (view : NgProgramRom) (addr : BitVec 32)
  /-- `ng_function_discovery_add_scan_root(out, view, addr)` -/
  | addScanRoot (view : NgProgramRom) (addr : BitVec 32)
  /-- `out->truncated = 1` -/
  | truncate

def DiscoveryCall.apply (d : NgFunctionDiscovery) : DiscoveryCall → NgFunctionDiscovery
  | .add view addr => ngFunctionDiscoveryAdd d view addr
  | .addLabel view addr => ngFunctionDiscoveryAddLabel d view addr
  | .addScanRoot view addr => ngFunctionDiscoveryAddScanRoot d view addr
  | .truncate => { d with truncated := true }

/-- The record after a list of calls. -/
def NgFunctionDiscovery.run (d : NgFunctionDiscovery) (calls : List DiscoveryCall) :
    NgFunctionDiscovery :=
  calls.foldl DiscoveryCall.apply d

/-- `for (i = 0; i < turns; ++i)` over the addresses `addr + i * stride`; a body that gives `none`
breaks out of the loop. -/
def entryLoop (stride : BitVec 32) (body : BitVec 32 → Option (List DiscoveryCall)) :
    Nat → BitVec 32 → List DiscoveryCall
  | 0, _ => []
  | turns + 1, addr =>
      match body addr with
      | none => []
      | some calls => calls ++ entryLoop stride body turns (addr + stride)

/-- `for (addr = start; addr < stop;)` with `addr += stride` at the end of each turn, where the
loop also ends if the sum would wrap around. -/
def stridedTurns (stop stride : BitVec 32) (body : BitVec 32 → Option (List DiscoveryCall)) :
    Nat → BitVec 32 → List DiscoveryCall
  | 0, _ => []
  | turns + 1, addr =>
      if addr < stop then
        match body addr with
        | none => []
        | some calls =>
            calls ++
              if wrapsOver addr stride then []
              else stridedTurns stop stride body turns (addr + stride)
      else []

-- The stride is not zero where this is used, so there are at most `stop - start` turns.
def stridedLoop (start stop stride : BitVec 32) (body : BitVec 32 → Option (List DiscoveryCall)) :
    List DiscoveryCall :=
  stridedTurns stop stride body (stop.toNat - start.toNat) start

/-- The banks a `for (bank = 0; bank < bank_count; ++bank)` loop visits: those configured. -/
def configuredBanks (rom : NgProgramRom) : List (BitVec 32) :=
  ((List.range (ngProgramRomBankCount rom).toNat).map (BitVec.ofNat 32)).filter
    (ngProgramRomBankIsConfigured rom)

/-- The body of such a loop runs on a copy of the ROM with the bank selected. -/
def forBanks (rom : NgProgramRom) (body : NgProgramRom → List DiscoveryCall) :
    List DiscoveryCall :=
  (configuredBanks rom).flatMap fun bank => body (ngProgramRomSelectBank rom bank)

end NeoRecomp
