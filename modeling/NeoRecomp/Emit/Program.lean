import NeoRecomp.Discovery.State
import NeoRecomp.Emit.Body
import NeoRecomp.Lib.LowerBound

/-!
# The emitted program

One function per discovered candidate, `NG_GENERATED_STEP` as a single switch or as a binary search
over shards, and the dispatch loop `NG_GENERATED_CALL` around it.
-/

namespace NeoRecomp

open Gen

/-! ## Functions -/

/-- `discovery->addrs[index]`. -/
def NgFunctionDiscovery.addrAt (d : NgFunctionDiscovery) (index : Nat) : BitVec 32 :=
  match d.candidates[index]? with
  | some c => c.addr
  | none => 0

/-- The ROM view `emit_function_range` translates a candidate from. -/
def emitView (rom : NgProgramRom) (d : NgFunctionDiscovery) (index : Nat) : NgProgramRom :=
  let bank := ngFunctionDiscoveryBankAt d index
  if bank ≠ ngFunctionDiscoveryBankNone then ngProgramRomSelectBank rom bank else rom

/-- The body `emit_function_range` prints for a candidate. -/
def candidateBody (β : Type) [GeneratedAbi β] (rom : NgProgramRom) (d : NgFunctionDiscovery)
    (index : Nat) : List BodyItem :=
  (emitFunctionBody β (emitView rom d index) (addr24 (d.addrAt index)) {}).1

/-! ## Dispatch -/

/-- `dispatch_case_emitted`: an earlier candidate has the address. -/
def dispatchCaseEmitted (d : NgFunctionDiscovery) (index : Nat) : Bool :=
  (d.candidates.take index).any fun c => addr24 c.addr == addr24 (d.addrAt index)

/-- The cases printed for the candidates from `start` up to `stop`: address and index. -/
def dispatchCases (d : NgFunctionDiscovery) (start stop : Nat) : List (BitVec 32 × Nat) :=
  ((List.range' start (stop - start)).filter fun i => !dispatchCaseEmitted d i).map fun i =>
    (addr24 (d.addrAt i), i)

/-- A C `switch` over printed cases. -/
def switchOn {α : Type} (cases : List (BitVec 32 × α)) (addr : BitVec 32) : Option α :=
  (cases.find? fun c => c.1 == addr).map (·.2)

/-- What one `NG_GENERATED_STEP` invokes. -/
inductive StepTarget
  /-- The function of a discovery index. -/
  | function (index : Nat)
  /-- `ng_call_by_address`. -/
  | byAddress (addr : BitVec 32)
  /-- A shard step without a case for the address. -/
  | nothing
  deriving DecidableEq, Repr

/-- `NG_GENERATED_STEP` as `emit_dispatch` prints it. -/
def generatedStep (d : NgFunctionDiscovery) (addr : BitVec 32) : StepTarget :=
  let addr := addr24 addr
  match switchOn (dispatchCases d 0 d.count) addr with
  | some i => .function i
  | none => .byAddress addr

/-! ## Shards -/

/-- `NG_EMIT_DEFAULT_FUNCTIONS_PER_SHARD`. -/
def ngEmitDefaultFunctionsPerShard : BitVec 32 := 2048

/-- The shard size `ng_emit_c_shards` works with. -/
def functionsPerShard (requested : BitVec 32) : BitVec 32 :=
  if requested = 0 then ngEmitDefaultFunctionsPerShard else requested

/-- `shard_count` of `ng_emit_c_shards`, in 32-bit arithmetic. -/
def shardCount (d : NgFunctionDiscovery) (perShard : BitVec 32) : BitVec 32 :=
  if d.count = 0 then 0 else (BitVec.ofNat 32 d.count + perShard - 1) / perShard

/-- `NgShardDispatchRoute`. -/
structure ShardRoute where
  addr : BitVec 32
  shard : BitVec 32
  deriving DecidableEq, Repr

/-- `compare_shard_dispatch_route`, as an order. -/
def ShardRoute.le (a b : ShardRoute) : Bool :=
  if a.addr ≠ b.addr then a.addr.toNat < b.addr.toNat else a.shard.toNat ≤ b.shard.toNat

/-- The route table of `emit_sharded_dispatch` after `qsort`. -/
def shardRoutes (d : NgFunctionDiscovery) (perShard : BitVec 32) : List ShardRoute :=
  ((dispatchCases d 0 d.count).map fun c =>
    { addr := c.1
      shard := if perShard = 0 then 0 else BitVec.ofNat 32 c.2 / perShard }).mergeSort ShardRoute.le

/-- The binary search of the sharded `NG_GENERATED_STEP`. -/
def findRoute (routes : List ShardRoute) (addr : BitVec 32) : Option ShardRoute :=
  let keys := routes.map fun r => r.addr.toNat
  routes[lowerBound keys addr.toNat keys.length 0 keys.length]?

/-- The index range of a shard in `ng_emit_c_shards`. -/
def shardRange (d : NgFunctionDiscovery) (perShard shard : BitVec 32) : Nat × Nat :=
  let start := shard * perShard
  let stop := start + perShard
  (start.toNat,
    if stop.toNat < start.toNat ∨ d.count < stop.toNat then d.count else stop.toNat)

/-- The switch `emit_shard_step` prints. -/
def shardStep (d : NgFunctionDiscovery) (perShard shard addr : BitVec 32) : StepTarget :=
  let range := shardRange d perShard shard
  match switchOn (dispatchCases d range.1 (min range.2 d.count)) (addr24 addr) with
  | some i => .function i
  | none => .nothing

/-- `NG_GENERATED_STEP` as `emit_sharded_dispatch` prints it. -/
def shardedStep (d : NgFunctionDiscovery) (requested : BitVec 32) (addr : BitVec 32) : StepTarget :=
  let addr := addr24 addr
  let perShard := functionsPerShard requested
  match findRoute (shardRoutes d perShard) addr with
  | some r =>
      if r.addr = addr ∧ r.shard.toNat < (shardCount d perShard).toNat then
        shardStep d perShard r.shard addr
      else .byAddress addr
  | none => .byAddress addr

/-! ## Running the program -/

section Abi
variable {β : Type} [GeneratedAbi β]

/-- Where control stands in a running body. -/
inductive Control
  | item (i : Nat)
  | returned
  deriving DecidableEq, Repr

/-- Run one item; a `goto` without its label would not compile. -/
def bodyStep (cycles : NgM68kInstr → BitVec 8) (body : List BodyItem) (i : Nat) (m : Machine β) :
    Option (Control × Machine β) :=
  match body[i]? with
  | none => some (.returned, m)
  | some item =>
      match item.code cycles m with
      | .next _ m' => some (.item (i + 1), m')
      | .exit .ret m' => some (.returned, m')
      | .exit (.goto label) m' => (labelIndex body label).map fun j => (.item j, m')

/-- What a body has reached after some items, from the machine it was entered with. -/
inductive BodyRun (cycles : NgM68kInstr → BitVec 8) (body : List BodyItem) (m : Machine β) :
    Control → Machine β → Prop
  /-- `uint16_t ng_trace_sr = 0;` -/
  | start : BodyRun cycles body m (.item 0) { m with traceSr := 0 }
  | step {i m₁ c m₂} (h : BodyRun cycles body m (.item i) m₁)
      (hs : bodyStep cycles body i m₁ = some (c, m₂)) : BodyRun cycles body m c m₂

/-- `ng_call_by_address`; the handler is the host's. -/
def ngCallByAddress (handler : Option (BitVec 32 → β → Bool × β)) (addr : BitVec 32)
    (m : Machine β) : Machine β :=
  let miss (m : Machine β) : Machine β := { m with log := m.log ++ [.miss (addr24 addr)] }
  match handler with
  | none => miss m
  | some f =>
      let m' := { m with bus := (f (addr24 addr) m.bus).2 }
      if (f (addr24 addr) m.bus).1 then m' else miss m'

/-- What the emitted program is made of. -/
structure EmittedProgram (β : Type) where
  rom : NgProgramRom
  discovery : NgFunctionDiscovery
  /-- `NG_GENERATED_STEP` of whichever dispatch file is linked. -/
  step : BitVec 32 → StepTarget
  cycles : NgM68kInstr → BitVec 8
  handler : Option (BitVec 32 → β → Bool × β) := none

/-- One `NG_GENERATED_STEP` from its call to its return. -/
inductive StepRun (p : EmittedProgram β) (addr : BitVec 32) (m : Machine β) : Machine β → Prop
  | function {i m'} (hs : p.step addr = .function i)
      (hr : BodyRun p.cycles (candidateBody β p.rom p.discovery i)
        { m with cpu := m.cpu.setPc (addr24 addr) } .returned m') : StepRun p addr m m'
  | byAddress {a} (hs : p.step addr = .byAddress a) :
      StepRun p addr m
        (ngCallByAddress p.handler a { m with cpu := m.cpu.setPc (addr24 addr) })
  | nothing (hs : p.step addr = .nothing) :
      StepRun p addr m { m with cpu := m.cpu.setPc (addr24 addr) }

end Abi

/-- `ng_generated_dispatch_active`, `_pending` and `_addr`. -/
structure DispatchSlot where
  active : Bool := false
  pending : Bool := false
  addr : BitVec 32 := 0
  deriving DecidableEq, Repr

/-- Entry of `NG_GENERATED_CALL`: the new slot, and whether this call runs the loop itself. -/
def DispatchSlot.call (s : DispatchSlot) (addr : BitVec 32) : DispatchSlot × Bool :=
  ({ active := true, pending := true, addr := addr24 addr }, !s.active)

section Abi
variable {β : Type} [GeneratedAbi β]

/-- The loop of `NG_GENERATED_CALL` entered from outside with `addr`: the addresses stepped so far,
the slot and the machine whenever the loop condition is about to be tested.  A dispatch inside a
step is a nested call of the same function. -/
inductive CallLoop (p : EmittedProgram β) (addr : BitVec 32) (m : Machine β) :
    List (BitVec 32) → DispatchSlot → Machine β → Prop
  | enter : CallLoop p addr m [] (DispatchSlot.call {} addr).1 m
  | turn {steps s m₁ m₂} (h : CallLoop p addr m steps s m₁) (hp : s.pending = true)
      (hr : StepRun p s.addr m₁ m₂) {ds} (hd : m₂.log = m₁.log ++ ds) :
      CallLoop p addr m (steps ++ [s.addr])
        ((dispatches ds).foldl (fun s a => (s.call a).1) { s with pending := false }) m₂

end Abi

end NeoRecomp
