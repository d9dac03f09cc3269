import Mathlib.Logic.Function.Basic
import Mathlib.Data.List.Basic

/-!
# The Operand Collector's Bank Arbiter

`opndcoll_rfu_t::arbiter_t`: the register-file banks' request queues and grant
table, and the discipline its asserts impose on the rest of the collector.

The arbiter keeps, for each bank, a queue of operand reads (`m_queue`) and an
allocation (`m_allocated_bank`): free, or granted to one operand for a read or
a write. `add_read_requests` appends a collector unit's valid operands to the
queues of their banks; `allocate_for_read` and `allocate_bank_for_write` grant
a bank, each asserting that the bank is in range and free; `reset_alloction`,
which `process_banks` calls at the end of every `step`, frees every bank. The
callers (`allocate_reads`, `allocate_cu`, `writeback`) are not in the source,
so the model takes any sequence of calls (`Action`) and asks which sequences
the asserts let through, and what the arbiter holds after them.

The answer is an abstract protocol, `grantRun`: it remembers only the banks
granted since the last reset, and refuses a grant on a bank out of range or
already granted, and an operand on a bank out of range. Every run of the
arbiter refines it (`run_refines_grantRun`): the calls pass every assert and
stay within `m_queue` exactly when the protocol accepts them, and then
`bank_idle` answers whether a bank was granted since the last reset. An
operand of a bank past the array is no assert but a write past `m_queue`,
undefined behaviour; the model stops the run there as it does at a failed
assert. Within one cycle the protocol is a condition on the list
of calls (`cycle_no_abort_iff`): the grants name distinct banks. The queues are
never consumed by these four calls: over a run each bank's queue grows by the
valid operands of that bank, in call order (`run_queue`). `allocate_reads`,
which drains them, is declared without a body in the source.

## Main definitions

* `Op`, `Allocation`, `Arbiter`: `op_t`, `allocation_t`, and the fields of
  `arbiter_t` its calls read or write.
* `Arbiter.init`, `Arbiter.addReadRequests`, `Arbiter.bankIdle`,
  `Arbiter.allocate`, `Arbiter.resetAlloction`: the calls.
* `Action`, `Arbiter.run`: a sequence of calls.
* `grantRun`: the grant protocol.

## Theorems

* `addReadRequests_eq`: The loop of `add_read_requests` in closed form.
* `run_refines_grantRun`: Every run of the arbiter refines the grant protocol.
* `cycle_no_abort_iff`: Within a cycle, the calls pass the asserts exactly
  when the grants name distinct banks and every bank is in range.
* `run_queue`: Over a run, each queue grows by its bank's valid operands.
-/

namespace GpuCacheSim

namespace OperandCollector

/-- The fields of `op_t` the arbiter reads or stores: whether the slot holds an
    operand, its offset in the instruction, its register, its bank (computed
    by `register_bank`, which is not in the source) and the issuing scheduler. -/
structure Op where
  valid : Bool
  operand : Nat
  register : Nat
  bank : Nat
  schedId : Nat
  deriving DecidableEq, Repr

/-- `op_t()`: an empty slot. The source leaves the other fields
    uninitialized; the model sets them to `0`. -/
def Op.init : Op := ⟨false, 0, 0, 0, 0⟩

/-- `alloc_t`. -/
inductive AllocT
  | noAlloc
  | readAlloc
  | writeAlloc
  deriving DecidableEq, Repr

/-- `allocation_t`: a bank's grant and the operand that holds it. -/
structure Allocation where
  allocation : AllocT
  op : Op
  deriving DecidableEq, Repr

namespace Allocation

/-- `allocation_t()`. -/
def init : Allocation := ⟨.noAlloc, Op.init⟩

/-- `is_free`. -/
def isFree (x : Allocation) : Bool := x.allocation = .noAlloc

/-- `alloc_read` and `alloc_write`: `assert(is_free())`, then the grant. -/
def alloc (t : AllocT) (x : Allocation) (op : Op) : Option Allocation :=
  if x.isFree then some ⟨t, op⟩ else none

/-- `alloc_read`. -/
def allocRead : Allocation → Op → Option Allocation := alloc .readAlloc

/-- `alloc_write`. -/
def allocWrite : Allocation → Op → Option Allocation := alloc .writeAlloc

/-- `reset`: the grant goes, the stored operand stays. -/
def reset (x : Allocation) : Allocation := { x with allocation := .noAlloc }

@[simp] theorem reset_isFree (x : Allocation) : x.reset.isFree = true := rfl

end Allocation

/-- The fields of `arbiter_t` its calls read or write. Each array of
    `m_num_banks` (or `m_num_collectors`) entries is a function of the index;
    entries past the array stand for nothing, and no call reaches them, since
    every call compares a bank with `numBanks` first. `_inmatch`, `_outmatch`
    and `_request` serve only `allocate_reads`. -/
structure Arbiter where
  numBanks : Nat
  numCollectors : Nat
  allocatedBank : Nat → Allocation
  queue : Nat → List Op
  allocatorRrHead : Nat → Nat
  lastCu : Nat

namespace Arbiter

/-- `arbiter_t()`: no arrays yet, and `m_last_cu = 0`. -/
def empty : Arbiter := ⟨0, 0, fun _ => .init, fun _ => [], fun _ => 0, 0⟩

/-- `reset_alloction`: every bank's grant is dropped. -/
def resetAlloction (a : Arbiter) : Arbiter :=
  { a with allocatedBank := fun b => (a.allocatedBank b).reset }

/-- `init`: at least one unit and one bank are asserted; the queues and
    allocations are fresh, unit `n`'s round-robin head is bank
    `n % num_banks`, and `reset_alloction` runs last. `m_last_cu` is kept. -/
def init (a : Arbiter) (numCu numBanks : Nat) : Option Arbiter :=
  if 0 < numCu ∧ 0 < numBanks then
    some (resetAlloction
      { a with
        numBanks := numBanks, numCollectors := numCu, allocatedBank := fun _ => .init,
        queue := fun _ => [], allocatorRrHead := fun n => n % numBanks })
  else none

/-- `add_read_requests`, over the unit's operand slots (`get_operands()`):
    each valid operand joins the queue of its bank. A bank past the array is
    undefined behaviour, where the model stops. -/
def addReadRequests (a : Arbiter) : List Op → Option Arbiter
  | [] => some a
  | op :: src =>
    if op.valid then
      if op.bank < a.numBanks then
        addReadRequests
          { a with queue := Function.update a.queue op.bank (a.queue op.bank ++ [op]) } src
      else none
    else addReadRequests a src

/-- `bank_idle`; `none` past the array. -/
def bankIdle (a : Arbiter) (bank : Nat) : Option Bool :=
  if bank < a.numBanks then some (a.allocatedBank bank).isFree else none

/-- `allocate_for_read` and `allocate_bank_for_write`:
    `assert(bank < m_num_banks)`, then the bank's allocation takes the
    operand. -/
def allocate (t : AllocT) (a : Arbiter) (bank : Nat) (op : Op) : Option Arbiter :=
  if bank < a.numBanks then
    ((a.allocatedBank bank).alloc t op).map fun x =>
      { a with allocatedBank := Function.update a.allocatedBank bank x }
  else none

/-- `allocate_for_read`, through `alloc_read`. -/
def allocateForRead : Arbiter → Nat → Op → Option Arbiter := allocate .readAlloc

/-- `allocate_bank_for_write`, through `alloc_write`. -/
def allocateBankForWrite : Arbiter → Nat → Op → Option Arbiter := allocate .writeAlloc

end Arbiter

/-- A call the rest of the operand collector makes on the arbiter. -/
inductive Action
  | addReadRequests (src : List Op)
  | allocateForRead (bank : Nat) (op : Op)
  | allocateBankForWrite (bank : Nat) (op : Op)
  | resetAlloction
  deriving DecidableEq, Repr

namespace Arbiter

/-- One call; `none` where an assert fails or the code reads past an array. -/
def step (a : Arbiter) : Action → Option Arbiter
  | .addReadRequests src => a.addReadRequests src
  | .allocateForRead bank op => a.allocateForRead bank op
  | .allocateBankForWrite bank op => a.allocateBankForWrite bank op
  | .resetAlloction => some a.resetAlloction

/-- A sequence of calls. -/
def run (a : Arbiter) : List Action → Option Arbiter
  | [] => some a
  | act :: acts => (a.step act).bind fun a' => run a' acts

end Arbiter

/-! ### The grant protocol -/

/-- Whether every valid operand of `src` names a bank below `n`. -/
def opsInRange (n : Nat) (src : List Op) : Bool :=
  src.all fun op => !op.valid || decide (op.bank < n)

/-- A grant on `bank` with the banks `busy` already granted: refused out of
    range or on a busy bank. -/
def grantBank (n : Nat) (busy : List Nat) (bank : Nat) : Option (List Nat) :=
  if bank < n ∧ bank ∉ busy then some (bank :: busy) else none

/-- What a call does to the banks granted since the last reset, with `n`
    banks; `none` where the arbiter must refuse it. -/
def grantStep (n : Nat) (busy : List Nat) : Action → Option (List Nat)
  | .addReadRequests src => if opsInRange n src then some busy else none
  | .allocateForRead bank _ => grantBank n busy bank
  | .allocateBankForWrite bank _ => grantBank n busy bank
  | .resetAlloction => some []

/-- The grant protocol over a sequence of calls. -/
def grantRun (n : Nat) (busy : List Nat) : List Action → Option (List Nat)
  | [] => some busy
  | act :: acts => (grantStep n busy act).bind fun busy' => grantRun n busy' acts

/-- The bank a call asks to be granted. -/
def Action.grantBank? : Action → Option Nat
  | .allocateForRead bank _ => some bank
  | .allocateBankForWrite bank _ => some bank
  | _ => none

/-- Whether every bank a call names is below `n`. -/
def Action.inRange (n : Nat) : Action → Bool
  | .addReadRequests src => opsInRange n src
  | .allocateForRead bank _ => decide (bank < n)
  | .allocateBankForWrite bank _ => decide (bank < n)
  | .resetAlloction => true

/-- The operands a call queues at bank `b`. -/
def Action.queued (b : Nat) : Action → List Op
  | .addReadRequests src => src.filter fun op => op.valid && op.bank == b
  | _ => []

theorem Action.filterMap_grantBank?_cons (act : Action) (acts : List Action) :
    (act :: acts).filterMap Action.grantBank? =
      act.grantBank?.toList ++ acts.filterMap Action.grantBank? := by
  cases h : act.grantBank? <;> simp [List.filterMap_cons, h]

/-- Within one cycle the protocol is a condition on the list of calls: the
    grants name distinct banks, none of them busy, and every bank is in
    range. -/
theorem grantRun_isSome_iff {n : Nat} {acts : List Action}
    (hcycle : Action.resetAlloction ∉ acts) (busy : List Nat) :
    (grantRun n busy acts).isSome ↔ (acts.filterMap Action.grantBank?).Nodup ∧
      (∀ b ∈ acts.filterMap Action.grantBank?, b ∉ busy) ∧
      ∀ act ∈ acts, act.inRange n = true := by
  induction acts generalizing busy with
  | nil => simp [grantRun]
  | cons act acts ih =>
    simp only [List.mem_cons, not_or] at hcycle
    have ih := ih hcycle.2
    rw [Action.filterMap_grantBank?_cons]
    cases act with
    | addReadRequests src =>
      -- Operands grant nothing; they pass when their banks are in range.
      simp only [grantRun, grantStep, Action.grantBank?, Option.toList_none, List.nil_append,
        List.forall_mem_cons, Action.inRange.eq_1]
      cases h : opsInRange n src
      · simp only [Bool.false_eq_true, if_false, Option.none_bind, Option.isSome_none,
          false_and, and_false]
      · simp only [if_true, Option.some_bind, ih, true_and]
    | allocateForRead bank op | allocateBankForWrite bank op =>
      -- A grant passes when its bank is in range and not granted yet; then
      -- the bank is granted for the rest of the cycle.
      simp only [grantRun, grantStep, grantBank, Action.grantBank?, Option.toList_some,
        List.singleton_append, List.nodup_cons, List.forall_mem_cons]
      by_cases h : bank < n ∧ bank ∉ busy
      · have hG : ∀ G : List Nat, (∀ b ∈ G, b ∉ bank :: busy) ↔ bank ∉ G ∧ ∀ b ∈ G, b ∉ busy :=
          fun G => by simp only [List.mem_cons, not_or, ← List.forall_mem_ne', ← forall₂_and]
        rw [if_pos h, Option.some_bind, ih, hG]
        exact ⟨fun ⟨hn, ⟨hb, hG'⟩, hr⟩ => ⟨⟨hb, hn⟩, ⟨h.2, hG'⟩, decide_eq_true h.1, hr⟩,
          fun ⟨⟨hb, hn⟩, ⟨_, hG'⟩, _, hr⟩ => ⟨hn, ⟨hb, hG'⟩, hr⟩⟩
      · simp only [if_neg h, Option.none_bind, Option.isSome_none, Bool.false_eq_true, false_iff]
        exact fun ⟨_, ⟨hb, _⟩, hn, _⟩ => h ⟨of_decide_eq_true hn, hb⟩
    | resetAlloction => exact absurd rfl hcycle.1 -- No reset within the cycle.

/-! ### The calls in closed form -/

namespace Arbiter

variable {a a' : Arbiter}

/-- The loop of `add_read_requests`: it stops on a valid operand whose bank is
    past the array, and otherwise appends to each bank's queue the valid
    operands of that bank, in slot order. -/
theorem addReadRequests_eq (a : Arbiter) (src : List Op) :
    a.addReadRequests src = if opsInRange a.numBanks src then
      some { a with queue := fun b => a.queue b ++ src.filter fun op => op.valid && op.bank == b }
    else none := by
  induction src generalizing a with
  | nil => simp [addReadRequests, opsInRange]
  | cons op src ih =>
    by_cases hv : op.valid = true
    · by_cases hb : op.bank < a.numBanks
      · have hq : (fun b => Function.update a.queue op.bank (a.queue op.bank ++ [op]) b ++
              src.filter fun op => op.valid && op.bank == b) =
            fun b => a.queue b ++ (op :: src).filter fun op => op.valid && op.bank == b := by
          funext b
          by_cases hbo : b = op.bank
          · subst hbo
            simp [hv]
          · simp [Function.update_noteq hbo, hv, Ne.symm hbo]
        rw [addReadRequests, if_pos hv, if_pos hb, ih]
        simp only [opsInRange, List.all_cons, hv, hb, hq, Bool.not_true, Bool.false_or,
          decide_True, Bool.true_and]
      · simp [addReadRequests, opsInRange, hv, hb]
    · simp [addReadRequests, opsInRange, hv, ih]

/-- `allocate_for_read` and `allocate_bank_for_write` pass their asserts
    exactly on a free bank in range, which then holds the operand. -/
theorem allocate_eq (t : AllocT) (a : Arbiter) (bank : Nat) (op : Op) :
    a.allocate t bank op = if bank < a.numBanks ∧ (a.allocatedBank bank).isFree = true then
      some { a with allocatedBank := Function.update a.allocatedBank bank ⟨t, op⟩ } else none := by
  unfold allocate Allocation.alloc
  by_cases hb : bank < a.numBanks <;> by_cases hf : (a.allocatedBank bank).isFree = true <;>
    simp [hb, hf]

/-- What a call changes besides the grant table: the queues, by the operands
    it queues. -/
theorem step_eq_some {act : Action} (h : a.step act = some a') :
    a'.numBanks = a.numBanks ∧ a'.queue = fun b => a.queue b ++ act.queued b := by
  cases act with
  | addReadRequests src =>
    rw [step, addReadRequests_eq] at h
    split_ifs at h
    cases h
    exact ⟨rfl, rfl⟩
  | allocateForRead bank op | allocateBankForWrite bank op =>
    simp only [step, allocateForRead, allocateBankForWrite, allocate_eq] at h
    split_ifs at h
    cases h
    exact ⟨rfl, by simp [Action.queued]⟩
  | resetAlloction =>
    cases h
    exact ⟨rfl, by simp [resetAlloction, Action.queued]⟩

end Arbiter

/-! ### The code refines the protocol -/

theorem rel_imp {α β : Type} {r s : α → β → Prop} {x : Option α} {y : Option β}
    (h : Option.Rel r x y) (hrs : ∀ a b, r a b → s a b) : Option.Rel s x y := by
  cases h with
  | some hab => exact .some (hrs _ _ hab)
  | none => exact .none

theorem rel_isSome {α β : Type} {r : α → β → Prop} {x : Option α} {y : Option β}
    (h : Option.Rel r x y) : x.isSome = y.isSome := by
  cases h <;> rfl

theorem rel_bind {α β γ δ : Type} {r : α → β → Prop} {s : γ → δ → Prop} {x : Option α}
    {y : Option β} {f : α → Option γ} {g : β → Option δ} (h : Option.Rel r x y)
    (hfg : ∀ a b, r a b → Option.Rel s (f a) (g b)) : Option.Rel s (x.bind f) (y.bind g) := by
  cases h with
  | some hab => exact hfg _ _ hab
  | none => exact .none

namespace Arbiter

/-- The grant table agrees with the banks `busy`: a bank in range is free
    exactly when it is not busy. -/
def GrantsMatch (a : Arbiter) (busy : List Nat) : Prop :=
  ∀ b < a.numBanks, (a.allocatedBank b).isFree = true ↔ b ∉ busy

variable {a : Arbiter} {busy : List Nat}

theorem grantsMatch_iff :
    a.GrantsMatch busy ↔ ∀ b < a.numBanks, a.bankIdle b = some (decide (b ∉ busy)) :=
  forall₂_congr fun b hb => by
    rw [bankIdle, if_pos hb, Option.some.injEq]
    cases (a.allocatedBank b).isFree <;> simp

theorem GrantsMatch.allocate_rel {t : AllocT} (ht : t ≠ .noAlloc) (hm : a.GrantsMatch busy)
    (bank : Nat) (op : Op) :
    Option.Rel (fun a' busy' => a'.GrantsMatch busy' ∧ a'.numBanks = a.numBanks)
      (a.allocate t bank op) (grantBank a.numBanks busy bank) := by
  rw [allocate_eq, grantBank]
  by_cases hb : bank < a.numBanks
  · by_cases hf : (a.allocatedBank bank).isFree = true
    · rw [if_pos ⟨hb, hf⟩, if_pos ⟨hb, (hm bank hb).1 hf⟩]
      refine .some ⟨fun b hb' => ?_, rfl⟩
      by_cases hbb : b = bank
      · subst hbb
        simp [Allocation.isFree, ht]
      · simpa [Function.update_noteq hbb, hbb] using hm b hb'
    · rw [if_neg (fun h => hf h.2), if_neg (fun h => hf ((hm bank hb).2 h.2))]
      exact .none
  · rw [if_neg (fun h => hb h.1), if_neg (fun h => hb h.1)]
    exact .none

/-- One call refines one step of the protocol. -/
theorem GrantsMatch.step_rel (hm : a.GrantsMatch busy) (act : Action) :
    Option.Rel (fun a' busy' => a'.GrantsMatch busy' ∧ a'.numBanks = a.numBanks)
      (a.step act) (grantStep a.numBanks busy act) := by
  cases act with
  | addReadRequests src =>
    rw [step, addReadRequests_eq, grantStep]
    split_ifs
    · exact .some ⟨hm, rfl⟩
    · exact .none
  | allocateForRead bank op => exact hm.allocate_rel (by decide) bank op
  | allocateBankForWrite bank op => exact hm.allocate_rel (by decide) bank op
  | resetAlloction => exact .some ⟨fun b _ => by simp [resetAlloction], rfl⟩

/-- A run refines a run of the protocol. -/
theorem GrantsMatch.run_rel (hm : a.GrantsMatch busy) (acts : List Action) :
    Option.Rel (fun a' busy' => a'.GrantsMatch busy' ∧ a'.numBanks = a.numBanks)
      (a.run acts) (grantRun a.numBanks busy acts) := by
  induction acts generalizing a busy with
  | nil => exact .some ⟨hm, rfl⟩
  | cons act acts ih =>
    refine rel_bind (hm.step_rel act) fun a₁ busy₁ ⟨hm₁, hn₁⟩ => ?_
    have h := ih hm₁
    rw [hn₁] at h
    exact h

end Arbiter

/-! ### What the arbiter's callers may do -/

namespace Arbiter

/-- Every run of the arbiter refines the grant protocol. Started where
    `bank_idle` answers whether a bank is outside `busy`, the calls pass every
    assert exactly when the protocol accepts them, and afterwards `bank_idle`
    answers whether a bank is outside the protocol's busy banks. -/
theorem run_refines_grantRun (a : Arbiter) (busy : List Nat)
    (hidle : ∀ b < a.numBanks, a.bankIdle b = some (decide (b ∉ busy))) (acts : List Action) :
    Option.Rel (fun a' busy' => ∀ b < a.numBanks, a'.bankIdle b = some (decide (b ∉ busy')))
      (a.run acts) (grantRun a.numBanks busy acts) :=
  rel_imp ((grantsMatch_iff.2 hidle).run_rel acts) fun _ _ ⟨hm, hn⟩ => hn ▸ grantsMatch_iff.1 hm

/-- From a fresh arbiter with two banks: a read of bank `0`, a reset, a write
    of bank `0` and a read of bank `1`. -/
theorem run_refines_reset_between_grants :
    ∃ a, Arbiter.empty.init 1 2 = some a ∧
      Option.Rel (fun a' busy' => ∀ b < a.numBanks, a'.bankIdle b = some (decide (b ∉ busy')))
        (a.run [.allocateForRead 0 Op.init, .resetAlloction, .allocateBankForWrite 0 Op.init,
          .allocateForRead 1 Op.init])
        (grantRun a.numBanks [] [.allocateForRead 0 Op.init, .resetAlloction,
          .allocateBankForWrite 0 Op.init, .allocateForRead 1 Op.init]) :=
  ⟨_, rfl, run_refines_grantRun _ [] (by decide) _⟩

/-- Within one cycle, from idle banks (after `init` or `process_banks`), the
    calls pass every assert exactly when the grants name distinct banks and
    every bank a call names is in range. -/
theorem cycle_no_abort_iff (a : Arbiter) (hidle : ∀ b < a.numBanks, a.bankIdle b = some true)
    (acts : List Action) (hcycle : Action.resetAlloction ∉ acts) :
    (a.run acts).isSome ↔ (acts.filterMap Action.grantBank?).Nodup ∧
      ∀ act ∈ acts, act.inRange a.numBanks = true := by
  have hm : a.GrantsMatch [] := grantsMatch_iff.2 fun b hb => by simpa using hidle b hb
  rw [rel_isSome (hm.run_rel acts), grantRun_isSome_iff hcycle]
  simp

/-- A cycle of a fresh arbiter with two banks that reads both. -/
theorem cycle_reads_both_banks :
    ∃ a, Arbiter.empty.init 1 2 = some a ∧
      ((a.run [.allocateForRead 0 Op.init, .allocateForRead 1 Op.init]).isSome ↔
        ([Action.allocateForRead 0 Op.init, .allocateForRead 1 Op.init].filterMap
          Action.grantBank?).Nodup ∧
        ∀ act ∈ [Action.allocateForRead 0 Op.init, .allocateForRead 1 Op.init],
          act.inRange a.numBanks = true) :=
  ⟨_, rfl, cycle_no_abort_iff _ (by decide) _ (by decide)⟩

example : ((Arbiter.empty.init 1 2).bind fun a =>
    a.run [.allocateForRead 1 Op.init, .allocateBankForWrite 1 Op.init]).isSome = false := by
  decide

/-- Over a run that passes its asserts, bank `b`'s queue grows by the valid
    operands of bank `b` of every `add_read_requests`, in call and slot order:
    grants and resets leave the queues alone, and no call removes an
    operand. -/
theorem run_queue (a a' : Arbiter) (acts : List Action) (h : a.run acts = some a') (b : Nat) :
    a'.queue b = a.queue b ++ acts.flatMap (Action.queued b) := by
  induction acts generalizing a with
  | nil =>
    cases h
    simp
  | cons act acts ih =>
    obtain ⟨a₁, h₁, h⟩ := Option.bind_eq_some.mp h
    simp [ih a₁ h, (step_eq_some h₁).2]

/-- A collector unit with two valid operands of bank `1` and an empty slot,
    queued on a fresh arbiter with two banks. -/
theorem run_queue_two_operands :
    ∃ a a', Arbiter.empty.init 1 2 = some a ∧
      a.run [.addReadRequests [⟨true, 0, 5, 1, 0⟩, Op.init, ⟨true, 1, 7, 1, 0⟩]] = some a' ∧
      a'.queue 1 = a.queue 1 ++
        [Action.addReadRequests [⟨true, 0, 5, 1, 0⟩, Op.init, ⟨true, 1, 7, 1, 0⟩]].flatMap
          (Action.queued 1) :=
  ⟨_, _, rfl, rfl, run_queue _ _ _ (by rfl) 1⟩

end Arbiter

end OperandCollector

end GpuCacheSim
