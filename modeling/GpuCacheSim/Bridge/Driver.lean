import Mathlib.Data.List.Basic

/-!
# The Bridge Driver

`accelsim_bridge::run_to_completion` and the members it calls, with the GPU
left as an environment.

The driver owns a command list with a cursor, a window of at most
`window_size` kernels, and the list of busy CUDA streams. Each pass of its
outer loop fills the window (`process_commands`), launches what it can
(`launch_kernels`), cycles the GPU until a kernel finishes or the GPU goes
idle, and retires (`cleanup_finished_kernel`). Everything the GPU decides is
drawn from an `Env`: the answers of `can_start_kernel()`, which running kernels
each cycle finishes, and whether the cycle cap has been hit. A theorem that
holds for every `Env` therefore holds for every behaviour of the GPU.

The outer loop's control points are explicit in `Loc`, so a run is the
iteration of one deterministic `step`, in the manner of `runFor`. The two
bounded loops of the source, `process_commands`'s `while` and the index loop of
`cleanup_finished_kernel`, take the loop's own bound as fuel; the GPU's cycle
loop is unbounded, and is a `step` that returns to `Loc.cycling`.

## Main definitions

* `Env`, `Gpu`: The GPU as the driver sees it.
* `Bridge`: The fields of `accelsim_bridge` the driver reads and writes.
* `processCommands`, `launchKernels`, `cleanupFinishedKernel`: The members.
* `step`, `run`: `run_to_completion` as a state machine.
-/

namespace GpuCacheSim

namespace Driver

/-- A command of the trace's command list. A kernel launch is reduced to the
    one header field the driver reads: the kernel's CUDA stream. -/
inductive TraceCommand
  | cpuGpuMemCopy
  | kernelLaunch (cudaStreamId : Nat)
  deriving DecidableEq, Repr

/-- `trace_kernel_info_t`, as far as the driver reads it. -/
structure KernelInfo where
  uid : Nat
  cudaStreamId : Nat
  launched : Bool
  deriving DecidableEq, Repr

/-- Every choice the GPU makes. `canStartKernel i` answers the `i`-th call of
    `can_start_kernel()`, `finishes c` lists the kernels the `c`-th GPU cycle
    completes (in completion order; a kernel that is not running is skipped),
    and `cycleInsnCtaMaxHit c` is the cap once `c` cycles have run. -/
structure Env where
  canStartKernel : Nat → Bool
  finishes : Nat → List Nat
  cycleInsnCtaMaxHit : Nat → Bool

/-- The GPU's state: its running kernels, the queue `finished_kernel()` pops,
    the cycle and query counters the `Env` is indexed by, and the uids it was
    given by `launch`, in order. -/
structure Gpu where
  running : List Nat
  finishedKernels : List Nat
  simCycle : Nat
  queries : Nat
  launched : List Nat
  deriving DecidableEq, Repr

namespace Gpu

/-- `active()`: some launched kernel has not finished. -/
def active (g : Gpu) : Bool := !g.running.isEmpty

/-- `launch(k)` starts the kernel. -/
def launch (g : Gpu) (uid : Nat) : Gpu :=
  { g with running := g.running ++ [uid], launched := g.launched ++ [uid] }

/-- `can_start_kernel()`: the next answer of the environment. -/
def canStartKernel (env : Env) (g : Gpu) : Bool × Gpu :=
  (env.canStartKernel g.queries, { g with queries := g.queries + 1 })

/-- One kernel completing: it leaves `running` and is queued for
    `finished_kernel()`. -/
def finish (g : Gpu) (uid : Nat) : Gpu :=
  if uid ∈ g.running then
    { g with running := g.running.erase uid, finishedKernels := g.finishedKernels ++ [uid] }
  else g

/-- One GPU cycle (`cycle()` followed by `deadlock_check()`, which the
    environment never fires). -/
def gpuCycle (env : Env) (g : Gpu) : Gpu :=
  { (env.finishes g.simCycle).foldl finish g with simCycle := g.simCycle + 1 }

/-- `finished_kernel()`: pop the oldest finished uid, or `0` if there is none. -/
def finishedKernel (g : Gpu) : Nat × Gpu :=
  match g.finishedKernels with
  | [] => (0, g)
  | uid :: rest => (uid, { g with finishedKernels := rest })

/-- `stop_all_running_kernels()`: Modelled from the spec ("stop all running
    kernels"), since the stream manager is not under src/. -/
def stopAllRunningKernels (g : Gpu) : Gpu := { g with running := [] }

end Gpu

/-- The members of `accelsim_bridge` the driver uses, and the GPU. `finalized`
    records the uids handed to `tracer->kernel_finalizer`, in order. -/
structure Bridge where
  commandlist : List TraceCommand
  windowSize : Nat
  commandIdx : Nat
  kernelsInfo : List KernelInfo
  busyStreams : List Nat
  nextUid : Nat
  finalized : List Nat
  gpu : Gpu
  deriving DecidableEq, Repr

/-- `commands_left()`: Modelled from the spec (main.hpp is not under src/):
    the command list is not exhausted. -/
def commandsLeft (b : Bridge) : Bool := b.commandIdx < b.commandlist.length

/-- `kernels_left()`: Modelled from the spec (main.hpp is not under src/):
    the window is not empty. -/
def kernelsLeft (b : Bridge) : Bool := !b.kernelsInfo.isEmpty

/-- `limit_reached()`, that is `cycle_insn_cta_max_hit()`. -/
def limitReached (env : Env) (b : Bridge) : Bool := env.cycleInsnCtaMaxHit b.gpu.simCycle

/-- `create_kernel_info` followed by `kernels_info.push_back`. The uid is
    Modelled from the spec: `kernel_info_t`'s counter is not under src/, and
    the driver reads uid `0` as "no kernel", so kernels are numbered from `1`
    in creation order. -/
def pushKernel (b : Bridge) (cudaStreamId : Nat) : Bridge :=
  { b with kernelsInfo := b.kernelsInfo ++ [⟨b.nextUid, cudaStreamId, false⟩],
           nextUid := b.nextUid + 1 }

/-- `process_commands`: consume commands while the window has room. Each pass
    consumes one command, so the length of the list is enough fuel. -/
def processCommandsLoop : Nat → Bridge → Bridge
  | 0, b => b
  | fuel + 1, b =>
    if b.kernelsInfo.length < b.windowSize then
      match b.commandlist[b.commandIdx]? with
      | none => b
      | some .cpuGpuMemCopy =>
        processCommandsLoop fuel { b with commandIdx := b.commandIdx + 1 }
      | some (.kernelLaunch s) =>
        processCommandsLoop fuel { pushKernel b s with commandIdx := b.commandIdx + 1 }
    else b

/-- `process_commands`. -/
def processCommands (b : Bridge) : Bridge := processCommandsLoop b.commandlist.length b

/-- The loop of `launch_kernels` over the window, threading `busy_streams` and
    the GPU. `can_start_kernel()` is asked only when the stream is free, as the
    source's `&&` short-circuits. -/
def launchKernelsLoop (env : Env) :
    List KernelInfo → List Nat → Gpu → List KernelInfo × List Nat × Gpu
  | [], busy, g => ([], busy, g)
  | k :: ks, busy, g =>
    if k.cudaStreamId ∈ busy then
      let r := launchKernelsLoop env ks busy g
      (k :: r.1, r.2)
    else
      let q := g.canStartKernel env
      if q.1 && !k.launched then
        let r := launchKernelsLoop env ks (busy ++ [k.cudaStreamId]) (q.2.launch k.uid)
        ({ k with launched := true } :: r.1, r.2)
      else
        let r := launchKernelsLoop env ks busy q.2
        (k :: r.1, r.2)

/-- `launch_kernels`. -/
def launchKernels (env : Env) (b : Bridge) : Bridge :=
  let r := launchKernelsLoop env b.kernelsInfo b.busyStreams b.gpu
  { b with kernelsInfo := r.1, busyStreams := r.2.1, gpu := r.2.2 }

/-- `accelsim_bridge::cycle`. -/
def cycle (env : Env) (g : Gpu) : Gpu :=
  if g.active then g.gpuCycle env
  else if env.cycleInsnCtaMaxHit g.simCycle then g.stopAllRunningKernels
  else g

/-- The loop of `cleanup_finished_kernel`, `for (j = 0; j < kernels_info.size();
    j++)`, with `limit` and `active` the values of `cycle_insn_cta_max_hit()` and
    `active()` (nothing in the loop changes them) and `k` the last kernel read.
    A removal erases entry `j` and the loop goes on at `j + 1`, as the source
    does. The index grows each pass, so the window's length is enough fuel. -/
def cleanupLoop (uid : Nat) (limit active : Bool) :
    Nat → Nat → Bridge → Option KernelInfo → Bridge × Option KernelInfo
  | 0, _, b, k => (b, k)
  | fuel + 1, j, b, k =>
    match b.kernelsInfo[j]? with
    | none => (b, k)
    | some x =>
      if x.uid = uid || limit || !active then
        let b' := { b with busyStreams := b.busyStreams.erase x.cudaStreamId,
                           finalized := b.finalized ++ [x.uid],
                           kernelsInfo := b.kernelsInfo.eraseIdx j }
        if !limit && active then (b', some x)
        else cleanupLoop uid limit active fuel (j + 1) b' (some x)
      else cleanupLoop uid limit active fuel (j + 1) b (some x)

/-- `cleanup_finished_kernel(uid)`, or `none` where `assert(k)` fails. -/
def cleanupFinishedKernel (env : Env) (uid : Nat) (b : Bridge) : Option Bridge :=
  let limit := limitReached env b
  let active := b.gpu.active
  if uid ≠ 0 || limit || !active then
    let r := cleanupLoop uid limit active b.kernelsInfo.length 0 b none
    if r.2.isSome then some r.1 else none
  else some b

/-- The control points of `run_to_completion`: the outer loop's test, the
    `do ... while (true)` cycle loop, the call of `cleanup_finished_kernel`
    with the uid the cycle loop ended on, a return, and an abort at a failed
    assertion. -/
inductive Loc
  | loopHead
  | cycling
  | cleanup (finishedKernelUid : Nat)
  | returned
  | aborted
  deriving DecidableEq, Repr

/-- The driver between two steps. -/
structure State where
  bridge : Bridge
  loc : Loc
  deriving DecidableEq, Repr

/-- One step of `run_to_completion`. -/
def step (env : Env) (s : State) : State :=
  match s.loc with
  | .loopHead =>
    if commandsLeft s.bridge || kernelsLeft s.bridge then
      ⟨launchKernels env (processCommands s.bridge), .cycling⟩
    else ⟨s.bridge, .returned⟩
  | .cycling =>
    if !s.bridge.gpu.active then ⟨s.bridge, .cleanup 0⟩
    else
      let (uid, g) := (cycle env s.bridge.gpu).finishedKernel
      if uid ≠ 0 then ⟨{ s.bridge with gpu := g }, .cleanup uid⟩
      else ⟨{ s.bridge with gpu := g }, .cycling⟩
  | .cleanup uid =>
    match cleanupFinishedKernel env uid s.bridge with
    | none => ⟨s.bridge, .aborted⟩
    | some b => if limitReached env b then ⟨b, .returned⟩ else ⟨b, .loopHead⟩
  | .returned => s
  | .aborted => s

/-- `n` steps of the driver. -/
def run (env : Env) : Nat → State → State
  | 0, s => s
  | n + 1, s => run env n (step env s)

/-- The driver as the constructor leaves it, before `run_to_completion`. -/
def init (commandlist : List TraceCommand) (windowSize : Nat) : State :=
  ⟨{ commandlist, windowSize, commandIdx := 0, kernelsInfo := [], busyStreams := [],
     nextUid := 1, finalized := [],
     gpu := { running := [], finishedKernels := [], simCycle := 0, queries := 0,
              launched := [] } }, .loopHead⟩

theorem run_add (env : Env) (m n : Nat) (s : State) :
    run env (m + n) s = run env n (run env m s) := by
  induction m generalizing s with
  | zero => rw [Nat.zero_add]; rfl
  | succ m ih => rw [Nat.add_right_comm]; exact ih (step env s)

end Driver

end GpuCacheSim
