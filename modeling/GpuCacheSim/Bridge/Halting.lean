import GpuCacheSim.Bridge.Driver

/-!
# Halting of the Driver

Every run of `run_to_completion` stops, for every command list, every window
and every GPU that finishes each running kernel within finitely many cycles.

The argument is a measure on the driver's state, `potential`, that no member
raises and that every pass of the outer loop lowers. A pass lowers it by
consuming a command, by popping a queued finished uid, or by removing a kernel
from the window; when it does none of these, the cycle loop ended on uid `0`
with the GPU idle, so `cleanup_finished_kernel` takes its `!active()` branch
and removes the window's first kernel. Within a pass the cycle loop is the one
unbounded part, and it ends because the GPU is fair to the run (`FairFrom`):
a kernel running at a state of the run is listed as finished at some later
cycle.

A run stops either by returning or at the `assert(k)` of
`cleanup_finished_kernel`; `Theory` shows that the second happens.

## Main definitions

* `potential`: The progress measure.
* `Fair`: Each kernel is listed as finished at infinitely many cycles.
* `FairFrom`: Each kernel running in a run is listed as finished later.

## Theorems

* `potential_processCommands_le`, `potential_launchKernels_le`: The members
  do not raise the measure.
* `cycling_step`: One pass of the cycle loop.
* `cycling_exits`: The cycle loop ends, without raising the measure.
* `step_loopHead`, `step_cleanup`: The other two control points.
* `run_to_completion_halts`: Every run stops.
-/

namespace GpuCacheSim

namespace Driver

/-- A kernel not yet launched. -/
def unlaunched (k : KernelInfo) : Bool := !k.launched

/-- The progress measure: four for each command left, one for each kernel in
    the window and two more for each of those not yet launched, one for each
    running kernel and one for each queued finished uid. -/
def potential (b : Bridge) : Nat :=
  4 * (b.commandlist.length - b.commandIdx) + b.kernelsInfo.length
    + 2 * b.kernelsInfo.countP unlaunched + b.gpu.running.length
    + b.gpu.finishedKernels.length

/-! ### `process_commands` -/

theorem processCommandsLoop_frame (n : Nat) (b : Bridge) :
    (processCommandsLoop n b).commandlist = b.commandlist ∧
    (processCommandsLoop n b).windowSize = b.windowSize ∧
    (processCommandsLoop n b).gpu = b.gpu ∧
    b.kernelsInfo.length ≤ (processCommandsLoop n b).kernelsInfo.length ∧
    potential (processCommandsLoop n b) ≤ potential b := by
  induction n generalizing b with
  | zero => simp [processCommandsLoop]
  | succ n ih =>
    simp only [processCommandsLoop]
    split
    · split
      · simp
      · rename_i h
        obtain ⟨h1, h2, h3, h4, h5⟩ := ih { b with commandIdx := b.commandIdx + 1 }
        have hlt := (List.getElem?_eq_some_iff.mp h).1
        refine ⟨h1, h2, h3, h4, le_trans h5 ?_⟩
        simp only [potential]
        omega
      · rename_i h
        obtain ⟨h1, h2, h3, h4, h5⟩ := ih { pushKernel b _ with commandIdx := b.commandIdx + 1 }
        have hlt := (List.getElem?_eq_some_iff.mp h).1
        simp only [pushKernel, List.length_append, List.length_singleton] at h1 h2 h3 h4 h5 ⊢
        refine ⟨h1, h2, h3, by omega, le_trans h5 ?_⟩
        simp only [potential, List.length_append, List.countP_append, List.length_singleton]
        simp [unlaunched]
        omega
    · simp

/-- Filling the window consumes a command whenever there is room and a command
    is left. -/
theorem potential_processCommands_lt (b : Bridge) (hroom : b.kernelsInfo.length < b.windowSize)
    (hleft : commandsLeft b = true) : potential (processCommands b) < potential b := by
  simp only [commandsLeft, decide_eq_true_eq] at hleft
  obtain ⟨c, hc⟩ : ∃ c, b.commandlist[b.commandIdx]? = some c :=
    ⟨_, List.getElem?_eq_getElem hleft⟩
  obtain ⟨n, hn⟩ : ∃ n, b.commandlist.length = n + 1 := ⟨_, (Nat.succ_pred_eq_of_pos
    (Nat.lt_of_le_of_lt (Nat.zero_le _) hleft)).symm⟩
  simp only [processCommands, hn, processCommandsLoop, hroom, if_true, hc]
  -- A copy is consumed; a launch is consumed into the window.
  cases c <;>
  · refine lt_of_le_of_lt (processCommandsLoop_frame n _).2.2.2.2 ?_
    simp [potential, pushKernel, unlaunched]
    omega

/-! ### `launch_kernels` -/

/-- A launch turns a waiting kernel (worth two) into a running one (worth one),
    and nothing else in the loop moves the measure. -/
theorem launchKernelsLoop_potential (env : Env) (ks : List KernelInfo) (busy : List Nat)
    (g : Gpu) :
    (launchKernelsLoop env ks busy g).1.length = ks.length ∧
    (launchKernelsLoop env ks busy g).2.2.finishedKernels = g.finishedKernels ∧
    2 * (launchKernelsLoop env ks busy g).1.countP unlaunched
      + (launchKernelsLoop env ks busy g).2.2.running.length
      ≤ 2 * ks.countP unlaunched + g.running.length := by
  induction ks generalizing busy g with
  | nil => simp [launchKernelsLoop]
  | cons k ks ih =>
    simp only [launchKernelsLoop]
    split
    · obtain ⟨h1, h2, h3⟩ := ih busy g
      simp only [List.length_cons, List.countP_cons] at h1 h3 ⊢
      exact ⟨by omega, h2, by omega⟩
    · split
      · rename_i h
        obtain ⟨h1, h2, h3⟩ := ih (busy ++ [k.cudaStreamId])
          (Gpu.launch (Gpu.canStartKernel env g).2 k.uid)
        simp only [Bool.and_eq_true, Bool.not_eq_true'] at h
        simp only [Gpu.launch, Gpu.canStartKernel, List.length_append,
          List.length_singleton] at h1 h2 h3 ⊢
        simp only [List.length_cons, List.countP_cons, unlaunched, h.2] at h3 ⊢
        exact ⟨by omega, h2, by simp; omega⟩
      · obtain ⟨h1, h2, h3⟩ := ih busy (Gpu.canStartKernel env g).2
        simp only [Gpu.canStartKernel, List.length_cons, List.countP_cons] at h1 h2 h3 ⊢
        exact ⟨by omega, h2, by omega⟩

theorem launchKernels_frame (env : Env) (b : Bridge) :
    (launchKernels env b).commandlist = b.commandlist ∧
    (launchKernels env b).commandIdx = b.commandIdx ∧
    (launchKernels env b).windowSize = b.windowSize ∧
    (launchKernels env b).kernelsInfo.length = b.kernelsInfo.length ∧
    potential (launchKernels env b) ≤ potential b := by
  obtain ⟨h1, h2, h3⟩ := launchKernelsLoop_potential env b.kernelsInfo b.busyStreams b.gpu
  refine ⟨rfl, rfl, rfl, h1, ?_⟩
  simp only [potential, launchKernels, h1, h2]
  omega

/-! ### The cycle loop -/

/-- The GPU's load: running kernels and queued finished uids. A cycle moves
    kernels from the first to the second, and a pop removes one. -/
def Gpu.load (g : Gpu) : Nat := g.running.length + g.finishedKernels.length

theorem Gpu.finish_load (g : Gpu) (uid : Nat) : (g.finish uid).load = g.load := by
  unfold Gpu.finish Gpu.load
  split
  · rename_i h
    simp only [List.length_erase_of_mem h, List.length_append, List.length_singleton]
    have := List.length_pos_of_mem h
    omega
  · rfl

theorem foldl_finish_load (l : List Nat) (g : Gpu) : (l.foldl Gpu.finish g).load = g.load := by
  induction l generalizing g with
  | nil => rfl
  | cons u l ih => rw [List.foldl_cons, ih, Gpu.finish_load]

theorem foldl_finish_length_le (l : List Nat) (g : Gpu) :
    g.finishedKernels.length ≤ (l.foldl Gpu.finish g).finishedKernels.length := by
  induction l generalizing g with
  | nil => exact le_rfl
  | cons u l ih =>
    refine le_trans ?_ (ih (g.finish u))
    unfold Gpu.finish; split <;> simp

/-- A cycle in which the queue did not grow finished nothing. -/
theorem foldl_finish_idle (l : List Nat) (g : Gpu)
    (h : (l.foldl Gpu.finish g).finishedKernels.length ≤ g.finishedKernels.length) :
    l.foldl Gpu.finish g = g ∧ ∀ u ∈ l, u ∉ g.running := by
  induction l generalizing g with
  | nil => simp
  | cons u l ih =>
    rw [List.foldl_cons] at h ⊢
    by_cases hu : u ∈ g.running
    · have hgrow := foldl_finish_length_le l (g.finish u)
      have : (g.finish u).finishedKernels.length = g.finishedKernels.length + 1 := by
        simp [Gpu.finish, hu]
      omega
    · have hg : g.finish u = g := by simp [Gpu.finish, hu]
      rw [hg] at h ⊢
      obtain ⟨h1, h2⟩ := ih g h
      exact ⟨h1, fun v hv => (List.mem_cons.mp hv).elim (· ▸ hu) (h2 v)⟩

/-- Every uid is offered for completion again and again: a kernel still
    running at cycle `c` is finished by the first cycle `c' ≥ c` that lists it.
    A fair GPU is fair to every run (`Fair.fairFrom`). -/
def Fair (env : Env) : Prop := ∀ uid c, ∃ c', c ≤ c' ∧ uid ∈ env.finishes c'

/-- The GPU is fair to the run from `s`: each kernel running at a state the
    run reaches is listed as finished at some cycle from that state's on.
    This is all of fairness the halting argument uses. -/
def FairFrom (env : Env) (s : State) : Prop :=
  ∀ n, ∀ u ∈ (run env n s).bridge.gpu.running,
    ∃ c', (run env n s).bridge.gpu.simCycle ≤ c' ∧ u ∈ env.finishes c'

theorem Fair.fairFrom {env : Env} (h : Fair env) (s : State) : FairFrom env s :=
  fun _ u _ => h u _

theorem FairFrom.run {env : Env} {s : State} (h : FairFrom env s) (m : Nat) :
    FairFrom env (run env m s) := fun n => by
  rw [← run_add]
  exact h (m + n)

theorem run_succ (env : Env) (n : Nat) (s : State) :
    run env (n + 1) s = run env n (step env s) := rfl

theorem run_one (env : Env) (s : State) : run env 1 s = step env s := rfl

/-- One pass of the cycle loop on an active GPU: a nonzero uid is popped and
    the loop exits, or the load drops, or the cycle finished nothing. -/
theorem step_cycling_active (env : Env) (b : Bridge) (hact : b.gpu.active = true) :
    (∃ u g, u ≠ 0 ∧ step env ⟨b, .cycling⟩ = ⟨{ b with gpu := g }, .cleanup u⟩ ∧
      g.load + 1 = b.gpu.load) ∨
    (∃ g, step env ⟨b, .cycling⟩ = ⟨{ b with gpu := g }, .cycling⟩ ∧ g.load < b.gpu.load) ∨
    (step env ⟨b, .cycling⟩ =
        ⟨{ b with gpu := { b.gpu with simCycle := b.gpu.simCycle + 1 } }, .cycling⟩ ∧
      ∀ u ∈ env.finishes b.gpu.simCycle, u ∉ b.gpu.running) := by
  have hload := foldl_finish_load (env.finishes b.gpu.simCycle) b.gpu
  simp only [step, hact, Bool.not_true, cycle, if_true, Gpu.gpuCycle]
  generalize hf : (env.finishes b.gpu.simCycle).foldl Gpu.finish b.gpu = f at hload
  cases hq : f.finishedKernels with
  | nil =>
    obtain ⟨h1, h2⟩ := foldl_finish_idle _ _ (by rw [hf, hq]; exact Nat.zero_le _)
    rw [hf] at h1
    subst h1
    right; right
    exact ⟨by simp [Gpu.finishedKernel, hq], h2⟩
  | cons x xs =>
    simp only [Gpu.finishedKernel, hq]
    simp only [Gpu.load, hq, List.length_cons] at hload
    by_cases hx : x = 0
    · right; left
      exact ⟨{ f with simCycle := b.gpu.simCycle + 1, finishedKernels := xs }, by simp [hx],
        by simp only [Gpu.load]; omega⟩
    · left
      exact ⟨x, { f with simCycle := b.gpu.simCycle + 1, finishedKernels := xs }, hx,
        by simp [hx], by simp only [Gpu.load]; omega⟩

/-- What the cycle loop leaves: only the GPU has changed, its load has not
    grown (and has dropped if a uid was popped), and the loop ended on uid `0`
    only with the GPU idle. -/
def CycleExit (b : Bridge) (s : State) : Prop :=
  ∃ u g, s = ⟨{ b with gpu := g }, .cleanup u⟩ ∧
    g.load + (if u = 0 then 0 else 1) ≤ b.gpu.load ∧ (u = 0 → g.active = false)

theorem CycleExit.of_step (b : Bridge) (g : Gpu) (hg : g.load ≤ b.gpu.load) (s : State)
    (h : CycleExit { b with gpu := g } s) : CycleExit b s := by
  obtain ⟨u, g', rfl, h1, h2⟩ := h
  exact ⟨u, g', rfl, le_trans h1 hg, h2⟩

/-- One pass of the cycle loop on an active GPU, given that the loop exits
    from the next state if its load is smaller: it exits, or the cycle
    finished nothing. -/
theorem cycling_step (env : Env) (b : Bridge) (hact : b.gpu.active = true)
    (ih : ∀ g : Gpu, step env ⟨b, .cycling⟩ = ⟨{ b with gpu := g }, .cycling⟩ →
      g.load < b.gpu.load →
      ∃ n, CycleExit { b with gpu := g } (run env n ⟨{ b with gpu := g }, .cycling⟩)) :
    (∃ n, CycleExit b (run env n ⟨b, .cycling⟩)) ∨
    (step env ⟨b, .cycling⟩ =
        ⟨{ b with gpu := { b.gpu with simCycle := b.gpu.simCycle + 1 } }, .cycling⟩ ∧
      ∀ u ∈ env.finishes b.gpu.simCycle, u ∉ b.gpu.running) := by
  rcases step_cycling_active env b hact with ⟨u', g, hu', hs, hl⟩ | ⟨g, hs, hl⟩ | hidle
  · exact .inl ⟨1, u', g, by rw [run_succ, hs]; rfl, by simp [hu']; omega, fun h => absurd h hu'⟩
  · obtain ⟨n, hn⟩ := ih g hs hl
    exact .inl ⟨n + 1, CycleExit.of_step b g hl.le _ (by rw [run_succ, hs]; exact hn)⟩
  · exact .inr hidle

/-- The cycle loop ends. The load of the GPU never grows in it; while it stays
    the same, the first running kernel is still running, and fairness bounds
    the cycles until it finishes. -/
theorem cycling_exits (env : Env) (b : Bridge) (hfair : FairFrom env ⟨b, .cycling⟩) :
    ∃ n, CycleExit b (run env n ⟨b, .cycling⟩) := by
  obtain ⟨m, hm⟩ : ∃ m, b.gpu.load = m := ⟨_, rfl⟩
  induction m using Nat.strong_induction_on generalizing b with
  | _ m ih =>
    cases hr : b.gpu.running with
    | nil =>
      refine ⟨1, 0, b.gpu, ?_, by simp, fun _ => by simp [Gpu.active, hr]⟩
      simp [run, step, Gpu.active, hr]
    | cons u rest =>
      have hmem : u ∈ b.gpu.running := by simp [hr]
      obtain ⟨c, hc, hu⟩ : ∃ c, b.gpu.simCycle ≤ c ∧ u ∈ env.finishes c := hfair 0 u hmem
      clear hr
      -- Induction on the cycles left until `u` is offered again.
      obtain ⟨d, hd⟩ : ∃ d, c - b.gpu.simCycle = d := ⟨_, rfl⟩
      induction d generalizing b with
      | zero =>
        rcases cycling_step env b (by simp [Gpu.active, List.isEmpty_iff, List.ne_nil_of_mem hmem])
            (fun g hs hl => ih _ (hm ▸ hl) _ (hs ▸ hfair.run 1) rfl) with h | ⟨_, hidle⟩
        · exact h
        · exact absurd hmem (hidle u ((show b.gpu.simCycle = c by omega) ▸ hu))
      | succ d ihd =>
        rcases cycling_step env b (by simp [Gpu.active, List.isEmpty_iff, List.ne_nil_of_mem hmem])
            (fun g hs hl => ih _ (hm ▸ hl) _ (hs ▸ hfair.run 1) rfl) with h | ⟨hs, _⟩
        · exact h
        · obtain ⟨n, hn⟩ := ihd { b with gpu := { b.gpu with simCycle := b.gpu.simCycle + 1 } }
            (hs ▸ hfair.run 1) hm hmem (by simp; omega) (by simp; omega)
          exact ⟨n + 1, CycleExit.of_step b _ le_rfl _ (by rw [run_succ, hs]; exact hn)⟩

/-! ### The outer loop -/

/-- The outer loop's test: with work left, the pass fills and launches and
    enters the cycle loop, and either the measure dropped or the window holds a
    kernel for `cleanup_finished_kernel` to find. -/
theorem step_loopHead (env : Env) (b : Bridge) (hw : 0 < b.windowSize)
    (hleft : (commandsLeft b || kernelsLeft b) = true) :
    ∃ c, step env ⟨b, .loopHead⟩ = ⟨c, .cycling⟩ ∧ c.windowSize = b.windowSize ∧
      potential c ≤ potential b ∧ (potential c < potential b ∨ c.kernelsInfo ≠ []) := by
  obtain ⟨_, h2, _, h4, h5⟩ := processCommandsLoop_frame b.commandlist.length b
  obtain ⟨_, _, h8, h9, h10⟩ := launchKernels_frame env (processCommands b)
  refine ⟨_, by simp [step, hleft], h8.trans h2, h10.trans h5, ?_⟩
  by_cases hroom : b.kernelsInfo.length < b.windowSize ∧ commandsLeft b = true
  · exact .inl (lt_of_le_of_lt h10 (potential_processCommands_lt b hroom.1 hroom.2))
  · -- No room or no command: the window already holds a kernel.
    right
    have hne : b.kernelsInfo ≠ [] := by
      intro h
      have hc : commandsLeft b = true := by simpa [h, kernelsLeft] using hleft
      exact hroom ⟨by simpa [h] using hw, hc⟩
    rw [← List.length_pos] at hne ⊢
    exact lt_of_lt_of_le hne (h4.trans h9.ge)

/-- The loop of `cleanup_finished_kernel` only removes kernels from the window
    and touches nothing the measure reads besides. -/
theorem cleanupLoop_sublist (uid : Nat) (limit active : Bool) (fuel j : Nat) (b : Bridge)
    (k : Option KernelInfo) :
    List.Sublist (cleanupLoop uid limit active fuel j b k).1.kernelsInfo b.kernelsInfo ∧
    (cleanupLoop uid limit active fuel j b k).1.commandlist = b.commandlist ∧
    (cleanupLoop uid limit active fuel j b k).1.commandIdx = b.commandIdx ∧
    (cleanupLoop uid limit active fuel j b k).1.windowSize = b.windowSize ∧
    (cleanupLoop uid limit active fuel j b k).1.gpu = b.gpu := by
  induction fuel generalizing j b k with
  | zero => simp [cleanupLoop]
  | succ fuel ih =>
    simp only [cleanupLoop]
    split
    · simp
    · split
      · split
        · exact ⟨List.eraseIdx_sublist _ _, rfl, rfl, rfl, rfl⟩
        · obtain ⟨h1, h2, h3, h4, h5⟩ := ih (j + 1) _ (some _)
          exact ⟨h1.trans (List.eraseIdx_sublist _ _), h2, h3, h4, h5⟩
      · exact ih (j + 1) b _

theorem potential_le_of_sublist (b b' : Bridge) (h : List.Sublist b'.kernelsInfo b.kernelsInfo)
    (h1 : b'.commandlist = b.commandlist) (h2 : b'.commandIdx = b.commandIdx)
    (h3 : b'.gpu = b.gpu) :
    potential b' ≤ potential b ∧
      (b'.kernelsInfo.length < b.kernelsInfo.length → potential b' < potential b) := by
  have := h.length_le
  have := h.countP_le unlaunched
  simp only [potential, h1, h2, h3]
  omega

/-- `cleanup_finished_kernel` only removes kernels from the window, and leaves
    the commands, the window size and the GPU as they were. -/
theorem cleanupFinishedKernel_frame {env : Env} {u : Nat} {b b' : Bridge}
    (h : cleanupFinishedKernel env u b = some b') :
    List.Sublist b'.kernelsInfo b.kernelsInfo ∧ b'.commandlist = b.commandlist ∧
      b'.commandIdx = b.commandIdx ∧ b'.windowSize = b.windowSize ∧ b'.gpu = b.gpu := by
  simp only [cleanupFinishedKernel] at h
  split at h
  · -- The loop over the window ran and read a kernel; without one, `assert(k)` fails.
    split at h
    · cases h
      exact cleanupLoop_sublist _ _ _ _ _ _ _
    · cases h
  · -- Uid `0` on an active GPU below the cap: nothing to clean up.
    cases h
    exact ⟨List.Sublist.refl _, rfl, rfl, rfl, rfl⟩

/-- `cleanup_finished_kernel` called on uid `0` with the GPU idle removes the
    window's first kernel: the `!active()` disjunct holds at index `0`. -/
theorem cleanupFinishedKernel_idle_lt (env : Env) (b b' : Bridge) (hidle : b.gpu.active = false)
    (hne : b.kernelsInfo ≠ []) (h : cleanupFinishedKernel env 0 b = some b') :
    b'.kernelsInfo.length < b.kernelsInfo.length := by
  obtain ⟨x, xs, hx⟩ := List.exists_cons_of_ne_nil hne
  simp only [cleanupFinishedKernel, hidle, hx, List.length_cons, cleanupLoop] at h
  simp only [ne_eq, not_true_eq_false, Bool.not_false, Bool.or_true, decide_False,
    Bool.false_or, if_true, List.getElem?_cons_zero, Bool.and_false, Bool.false_eq_true,
    if_false] at h
  split at h
  · cases h
    rw [hx]
    exact lt_of_le_of_lt (cleanupLoop_sublist _ _ _ _ _ _ _).1.length_le (by simp)
  · cases h

/-- `cleanup_finished_kernel` and the cap test after it: the run stops, or the
    next pass starts with no larger measure, and a smaller one when the cycle
    loop ended on uid `0` with a kernel in the window. -/
theorem step_cleanup (env : Env) (b : Bridge) (u : Nat) (hidle : u = 0 → b.gpu.active = false) :
    (step env ⟨b, .cleanup u⟩).loc = .returned ∨ (step env ⟨b, .cleanup u⟩).loc = .aborted ∨
    ∃ b', step env ⟨b, .cleanup u⟩ = ⟨b', .loopHead⟩ ∧ b'.windowSize = b.windowSize ∧
      potential b' ≤ potential b ∧ (u = 0 → b.kernelsInfo ≠ [] → potential b' < potential b) := by
  cases hc : cleanupFinishedKernel env u b with
  | none => simp [step, hc]
  | some b' =>
    obtain ⟨h1, h2, h3, h4, h5⟩ := cleanupFinishedKernel_frame hc
    obtain ⟨hle, hlt⟩ := potential_le_of_sublist b b' h1 h2 h3 h5
    by_cases hlim : limitReached env b' = true
    · left; simp [step, hc, hlim]
    · right; right
      refine ⟨b', by simp [step, hc, hlim], h4, hle, fun hu hne => hlt ?_⟩
      subst hu
      exact cleanupFinishedKernel_idle_lt env b b' (hidle rfl) hne hc

/-- A run that has stopped: it returned, or an assertion failed. -/
def Halted (s : State) : Prop := s.loc = .returned ∨ s.loc = .aborted

theorem step_halted (env : Env) (s : State) (h : Halted s) : step env s = s := by
  rcases h with h | h <;> simp [step, h]

theorem halted_run (env : Env) (n : Nat) (s : State) (h : Halted s) : run env n s = s := by
  induction n with
  | zero => rfl
  | succ n ih => rw [run_succ, step_halted env s h, ih]

/-- From the outer loop's test, every run stops: by strong induction on the
    measure, which each pass lowers. -/
theorem halts_from_loopHead (env : Env) (b : Bridge) (hw : 0 < b.windowSize)
    (hfair : FairFrom env ⟨b, .loopHead⟩) :
    ∃ n, Halted (run env n ⟨b, .loopHead⟩) := by
  obtain ⟨m, hm⟩ : ∃ m, potential b = m := ⟨_, rfl⟩
  induction m using Nat.strong_induction_on generalizing b with
  | _ m ih =>
    by_cases hleft : (commandsLeft b || kernelsLeft b) = true
    · obtain ⟨c, hsc, hcw, hcle, hclt⟩ := step_loopHead env b hw hleft
      obtain ⟨n1, u, g, hrun, hload, hidle⟩ := cycling_exits env c (hsc ▸ hfair.run 1)
      have hpot : potential { c with gpu := g } + (if u = 0 then 0 else 1) ≤ potential c := by
        simp only [potential] at hload ⊢
        simp only [Gpu.load] at hload
        omega
      rcases step_cleanup env { c with gpu := g } u hidle with h | h | ⟨b', hs, hbw, hle, hlt⟩
      · exact ⟨1 + n1 + 1, by rw [run_add, run_add, run_one, run_one, hsc, hrun]; exact .inl h⟩
      · exact ⟨1 + n1 + 1, by rw [run_add, run_add, run_one, run_one, hsc, hrun]; exact .inr h⟩
      · -- The pass lowered the measure: by a pop, by consuming, or by a removal.
        have hdrop : potential b' < m := by
          by_cases hu : u = 0
          · simp only [hu, if_true, Nat.add_zero] at hpot
            rcases hclt with hc | hc
            · omega
            · have := hlt hu hc; omega
          · simp only [hu, if_false] at hpot
            omega
        have hrun' : run env (1 + n1 + 1) ⟨b, .loopHead⟩ = ⟨b', .loopHead⟩ := by
          rw [run_add, run_add, run_one, run_one, hsc, hrun, hs]
        obtain ⟨n2, hn2⟩ := ih _ hdrop b' (by simpa [hbw, hcw] using hw) (hrun' ▸ hfair.run _) rfl
        refine ⟨1 + n1 + 1 + n2, ?_⟩
        rw [run_add, run_add, run_add, run_one, run_one, hsc, hrun, hs]
        exact hn2
    · exact ⟨1, .inl (by simp [run, step, hleft])⟩

/-- Every run of `run_to_completion` stops, for every command list, every
    window of at least one kernel and every GPU fair to the run, whatever the
    cycle cap does: it returns, or it stops at a failed `assert(k)`. -/
theorem run_to_completion_halts (env : Env) (commandlist : List TraceCommand) (windowSize : Nat)
    (hw : 0 < windowSize) (hfair : FairFrom env (init commandlist windowSize)) :
    ∃ n, Halted (run env n (init commandlist windowSize)) :=
  halts_from_loopHead env _ hw hfair

/-- The GPU that finishes every uid up to the cycle number is fair, so a run
    of two launches on one stream stops. -/
theorem run_to_completion_halts_two_launches :
    ∃ n, Halted (run ⟨fun _ => true, fun c => List.range (c + 1), fun _ => false⟩ n
      (init [.kernelLaunch 0, .kernelLaunch 0] 1)) :=
  run_to_completion_halts _ _ _ (by decide)
    (Fair.fairFrom (fun uid c => ⟨max c uid, le_max_left _ _, by simp; omega⟩) _)

/-- A command list of one `MemcpyHtoD` stops at `assert(k)`, for every GPU and
    every window: the copy leaves the window empty, the GPU is idle, and
    `cleanup_finished_kernel`'s `!active()` guard sends it into its loop over no
    kernel at all. -/
theorem memcpy_only_trace_fails_assert (env : Env) (windowSize : Nat) :
    (run env 3 (init [.cpuGpuMemCopy] windowSize)).loc = .aborted := by
  cases windowSize <;>
    simp [run, step, init, commandsLeft, kernelsLeft, processCommands, processCommandsLoop,
      launchKernels, launchKernelsLoop, Gpu.active, cleanupFinishedKernel, cleanupLoop]

/-- A trace that ends in a copy never returns, even on a fair GPU that finishes
    every kernel: once the kernel has retired, the copy is consumed on its own
    and the next `cleanup_finished_kernel` finds the window empty. -/
theorem trailing_memcpy_never_returns :
    Fair ⟨fun _ => true, fun c => List.range (c + 1), fun _ => false⟩ ∧
    ∀ n, (run ⟨fun _ => true, fun c => List.range (c + 1), fun _ => false⟩ n
      (init [.kernelLaunch 0, .cpuGpuMemCopy] 1)).loc ≠ .returned := by
  refine ⟨fun uid c => ⟨max c uid, le_max_left _ _, by simp; omega⟩, fun n => ?_⟩
  by_cases hn : n < 9
  · revert n; decide
  · obtain ⟨k, rfl⟩ : ∃ k, n = 8 + k := ⟨n - 8, by omega⟩
    rw [run_add, halted_run _ _ _ (.inr (by decide))]
    decide

end Driver

end GpuCacheSim
