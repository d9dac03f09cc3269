import GpuCacheSim.Bridge.Halting
import Mathlib.Data.List.Nodup

/-!
# Invariants of the Driver

What holds of the driver's bookkeeping in every state of every run of
`run_to_completion`, for every GPU environment, command list and window size.

The window never outgrows `window_size` and keeps its kernels in the order
they were created. Each uid reaches the GPU's `launch` at most once, and the
`was_launched()` flag of a kernel in the window says exactly whether it did:
a launch needs the flag clear and sets it, and a kernel removed from the window
never comes back, since uids are not reused. Each uid reaches
`kernel_finalizer` at most once, since `cleanup_finished_kernel` finalizes only
kernels of the window and erases each one it finalizes. And `busy_streams`
never lists a stream twice, since `launch_kernels` pushes a stream only when
it is not there.

These hold in spite of the defects of `Retire`: dropping kernels that never
ran and skipping the kernel after each one removed break neither rule.

`DriverInv` collects them. Each member of the driver keeps it
(`processCommandsLoop`, `launchKernels`, `cleanupLoop`, and the cycle, which
launches nothing), so one step does (`DriverInv.step`), and so does every run
(`DriverInv.run`).

## Main definitions

* `DriverInv`: The invariant.
* `LaunchPost`: What the launch loop leaves.

## Theorems

* `launchKernelsLoop_inv`: The launch loop, over any window.
* `DriverInv.retire`: Retiring one kernel keeps the invariant.
* `DriverInv.step`, `DriverInv.run`: Every reachable state keeps it.
* `window_within_size`: The window stays within `window_size`, in creation
  order.
* `kernel_launched_at_most_once`: No kernel is launched twice.
* `kernel_finalized_at_most_once`: No kernel is finalized twice.
* `busy_streams_nodup`: No stream is busy twice over.
-/

namespace GpuCacheSim

namespace Driver

/-- What every state of the driver keeps: the window within its size and in
    creation order, the finalized uids and the launched uids each without
    repetition and all already created, the `launched` flags in step with the
    GPU, and no stream busy twice over. -/
structure DriverInv (b : Bridge) : Prop where
  window_le : b.kernelsInfo.length ≤ b.windowSize
  sorted : b.kernelsInfo.Pairwise (fun k k' => k.uid < k'.uid)
  uid_lt : ∀ k ∈ b.kernelsInfo, k.uid < b.nextUid
  finalized_nodup : b.finalized.Nodup
  finalized_lt : ∀ u ∈ b.finalized, u < b.nextUid
  not_finalized : ∀ k ∈ b.kernelsInfo, k.uid ∉ b.finalized
  launched_nodup : b.gpu.launched.Nodup
  launched_lt : ∀ u ∈ b.gpu.launched, u < b.nextUid
  launched_iff : ∀ k ∈ b.kernelsInfo, k.launched = true ↔ k.uid ∈ b.gpu.launched
  busy_nodup : b.busyStreams.Nodup

theorem DriverInv.of_eq {b b' : Bridge} (h : DriverInv b)
    (hk : b'.kernelsInfo = b.kernelsInfo) (hw : b'.windowSize = b.windowSize)
    (hn : b'.nextUid = b.nextUid) (hf : b'.finalized = b.finalized)
    (hl : b'.gpu.launched = b.gpu.launched) (hb : b'.busyStreams = b.busyStreams) :
    DriverInv b' := by
  obtain ⟨h1, h2, h3, h4, h5, h6, h7, h8, h9, h10⟩ := h
  exact ⟨hk ▸ hw ▸ h1, hk ▸ h2, hk ▸ hn ▸ h3, hf ▸ h4, hf ▸ hn ▸ h5, hk ▸ hf ▸ h6,
    hl ▸ h7, hl ▸ hn ▸ h8, hk ▸ hl ▸ h9, hb ▸ h10⟩

theorem DriverInv.init (commandlist : List TraceCommand) (windowSize : Nat) :
    DriverInv (Driver.init commandlist windowSize).bridge :=
  ⟨Nat.zero_le _, .nil, nofun, .nil, nofun, nofun, .nil, nofun, nofun, .nil⟩

/-! ### `process_commands` -/

theorem DriverInv.pushKernel {b : Bridge} (h : DriverInv b)
    (hroom : b.kernelsInfo.length < b.windowSize) (s : Nat) : DriverInv (pushKernel b s) := by
  have hfresh : ∀ k ∈ b.kernelsInfo, k.uid < b.nextUid := h.uid_lt
  refine ⟨?_, ?_, ?_, h.finalized_nodup, fun u hu => ?_, ?_, h.launched_nodup, fun u hu => ?_,
    ?_, h.busy_nodup⟩
  · simp only [Driver.pushKernel, List.length_append, List.length_singleton]; omega
  · exact List.pairwise_append.mpr ⟨h.sorted, List.pairwise_singleton _ _,
      fun k hk k' hk' => by rw [List.mem_singleton.mp hk']; exact hfresh k hk⟩
  · intro k hk
    rcases List.mem_append.mp hk with hk | hk
    · exact Nat.lt_succ_of_lt (hfresh k hk)
    · rw [List.mem_singleton.mp hk]; exact Nat.lt_succ_self _
  · exact Nat.lt_succ_of_lt (h.finalized_lt u hu)
  · intro k hk
    rcases List.mem_append.mp hk with hk | hk
    · exact h.not_finalized k hk
    · rw [List.mem_singleton.mp hk]; exact fun hu => Nat.lt_irrefl _ (h.finalized_lt _ hu)
  · exact Nat.lt_succ_of_lt (h.launched_lt u hu)
  · intro k hk
    rcases List.mem_append.mp hk with hk | hk
    · exact h.launched_iff k hk
    · rw [List.mem_singleton.mp hk]
      exact ⟨nofun, fun hu => absurd (h.launched_lt _ hu) (Nat.lt_irrefl _)⟩

theorem DriverInv.processCommandsLoop (n : Nat) {b : Bridge} (h : DriverInv b) :
    DriverInv (processCommandsLoop n b) := by
  induction n generalizing b with
  | zero => exact h
  | succ n ih =>
    simp only [Driver.processCommandsLoop]
    split
    · split
      · exact h
      · exact ih (h.of_eq rfl rfl rfl rfl rfl rfl)
      · exact ih ((h.pushKernel ‹_› _).of_eq rfl rfl rfl rfl rfl rfl)
    · exact h

/-! ### `launch_kernels` -/

@[simp]
theorem Gpu.canStartKernel_launched (env : Env) (g : Gpu) :
    (g.canStartKernel env).2.launched = g.launched := rfl

@[simp]
theorem Gpu.launch_launched (g : Gpu) (uid : Nat) : (g.launch uid).launched = g.launched ++ [uid] :=
  rfl

/-- What the launch loop over `ks`, started from the GPU `g`, leaves in `r`:
    the uids of `ks` in their order, no stream busy twice, the launches of `g`
    followed by launches of uids of `ks` only, none twice, and each kernel's
    flag saying whether it was launched. -/
structure LaunchPost (ks : List KernelInfo) (g : Gpu) (r : List KernelInfo × List Nat × Gpu) :
    Prop where
  uids : r.1.map KernelInfo.uid = ks.map KernelInfo.uid
  busy_nodup : r.2.1.Nodup
  launched_append : ∃ L, r.2.2.launched = g.launched ++ L ∧ ∀ u ∈ L, u ∈ ks.map KernelInfo.uid
  launched_nodup : r.2.2.launched.Nodup
  launched_iff : ∀ k ∈ r.1, k.launched = true ↔ k.uid ∈ r.2.2.launched

/-- One turn of the loop: `k` stays in the window as `k'`, under its uid, and
    its launch, if any, comes before those of the turns after it. -/
theorem LaunchPost.cons {k k' : KernelInfo} {ks : List KernelInfo} {g g' : Gpu}
    {r : List KernelInfo × List Nat × Gpu} (hr : LaunchPost ks g' r)
    (hne : k.uid ∉ ks.map KernelInfo.uid) (hk' : k'.uid = k.uid)
    (hhead : k'.launched = true ↔ k'.uid ∈ g'.launched)
    (hg' : ∃ M, g'.launched = g.launched ++ M ∧ ∀ u ∈ M, u = k.uid) :
    LaunchPost (k :: ks) g (k' :: r.1, r.2) := by
  obtain ⟨h1, h2, ⟨L, hL, hLks⟩, h4, h5⟩ := hr
  obtain ⟨M, hM, hMk⟩ := hg'
  have hnot : k'.uid ∉ L := fun h => hne (hk' ▸ hLks _ h)
  refine ⟨by simp [h1, hk'], h2, ⟨M ++ L, by rw [hL, hM, List.append_assoc], fun u hu => ?_⟩,
    h4, fun x hx => ?_⟩
  · rcases List.mem_append.mp hu with hu | hu
    · exact List.mem_cons.mpr (.inl (hMk u hu))
    · exact List.mem_cons_of_mem _ (hLks u hu)
  · rcases List.mem_cons.mp hx with rfl | hx
    · rw [hhead, hL, List.mem_append, or_iff_left hnot]
    · exact h5 x hx

/-- The launch loop keeps the uids of the window, launches each kernel at most
    once, and leaves each kernel's flag saying whether it was launched. -/
theorem launchKernelsLoop_inv (env : Env) (ks : List KernelInfo) (busy : List Nat) (g : Gpu)
    (hks : ks.Pairwise (fun k k' => k.uid < k'.uid)) (hbusy : busy.Nodup)
    (hg : g.launched.Nodup) (hiff : ∀ k ∈ ks, k.launched = true ↔ k.uid ∈ g.launched) :
    LaunchPost ks g (launchKernelsLoop env ks busy g) := by
  induction ks generalizing busy g with
  | nil => exact ⟨rfl, hbusy, ⟨[], by simp [launchKernelsLoop], nofun⟩, hg, nofun⟩
  | cons k ks ih =>
    rw [List.pairwise_cons] at hks
    have hne : k.uid ∉ ks.map KernelInfo.uid := fun h => by
      obtain ⟨k', hk', he⟩ := List.mem_map.mp h
      exact Nat.lt_irrefl _ (he ▸ hks.1 k' hk')
    have htail : ∀ x ∈ ks, x.launched = true ↔ x.uid ∈ g.launched :=
      fun x hx => hiff x (List.mem_cons_of_mem _ hx)
    have hk := hiff k (List.mem_cons_self _ _)
    simp only [launchKernelsLoop]
    split
    · -- `k`'s stream is busy: no query, no launch.
      exact (ih busy g hks.2 hbusy hg htail).cons hne rfl hk ⟨[], by simp, nofun⟩
    · split
      · -- `k` is launched on its stream.
        rename_i hbusyk hlaunch
        simp only [Bool.and_eq_true, Bool.not_eq_true'] at hlaunch
        have hkg : k.uid ∉ g.launched := fun h => absurd (hk.mpr h) (by simp [hlaunch.2])
        refine (ih _ _ hks.2 ?_ ?_ fun x hx => ?_).cons hne rfl (by simp)
          ⟨[k.uid], by simp, fun u hu => List.mem_singleton.mp hu⟩
        · exact hbusy.append (List.nodup_singleton _) (by simpa using hbusyk)
        · simpa using hg.append (List.nodup_singleton _) (by simpa using hkg)
        · have hx' : x.uid ≠ k.uid := fun h => hne (h ▸ List.mem_map_of_mem _ hx)
          simpa [hx'] using htail x hx
      · -- The GPU was queried and refused, or `k` had already run.
        exact (ih busy (g.canStartKernel env).2 hks.2 hbusy hg htail).cons hne rfl hk
          ⟨[], by simp, nofun⟩

theorem DriverInv.launchKernels (env : Env) {b : Bridge} (h : DriverInv b) :
    DriverInv (Driver.launchKernels env b) := by
  obtain ⟨h1, h2, ⟨L, hL, hLks⟩, h4, h5⟩ := launchKernelsLoop_inv env b.kernelsInfo b.busyStreams
    b.gpu h.sorted h.busy_nodup h.launched_nodup h.launched_iff
  have hmem : ∀ k ∈ (Driver.launchKernels env b).kernelsInfo, ∃ k' ∈ b.kernelsInfo, k'.uid = k.uid :=
    fun k hk => List.mem_map.mp (h1 ▸ List.mem_map_of_mem KernelInfo.uid hk)
  refine ⟨?_, ?_, fun k hk => ?_, h.finalized_nodup, h.finalized_lt, fun k hk => ?_, h4,
    fun u hu => ?_, h5, h2⟩
  · have := congrArg List.length h1
    simp only [List.length_map] at this
    exact this ▸ h.window_le
  · have := h.sorted
    rw [← List.pairwise_map] at this ⊢
    exact h1 ▸ this
  · obtain ⟨k', hk', he⟩ := hmem k hk
    exact he ▸ h.uid_lt k' hk'
  · obtain ⟨k', hk', he⟩ := hmem k hk
    exact he ▸ h.not_finalized k' hk'
  · rw [show (Driver.launchKernels env b).gpu.launched = _ from hL] at hu
    rcases List.mem_append.mp hu with hu | hu
    · exact h.launched_lt u hu
    · obtain ⟨k', hk', rfl⟩ := List.mem_map.mp (hLks u hu)
      exact h.uid_lt k' hk'

/-! ### `cleanup_finished_kernel` -/

/-- In a window in creation order, no other kernel shares the uid of the one at
    index `j`. -/
theorem uid_ne_of_mem_eraseIdx {l : List KernelInfo} (hl : l.Pairwise (fun k k' => k.uid < k'.uid))
    {j : Nat} {x k : KernelInfo} (hx : l[j]? = some x) (hk : k ∈ l.eraseIdx j) : k.uid ≠ x.uid := by
  obtain ⟨i, hij, hi⟩ := List.mem_eraseIdx_iff_getElem?.mp hk
  have hnd : (l.map KernelInfo.uid).Nodup := (List.pairwise_map.mpr hl).nodup
  have hlt : i < (l.map KernelInfo.uid).length := by
    simpa using (List.getElem?_eq_some_iff.mp hi).1
  exact fun he => hij (List.getElem?_inj hlt hnd (by simp [List.getElem?_map, hi, hx, he]))

/-- Retiring the kernel at index `j`: its stream freed, its uid finalized, its
    entry erased. -/
theorem DriverInv.retire {b : Bridge} (h : DriverInv b) {j : Nat} {x : KernelInfo}
    (hx : b.kernelsInfo[j]? = some x) :
    DriverInv { b with busyStreams := b.busyStreams.erase x.cudaStreamId,
                       finalized := b.finalized ++ [x.uid],
                       kernelsInfo := b.kernelsInfo.eraseIdx j } := by
  have hsub := List.eraseIdx_sublist b.kernelsInfo j
  have hxf : x.uid ∉ b.finalized := h.not_finalized x (List.getElem?_mem hx)
  refine ⟨hsub.length_le.trans h.window_le, h.sorted.sublist hsub,
    fun k hk => h.uid_lt k (hsub.subset hk), h.finalized_nodup.append (List.nodup_singleton _)
      (List.disjoint_singleton.mpr hxf), fun u hu => ?_, fun k hk => ?_, h.launched_nodup,
    h.launched_lt, fun k hk => h.launched_iff k (hsub.subset hk), h.busy_nodup.erase _⟩
  · rcases List.mem_append.mp hu with hu | hu
    · exact h.finalized_lt u hu
    · exact List.mem_singleton.mp hu ▸ h.uid_lt x (List.getElem?_mem hx)
  · simp only [List.mem_append, List.mem_singleton, not_or]
    exact ⟨h.not_finalized k (hsub.subset hk), uid_ne_of_mem_eraseIdx h.sorted hx hk⟩

theorem DriverInv.cleanupLoop (uid : Nat) (limit active : Bool) (fuel j : Nat) {b : Bridge}
    (h : DriverInv b) (k : Option KernelInfo) :
    DriverInv (cleanupLoop uid limit active fuel j b k).1 := by
  induction fuel generalizing j b k with
  | zero => exact h
  | succ fuel ih =>
    simp only [Driver.cleanupLoop]
    split
    · exact h
    · rename_i x hx
      split
      · split
        · exact h.retire hx
        · exact ih _ (h.retire hx) _
      · exact ih _ h _

theorem DriverInv.cleanupFinishedKernel (env : Env) (uid : Nat) {b b' : Bridge} (h : DriverInv b)
    (hc : cleanupFinishedKernel env uid b = some b') : DriverInv b' := by
  simp only [Driver.cleanupFinishedKernel] at hc
  split at hc
  · split at hc
    · cases hc
      exact h.cleanupLoop _ _ _ _ _ _
    · cases hc
  · cases hc
    exact h

/-! ### The cycle loop -/

theorem Gpu.finish_launched (g : Gpu) (uid : Nat) : (g.finish uid).launched = g.launched := by
  unfold Gpu.finish
  split <;> rfl

theorem foldl_finish_launched (l : List Nat) (g : Gpu) : (l.foldl Gpu.finish g).launched = g.launched := by
  induction l generalizing g with
  | nil => rfl
  | cons u l ih => rw [List.foldl_cons, ih, Gpu.finish_launched]

/-- A cycle and a pop of the finished queue launch nothing. -/
theorem cycle_finishedKernel_launched (env : Env) (g : Gpu) :
    ((cycle env g).finishedKernel).2.launched = g.launched := by
  have hc : (cycle env g).launched = g.launched := by
    unfold cycle
    split
    · exact foldl_finish_launched _ _
    · split <;> rfl
  unfold Gpu.finishedKernel
  split <;> exact hc

/-! ### Every run -/

theorem DriverInv.step (env : Env) {s : State} (h : DriverInv s.bridge) :
    DriverInv (Driver.step env s).bridge := by
  obtain ⟨b, loc⟩ := s
  cases loc with
  | loopHead =>
    simp only [Driver.step]
    split
    · exact (h.processCommandsLoop _).launchKernels env
    · exact h
  | cycling =>
    simp only [Driver.step]
    split
    · exact h
    · split <;> exact h.of_eq rfl rfl rfl rfl (cycle_finishedKernel_launched env b.gpu) rfl
  | cleanup uid =>
    simp only [Driver.step]
    split
    · exact h
    · rename_i b' hc
      split
      · exact h.cleanupFinishedKernel env uid hc
      · exact h.cleanupFinishedKernel env uid hc
  | returned => exact h
  | aborted => exact h

theorem step_windowSize (env : Env) (s : State) :
    (step env s).bridge.windowSize = s.bridge.windowSize := by
  obtain ⟨b, loc⟩ := s
  cases loc with
  | loopHead =>
    simp only [Driver.step]
    split
    · exact (launchKernels_frame env _).2.2.1.trans (processCommandsLoop_frame _ b).2.1
    · rfl
  | cycling =>
    simp only [Driver.step]
    split
    · rfl
    · split <;> rfl
  | cleanup uid =>
    simp only [Driver.step]
    split
    · rfl
    · rename_i b' hc
      split <;> exact (cleanupFinishedKernel_frame hc).2.2.2.1
  | returned => rfl
  | aborted => rfl

/-- Every state a run reaches from the constructor's keeps the invariant, with
    the window size it was given. -/
theorem DriverInv.run (env : Env) (commandlist : List TraceCommand) (windowSize n : Nat) :
    DriverInv (Driver.run env n (Driver.init commandlist windowSize)).bridge ∧
      (Driver.run env n (Driver.init commandlist windowSize)).bridge.windowSize = windowSize := by
  suffices h : ∀ s : State, DriverInv s.bridge → DriverInv (Driver.run env n s).bridge ∧
      (Driver.run env n s).bridge.windowSize = s.bridge.windowSize from
    h _ (DriverInv.init commandlist windowSize)
  induction n with
  | zero => exact fun s h => ⟨h, rfl⟩
  | succ n ih =>
    intro s h
    obtain ⟨h1, h2⟩ := ih (Driver.step env s) (h.step env)
    exact ⟨h1, h2.trans (step_windowSize env s)⟩

theorem window_within_size (env : Env) (commandlist : List TraceCommand) (windowSize n : Nat) :
    (run env n (init commandlist windowSize)).bridge.kernelsInfo.length ≤ windowSize ∧
    (run env n (init commandlist windowSize)).bridge.kernelsInfo.Pairwise
      (fun k k' => k.uid < k'.uid) := by
  obtain ⟨h, hw⟩ := DriverInv.run env commandlist windowSize n
  exact ⟨h.window_le.trans hw.le, h.sorted⟩

/-- No run launches a kernel twice, and a kernel in the window is marked
    launched exactly when the GPU was given it. -/
theorem kernel_launched_at_most_once (env : Env) (commandlist : List TraceCommand)
    (windowSize n : Nat) :
    (run env n (init commandlist windowSize)).bridge.gpu.launched.Nodup ∧
    ∀ k ∈ (run env n (init commandlist windowSize)).bridge.kernelsInfo,
      k.launched = true ↔ k.uid ∈ (run env n (init commandlist windowSize)).bridge.gpu.launched :=
  ⟨(DriverInv.run env commandlist windowSize n).1.launched_nodup,
    (DriverInv.run env commandlist windowSize n).1.launched_iff⟩

/-- No run hands a kernel to `kernel_finalizer` twice, and no kernel still in the
    window has been finalized. -/
theorem kernel_finalized_at_most_once (env : Env) (commandlist : List TraceCommand)
    (windowSize n : Nat) :
    (run env n (init commandlist windowSize)).bridge.finalized.Nodup ∧
    ∀ k ∈ (run env n (init commandlist windowSize)).bridge.kernelsInfo,
      k.uid ∉ (run env n (init commandlist windowSize)).bridge.finalized :=
  ⟨(DriverInv.run env commandlist windowSize n).1.finalized_nodup,
    (DriverInv.run env commandlist windowSize n).1.not_finalized⟩

/-- `busy_streams` never holds a stream twice, so the `erase` of its first match
    in `cleanup_finished_kernel` frees the stream. -/
theorem busy_streams_nodup (env : Env) (commandlist : List TraceCommand) (windowSize n : Nat) :
    (run env n (init commandlist windowSize)).bridge.busyStreams.Nodup :=
  (DriverInv.run env commandlist windowSize n).1.busy_nodup

end Driver

end GpuCacheSim
