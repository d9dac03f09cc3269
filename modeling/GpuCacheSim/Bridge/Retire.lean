import GpuCacheSim.Bridge.Halting

/-!
# Retiring Kernels

What `cleanup_finished_kernel` takes out of the window, and what that does to
the streams.

With the GPU active and the cap not hit, the loop stops at the first kernel
whose uid is the one popped, so it retires that kernel alone. Once the GPU is
idle, its guard and its per-kernel test both hold through `!active()`, and the
loop removes kernels whether or not they ever ran. Because it erases entry `j`
and then moves on to `j + 1`, it also skips the kernel after each one it
removes. The two runs below show what follows: a kernel that is dropped
without being launched, and a dropped kernel that frees the stream of a
kernel still in the window, so that two kernels of one stream end up running
together.

Once `cycle_insn_cta_max_hit()` holds, the per-kernel test holds for every
kernel and the loop never breaks, so the same skip decides the whole pass:
it finalizes the kernels at positions `0, 2, 4, ...` of the window and leaves
those at positions `1, 3, 5, ...` (`cleanupLoop_cap`). `run_to_completion`
then breaks on the cap, and the kernels left are never finalized. On an empty
window the loop reads no kernel and `assert(k)` fails.

## Main definitions

* `evenPositions`, `oddPositions`: The kernels a pass under the cap retires
  and keeps.

## Theorems

* `idle_cleanup_drops_unlaunched_kernel`: A kernel is retired without ever
  being launched.
* `idle_cleanup_breaks_stream_order`: Two kernels of one stream run at once.
* `cleanupLoop_cap`: The retirement loop under the cap, for every window.
* `cap_cleanup_finalizes_even_positions`: The cleanup step under the cap ends
  the run with the odd positions left.
* `cap_cleanup_leaves_kernel_unfinalized`: A run that stops on the cap with a
  kernel never finalized.
-/

namespace GpuCacheSim

namespace Driver

/-- Three kernels on stream `0` in a window of three, on a GPU that finishes
    each kernel in its first cycle. When the first finishes the GPU is idle, so
    the retirement loop also removes the third kernel, which was never
    launched; the run then returns with only kernels `1` and `2` launched. -/
theorem idle_cleanup_drops_unlaunched_kernel :
    ∃ s, run ⟨fun _ => true, fun _ => [1, 2, 3], fun _ => false⟩ 7
      (init [.kernelLaunch 0, .kernelLaunch 0, .kernelLaunch 0] 3) = s ∧
    s.loc = .returned ∧ s.bridge.gpu.launched = [1, 2] ∧ s.bridge.finalized = [1, 3, 2] :=
  ⟨_, rfl, by decide⟩

/-- Kernel `1` on stream `1`, then kernels `2` to `5` on stream `0`, in a window
    of three. Kernels `1` and `2` finish in the first cycle; retiring `1` on an
    idle GPU also drops kernel `3`, and that removal erases stream `0`, which
    was kernel `2`'s. Kernel `4` then starts on the free stream, and when the
    stale uid `2` is retired, its removal erases kernel `4`'s entry, so kernel
    `5` starts while `4` still runs. -/
theorem idle_cleanup_breaks_stream_order :
    ∃ s, run ⟨fun _ => true, fun c => if c = 0 then [1, 2] else [], fun _ => false⟩ 7
      (init [.kernelLaunch 1, .kernelLaunch 0, .kernelLaunch 0, .kernelLaunch 0,
        .kernelLaunch 0] 3) = s ∧
    s.bridge.gpu.running = [4, 5] ∧ s.bridge.kernelsInfo = [⟨4, 0, true⟩, ⟨5, 0, true⟩] :=
  ⟨_, rfl, by decide⟩

/-! ### Under the cap -/

/-- The elements at positions `0, 2, 4, ...` of a list. -/
def evenPositions {α : Type} : List α → List α
  | [] => []
  | [a] => [a]
  | a :: _ :: t => a :: evenPositions t

/-- The elements at positions `1, 3, 5, ...` of a list. -/
def oddPositions {α : Type} : List α → List α
  | [] => []
  | [_] => []
  | _ :: b :: t => b :: oddPositions t

theorem getLast?_or_some {α : Type} (x : α) (l : List α) (k : Option α) :
    l.getLast?.or (some x) = (x :: l).getLast?.or k := by
  rw [List.getLast?_eq_getLast _ (List.cons_ne_nil x l), Option.or_some]
  cases l with
  | nil => rfl
  | cons a l =>
    rw [List.getLast?_eq_getLast _ (List.cons_ne_nil a l), Option.or_some, List.getLast_cons_cons]

theorem getLast?_evenPositions_isSome {α : Type} {l : List α} (h : l ≠ []) :
    (evenPositions l).getLast?.isSome := by
  match l, h with
  | [_], _ => rfl
  | a :: _ :: t, _ =>
    rw [evenPositions, List.getLast?_eq_getLast _ (List.cons_ne_nil a _)]
    rfl

/-- Past the end of the window the loop stops. -/
theorem cleanupLoop_of_length_le (uid : Nat) (limit active : Bool) (fuel j : Nat) (b : Bridge)
    (k : Option KernelInfo) (hj : b.kernelsInfo.length ≤ j) :
    cleanupLoop uid limit active fuel j b k = (b, k) := by
  cases fuel <;> simp [cleanupLoop, List.getElem?_eq_none hj]

/-- One pass under the cap: the kernel at `j` is retired, and the loop goes on
    at `j + 1` over the window without it. -/
theorem cleanupLoop_cap_step (uid : Nat) (active : Bool) (fuel : Nat) (pre : List KernelInfo)
    (x : KernelInfo) (rest : List KernelInfo) (b : Bridge) (k : Option KernelInfo)
    (hb : b.kernelsInfo = pre ++ x :: rest) :
    cleanupLoop uid true active (fuel + 1) pre.length b k =
      cleanupLoop uid true active fuel (pre.length + 1)
        { b with busyStreams := b.busyStreams.erase x.cudaStreamId,
                 finalized := b.finalized ++ [x.uid], kernelsInfo := pre ++ rest } (some x) := by
  have hx : b.kernelsInfo[pre.length]? = some x := by
    rw [hb, List.getElem?_append_right (Nat.le_refl _), Nat.sub_self, List.getElem?_cons_zero]
  rw [cleanupLoop, hx]
  simp [hb, List.eraseIdx_append_of_length_le]

/-- The loop under the cap, from index `j = |pre|`: of the kernels `rest` from
    `j` on, it retires those at even positions, in order, and keeps the
    others; the last kernel it reads is the last one retired. -/
theorem cleanupLoop_cap (uid : Nat) (active : Bool) (rest pre : List KernelInfo) (fuel : Nat)
    (b : Bridge) (k : Option KernelInfo) (hb : b.kernelsInfo = pre ++ rest)
    (hfuel : rest.length ≤ fuel) :
    cleanupLoop uid true active fuel pre.length b k =
      ({ b with busyStreams := (evenPositions rest).foldl (fun bs x => bs.erase x.cudaStreamId)
                  b.busyStreams,
                finalized := b.finalized ++ (evenPositions rest).map KernelInfo.uid,
                kernelsInfo := pre ++ oddPositions rest },
       (evenPositions rest).getLast?.or k) := by
  induction rest using evenPositions.induct generalizing pre fuel b k with
  | case1 =>
    rw [List.append_nil] at hb
    rw [cleanupLoop_of_length_le _ _ _ _ _ _ _ (by rw [hb])]
    simp [evenPositions, oddPositions, ← hb]
  | case2 x =>
    obtain ⟨f, rfl⟩ : ∃ f, fuel = f + 1 := ⟨fuel - 1, by simp at hfuel; omega⟩
    rw [cleanupLoop_cap_step uid active f pre x [] b k hb,
      cleanupLoop_of_length_le _ _ _ _ _ _ _ (by simp)]
    simp [evenPositions, oddPositions]
  | case3 x y t ih =>
    -- `x` is retired, `y` moves into slot `j` and is stepped over.
    obtain ⟨f, rfl⟩ : ∃ f, fuel = f + 1 := ⟨fuel - 1, by simp at hfuel; omega⟩
    rw [cleanupLoop_cap_step uid active f pre x (y :: t) b k hb,
      ← show (pre ++ [y]).length = pre.length + 1 by simp]
    refine (ih (pre ++ [y]) f _ (some x) (List.append_cons pre y t) (by simp at hfuel; omega)).trans ?_
    simp only [evenPositions, oddPositions, getLast?_or_some x _ k]
    simp

/-- `cleanup_finished_kernel` under the cap, whatever the uid and whether or
    not the GPU is active. -/
theorem cleanupFinishedKernel_cap (env : Env) (uid : Nat) (b : Bridge)
    (hlim : limitReached env b = true) :
    cleanupFinishedKernel env uid b =
      if b.kernelsInfo = [] then none
      else some { b with
        busyStreams := (evenPositions b.kernelsInfo).foldl (fun bs x => bs.erase x.cudaStreamId)
          b.busyStreams,
        finalized := b.finalized ++ (evenPositions b.kernelsInfo).map KernelInfo.uid,
        kernelsInfo := oddPositions b.kernelsInfo } := by
  have h := cleanupLoop_cap uid b.gpu.active b.kernelsInfo [] b.kernelsInfo.length b none rfl le_rfl
  rw [List.length_nil] at h
  simp only [cleanupFinishedKernel, hlim, Bool.or_true, Bool.true_or, if_true, h, List.nil_append,
    Option.or_none]
  by_cases hne : b.kernelsInfo = []
  · simp [hne, evenPositions]
  · rw [if_neg hne, if_pos (getLast?_evenPositions_isSome hne)]

/-- The cleanup step of `run_to_completion` once the cap is hit, for every
    window and every `busy_streams`: `kernel_finalizer` is called once on each
    kernel at an even position of `kernels_info`, in order, the kernels at odd
    positions stay in it, and the run returns; on an empty window it aborts. -/
theorem cap_cleanup_finalizes_even_positions (env : Env) (uid : Nat) (b : Bridge)
    (hlim : limitReached env b = true) :
    step env ⟨b, .cleanup uid⟩ =
      if b.kernelsInfo = [] then ⟨b, .aborted⟩
      else ⟨{ b with
        busyStreams := (evenPositions b.kernelsInfo).foldl (fun bs x => bs.erase x.cudaStreamId)
          b.busyStreams,
        finalized := b.finalized ++ (evenPositions b.kernelsInfo).map KernelInfo.uid,
        kernelsInfo := oddPositions b.kernelsInfo }, .returned⟩ := by
  rw [limitReached] at hlim
  by_cases hne : b.kernelsInfo = [] <;>
    simp [step, cleanupFinishedKernel_cap env uid b hlim, hne, limitReached, hlim]

/-- Three running kernels when the cap is hit: kernels `1` and `3` are
    finalized and kernel `2` stays in the window as the run returns. -/
theorem cap_cleanup_finalizes_first_and_third :
    ∃ s, step ⟨fun _ => true, fun _ => [], fun _ => true⟩
      ⟨{ commandlist := [.kernelLaunch 0, .kernelLaunch 1, .kernelLaunch 2], windowSize := 3,
         commandIdx := 3, kernelsInfo := [⟨1, 0, true⟩, ⟨2, 1, true⟩, ⟨3, 2, true⟩],
         busyStreams := [0, 1, 2], nextUid := 4, finalized := [],
         gpu := ⟨[1, 2, 3], [], 1, 3, [1, 2, 3]⟩ }, .cleanup 0⟩ = s ∧
      s.loc = .returned ∧ s.bridge.finalized = [1, 3] ∧ s.bridge.kernelsInfo = [⟨2, 1, true⟩] :=
  ⟨_, cap_cleanup_finalizes_even_positions _ 0 _ rfl, by decide⟩

/-- Two kernels on two streams in a window of two; kernel `1` finishes in the
    first cycle, and from then on the cap is hit. Retiring kernel `1` moves
    kernel `2` into slot `0`, the loop goes on at slot `1` and ends, and the
    run breaks on the cap: kernel `2`, still running, is never finalized. -/
theorem cap_cleanup_leaves_kernel_unfinalized :
    ∃ s, run ⟨fun _ => true, fun c => if c = 0 then [1] else [], fun c => decide (1 ≤ c)⟩ 3
      (init [.kernelLaunch 0, .kernelLaunch 1] 2) = s ∧
    s.loc = .returned ∧ s.bridge.finalized = [1] ∧ s.bridge.kernelsInfo = [⟨2, 1, true⟩] :=
  ⟨_, rfl, by decide⟩

end Driver

end GpuCacheSim
