import Mathlib.Algebra.Group.Nat.Basic
import Mathlib.Data.List.Basic

/-!
# The Dispatch Unit's Round Robin

`opndcoll_rfu_t::dispatch_unit_t::find_ready`, and the waiting it bounds.

Each call scans all `m_num_collectors` collector units once, starting past the
last unit it returned, and returns the first that is ready. Without sub-core
mode the scan starts at the next unit; in sub-core mode the units are cut into
one slice of `cusPerSched` units per warp scheduler and the scan starts at the
first unit of the next slice. The index is computed in `unsigned` arithmetic,
so the model reduces `m_last_cu + n + rr_increment` modulo `2^32` before taking
it modulo the number of units.

Both modes are one scan over slices of some width `w`, starting at the first
unit of the slice after the last unit's: `w = 1` without sub-core mode and
`w = cusPerSched` with it. `candidate_eq` shows that the code's index is that
scan whenever the sum cannot wrap, which `numCollectors ≤ 2^31` guarantees.
The waiting bound is then one argument at the slice level: if a slice holds a
ready unit at a call that returns a unit of another slice, the number of
slices the next scan passes before it drops (`findReady_progress`), and after
as many calls as there are slices it must be served.

Past `2^31` units the sum could wrap, but no dispatch unit has that many:
`m_num_collectors` is the size of a `std::vector<collector_unit_t>`, and each
collector unit allocates its own `op_t[MAX_REG_OPERANDS * 2]`, so `2^31` units
would take far more memory than any run has. `WellFormed` keeps the bound.

## Main definitions

* `DispatchUnit`: The fields of `dispatch_unit_t` that `find_ready` reads.
* `candidate`: The unit read at step `n` of the scan.
* `findReady`, `findReadyRun`: One call, and a sequence of calls.

## Theorems

* `candidate_eq`: Without wrap, the scan starts at the next slice.
* `findReady_progress`: One call serves a slice or brings the next scan closer
  to it.
* `find_ready_bounded_waiting`: No `NULL` while a unit is ready, and a waiting
  unit (or slice) is served within one round.
-/

namespace GpuCacheSim

namespace OperandCollector

/-- The fields of `dispatch_unit_t` that `find_ready` reads or writes. The
    collector units themselves enter only through which are ready, which each
    call takes as an argument; `m_next_cu` is never read. -/
structure DispatchUnit where
  numCollectors : Nat
  lastCu : Nat
  subCoreModel : Bool
  numWarpScheds : Nat
  deriving DecidableEq, Repr

namespace DispatchUnit

/-- `cusPerSched`: the collector units of one warp scheduler. With no warp
    scheduler the code divides by zero; Lean's `/` gives `0` there, and
    `WellFormed` excludes the case. -/
def cusPerSched (du : DispatchUnit) : Nat := du.numCollectors / du.numWarpScheds

/-- `rr_increment`: past the last unit, or to the next scheduler's first unit. -/
def rrIncrement (du : DispatchUnit) : Nat :=
  if du.subCoreModel then du.cusPerSched - du.lastCu % du.cusPerSched else 1

/-- The unit `find_ready` reads at step `n`, in `unsigned` arithmetic. -/
def candidate (du : DispatchUnit) (n : Nat) : Nat :=
  (du.lastCu + n + du.rrIncrement) % 2 ^ 32 % du.numCollectors

/-- `find_ready` with `ready c` the value of `ready()` on unit `c`: the first
    ready unit of the scan, which becomes `m_last_cu`. -/
def findReady (du : DispatchUnit) (ready : Nat → Bool) : Option Nat × DispatchUnit :=
  match ((List.range du.numCollectors).map du.candidate).find? ready with
  | some c => (some c, { du with lastCu := c })
  | none => (none, du)

/-- The results of a sequence of calls, with the units' readiness changing
    arbitrarily between them. -/
def findReadyRun (du : DispatchUnit) : List (Nat → Bool) → List (Option Nat)
  | [] => []
  | ready :: rest => (du.findReady ready).1 :: findReadyRun (du.findReady ready).2 rest

/-- The width of the slices the scan steps over. -/
def sliceWidth (du : DispatchUnit) : Nat := if du.subCoreModel then du.cusPerSched else 1

/-- What the dispatch unit is built with: at least one unit and one scheduler,
    and in sub-core mode an equal number of units per scheduler. A vector of
    more than `2^31` collector units, each with its own `op_t` array, cannot
    be allocated, so the bound excludes no dispatch unit a run can build. -/
structure WellFormed (du : DispatchUnit) : Prop where
  pos : 0 < du.numCollectors
  le : du.numCollectors ≤ 2 ^ 31
  scheds : 0 < du.numWarpScheds
  dvd : du.subCoreModel = true → du.numWarpScheds ∣ du.numCollectors

end DispatchUnit

/-! ### Finding in a scan -/

theorem find?_map_range_some {f : Nat → Nat} {p : Nat → Bool} {N c : Nat}
    (h : ((List.range N).map f).find? p = some c) : ∃ m < N, f m = c ∧ p c = true := by
  obtain ⟨m, hm, rfl⟩ := List.mem_map.mp (List.mem_of_find?_eq_some h)
  exact ⟨m, List.mem_range.mp hm, rfl, List.find?_some h⟩

/-- A scan that passes a ready unit at step `n` stops at step `n` or before. -/
theorem find?_map_range_le {f : Nat → Nat} {p : Nat → Bool} {N n : Nat} (hn : n < N)
    (hp : p (f n) = true) : ∃ m ≤ n, ((List.range N).map f).find? p = some (f m) := by
  induction N with
  | zero => omega
  | succ N ih =>
    rw [List.range_succ, List.map_append, List.find?_append]
    cases h : ((List.range N).map f).find? p with
    | some c =>
      obtain ⟨m, hm, rfl, -⟩ := find?_map_range_some h
      by_cases hnN : n < N
      · obtain ⟨m', hm', h'⟩ := ih hnN
        rw [h] at h'
        exact ⟨m', hm', h'⟩
      · exact ⟨m, by omega, rfl⟩
    | none =>
      by_cases hnN : n < N
      · obtain ⟨m', -, h'⟩ := ih hnN
        rw [h] at h'
        cases h'
      · obtain rfl : n = N := by omega
        exact ⟨n, le_rfl, by simp [hp]⟩

/-! ### The scan as slices -/

namespace DispatchUnit

variable {du : DispatchUnit}

theorem findReady_of_find?_some {ready : Nat → Bool} {c : Nat}
    (h : ((List.range du.numCollectors).map du.candidate).find? ready = some c) :
    du.findReady ready = (some c, { du with lastCu := c }) := by
  simp only [findReady, h]

theorem findReady_of_find?_none {ready : Nat → Bool}
    (h : ((List.range du.numCollectors).map du.candidate).find? ready = none) :
    du.findReady ready = (none, du) := by
  simp only [findReady, h]

/-- The number of slices. -/
def slices (du : DispatchUnit) : Nat := du.numCollectors / du.sliceWidth

theorem WellFormed.width_dvd (h : du.WellFormed) : du.sliceWidth ∣ du.numCollectors := by
  unfold sliceWidth cusPerSched
  split
  · exact Nat.div_dvd_of_dvd (h.dvd ‹_›)
  · exact ⟨_, (Nat.one_mul _).symm⟩

theorem WellFormed.width_pos (h : du.WellFormed) : 0 < du.sliceWidth :=
  Nat.pos_of_dvd_of_pos h.width_dvd h.pos

theorem WellFormed.slices_mul (h : du.WellFormed) : du.slices * du.sliceWidth = du.numCollectors :=
  Nat.div_mul_cancel h.width_dvd

/-- Without wrap, `m_last_cu + rr_increment` is the first unit of the slice after
    the last unit's, so the scan reads the units from there on, cyclically. -/
theorem candidate_eq (h : du.WellFormed) (hlast : du.lastCu < du.numCollectors) (n : Nat)
    (hn : n < du.numCollectors) :
    du.candidate n = ((du.lastCu / du.sliceWidth + 1) * du.sliceWidth + n) % du.numCollectors := by
  have hw := h.width_pos
  have hS := h.slices_mul
  -- The last unit's slice is below the number of slices, so the next one starts
  -- at most at the end.
  have hnext : (du.lastCu / du.sliceWidth + 1) * du.sliceWidth ≤ du.numCollectors := by
    rw [← hS]
    refine Nat.mul_le_mul_right _ (Nat.succ_le_of_lt ?_)
    rw [Nat.div_lt_iff_lt_mul hw, hS]
    exact hlast
  have hsum : du.lastCu + n + du.rrIncrement =
      (du.lastCu / du.sliceWidth + 1) * du.sliceWidth + n := by
    have h1 := Nat.div_add_mod' du.lastCu du.sliceWidth
    have h2 := Nat.mod_lt du.lastCu hw
    cases hs : du.subCoreModel
    · simp [rrIncrement, sliceWidth, hs]; omega
    · simp only [rrIncrement, sliceWidth, hs, if_true] at h1 h2 ⊢
      rw [Nat.add_mul, Nat.one_mul]
      omega
  have hlt : (du.lastCu / du.sliceWidth + 1) * du.sliceWidth + n < 2 ^ 32 := by
    have := h.le; omega
  rw [candidate, hsum, Nat.mod_eq_of_lt hlt]

/-- The slice of the unit read at step `n`. -/
theorem candidate_div (h : du.WellFormed) (hlast : du.lastCu < du.numCollectors) (n : Nat)
    (hn : n < du.numCollectors) :
    du.candidate n / du.sliceWidth = (du.lastCu / du.sliceWidth + 1 + n / du.sliceWidth) % du.slices := by
  have hw := h.width_pos
  rw [candidate_eq h hlast n hn, ← h.slices_mul, Nat.mul_comm du.slices, Nat.mod_mul_right_div_self,
    Nat.add_comm _ n, Nat.add_mul_div_right _ _ hw, Nat.add_comm (n / _)]

/-- The unit read at step `n` has the offset of `n` within its slice. -/
theorem candidate_mod (h : du.WellFormed) (hlast : du.lastCu < du.numCollectors) (n : Nat)
    (hn : n < du.numCollectors) :
    du.candidate n % du.sliceWidth = n % du.sliceWidth := by
  rw [candidate_eq h hlast n hn, ← h.slices_mul, Nat.mul_comm du.slices, Nat.mod_mul_right_mod,
    Nat.add_comm, Nat.add_mul_mod_self_right]

theorem candidate_lt (h : du.WellFormed) (n : Nat) : du.candidate n < du.numCollectors :=
  Nat.mod_lt _ h.pos

/-! ### Bounded waiting -/

/-- Some number of further slices below `S` leads from slice `A` to slice `j`. -/
theorem exists_steps (S A j : Nat) (hS : 0 < S) (hj : j < S) : ∃ t < S, (A + t) % S = j := by
  refine ⟨(j + S - A % S) % S, Nat.mod_lt _ hS, ?_⟩
  have := Nat.mod_lt A hS
  rw [Nat.add_mod_mod, ← Nat.mod_add_mod, show A % S + (j + S - A % S) = j + S by omega,
    Nat.add_mod_right, Nat.mod_eq_of_lt hj]

/-- One call, with a ready unit `v` whose slice the scan reaches after passing
    `t` others: the call returns a unit of `v`'s slice, or the next scan passes
    fewer slices before reaching it. -/
theorem findReady_progress (h : du.WellFormed) (hlast : du.lastCu < du.numCollectors)
    (ready : Nat → Bool) (v : Nat) (hr : ready v = true) (t : Nat) (ht : t < du.slices)
    (hj : (du.lastCu / du.sliceWidth + 1 + t) % du.slices = v / du.sliceWidth) :
    ∃ c, du.findReady ready = (some c, { du with lastCu := c }) ∧ c < du.numCollectors ∧
      (c / du.sliceWidth = v / du.sliceWidth ∨
        ∃ t' < t, (c / du.sliceWidth + 1 + t') % du.slices = v / du.sliceWidth) := by
  have hw := h.width_pos
  have hS := h.slices_mul
  -- The scan reads `v` at step `t * w + v % w`.
  have hvm := Nat.mod_lt v hw
  have hnv : t * du.sliceWidth + v % du.sliceWidth < du.numCollectors := by
    rw [← hS]
    calc t * du.sliceWidth + v % du.sliceWidth < (t + 1) * du.sliceWidth := by
          rw [Nat.add_mul, Nat.one_mul]; omega
      _ ≤ du.slices * du.sliceWidth := Nat.mul_le_mul_right _ ht
  have hdiv : (t * du.sliceWidth + v % du.sliceWidth) / du.sliceWidth = t := by
    rw [Nat.add_comm, Nat.add_mul_div_right _ _ hw, Nat.div_eq_of_lt hvm, Nat.zero_add]
  have hmod : (t * du.sliceWidth + v % du.sliceWidth) % du.sliceWidth = v % du.sliceWidth := by
    rw [Nat.add_comm, Nat.add_mul_mod_self_right, Nat.mod_mod]
  have hcv : du.candidate (t * du.sliceWidth + v % du.sliceWidth) = v := by
    rw [← Nat.div_add_mod' (du.candidate _) du.sliceWidth, candidate_div h hlast _ hnv,
      candidate_mod h hlast _ hnv, hdiv, hj, hmod, Nat.div_add_mod']
  obtain ⟨m, hm, hfind⟩ := find?_map_range_le hnv (hcv ▸ hr)
  have hmN : m < du.numCollectors := lt_of_le_of_lt hm hnv
  refine ⟨du.candidate m, findReady_of_find?_some hfind, candidate_lt h m, ?_⟩
  have hmt : m / du.sliceWidth ≤ t := hdiv ▸ Nat.div_le_div_right hm
  rw [candidate_div h hlast m hmN]
  rcases Nat.lt_or_eq_of_le hmt with hlt | heq
  · obtain ⟨t', rfl⟩ : ∃ t', t = m / du.sliceWidth + 1 + t' := ⟨t - m / du.sliceWidth - 1, by omega⟩
    refine .inr ⟨t', Nat.lt_add_of_pos_left (Nat.succ_pos _), ?_⟩
    rw [Nat.add_assoc, Nat.mod_add_mod, ← hj]
    congr 1
    omega
  · exact .inl (by rw [heq, hj])

/-- Over consecutive calls in each of which slice `j` holds a ready unit, one
    call returns a unit of slice `j` before the scans have passed `t` other
    slices, if the calls are more than `t`. -/
theorem findReadyRun_serves (h : du.WellFormed) (hlast : du.lastCu < du.numCollectors) (j : Nat)
    (rs : List (Nat → Bool))
    (hready : ∀ r ∈ rs, ∃ v < du.numCollectors, v / du.sliceWidth = j ∧ r v = true)
    (t : Nat) (ht : t < du.slices) (hrs : t < rs.length)
    (hj : (du.lastCu / du.sliceWidth + 1 + t) % du.slices = j) :
    ∃ c, some c ∈ du.findReadyRun rs ∧ c / du.sliceWidth = j := by
  induction rs generalizing du t with
  | nil => exact absurd hrs (Nat.not_lt_zero _)
  | cons r rs ih =>
    obtain ⟨v, -, rfl, hr⟩ := hready r (List.mem_cons_self _ _)
    obtain ⟨c, hc, hcN, hserved | ⟨t', ht', hj'⟩⟩ := findReady_progress h hlast r v hr t ht hj
    · exact ⟨c, by simp [findReadyRun, hc], hserved⟩
    · -- Slice `j` was not served: the rest of the calls start nearer to it.
      obtain ⟨c', hc', hj''⟩ := @ih { du with lastCu := c } ⟨h.1, h.2, h.3, h.4⟩ hcN
        (fun r' hr' => hready r' (List.mem_cons_of_mem _ hr')) t' (by exact lt_trans ht' ht)
        (by simp at hrs; omega) hj'
      exact ⟨c', by simp [findReadyRun, hc, hc'], hj''⟩

end DispatchUnit

open DispatchUnit

/-- `find_ready` returns `NULL` only when no unit is ready; without sub-core
    mode a unit ready at `N` consecutive calls is returned by one of them; in
    sub-core mode each scan starts at the first unit of the next scheduler's
    slice, and a slice holding a ready unit at `S` consecutive calls is served
    by one of them. This holds from every reachable state (every `m_last_cu`
    below `N`), for at most `2^31` units. -/
theorem find_ready_bounded_waiting (du : DispatchUnit) (h : du.WellFormed)
    (hlast : du.lastCu < du.numCollectors) :
    (∀ ready, (du.findReady ready).1 = none ↔ ∀ c < du.numCollectors, ready c = false) ∧
    (du.subCoreModel = false → ∀ u < du.numCollectors, ∀ rs : List (Nat → Bool),
      rs.length = du.numCollectors → (∀ r ∈ rs, r u = true) → some u ∈ du.findReadyRun rs) ∧
    (du.subCoreModel = true →
      du.candidate 0 = (du.lastCu / du.cusPerSched + 1) % du.numWarpScheds * du.cusPerSched ∧
      ∀ j < du.numWarpScheds, ∀ rs : List (Nat → Bool), rs.length = du.numWarpScheds →
        (∀ r ∈ rs, ∃ v < du.numCollectors, v / du.cusPerSched = j ∧ r v = true) →
        ∃ c, some c ∈ du.findReadyRun rs ∧ c / du.cusPerSched = j) := by
  have hw := h.width_pos
  have hS := h.slices_mul
  have hSpos : 0 < du.slices := Nat.pos_of_ne_zero fun h0 => by simp [h0] at hS; omega
  refine ⟨fun ready => ⟨fun hnone c hc => ?_, fun hall => ?_⟩, fun hsub u hu rs hlen hr => ?_,
    fun hsub => ?_⟩
  · -- A ready unit is reached by the scan.
    by_contra hcr
    obtain ⟨t, ht, htj⟩ := exists_steps du.slices (du.lastCu / du.sliceWidth + 1) (c / du.sliceWidth)
      hSpos ((Nat.div_lt_iff_lt_mul hw).mpr (hS ▸ hc))
    obtain ⟨c', hc', -⟩ := findReady_progress h hlast ready c (by simpa using hcr) t ht htj
    rw [hc'] at hnone
    cases hnone
  · have : ((List.range du.numCollectors).map du.candidate).find? ready = none := by
      simp only [List.find?_eq_none, List.mem_map, List.mem_range]
      rintro _ ⟨m, -, rfl⟩
      simp [hall _ (candidate_lt h m)]
    rw [findReady_of_find?_none this]
  · -- Without sub-core mode the slices are single units.
    have h1 : du.sliceWidth = 1 := by simp [sliceWidth, hsub]
    have hN : du.slices = du.numCollectors := by simp [slices, h1]
    obtain ⟨t, ht, htj⟩ := exists_steps du.slices (du.lastCu / du.sliceWidth + 1) u hSpos (hN ▸ hu)
    obtain ⟨c, hc, hcu⟩ := findReadyRun_serves h hlast u rs
      (fun r hr' => ⟨u, hu, by simp [h1], hr r hr'⟩) t ht (by omega) htj
    obtain rfl : c = u := by simpa [h1] using hcu
    exact hc
  · -- In sub-core mode the slices are the schedulers' `cusPerSched` units.
    have hk : du.sliceWidth = du.cusPerSched := by simp [sliceWidth, hsub]
    have hN : du.slices = du.numWarpScheds := by
      simp only [slices, hk, cusPerSched]
      exact Nat.div_div_self (h.dvd hsub) (by have := h.pos; omega)
    refine ⟨?_, fun j hj rs hlen hr => ?_⟩
    · have hlt : 0 < du.numCollectors := h.pos
      rw [← Nat.div_add_mod' (du.candidate 0) du.sliceWidth, candidate_div h hlast 0 hlt,
        candidate_mod h hlast 0 hlt, hk, hN]
      simp
    · obtain ⟨t, ht, htj⟩ := exists_steps du.slices (du.lastCu / du.sliceWidth + 1) j hSpos (hN ▸ hj)
      exact hk ▸ findReadyRun_serves h hlast j rs (hk ▸ hr) t ht (by omega) htj

/-- Four units and two schedulers in sub-core mode, unit `1` of slice `0`
    returned last: the next scan starts at unit `2`, the first of slice `1`. -/
theorem find_ready_bounded_waiting_sub_core :
    (⟨4, 1, true, 2⟩ : DispatchUnit).WellFormed ∧
      (⟨4, 1, true, 2⟩ : DispatchUnit).candidate 0 = 2 := by
  have h : (⟨4, 1, true, 2⟩ : DispatchUnit).WellFormed :=
    ⟨by decide, by decide, by decide, fun _ => by decide⟩
  exact ⟨h, ((find_ready_bounded_waiting _ h (by decide)).2.2 rfl).1.trans (by decide)⟩

end OperandCollector

end GpuCacheSim
