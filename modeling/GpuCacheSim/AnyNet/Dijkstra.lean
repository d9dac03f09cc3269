import GpuCacheSim.AnyNet.Route
import Mathlib.Algebra.Order.BigOperators.Group.List

/-!
# Dijkstra's Loop

What `route`'s loop computes on a topology it is meant for (`Topology`):
routers `0 .. _size - 1`, links both ways, positive latencies whose sum stays
below `INT_MAX`, and a path between any two routers.

The argument is the classical one, kept as a structure of named facts about
one state (`DijkstraInv`), told once for a pass (`dijkstraStep_cases`),
preserved by each pass (`dijkstraStep_inv`) and so by the whole loop
(`dijkstraLoop_spec`). Once `rlist` is empty every distance is the least
latency of a path, since every link is relaxed (`DijkstraInv.isShortest`),
and `prev[]` names, for every router but the start, the last link of such a
path.

Two facts are specific to the code. The minimum search compares strictly
against `INT_MAX`, so it finds a candidate only if some router left is below
`INT_MAX`; on a connected topology there is always one
(`DijkstraInv.exists_lt`), because a settled router's distance leaves room
for all of its links below `INT_MAX` (`settled_bound`). The same bound keeps
every `dist[min_cand] + lat` below `INT_MAX` (`DijkstraInv.sumsFit`), so
the `int` sums of the code never overflow and the model's `Int` is exact, in
every pass of the loop (`dijkstraLoop_spec`).

## Main definitions

* `linkLat`, `Walk`, `IsShortest`: Latencies and paths over
  `router_list[ROUTER]`.
* `Topology`: The topology `route` is meant for.
* `DijkstraInv`: What holds between two passes.
* `SumsFit`: A pass computes its sums within `int`.

## Theorems

* `findMin_spec`: The minimum search.
* `relax_cases`: The relaxation of one router's links.
* `dijkstraStep_inv`: One pass settles a router and keeps the invariant.
* `dijkstraLoop_spec`: The loop ends with every router settled, no pass
  overflowing.
* `DijkstraInv.isShortest`: Then every distance is the least latency.
-/

namespace GpuCacheSim

namespace AnyNet

/-- The latency of the link from `x` to `y`, `router_list[1][x][y].second`. -/
def linkLat (R : StdMap (StdMap (Int × Int))) (x y : Int) : Int :=
  ((R.getD x .empty).getD y (0, 0)).2

/-- The latencies of a router's links, summed. -/
def outWeight (R : StdMap (StdMap (Int × Int))) (x : Int) : Int :=
  ((R.getD x .empty).entries.map fun e => e.2.2).sum

/-- `Walk R src v d`: a path of links from `src` to `v` whose latencies sum to
    `d`. -/
inductive Walk (R : StdMap (StdMap (Int × Int))) (src : Int) : Int → Int → Prop
  | refl : Walk R src src 0
  | step {u v d : Int} : Walk R src u d → v ∈ (R.getD u .empty).keys →
      Walk R src v (d + linkLat R u v)

/-- `d` is the least latency of a path from `src` to `v`. -/
def IsShortest (R : StdMap (StdMap (Int × Int))) (src v d : Int) : Prop :=
  Walk R src v d ∧ ∀ d', Walk R src v d' → d ≤ d'

/-- The topology `route` is written for: routers `0 .. _size - 1`, links both
    ways, positive latencies summing below `INT_MAX`, and a path between any
    two routers. -/
structure Topology (R : StdMap (StdMap (Int × Int))) (size : Nat) : Prop where
  keys : R.keys = routers size
  symm : ∀ x y, y ∈ (R.getD x .empty).keys → x ∈ (R.getD y .empty).keys
  pos : ∀ x y, y ∈ (R.getD x .empty).keys → 0 < linkLat R x y
  total : ((routers size).map (outWeight R)).sum < intMax
  connected : ∀ x ∈ routers size, ∀ y ∈ routers size, ∃ d, Walk R x y d

section Topology

variable {R : StdMap (StdMap (Int × Int))} {size : Nat}

theorem mem_routers {size : Nat} {v : Int} : v ∈ routers size ↔ 0 ≤ v ∧ v < size := by
  simp only [routers, List.mem_map, List.mem_range]
  constructor
  · rintro ⟨n, hn, rfl⟩
    omega
  · intro h
    exact ⟨v.toNat, by omega, by omega⟩

theorem routers_nodup (size : Nat) : (routers size).Nodup :=
  (List.nodup_range size).map fun a b (h : (a : Int) = b) => by omega

theorem Topology.mem_of_link (ht : Topology R size) {x y : Int}
    (h : y ∈ (R.getD x .empty).keys) : y ∈ routers size := by
  rw [← ht.keys]
  by_contra hy
  have hx := ht.symm x y h
  rw [StdMap.getD_of_not_mem _ hy] at hx
  cases hx

theorem Walk.nonneg (ht : Topology R size) {src v d : Int} (h : Walk R src v d) : 0 ≤ d := by
  induction h with
  | refl => exact Int.le_refl 0
  | step _ hv ih => have := ht.pos _ _ hv; omega

theorem Walk.mem (ht : Topology R size) {src v d : Int} (hsrc : src ∈ routers size)
    (h : Walk R src v d) : v ∈ routers size := by
  induction h with
  | refl => exact hsrc
  | step _ hv _ => exact ht.mem_of_link hv

/-- One link's latency is at most its router's total. -/
theorem linkLat_le_outWeight (ht : Topology R size) {x y : Int}
    (h : y ∈ (R.getD x .empty).keys) : linkLat R x y ≤ outWeight R x := by
  obtain ⟨⟨k, p, lat⟩, hmem, rfl⟩ := List.mem_map.mp h
  have hall : ∀ e ∈ (R.getD x .empty).entries, 0 ≤ e.2.2 := fun e he => by
    have := ht.pos x e.1 (List.mem_map_of_mem _ he)
    rw [linkLat, StdMap.getD_of_mem _ he] at this
    omega
  rw [linkLat, StdMap.getD_of_mem _ hmem, outWeight]
  exact List.single_le_sum (fun a ha => by
    obtain ⟨e, he, rfl⟩ := List.mem_map.mp ha
    exact hall e he) _ (List.mem_map_of_mem (fun e => e.2.2) hmem)

end Topology

/-! ### The minimum search -/

/-- `findMin` returns a router of `rlist` that is strictly below `INT_MAX` and
    no farther than any other, or `(INT_MAX, -1)` if there is none. -/
theorem findMin_spec (dist : Int → Int) (rlist : List Int) :
    ((findMin dist rlist).2 ∈ rlist ∧ (findMin dist rlist).1 = dist (findMin dist rlist).2 ∧
      dist (findMin dist rlist).2 < intMax ∧ ∀ y ∈ rlist, dist (findMin dist rlist).2 ≤ dist y) ∨
    (findMin dist rlist = (intMax, -1) ∧ ∀ y ∈ rlist, intMax ≤ dist y) := by
  -- The loop's invariant from any accumulator.
  suffices h : ∀ acc : Int × Int, acc.1 ≤ intMax →
      let r := rlist.foldl (fun acc i => if dist i < acc.1 then (dist i, i) else acc) acc
      ((r.2 ∈ rlist ∧ r.1 = dist r.2 ∧ r.1 < acc.1 ∧ ∀ y ∈ rlist, r.1 ≤ dist y) ∨
        (r = acc ∧ ∀ y ∈ rlist, acc.1 ≤ dist y)) by
    rcases h (intMax, -1) (Int.le_refl _) with ⟨h1, h2, h3, h4⟩ | ⟨h1, h2⟩
    · exact .inl ⟨h1, h2, h2 ▸ h3, fun y hy => h2 ▸ h4 y hy⟩
    · exact .inr ⟨h1, h2⟩
  intro acc hacc
  induction rlist generalizing acc with
  | nil => exact .inr ⟨rfl, fun _ h => absurd h (List.not_mem_nil _)⟩
  | cons i rest ih =>
    simp only [List.foldl_cons]
    split
    · rename_i hlt
      rcases ih (dist i, i) (by omega) with ⟨h1, h2, h3, h4⟩ | ⟨h1, h2⟩
      · exact .inl ⟨List.mem_cons_of_mem _ h1, h2, by simp at h3; omega,
          List.forall_mem_cons.mpr ⟨by simp at h3; omega, h4⟩⟩
      · rw [h1]
        exact .inl ⟨List.mem_cons_self _ _, rfl, hlt, List.forall_mem_cons.mpr ⟨Int.le_refl _, h2⟩⟩
    · rename_i hge
      rcases ih acc hacc with ⟨h1, h2, h3, h4⟩ | ⟨h1, h2⟩
      · exact .inl ⟨List.mem_cons_of_mem _ h1, h2, h3, List.forall_mem_cons.mpr ⟨by omega, h4⟩⟩
      · exact .inr ⟨h1, List.forall_mem_cons.mpr ⟨by omega, h2⟩⟩

/-! ### Relaxing one router's links -/

/-- What `relax` does to router `k`: nothing, where the link from `x` to `k`
    (if any) is no shorter, or it takes the link's distance and `x` as `prev`.
    The links are sorted, so each router is relaxed at most once, and a link
    from `x` to itself has a positive latency, so `dist[x]` stays as it is. -/
theorem relax_cases (x : Int) (s : RouteState) (l : List (Int × (Int × Int)))
    (hl : l.Pairwise (fun a b => a.1 < b.1)) (hself : ∀ e ∈ l, e.1 = x → 0 < e.2.2) (k : Int) :
    (relax x s l).rlist = s.rlist ∧
    (((relax x s l).dist k = s.dist k ∧ (relax x s l).prev k = s.prev k ∧
        ∀ v, lookupEntry k l = some v → s.dist k ≤ s.dist x + v.2) ∨
      (∃ v, lookupEntry k l = some v ∧ s.dist x + v.2 < s.dist k ∧
        (relax x s l).dist k = s.dist x + v.2 ∧ (relax x s l).prev k = x)) := by
  induction l generalizing s with
  | nil => exact ⟨rfl, .inl ⟨rfl, rfl, fun _ h => by cases h⟩⟩
  | cons e rest ih =>
    obtain ⟨k', p, lat⟩ := e
    rw [List.pairwise_cons] at hl
    -- The step for `k'` leaves `dist[x]` and every other router alone.
    set s' : RouteState := if s.dist x + lat < s.dist k' then
        { s with dist := Function.update s.dist k' (s.dist x + lat),
                 prev := Function.update s.prev k' x } else s with hs'
    have hstep : relax x s ((k', (p, lat)) :: rest) = relax x s' rest := rfl
    have hx : s'.dist x = s.dist x := by
      rw [hs']
      split
      · have hk : x ≠ k' := by
          rintro rfl
          have := hself _ (List.mem_cons_self _ _) rfl
          simp only at this
          omega
        simp [Function.update_noteq hk]
      · rfl
    obtain ⟨hr, ih⟩ := ih s' hl.2 (fun e he => hself e (List.mem_cons_of_mem _ he))
    rw [hx] at ih
    rw [hstep]
    refine ⟨hr.trans (by rw [hs']; split <;> rfl), ?_⟩
    by_cases hk : k = k'
    · subst hk
      have hnone : lookupEntry k rest = none :=
        lookupEntry_eq_none fun e he => Int.ne_of_gt (hl.1 e he)
      simp only [lookupEntry, if_pos rfl]
      rcases ih with ⟨h1, h2, -⟩ | ⟨v, hv, -⟩
      · rw [h1, h2]
        by_cases hlt : s.dist x + lat < s.dist k
        · exact .inr ⟨(p, lat), rfl, hlt, by simp [hs', hlt], by simp [hs', hlt]⟩
        · refine .inl ⟨by simp [hs', hlt], by simp [hs', hlt], fun v hv => ?_⟩
          cases hv
          exact Int.not_lt.mp hlt
      · rw [hnone] at hv
        cases hv
    · have hd : s'.dist k = s.dist k ∧ s'.prev k = s.prev k := by
        rw [hs']
        split
        · simp [Function.update_noteq hk]
        · exact ⟨rfl, rfl⟩
      simp only [lookupEntry, if_neg hk]
      rcases ih with ⟨h1, h2, h3⟩ | ⟨v, hv, hlt, h1, h2⟩
      · exact .inl ⟨h1.trans hd.1, h2.trans hd.2, fun v hv => hd.1 ▸ h3 v hv⟩
      · exact .inr ⟨v, hv, hd.1 ▸ hlt, h1, h2⟩

/-- An entry of `x`'s map, as `relax` reads it, is a link with its latency. -/
theorem lookupEntry_link {R : StdMap (StdMap (Int × Int))} {x k : Int} {v : Int × Int}
    (h : lookupEntry k (R.getD x .empty).entries = some v) :
    k ∈ (R.getD x .empty).keys ∧ linkLat R x k = v.2 := by
  have hmem := ((R.getD x .empty).mem_entries_iff k v).mpr h
  exact ⟨List.mem_map_of_mem Prod.fst hmem, by rw [linkLat, StdMap.getD_of_mem _ hmem]⟩

/-- `relax` in terms of links: a router is left alone, and then it was
    already within the link's reach, or it is reached over the link from
    `x`. -/
theorem relax_link_cases (ht : Topology R size) (x : Int) (s : RouteState) (k : Int) :
    (relax x s (R.getD x .empty).entries).rlist = s.rlist ∧
    (((relax x s (R.getD x .empty).entries).dist k = s.dist k ∧
        (relax x s (R.getD x .empty).entries).prev k = s.prev k ∧
        (k ∈ (R.getD x .empty).keys → s.dist k ≤ s.dist x + linkLat R x k)) ∨
      (k ∈ (R.getD x .empty).keys ∧ s.dist x + linkLat R x k < s.dist k ∧
        (relax x s (R.getD x .empty).entries).dist k = s.dist x + linkLat R x k ∧
        (relax x s (R.getD x .empty).entries).prev k = x)) := by
  have hself : ∀ e ∈ (R.getD x .empty).entries, e.1 = x → 0 < e.2.2 := by
    rintro ⟨k', p, lat⟩ he rfl
    have := ht.pos k' k' (List.mem_map_of_mem Prod.fst he)
    rwa [linkLat, StdMap.getD_of_mem _ he] at this
  obtain ⟨hr, h | ⟨v, hv, hlt, h1, h2⟩⟩ := relax_cases x s _ (R.getD x .empty).sorted hself k
  · refine ⟨hr, .inl ⟨h.1, h.2.1, fun hk => ?_⟩⟩
    obtain ⟨v, hv⟩ := Option.isSome_iff_exists.mp ((StdMap.mem_keys_iff _ _).mp hk)
    exact (lookupEntry_link hv).2 ▸ h.2.2 v hv
  · obtain ⟨hk, hlat⟩ := lookupEntry_link hv
    exact ⟨hr, .inr ⟨hk, hlat ▸ hlt, hlat ▸ h1, h2⟩⟩

/-! ### The invariant -/

/-- The latencies of the links of the routers that are out of `rlist`. -/
def settledWeight (R : StdMap (StdMap (Int × Int))) (size : Nat) (rlist : List Int) : Int :=
  ((routers size).map (outWeight R)).sum - (rlist.map (outWeight R)).sum

/-- What holds of `route`'s state between two passes, from `r_start = src`.
    A router is settled once it is out of `rlist`. -/
structure DijkstraInv (R : StdMap (StdMap (Int × Int))) (size : Nat) (src : Int)
    (s : RouteState) : Prop where
  sub : s.rlist.Sublist (routers size)
  le_max : ∀ v, s.dist v ≤ intMax
  /-- A distance below `INT_MAX` is the latency of a path. -/
  reach : ∀ v, s.dist v < intMax → Walk R src v (s.dist v)
  src_zero : s.dist src = 0
  src_prev : s.prev src = -1
  /-- A settled router is no farther than any router left. -/
  settled_le : ∀ u ∈ routers size, u ∉ s.rlist → ∀ w ∈ s.rlist, s.dist u ≤ s.dist w
  /-- The links of a settled router are relaxed. -/
  relaxed : ∀ u ∈ routers size, u ∉ s.rlist → ∀ v ∈ (R.getD u .empty).keys,
    s.dist v ≤ s.dist u + linkLat R u v
  /-- A distance is at most the latencies of the settled routers' links, and a
      settled router's distance leaves room for its own links: so no sum
      `dist[min_cand] + lat` reaches `INT_MAX`. -/
  bound : ∀ v, s.dist v < intMax → s.dist v ≤ settledWeight R size s.rlist
  settled_bound : ∀ u ∈ routers size, u ∉ s.rlist →
    s.dist u + outWeight R u ≤ settledWeight R size s.rlist
  /-- `prev[v]` is a settled router whose link to `v` gives `dist[v]`. -/
  prev_link : ∀ v, s.prev v ≠ -1 → (s.prev v ∈ routers size ∧ s.prev v ∉ s.rlist) ∧
    v ∈ (R.getD (s.prev v) .empty).keys ∧ s.dist v = s.dist (s.prev v) + linkLat R (s.prev v) v
  prev_set : ∀ v, v ≠ src → s.dist v < intMax → s.prev v ≠ -1

theorem intMax_eq : intMax = 2147483647 := rfl

section Invariant

variable {R : StdMap (StdMap (Int × Int))} {size : Nat} {src : Int} {s : RouteState}

theorem outWeight_nonneg (ht : Topology R size) (x : Int) : 0 ≤ outWeight R x :=
  List.sum_nonneg fun a ha => by
    obtain ⟨⟨k, p, lat⟩, he, rfl⟩ := List.mem_map.mp ha
    have := ht.pos x k (List.mem_map_of_mem Prod.fst he)
    rw [linkLat, StdMap.getD_of_mem _ he] at this
    exact Int.le_of_lt this

theorem settledWeight_lt (ht : Topology R size) (rlist : List Int) :
    settledWeight R size rlist < intMax := by
  have := List.sum_nonneg fun a (ha : a ∈ rlist.map (outWeight R)) => by
    obtain ⟨x, -, rfl⟩ := List.mem_map.mp ha
    exact outWeight_nonneg ht x
  have := ht.total
  rw [settledWeight]
  omega

theorem settledWeight_erase {x : Int} {rlist : List Int} (hx : x ∈ rlist) :
    settledWeight R size (rlist.erase x) = settledWeight R size rlist + outWeight R x := by
  have := List.sum_map_erase (outWeight R) hx
  rw [settledWeight, settledWeight]
  omega

theorem DijkstraInv.nodup (hinv : DijkstraInv R size src s) : s.rlist.Nodup :=
  (routers_nodup size).sublist hinv.sub

theorem DijkstraInv.nonneg (ht : Topology R size) (hinv : DijkstraInv R size src s) (v : Int) :
    0 ≤ s.dist v := by
  by_cases hv : s.dist v < intMax
  · exact (hinv.reach v hv).nonneg ht
  · rw [intMax_eq] at hv
    omega

theorem DijkstraInv.settled_lt (ht : Topology R size) (hinv : DijkstraInv R size src s)
    {u : Int} (hu : u ∈ routers size) (hur : u ∉ s.rlist) : s.dist u < intMax := by
  have := hinv.settled_bound u hu hur
  have := outWeight_nonneg ht u
  have := settledWeight_lt ht s.rlist
  omega

/-- While routers are left, one of them is below `INT_MAX`: a path from `src`
    to a router left leaves the settled routers somewhere, over a relaxed link
    whose sum stays below `INT_MAX`. -/
theorem DijkstraInv.exists_lt (ht : Topology R size) (hsrc : src ∈ routers size)
    (hinv : DijkstraInv R size src s) (hne : s.rlist ≠ []) : ∃ w ∈ s.rlist, s.dist w < intMax := by
  obtain ⟨y, hy⟩ := List.exists_mem_of_ne_nil _ hne
  obtain ⟨d, hw⟩ := ht.connected src hsrc y (hinv.sub.subset hy)
  induction hw with
  | refl => exact ⟨src, hy, by rw [hinv.src_zero, intMax_eq]; decide⟩
  | @step u v d hw hv ih =>
    by_cases hu : u ∈ s.rlist
    · exact ih hu
    · have hu' := hw.mem ht hsrc
      have h1 := hinv.relaxed u hu' hu v hv
      have h2 := linkLat_le_outWeight ht hv
      have h3 := hinv.settled_bound u hu' hu
      have h4 := settledWeight_lt ht s.rlist
      exact ⟨v, hy, by omega⟩

/-- The minimum search finds a router of `rlist` below `INT_MAX`, no farther
    than any other. -/
theorem DijkstraInv.findMin_mem (ht : Topology R size) (hsrc : src ∈ routers size)
    (hinv : DijkstraInv R size src s) (hne : s.rlist ≠ []) :
    (findMin s.dist s.rlist).2 ∈ s.rlist ∧ s.dist (findMin s.dist s.rlist).2 < intMax ∧
      ∀ y ∈ s.rlist, s.dist (findMin s.dist s.rlist).2 ≤ s.dist y := by
  rcases findMin_spec s.dist s.rlist with ⟨h1, -, h3, h4⟩ | ⟨-, h2⟩
  · exact ⟨h1, h3, h4⟩
  · obtain ⟨w, hw, hlt⟩ := hinv.exists_lt ht hsrc hne
    exact absurd (h2 w hw) (Int.not_le.mpr hlt)

/-- Every `new_dist = dist[min_cand] + lat` the pass from `s` computes, one
    per link of the candidate, is below `INT_MAX`: the sum the code computes in
    `int` does not overflow and equals the one modelled in `Int`. -/
def SumsFit (R : StdMap (StdMap (Int × Int))) (s : RouteState) : Prop :=
  ∀ k ∈ (R.getD (findMin s.dist s.rlist).2 .empty).keys,
    s.dist (findMin s.dist s.rlist).2 + linkLat R (findMin s.dist s.rlist).2 k < intMax

/-- A pass from a state of the invariant computes its sums within `int`: the
    candidate's distance leaves room for all of its links. -/
theorem DijkstraInv.sumsFit (ht : Topology R size) (hsrc : src ∈ routers size)
    (hinv : DijkstraInv R size src s) (hne : s.rlist ≠ []) : SumsFit R s := by
  intro k hk
  obtain ⟨hx, hxlt, -⟩ := hinv.findMin_mem ht hsrc hne
  have h1 := hinv.bound _ hxlt
  have h2 := linkLat_le_outWeight ht hk
  have h3 := settledWeight_lt ht (s.rlist.erase (findMin s.dist s.rlist).2)
  rw [settledWeight_erase hx] at h3
  omega

/-- One pass, told once: it settles the candidate `x` and relaxes its links. -/
theorem dijkstraStep_cases (ht : Topology R size) (hsrc : src ∈ routers size)
    (hinv : DijkstraInv R size src s) (hne : s.rlist ≠ []) :
    ∃ x ∈ s.rlist, s.dist x < intMax ∧ (∀ y ∈ s.rlist, s.dist x ≤ s.dist y) ∧
      (dijkstraStep R s).rlist = s.rlist.erase x ∧ ∀ k,
      ((dijkstraStep R s).dist k = s.dist k ∧ (dijkstraStep R s).prev k = s.prev k ∧
          (k ∈ (R.getD x .empty).keys → s.dist k ≤ s.dist x + linkLat R x k)) ∨
        (k ∈ (R.getD x .empty).keys ∧ s.dist x + linkLat R x k < s.dist k ∧
          (dijkstraStep R s).dist k = s.dist x + linkLat R x k ∧ (dijkstraStep R s).prev k = x) := by
  obtain ⟨hx, hlt, hmin⟩ := hinv.findMin_mem ht hsrc hne
  exact ⟨_, hx, hlt, hmin, (relax_link_cases ht _ _ 0).1,
    fun k => (relax_link_cases ht _ { s with rlist := s.rlist.erase _ } k).2⟩

/-- A pass keeps the invariant and settles one router. -/
theorem dijkstraStep_inv (ht : Topology R size) (hsrc : src ∈ routers size)
    (hinv : DijkstraInv R size src s) (hne : s.rlist ≠ []) :
    DijkstraInv R size src (dijkstraStep R s) ∧
      (dijkstraStep R s).rlist.length + 1 = s.rlist.length := by
  obtain ⟨x, hx, hxlt, hmin, hrl, hk⟩ := dijkstraStep_cases ht hsrc hinv hne
  set s' := dijkstraStep R s
  have hxr : x ∈ routers size := hinv.sub.subset hx
  -- Who is settled after the pass: the settled routers and `x`.
  have hmem : ∀ u, u ∈ s'.rlist ↔ u ≠ x ∧ u ∈ s.rlist := fun u => by
    rw [hrl, hinv.nodup.mem_erase_iff]
  have hmono : ∀ k, s'.dist k ≤ s.dist k := fun k => by
    rcases hk k with h | h
    · exact Int.le_of_eq h.1
    · exact h.2.2.1 ▸ Int.le_of_lt h.2.1
  -- A router no farther than `x` keeps its distance and its `prev`.
  have hkeep : ∀ u, s.dist u ≤ s.dist x → s'.dist u = s.dist u ∧ s'.prev u = s.prev u :=
    fun u hu => by
      rcases hk u with h | ⟨hl, hlt, -⟩
      · exact ⟨h.1, h.2.1⟩
      · have := ht.pos x u hl
        omega
  have hsettled : ∀ u ∈ routers size, u ∉ s'.rlist → u ∉ s.rlist ∨ u = x := fun u _ hu => by
    by_cases h : u = x
    · exact .inr h
    · exact .inl fun h' => hu ((hmem u).mpr ⟨h, h'⟩)
  have hle : ∀ u ∈ routers size, u ∉ s'.rlist → s.dist u ≤ s.dist x := fun u hu hur => by
    rcases hsettled u hu hur with h | rfl
    · exact hinv.settled_le u hu h x hx
    · exact Int.le_refl _
  have hkeepS : ∀ u ∈ routers size, u ∉ s'.rlist → s'.dist u = s.dist u ∧ s'.prev u = s.prev u :=
    fun u hu hur => hkeep u (hle u hu hur)
  have hW : settledWeight R size (s.rlist.erase x) = settledWeight R size s.rlist + outWeight R x :=
    settledWeight_erase hx
  have hsrc' : s'.dist src = s.dist src ∧ s'.prev src = s.prev src :=
    hkeep src (by rw [hinv.src_zero]; exact hinv.nonneg ht x)
  refine ⟨⟨?sub, ?le_max, ?reach, ?src_zero, ?src_prev, ?settled_le, ?relaxed, ?bound,
    ?settled_bound, ?prev_link, ?prev_set⟩, ?len⟩
  case sub => exact hrl ▸ (List.erase_sublist x s.rlist).trans hinv.sub
  case le_max => exact fun v => (hmono v).trans (hinv.le_max v)
  case reach =>
    intro v hv
    rcases hk v with h | ⟨hl, -, h1, -⟩
    · rw [h.1] at hv ⊢
      exact hinv.reach v hv
    · rw [h1]
      exact .step (hinv.reach x hxlt) hl
  case src_zero => exact hsrc'.1.trans hinv.src_zero
  case src_prev => exact hsrc'.2.trans hinv.src_prev
  case settled_le =>
    intro u hu hur w hw
    obtain ⟨hwx, hw⟩ := (hmem w).mp hw
    rw [(hkeepS u hu hur).1]
    have hux := hle u hu hur
    rcases hk w with h | ⟨hl, -, h1, -⟩
    · rw [h.1]
      exact hux.trans (hmin w hw)
    · have := ht.pos x w hl
      omega
  case relaxed =>
    intro u hu hur v hv
    rw [(hkeepS u hu hur).1]
    rcases hsettled u hu hur with h | rfl
    · exact (hmono v).trans (hinv.relaxed u hu h v hv)
    · rcases hk v with h | ⟨-, -, h1, -⟩
      · exact h.1 ▸ h.2.2 hv
      · exact Int.le_of_eq h1
  case bound =>
    intro v hv
    rw [hrl, hW]
    have := outWeight_nonneg ht x
    rcases hk v with h | ⟨hl, -, h1, -⟩
    · have := hinv.bound v (h.1 ▸ hv)
      omega
    · have := hinv.bound x hxlt
      have := linkLat_le_outWeight ht hl
      omega
  case settled_bound =>
    intro u hu hur
    rw [hrl, hW, (hkeepS u hu hur).1]
    rcases hsettled u hu hur with h | rfl
    · have := hinv.settled_bound u hu h
      have := outWeight_nonneg ht x
      omega
    · have := hinv.bound u hxlt
      omega
  case prev_link =>
    intro v hv
    rcases hk v with h | ⟨hl, -, h1, h2⟩
    · rw [h.2.1] at hv ⊢
      obtain ⟨⟨hp, hpr⟩, hl, hd⟩ := hinv.prev_link v hv
      have hpr' : s.prev v ∉ s'.rlist := fun h' => hpr ((hmem _).mp h').2
      exact ⟨⟨hp, hpr'⟩, hl, by rw [h.1, hd, (hkeepS _ hp hpr').1]⟩
    · have hxr' : x ∉ s'.rlist := fun h' => ((hmem x).mp h').1 rfl
      rw [h2]
      exact ⟨⟨hxr, hxr'⟩, hl, by rw [h1, (hkeepS x hxr hxr').1]⟩
  case prev_set =>
    intro v hv hlt
    rcases hk v with h | ⟨-, -, -, h2⟩
    · rw [h.2.1]
      exact hinv.prev_set v hv (h.1 ▸ hlt)
    · rw [h2]
      have := (mem_routers.mp hxr).1
      omega
  case len =>
    rw [hrl, List.length_erase_of_mem hx]
    have := List.length_pos_of_mem hx
    omega

theorem init_inv :
    DijkstraInv R size src (RouteState.init size src) := by
  have hdist : ∀ v, v ≠ src → (RouteState.init size src).dist v = intMax := fun v hv => by
    simp [RouteState.init, hv]
  have hsrc0 : (RouteState.init size src).dist src = 0 := by simp [RouteState.init]
  have hlt : ∀ v, (RouteState.init size src).dist v < intMax → v = src := fun v hv =>
    by_contra fun h => Int.lt_irrefl _ (hdist v h ▸ hv)
  refine ⟨List.Sublist.refl _, fun v => ?_, fun v hv => ?_, hsrc0, rfl,
    fun u hu hur => absurd hu hur, fun u hu hur => absurd hu hur, fun v hv => ?_,
    fun u hu hur => absurd hu hur, fun v hv => absurd rfl hv, fun v hv hlt' => absurd (hlt v hlt') hv⟩
  · by_cases h : v = src
    · rw [h, hsrc0, intMax_eq]
      decide
    · rw [hdist v h]
  · obtain rfl := hlt v hv
    rw [hsrc0]
    exact .refl
  · obtain rfl := hlt v hv
    rw [hsrc0, settledWeight]
    exact Int.le_of_eq (Int.sub_self _).symm

/-- The loop ends once `rlist` is empty, each pass settling one router, so
    `rlist`'s length in passes is enough; and each of those passes computes
    its sums within `int`. -/
theorem dijkstraLoop_spec (ht : Topology R size) (hsrc : src ∈ routers size) (fuel : Nat)
    (hinv : DijkstraInv R size src s) (hfuel : s.rlist.length ≤ fuel) :
    ∃ s', dijkstraLoop R fuel s = some s' ∧ DijkstraInv R size src s' ∧ s'.rlist = [] ∧
      ∀ n < s.rlist.length, SumsFit R ((dijkstraStep R)^[n] s) := by
  induction fuel generalizing s with
  | zero =>
    have hnil := List.eq_nil_of_length_eq_zero (Nat.le_zero.mp hfuel)
    exact ⟨s, by simp [dijkstraLoop, hnil], hinv, hnil, by simp [hnil]⟩
  | succ n ih =>
    by_cases hnil : s.rlist = []
    · exact ⟨s, by simp [dijkstraLoop, hnil], hinv, hnil, by simp [hnil]⟩
    · obtain ⟨hinv', hlen⟩ := dijkstraStep_inv ht hsrc hinv hnil
      obtain ⟨s', hloop, hinv'', hdone, hfit⟩ := ih hinv' (by omega)
      refine ⟨s', by rw [dijkstraLoop, if_neg hnil, hloop], hinv'', hdone, fun m hm => ?_⟩
      -- The first pass, then the passes of the rest of the loop.
      cases m with
      | zero => exact hinv.sumsFit ht hsrc hnil
      | succ m => exact hfit m (by omega)

/-- Once every router is settled, each distance is the least latency of a path:
    a path is relaxed link by link. -/
theorem DijkstraInv.isShortest (ht : Topology R size) (hsrc : src ∈ routers size)
    (hinv : DijkstraInv R size src s) (hdone : s.rlist = []) {v : Int} (hv : v ∈ routers size) :
    IsShortest R src v (s.dist v) := by
  have hsettled : ∀ u, u ∉ s.rlist := fun u => by simp [hdone]
  refine ⟨hinv.reach v (hinv.settled_lt ht hv (hsettled v)), fun d hw => ?_⟩
  induction hw with
  | refl => exact Int.le_of_eq hinv.src_zero
  | @step u w d hw hl ih =>
    have := hinv.relaxed u (hw.mem ht hsrc) (hsettled u) w hl
    have := ih (hw.mem ht hsrc)
    omega

end Invariant

end AnyNet

end GpuCacheSim
