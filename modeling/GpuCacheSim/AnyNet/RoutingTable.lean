import GpuCacheSim.AnyNet.Dijkstra
import Mathlib.Tactic.Choose

/-!
# Routing Tables

What `buildRoutingTable` writes into `routing_table`, and where `min_anynet`
sends a flit with it, on the topologies `route` is written for (`Topology`).

`route(r_start)` ends with `prev[]` a tree of least-latency paths from
`r_start` (`dijkstraLoop_spec`). Its post-process walks `prev[]` back from each
router `i` to the router after `r_start` (`walkBack_spec`): the link back that
its `assert` checks is there because links go both ways, and the walk ends
because distances fall along it. The entry of each node of `i` is then the
port of `r_start`'s link to that router, the first hop of a least-latency
path, and the rest of that path is a least-latency path from the first hop
(`RowSpec`). A node is attached to one router only, so no other router's
pass overwrites its entry.

Each row comes from its own search, so the route of a flit is not one tree
path: every router on it names a neighbour from which the destination's
router is exactly one link's latency closer, and the latencies of the links
taken add up to the least latency from the first router (`forwarding_walk`).
`_BuildNet` changes only the ports of `router_list`, never its keys or
latencies, so all of this holds of the topology in the file
(`build_net_routes_shortest`); and the port the table names at each router is
that of the output channel `_BuildNet` attached to the next router, or at the
last router the node's ejection channel (`buildChannels_chan_port`,
`buildChannels_eject_port`), so the flit does travel along the walk.

## Main definitions

* `pathLat`: The latency of a path of routers.
* `RowSpec`: Where one row of the table sends each node.

## Theorems

* `walkBack_spec`: The walk along `prev[]` reaches the first hop.
* `route_row`: Each row is written and meets `RowSpec`.
* `buildRoutingTable_spec`: The whole table.
* `forwarding_walk`: Following the table reaches the destination's router
  over a least-latency path, visiting no router twice.
* `build_net_routes_shortest`: The same after `_BuildNet`, for the topology
  in the file.
-/

namespace GpuCacheSim

namespace AnyNet

/-- The latency of a path of routers: its links' latencies, summed. -/
def pathLat (R : StdMap (StdMap (Int × Int))) : List Int → Int
  | x :: y :: rest => linkLat R x y + pathLat R (y :: rest)
  | _ => 0

/-! ### Paths -/

section Paths

variable {R : StdMap (StdMap (Int × Int))}

theorem IsShortest.unique {src v d d' : Int} (h : IsShortest R src v d) (h' : IsShortest R src v d') :
    d = d' :=
  Int.le_antisymm (h.2 d' h'.1) (h'.2 d h.1)

/-- A link in front of a path. -/
theorem Walk.cons {x y v d : Int} (hl : y ∈ (R.getD x .empty).keys) (h : Walk R y v d) :
    Walk R x v (linkLat R x y + d) := by
  induction h with
  | refl => simpa using Walk.step Walk.refl hl
  | step _ hl' ih => simpa [Int.add_assoc] using ih.step hl'

end Paths

/-! ### Links that keep their latencies -/

section SameLinks

variable {R R' : StdMap (StdMap (Int × Int))}

theorem linkLat_eq_lookupEntry (R : StdMap (StdMap (Int × Int))) (x y : Int) :
    linkLat R x y =
      (lookupEntry y ((R.getD x .empty).entries.map fun e => (e.1, e.2.2))).getD 0 := by
  rw [lookupEntry_map]
  simp only [linkLat, StdMap.getD, StdMap.find?]
  cases lookupEntry y _ <;> rfl

variable (hR : ∀ x, (R'.getD x .empty).entries.map (fun e => (e.1, e.2.2)) =
  (R.getD x .empty).entries.map (fun e => (e.1, e.2.2)))
include hR

theorem keys_of_sameLinks (x : Int) : (R'.getD x .empty).keys = (R.getD x .empty).keys := by
  simpa [List.map_map, Function.comp_def, StdMap.keys] using congrArg (List.map Prod.fst) (hR x)

theorem linkLat_of_sameLinks (x y : Int) : linkLat R' x y = linkLat R x y := by
  rw [linkLat_eq_lookupEntry, linkLat_eq_lookupEntry, hR x]

theorem outWeight_of_sameLinks (x : Int) : outWeight R' x = outWeight R x := by
  simpa [outWeight, List.map_map, Function.comp_def] using
    congrArg (fun l => (l.map fun e => e.2).sum) (hR x)

theorem Walk.of_sameLinks {src v d : Int} (h : Walk R src v d) : Walk R' src v d := by
  induction h with
  | refl => exact .refl
  | step _ hl ih =>
    exact linkLat_of_sameLinks hR _ _ ▸ ih.step ((keys_of_sameLinks hR _).symm ▸ hl)

theorem Topology.of_sameLinks {size : Nat} (ht : Topology R size) (hk : R'.keys = R.keys) :
    Topology R' size where
  keys := hk.trans ht.keys
  symm x y h := by
    rw [keys_of_sameLinks hR] at h ⊢
    exact ht.symm x y h
  pos x y h := linkLat_of_sameLinks hR x y ▸ ht.pos x y (keys_of_sameLinks hR x ▸ h)
  total := by
    rw [show outWeight R' = outWeight R from funext (outWeight_of_sameLinks hR)]
    exact ht.total
  connected x hx y hy := (ht.connected x hx y hy).imp fun _ h => h.of_sameLinks hR

theorem IsShortest.of_sameLinks {src v d : Int} (h : IsShortest R' src v d) : IsShortest R src v d :=
  ⟨h.1.of_sameLinks fun x => (hR x).symm, fun d' hw => h.2 d' (hw.of_sameLinks hR)⟩

theorem pathLat_of_sameLinks : ∀ hops, pathLat R' hops = pathLat R hops
  | [] => rfl
  | [_] => rfl
  | x :: y :: rest => by
    rw [pathLat, pathLat, linkLat_of_sameLinks hR, pathLat_of_sameLinks (y :: rest)]

end SameLinks

/-! ### The walk along `prev[]` -/

theorem length_filter_lt {α : Type} {l : List α} {p : α → Bool} {a : α} (ha : a ∈ l)
    (hp : p a = false) : (l.filter p).length < l.length :=
  Nat.lt_of_le_of_ne (List.length_filter_le p l) fun h => by
    simpa [hp] using List.filter_length_eq_length.mp h a ha

section WalkBack

variable {R : StdMap (StdMap (Int × Int))} {size : Nat} {src : Int} {s : RouteState}
variable (ht : Topology R size) (hsrc : src ∈ routers size) (hinv : DijkstraInv R size src s)
  (hdone : s.rlist = [])
include ht hsrc hinv hdone

omit hsrc in
/-- From a router other than `src`, the walk ends at the router `y` after
    `src` on `prev[]`'s path, the rest of which leads from `y` back to the
    router the walk began at. Each step back is to a strictly closer router,
    so the routers closer than the start bound the steps. -/
theorem walkBack_spec (fuel : Nat) {v : Int} (hv : v ∈ routers size) (hvs : v ≠ src)
    (hfuel : ((routers size).filter fun u => s.dist u < s.dist v).length < fuel) :
    ∃ y, walkBack R s.prev src fuel v = .ok y ∧ s.prev y = src ∧
      Walk R y v (s.dist v - s.dist y) := by
  induction fuel generalizing v with
  | zero => exact absurd hfuel (Nat.not_lt_zero _)
  | succ n ih =>
    have hp := hinv.prev_set v hvs (hinv.settled_lt ht hv (by simp [hdone]))
    obtain ⟨⟨hpr, -⟩, hl, hd⟩ := hinv.prev_link v hp
    rw [walkBack]
    by_cases hps : s.prev v = src
    · rw [if_pos hps]
      exact ⟨v, rfl, hps, by simpa using (Walk.refl : Walk R v v 0)⟩
    · -- The link back from `v` is there, and `prev[v]` is closer to `src`.
      have hback : (R.getD v .empty).contains (s.prev v) = true :=
        (StdMap.mem_keys_iff _ _).mp (ht.symm _ _ hl)
      rw [if_neg hps, if_pos hback]
      have hlat := ht.pos _ _ hl
      have hcloser : ((routers size).filter fun u => s.dist u < s.dist (s.prev v)) =
          ((routers size).filter fun u => s.dist u < s.dist v).filter
            fun u => s.dist u < s.dist (s.prev v) := by
        rw [List.filter_filter]
        exact List.filter_congr fun u _ => by
          by_cases h : s.dist u < s.dist (s.prev v) <;> simp [h]
          omega
      have hlt := @length_filter_lt _ ((routers size).filter fun u => s.dist u < s.dist v)
        (fun u => decide (s.dist u < s.dist (s.prev v))) _
        (List.mem_filter.mpr ⟨hpr, by simpa using (show s.dist (s.prev v) < s.dist v by omega)⟩)
        (by simp)
      obtain ⟨y, hy, hys, hw⟩ := ih hpr hps (by rw [← hcloser] at hlt; omega)
      have he : s.dist (s.prev v) - s.dist y + linkLat R (s.prev v) v = s.dist v - s.dist y := by
        omega
      exact ⟨y, hy, hys, he ▸ hw.step hl⟩

/-- `_size` steps are enough: no router is closer than itself. -/
theorem walkBack_size {v : Int} (hv : v ∈ routers size) (hvs : v ≠ src) :
    ∃ y, walkBack R s.prev src size v = .ok y ∧ y ∈ (R.getD src .empty).keys ∧
      IsShortest R y v (s.dist v - linkLat R src y) := by
  have hlt := @length_filter_lt _ _ (fun u => decide (s.dist u < s.dist v)) _ hv (by simp)
  rw [routers, List.length_map, List.length_range] at hlt
  obtain ⟨y, hy, hys, hw⟩ := walkBack_spec ht hinv hdone size hv hvs hlt
  have hsrc0 := (mem_routers.mp hsrc).1
  obtain ⟨-, hl, hd⟩ := hinv.prev_link y (by omega)
  rw [hys] at hl hd
  rw [hinv.src_zero, Int.zero_add] at hd
  refine ⟨y, hy, hl, hd ▸ hw, fun d hw' => ?_⟩
  have := (hinv.isShortest ht hsrc hdone hv).2 _ (hw'.cons hl)
  omega

end WalkBack

/-! ### Rows -/

/-- Where row `src` of the table sends node `n` of router `t`: out of its
    ejection port if `t` is `src`, and else over `src`'s link to a router `y`
    that is the first hop of a least-latency path to `t`. -/
def RowSpec (rl : RouterList) (size : Nat) (src : Int) (row : StdMap Int) : Prop :=
  ∀ t ∈ routers size, ∀ n ∈ (rl.node.getD t .empty).keys,
    (t = src ∧ row.find? n = some ((rl.node.getD src .empty).getD n (0, 0)).1) ∨
    (t ≠ src ∧ ∃ y d, y ∈ (rl.router.getD src .empty).keys ∧
      row.find? n = some ((rl.router.getD src .empty).getD y (0, 0)).1 ∧
      IsShortest rl.router src t (linkLat rl.router src y + d) ∧ IsShortest rl.router y t d)

theorem find?_setNodePorts (table : StdMap Int) (port : Int → Int) (n : Int) :
    ∀ (l : List (Int × (Int × Int))), l.Pairwise (fun a b => a.1 < b.1) →
      (setNodePorts table l port).find? n =
        (lookupEntry n l).elim (table.find? n) fun v => some (port v.1) := by
  intro l hl
  induction l generalizing table with
  | nil => rfl
  | cons e rest ih =>
    rw [List.pairwise_cons] at hl
    simp only [setNodePorts, List.foldl_cons] at ih ⊢
    rw [ih _ hl.2, lookupEntry]
    by_cases hk : n = e.1
    · subst hk
      rw [lookupEntry_eq_none fun e' he' => Int.ne_of_gt (hl.1 e' he'), if_pos rfl]
      simp
    · simp [hk]

/-- Over the routers `l`, node `n`'s entry is written by its own router `t`
    alone. -/
theorem find?_foldl_setNodePorts (N : Int → StdMap (Int × Int)) (F : Int → Int → Int)
    (n t : Int) : ∀ (l : List Int) (table : StdMap Int), l.Nodup →
      (∀ i ∈ l, n ∈ (N i).keys → i = t) →
      (l.foldl (fun tb i => setNodePorts tb (N i).entries (F i)) table).find? n =
        if t ∈ l ∧ n ∈ (N t).keys then some (F t ((N t).getD n (0, 0)).1) else table.find? n
  | [], _, _, _ => by simp
  | i :: rest, table, hl, huniq => by
    rw [List.nodup_cons] at hl
    rw [List.foldl_cons, find?_foldl_setNodePorts N F n t rest _ hl.2
      fun j hj => huniq j (List.mem_cons_of_mem _ hj), find?_setNodePorts _ _ _ _ (N i).sorted]
    by_cases hn : n ∈ (N i).keys
    · obtain rfl := huniq i (List.mem_cons_self _ _) hn
      obtain ⟨v, hv⟩ := Option.isSome_iff_exists.mp ((StdMap.mem_keys_iff _ _).mp hn)
      simp only [StdMap.find?] at hv
      simp [hl.1, hn, hv, StdMap.getD, StdMap.find?]
    · have hnone : lookupEntry n (N i).entries = none := by
        cases h : lookupEntry n (N i).entries with
        | none => rfl
        | some v => exact absurd ((StdMap.mem_keys_iff _ _).mpr (by simp [StdMap.contains,
            StdMap.find?, h])) hn
      by_cases hti : t = i
      · subst hti
        simp [hn, hnone, hl.1]
      · simp [hnone, hti]

theorem foldlM_eq_ok {α β ε : Type} {f : β → α → Except ε β} {g : β → α → β}
    (l : List α) (h : ∀ a ∈ l, ∀ b, f b a = .ok (g b a)) (b : β) :
    l.foldlM f b = .ok (l.foldl g b) := by
  induction l generalizing b with
  | nil => rfl
  | cons a rest ih =>
    rw [List.foldlM_cons, h a (List.mem_cons_self _ _), List.foldl_cons]
    exact ih (fun a' ha' => h a' (List.mem_cons_of_mem _ ha')) _

theorem mapM_eq_ok {α β ε : Type} {f : α → Except ε β} {g : α → β} :
    ∀ (l : List α), (∀ a ∈ l, f a = .ok (g a)) → l.mapM f = .ok (l.map g)
  | [], _ => rfl
  | a :: rest, h => by
    rw [List.mapM_cons, h a (List.mem_cons_self _ _),
      mapM_eq_ok rest fun a' ha' => h a' (List.mem_cons_of_mem _ ha')]
    rfl

section Rows

variable {rl : RouterList} {size : Nat}
variable (ht : Topology rl.router size)
  (huniq : ∀ t ∈ routers size, ∀ t' ∈ routers size, ∀ n,
    n ∈ (rl.node.getD t .empty).keys → n ∈ (rl.node.getD t' .empty).keys → t = t')
include ht huniq

/-- Row `src` of the table: `route(src)` ends, passes its `assert`s, and
    sends each node as `RowSpec` says. -/
theorem route_row {src : Int} (hsrc : src ∈ routers size) :
    ∃ row, route rl size src = .ok row ∧ RowSpec rl size src row := by
  obtain ⟨s, hloop, hinv, hdone, -⟩ := dijkstraLoop_spec ht hsrc (size + 1) init_inv
    (by simp [RouteState.init, routers])
  -- Each router's pass writes one port for all its nodes.
  have hpass : ∀ i, ∃ f : Int → Int, i ∈ routers size →
      (∀ table, postProcess rl size src s.prev table i =
        .ok (setNodePorts table (rl.node.getD i .empty).entries f)) ∧
      ((i = src ∧ f = id) ∨ (i ≠ src ∧ ∃ y, y ∈ (rl.router.getD src .empty).keys ∧
        f = (fun _ => ((rl.router.getD src .empty).getD y (0, 0)).1) ∧
        IsShortest rl.router y i (s.dist i - linkLat rl.router src y))) := by
    intro i
    by_cases hi : i = src
    · subst hi
      exact ⟨id, fun _ => ⟨fun table => by simp [postProcess, hinv.src_prev], .inl ⟨rfl, rfl⟩⟩⟩
    · by_cases hir : i ∈ routers size
      · obtain ⟨y, hwalk, hy, hsh⟩ := walkBack_size ht hsrc hinv hdone hir hi
        have hp := hinv.prev_set i hi (hinv.settled_lt ht hir (by simp [hdone]))
        have hc := (StdMap.mem_keys_iff _ _).mp hy
        exact ⟨_, fun _ => ⟨fun table => by simp [postProcess, hp, hwalk, hc, bind, Except.bind],
          .inr ⟨hi, y, hy, rfl, hsh⟩⟩⟩
      · exact ⟨id, fun h => absurd h hir⟩
  choose F hF using hpass
  refine ⟨(routers size).foldl (fun tb i => setNodePorts tb (rl.node.getD i .empty).entries (F i))
    .empty, ?_, fun t htr n hn => ?_⟩
  · simp only [route, hloop]
    exact foldlM_eq_ok _ (fun i hi table => (hF i hi).1 table) _
  · rw [find?_foldl_setNodePorts (fun i => rl.node.getD i .empty) F n t _ _ (routers_nodup size)
      (fun i hi hni => huniq i hi t htr n hni hn), if_pos ⟨htr, hn⟩]
    rcases (hF t htr).2 with ⟨rfl, hf⟩ | ⟨hts, y, hy, hf, hsh⟩
    · exact .inl ⟨rfl, by rw [hf]; rfl⟩
    · refine .inr ⟨hts, y, _, hy, by rw [hf], ?_, hsh⟩
      have := hinv.isShortest ht hsrc hdone htr
      rwa [show linkLat rl.router src y + (s.dist t - linkLat rl.router src y) = s.dist t by omega]

/-- `buildRoutingTable`: every `route` returns, and row `x` is router `x`'s. -/
theorem buildRoutingTable_spec :
    ∃ row : Int → StdMap Int, buildRoutingTable rl size = .ok ((routers size).map row) ∧
      ∀ x ∈ routers size, RowSpec rl size x (row x) := by
  have hrow : ∀ x, ∃ row, x ∈ routers size → route rl size x = .ok row ∧ RowSpec rl size x row :=
    fun x => if hx : x ∈ routers size then (route_row ht huniq hx).imp fun _ h _ => h
      else ⟨.empty, fun h => absurd h hx⟩
  choose row hrow using hrow
  exact ⟨row, mapM_eq_ok _ fun x hx => (hrow x hx).1, fun x hx => (hrow x hx).2⟩

end Rows

theorem minAnynet_map {size : Nat} (row : Int → StdMap Int) {x : Int} (hx : x ∈ routers size)
    (n : Int) : minAnynet ((routers size).map row) x n = (row x).find? n := by
  obtain ⟨h0, hlt⟩ := mem_routers.mp hx
  have hx' : ((x.toNat : Nat) : Int) = x := Int.toNat_of_nonneg h0
  rw [minAnynet, routers, List.map_map, List.getD_eq_getElem?_getD, List.getElem?_map,
    List.getElem?_range (by omega)]
  simp [hx']

/-! ### Following the table -/

section Forwarding

variable {rl : RouterList} {size : Nat} (ht : Topology rl.router size)
  (row : Int → StdMap Int) (hrow : ∀ x ∈ routers size, RowSpec rl size x (row x))
include ht hrow

/-- From router `r`, a flit to node `n` of router `t` follows the table over
    routers each strictly closer to `t`, so it visits none twice, and it
    reaches `t` over links whose latencies add up to the least latency `d`
    from `r` to `t`, where it leaves by `n`'s ejection port. -/
theorem forwarding_walk {t n : Int} (htr : t ∈ routers size) (hn : n ∈ (rl.node.getD t .empty).keys) :
    ∀ (D : Nat) (r d : Int), r ∈ routers size → IsShortest rl.router r t d → d.toNat ≤ D →
      ∃ hops : List Int, hops.head? = some r ∧ hops.getLast? = some t ∧ hops.Nodup ∧
        hops.Chain' (fun x y => y ∈ (rl.router.getD x .empty).keys ∧
          (row x).find? n = some ((rl.router.getD x .empty).getD y (0, 0)).1) ∧
        (row t).find? n = some ((rl.node.getD t .empty).getD n (0, 0)).1 ∧
        pathLat rl.router hops = d ∧
        ∀ x ∈ hops, x ∈ routers size ∧ ∀ d', IsShortest rl.router x t d' → d' ≤ d := by
  intro D
  induction D using Nat.strong_induction_on with
  | _ D ih =>
    intro r d hr hd hD
    rcases hrow r hr t htr n hn with ⟨rfl, he⟩ | ⟨-, y, d1, hy, hport, hd', hd1⟩
    · -- At `t` itself: eject.
      have hd0 : d = 0 := hd.unique ⟨.refl, fun d' hw => hw.nonneg ht⟩
      refine ⟨[t], rfl, rfl, List.nodup_singleton _, List.chain'_singleton _, he, hd0.symm,
        fun x hx => ?_⟩
      rw [List.mem_singleton.mp hx]
      exact ⟨hr, fun d' hd' => hd0 ▸ hd'.2 0 .refl⟩
    · -- Elsewhere: one link to `y`, from which `t` is one latency closer.
      have hdd := hd.unique hd'
      have hlat := ht.pos _ _ hy
      have hnn := hd1.1.nonneg ht
      obtain ⟨hops, hh, hl, hnd, hc, he, hp, hmax⟩ :=
        ih d1.toNat (by omega) y d1 (ht.mem_of_link hy) hd1 (Nat.le_refl _)
      obtain ⟨rest, rfl⟩ := List.head?_eq_some_iff.mp hh
      refine ⟨r :: y :: rest, rfl, ?_, ?_, List.Chain'.cons ⟨hy, hport⟩ hc, he, ?_, fun x hx => ?_⟩
      · simpa [List.getLast?_cons_cons] using hl
      · refine List.nodup_cons.mpr ⟨fun hmem => ?_, hnd⟩
        have := (hmax r hmem).2 d hd
        omega
      · rw [pathLat, hp, hdd]
      · rcases List.mem_cons.mp hx with rfl | hx
        · exact ⟨hr, fun d' hd'' => Int.le_of_eq (hd''.unique hd)⟩
        · refine ⟨(hmax x hx).1, fun d' hd'' => ?_⟩
          have := (hmax x hx).2 d' hd''
          omega

end Forwarding

/-- The least latency between two routers of a `Topology`, as `route` finds it. -/
theorem exists_isShortest {R : StdMap (StdMap (Int × Int))} {size : Nat} (ht : Topology R size)
    {r t : Int} (hr : r ∈ routers size) (htr : t ∈ routers size) : ∃ d, IsShortest R r t d := by
  obtain ⟨s, -, hinv, hdone, -⟩ := dijkstraLoop_spec ht hr (size + 1) init_inv
    (by simp [RouteState.init, routers])
  exact ⟨_, hinv.isShortest ht hr hdone htr⟩

/-- For every topology of routers `0 .. _size - 1` with links both ways,
    positive latencies summing below `INT_MAX`, a path between any two routers
    and each node on one router, `_BuildNet`'s routing table has an entry for
    every node at every router, and following it from any router `r` to node
    `n` of router `t` goes over links of `router_list[ROUTER]`, through the
    ports `_BuildNet` wrote into them, to `n`'s ejection port at `t`, visiting
    no router twice, over a path of least latency from `r` to `t`. -/
theorem build_net_routes_shortest (net : Network) (size : Nat)
    (ht : Topology net.routerList.router size) (hnode : net.routerList.node.keys = routers size)
    (hattach : ∀ t t' n, n ∈ (net.routerList.node.getD t .empty).keys →
      n ∈ (net.routerList.node.getD t' .empty).keys → t = t') :
    ∃ rows, (buildNet net).2 = .ok rows ∧
      ∀ r ∈ routers size, ∀ t ∈ routers size, ∀ n ∈ (net.routerList.node.getD t .empty).keys,
        ∃ hops : List Int, hops.head? = some r ∧ hops.getLast? = some t ∧ hops.Nodup ∧
          hops.Chain' (fun x y => y ∈ (net.routerList.router.getD x .empty).keys ∧
            minAnynet rows x n = some (((buildNet net).1.routerList.router.getD x .empty).getD y
              (0, 0)).1 ∧
            PortLeadsTo (buildNet net).1.events x
              (((buildNet net).1.routerList.router.getD x .empty).getD y (0, 0)).1 y) ∧
          minAnynet rows t n = some (((buildNet net).1.routerList.node.getD t .empty).getD n
            (0, 0)).1 ∧
          (outputs t (buildNet net).1.events)[
            (((buildNet net).1.routerList.node.getD t .empty).getD n (0, 0)).1.toNat]? =
            some (.eject n) ∧
          IsShortest net.routerList.router r t (pathLat net.routerList.router hops) := by
  set rl := net.routerList
  set s := buildChannels rl
  have hkeys : rl.node.keys = rl.router.keys := hnode.trans ht.keys.symm
  obtain ⟨hRk, hR⟩ := buildChannels_router rl hkeys
  have ht' : Topology s.routerList.router size := ht.of_sameLinks hR hRk
  -- `_BuildNet` numbers the nodes in place: the attachments stay as they were.
  have hN : ∀ t ∈ routers size, (s.routerList.node.getD t .empty).keys = (rl.node.getD t .empty).keys :=
    fun t ht => by
      rw [StdMap.keys, (buildChannels_getD rl (hnode ▸ ht)).1, StdMap.keys]
      simpa [List.map_map, Function.comp_def] using
        congrArg (List.map Prod.fst) (numbered_keys 0 (rl.node.getD t .empty).entries)
  have hsize : (computeSize net).size = size := by
    simpa [StdMap.keys, routers] using congrArg List.length ht.keys
  obtain ⟨row, hrows, hrow⟩ := @buildRoutingTable_spec s.routerList size ht' fun t ht1 t' ht2 n h1 h2 =>
    hattach t t' n (hN t ht1 ▸ h1) (hN t' ht2 ▸ h2)
  refine ⟨_, by rw [show (buildNet net).2 = buildRoutingTable s.routerList (computeSize net).size from rfl,
    hsize, hrows], fun r hr t htr n hn => ?_⟩
  obtain ⟨d, hd⟩ := exists_isShortest ht' hr htr
  obtain ⟨hops, hh, hl, hnd, hc, he, hp, hmax⟩ :=
    forwarding_walk ht' row hrow htr ((hN t htr).symm ▸ hn) d.toNat r d hr hd (Nat.le_refl _)
  refine ⟨hops, hh, hl, hnd, ?_, by rw [minAnynet_map row htr]; exact he, ?_, ?_⟩
  · -- Each hop: the table names the port of the link, and that port's
    -- channel goes to the next router.
    refine (List.Chain'.iff_mem.mp hc).imp fun x y h => ⟨keys_of_sameLinks hR x ▸ h.2.2.1, ?_, ?_⟩
    · rw [minAnynet_map row (hmax x h.1).1]
      exact h.2.2.2
    · exact buildChannels_chan_port rl (hnode ▸ (hmax x h.1).1)
        (StdMap.getD_mem_entries _ h.2.2.1)
  · -- The last router: the port of `n` is `n`'s ejection channel.
    exact buildChannels_eject_port rl (hnode ▸ htr)
      (StdMap.getD_mem_entries _ ((hN t htr).symm ▸ hn))
  · rw [← pathLat_of_sameLinks hR, hp]
    exact hd.of_sameLinks hR

/-- Two routers linked both ways, one node each: the table is built. -/
theorem build_net_routes_two_routers :
    ∃ net, readFile "router 0 node 0 router 1\nrouter 1 node 1".toList = .ok net ∧
      ∃ rows, (buildNet net).2 = .ok rows := by
  refine ⟨_, rfl, ?_⟩
  refine (build_net_routes_shortest _ 2 ⟨by decide, StdMap.forall_getD_keys (by decide),
    StdMap.forall_getD_keys (by decide), by decide, fun x hx y hy => ?_⟩ (by decide)
    (fun _ _ _ => StdMap.eq_of_mem_getD_keys (by decide))).imp fun _ h => h.1
  have hx' : x = 0 ∨ x = 1 := by have := mem_routers.mp hx; omega
  have hy' : y = 0 ∨ y = 1 := by have := mem_routers.mp hy; omega
  rcases hx' with rfl | rfl <;> rcases hy' with rfl | rfl
  · exact ⟨0, .refl⟩
  · exact ⟨_, .step .refl (by decide)⟩
  · exact ⟨_, .step .refl (by decide)⟩
  · exact ⟨0, .refl⟩

end AnyNet

end GpuCacheSim
