import GpuCacheSim.AnyNet.BuildNet

/-!
# Routing Tables

`AnyNet::route` and `AnyNet::buildRoutingTable`: a shortest-path search from
each router, and the port each router sends a node's traffic out of.

`route(r_start)` is Dijkstra's algorithm over `router_list[ROUTER]`. `dist[]`
starts at `INT_MAX` everywhere but at `r_start`, and each pass of its loop
takes the first router of `rlist` (a `std::set<int>`, so in increasing id)
whose distance is least, removes it, and relaxes its links in increasing id,
recording in `prev[]` the router each distance came from. Afterwards each
router `i` walks `prev[]` back to the router just after `r_start` on its path,
and the port of `r_start`'s link to that router becomes the table entry of
every node attached to `i`; `r_start`'s own nodes get their ejection ports.

The minimum search starts from `INT_MAX` and compares strictly, so when every
router left in `rlist` is at `INT_MAX` it finds none: `min_cand` stays `-1`,
`rlist.erase(-1)` removes nothing and the pass relaxes nothing. That pass
then repeats for ever (`dijkstraStep_stuck`). `readFile` accepts files whose
routers are not all linked, and `_ComputeSize` only prints a caution for a
router with no links; `disconnected_route_diverges` runs `route(0)` on two
routers without a link and shows the loop never ends.

The arrays `dist[]` and `prev[]` are functions here, so that an index out of
range (which `Event.inRange` tracks for `_BuildNet`) still has a value. Both
loops of `route` take fuel: a pass of the Dijkstra loop either removes a
router or changes nothing, so `_size + 1` passes decide whether it ends, and
a walk along `prev[]` that is not back within `_size` steps repeats a router.

## Main definitions

* `RouteState`: `dist[]`, `prev[]` and `rlist`.
* `findMin`, `relax`, `dijkstraStep`: One pass of the loop.
* `dijkstraLoop`: The loop, with fuel.
* `walkBack`, `route`, `buildRoutingTable`: The tables.
* `minAnynet`: The port a router sends a flit out of.

## Theorems

* `dijkstraStep_stuck`: A pass that finds no candidate changes nothing.
* `dijkstraLoop_of_step_eq`: Then the loop never ends.
* `disconnected_route_diverges`: Two unlinked routers: `route(0)` never ends.
-/

namespace GpuCacheSim

namespace AnyNet

/-- `std::numeric_limits<int>::max()`. -/
def intMax : Int := 2 ^ 31 - 1

/-- The state of `route`'s loop. `rlist` is a `std::set<int>`, kept in
    increasing order. -/
structure RouteState where
  dist : Int → Int
  prev : Int → Int
  rlist : List Int

/-- The router ids `0 .. _size - 1`. -/
def routers (size : Nat) : List Int := (List.range size).map fun n : Nat => (n : Int)

/-- The state before the loop: every router of `0 .. _size - 1` in `rlist`,
    at `INT_MAX` with no `prev`, and `r_start` at `0`. -/
def RouteState.init (size : Nat) (rStart : Int) : RouteState :=
  ⟨Function.update (fun _ => intMax) rStart 0, fun _ => -1, routers size⟩

/-- The "find min" loop: `(min_dist, min_cand)` from `(INT_MAX, -1)`, taking
    a router only if it is strictly closer. -/
def findMin (dist : Int → Int) (rlist : List Int) : Int × Int :=
  rlist.foldl (fun acc i => if dist i < acc.1 then (dist i, i) else acc) (intMax, -1)

/-- The "neighbor" loop: relax each link of `min_cand`, in increasing id. -/
def relax (minCand : Int) (s : RouteState) : List (Int × (Int × Int)) → RouteState
  | [] => s
  | (k, (_, lat)) :: rest =>
    let newDist := s.dist minCand + lat
    relax minCand
      (if newDist < s.dist k then
        { s with dist := Function.update s.dist k newDist,
                 prev := Function.update s.prev k minCand }
      else s) rest

/-- One pass of `while (!rlist.empty())`. `router_list[1][min_cand]` is read
    through `operator[]`, so `min_cand == -1` reads an empty map. -/
def dijkstraStep (R : StdMap (StdMap (Int × Int))) (s : RouteState) : RouteState :=
  let minCand := (findMin s.dist s.rlist).2
  relax minCand { s with rlist := s.rlist.erase minCand } (R.getD minCand .empty).entries

/-- The loop, with at most `fuel` passes; `none` if `rlist` is still not
    empty after them. -/
def dijkstraLoop (R : StdMap (StdMap (Int × Int))) : Nat → RouteState → Option RouteState
  | 0, s => if s.rlist = [] then some s else none
  | fuel + 1, s => if s.rlist = [] then some s else dijkstraLoop R fuel (dijkstraStep R s)

/-- The assertions of `route`, and a loop that does not end. -/
inductive RouteError
  /-- A loop of `route` that never ends. -/
  | diverges
  /-- `assert(i == r_start)` for a router `i` without `prev`. -/
  | prevUnset (i : Int)
  /-- `assert(router_list[1][neighbor].count(prev[neighbor]) > 0)`. -/
  | noLinkBack (neighbor : Int)
  /-- `assert(router_list[1][r_start].count(neighbor) != 0)`. -/
  | noLinkFromStart (neighbor : Int)
  deriving DecidableEq, Repr

/-- `while (prev[neighbor] != r_start)`: from router `i`, follow `prev[]` to the
    router whose `prev` is `r_start`, checking that each link taken back
    exists. -/
def walkBack (R : StdMap (StdMap (Int × Int))) (prev : Int → Int) (rStart : Int) :
    Nat → Int → Except RouteError Int
  | 0, _ => .error .diverges
  | fuel + 1, neighbor =>
    if prev neighbor = rStart then .ok neighbor
    else if (R.getD neighbor .empty).contains (prev neighbor) then
      walkBack R prev rStart fuel (prev neighbor)
    else .error (.noLinkBack neighbor)

/-- Write `port` as the table entry of every node attached to router `i`. -/
def setNodePorts (table : StdMap Int) (nodes : List (Int × (Int × Int))) (port : Int → Int) :
    StdMap Int :=
  nodes.foldl (fun t e => t.insert e.1 (port e.2.1)) table

/-- The "post process" loop, for router `i`. -/
def postProcess (rl : RouterList) (size : Nat) (rStart : Int) (prev : Int → Int)
    (table : StdMap Int) (i : Int) : Except RouteError (StdMap Int) :=
  if prev i = -1 then
    if i = rStart then .ok (setNodePorts table (rl.node.getD i .empty).entries id)
    else .error (.prevUnset i)
  else
    walkBack rl.router prev rStart size i >>= fun neighbor =>
      if (rl.router.getD rStart .empty).contains neighbor then
        let port := ((rl.router.getD rStart .empty).getD neighbor (0, 0)).1
        .ok (setNodePorts table (rl.node.getD i .empty).entries fun _ => port)
      else .error (.noLinkFromStart neighbor)

/-- `route(r_start)`: the row `routing_table[r_start]`. -/
def route (rl : RouterList) (size : Nat) (rStart : Int) : Except RouteError (StdMap Int) :=
  match dijkstraLoop rl.router (size + 1) (RouteState.init size rStart) with
  | none => .error .diverges
  | some s =>
    (routers size).foldlM (postProcess rl size rStart s.prev) .empty

/-- `buildRoutingTable`: one row per router. -/
def buildRoutingTable (rl : RouterList) (size : Nat) : Except RouteError (List (StdMap Int)) :=
  (routers size).mapM (route rl size)

/-- `_BuildNet`: the two passes, then the routing table over the ports they
    wrote. -/
def buildNet (net : Network) : BuildState × Except RouteError (List (StdMap Int)) :=
  let s := buildChannels net.routerList
  (s, buildRoutingTable s.routerList (computeSize net).size)

/-- `min_anynet`'s output port at router `r` for a flit to node `dest`, past
    injection: `global_routing_table[r][dest]`, or `none` where
    `assert(global_routing_table[r].count(dest) != 0)` fails. The virtual
    channel range it also sets depends only on the flit's type. -/
def minAnynet (table : List (StdMap Int)) (r dest : Int) : Option Int :=
  (table.getD r.toNat .empty).find? dest

/-! ### A pass without a candidate -/

theorem findMin_of_le (dist : Int → Int) (rlist : List Int) (h : ∀ i ∈ rlist, intMax ≤ dist i) :
    findMin dist rlist = (intMax, -1) := by
  unfold findMin
  induction rlist with
  | nil => rfl
  | cons i rest ih =>
    rw [List.foldl_cons, if_neg (Int.not_lt.mpr (h i (List.mem_cons_self _ _)))]
    exact ih fun j hj => h j (List.mem_cons_of_mem _ hj)

/-- When every router left is at `INT_MAX` and `-1` is no router, a pass
    changes nothing. -/
theorem dijkstraStep_stuck (R : StdMap (StdMap (Int × Int))) (s : RouteState)
    (h : ∀ i ∈ s.rlist, intMax ≤ s.dist i) (hneg : -1 ∉ s.rlist) (hR : R.getD (-1) .empty = .empty) :
    dijkstraStep R s = s := by
  simp only [dijkstraStep, findMin_of_le s.dist s.rlist h, hR, List.erase_of_not_mem hneg]
  rfl

/-- A state that a pass leaves unchanged, with routers left, never ends the
    loop. -/
theorem dijkstraLoop_of_step_eq (R : StdMap (StdMap (Int × Int))) (s : RouteState)
    (hstep : dijkstraStep R s = s) (hne : s.rlist ≠ []) (fuel : Nat) :
    dijkstraLoop R fuel s = none := by
  induction fuel with
  | zero => simp [dijkstraLoop, hne]
  | succ n ih => simp [dijkstraLoop, hne, hstep, ih]

/-- Two routers and no link, a file `readFile` accepts: after `route(0)`
    settles router `0`, router `1` stays at `INT_MAX`, and the loop runs for
    ever, so `buildRoutingTable` never returns. -/
theorem disconnected_route_diverges :
    ∃ net, readFile "router 0\nrouter 1".toList = .ok net ∧ (computeSize net).size = 2 ∧
      ∀ fuel, dijkstraLoop net.routerList.router fuel (RouteState.init 2 0) = none := by
  refine ⟨_, rfl, rfl, fun fuel => ?_⟩
  cases fuel with
  | zero => rw [dijkstraLoop, if_neg (by decide)]
  | succ n =>
    -- After the first pass only router `1` is left, at `INT_MAX`.
    rw [dijkstraLoop, if_neg (by decide)]
    exact dijkstraLoop_of_step_eq _ _
      (dijkstraStep_stuck _ _ (by decide) (by decide) (by decide)) (by decide) n

end AnyNet

end GpuCacheSim
