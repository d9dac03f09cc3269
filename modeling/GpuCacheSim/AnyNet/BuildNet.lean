import GpuCacheSim.AnyNet.ReadFile
import Mathlib.Logic.Function.Basic

/-!
# Building the Network

`AnyNet::_ComputeSize` and the channel-building part of `AnyNet::_BuildNet`:
the routers, the ports each one hands out, and the channels attached to them.

`_BuildNet` makes two passes over `router_list[NODE]`. The first declares each
router with its radix and attaches its nodes' injection and ejection
channels; the second attaches the router-to-router channels, numbering the
links from `0` as it goes. Both passes give the next output port of the
router (`outport[node]`) to each entry they visit and write it into the
entry's `first`, which is how the routing table later finds the port of a
link. The calls on routers and channels are kept as a log of `Event`s, in
order, so that what the code does with each router, port and link can be
read off it.

Under the shape `readFile` promises (both maps with the same keys) and a
symmetric router adjacency, `build_channels_ports` shows that the ports of
every router are `0 .. radix - 1`, its nodes first and then its neighbours,
each in increasing id, that the port written into an entry is the position
of the `AddOutputChannel` call for it, that each router gets `radix` calls of
each kind, and that the links are numbered `0 .. _channels - 1` once each.

None of this checks an index, and the file format does not keep the ids in
range: `example2_router_out_of_range` is the header's example 2, whose
misplaced latencies (see `readFile`) make `_BuildNet` attach a channel to
router `1` of a network of one router. What the indices need is only that
the ids are: `build_channels_in_range` shows that when every router,
neighbour and node id of the maps lies below `_size` or `_nodes`, every call
indexes within its array, the link numbers included, which the second pass
counts up to `_channels` exactly.

## Main definitions

* `computeSize`: `_channels`, `_size` and `_nodes`.
* `Event`: The calls `_BuildNet` makes.
* `assignPorts`: The inner loops, which number the entries.
* `buildChannels`: The two passes of `_BuildNet`.
* `Event.inRange`: Every index of a call within its array.
* `PortLeadsTo`: A router's output port leads to a given router.

## Theorems

* `assignPorts_eq`: The inner loop in closed form.
* `buildChannels_eject_port`, `buildChannels_chan_port`: The port in an entry
  is that of the output channel to the entry's node or router.
* `build_channels_ports`: Ports, calls and links under a well-formed topology.
* `example2_router_out_of_range`: An accepted file indexes past `_routers`.
* `buildChannels_inRange`: With the ids within any sizes, every index is.
* `build_channels_in_range`: The same for the sizes `_ComputeSize` derives.
-/

namespace GpuCacheSim

namespace AnyNet

/-- The sizes `_ComputeSize` derives from the parsed maps. -/
structure Sizes where
  channels : Nat
  size : Nat
  nodes : Nat
  deriving DecidableEq, Repr

/-- `_channels`: one channel per entry of the maps of `router_list[ROUTER]`. -/
def RouterList.channels (rl : RouterList) : Nat :=
  (rl.router.entries.map fun e => e.2.size).sum

/-- `_ComputeSize`, past its printing. -/
def computeSize (net : Network) : Sizes :=
  ⟨net.routerList.channels, net.routerList.router.size, net.nodeList.size⟩

/-- An element of one of the channel arrays: `_inject[link]` is `inject link`. -/
inductive Channel
  | inject (link : Int)
  | injectCred (link : Int)
  | eject (link : Int)
  | ejectCred (link : Int)
  | chan (link : Int)
  | chanCred (link : Int)
  deriving DecidableEq, Repr

/-- A call `_BuildNet` makes: `_routers[id] = Router::NewRouter(..., id,
    radix, radix)`, `SetLatency` on a channel, and `AddInputChannel` or
    `AddOutputChannel` on `_routers[router]` with a channel and its credit
    channel. -/
inductive Event
  | newRouter (id radix : Int)
  | setLatency (c : Channel) (lat : Int)
  | addInputChannel (router : Int) (c cred : Channel)
  | addOutputChannel (router : Int) (c cred : Channel)
  deriving DecidableEq, Repr

/-! ### The two passes -/

/-- What `_BuildNet` updates as it goes: the maps, whose entries get their
    ports, `outport[]`, `channel_count` and the calls made so far. -/
structure BuildState where
  routerList : RouterList
  outport : Int → Int
  channelCount : Int
  events : List Event

/-- The shape of both inner loops: visit the entries in order, give the
    `i`-th the next port (`(...)[link].first = outport[node]; outport[node]++`,
    from `port`), and make the calls `emit i` for it. The entries come back
    with their new ports, in place. -/
def assignPorts (emit : Nat → Int × (Int × Int) → List Event) (port : Int) :
    Nat → List (Int × (Int × Int)) → List (Int × (Int × Int)) × List Event
  | _, [] => ([], [])
  | i, (k, (p, lat)) :: rest =>
    let r := assignPorts emit port (i + 1) rest
    ((k, (port + i, lat)) :: r.1, emit i (k, (p, lat)) ++ r.2)

/-- The calls of the first pass for node `link` of router `node`. -/
def injectionEvents (node : Int) (_ : Nat) (e : Int × (Int × Int)) : List Event :=
  [.setLatency (.inject e.1) e.2.2, .setLatency (.injectCred e.1) e.2.2,
    .setLatency (.eject e.1) e.2.2, .setLatency (.ejectCred e.1) e.2.2,
    .addInputChannel node (.inject e.1) (.injectCred e.1),
    .addOutputChannel node (.eject e.1) (.ejectCred e.1)]

/-- The calls of the second pass for the `i`-th neighbour of router `node`,
    over link `base + i`. -/
def routerEvents (node base : Int) (i : Nat) (e : Int × (Int × Int)) : List Event :=
  [.setLatency (.chan (base + i)) e.2.2, .setLatency (.chanCred (base + i)) e.2.2,
    .addOutputChannel node (.chan (base + i)) (.chanCred (base + i)),
    .addInputChannel e.1 (.chan (base + i)) (.chanCred (base + i))]

theorem assignPorts_keys (emit : Nat → Int × (Int × Int) → List Event) (port : Int) (i : Nat)
    (l : List (Int × (Int × Int))) : (assignPorts emit port i l).1.map Prod.fst = l.map Prod.fst := by
  induction l generalizing i with
  | nil => rfl
  | cons e rest ih => simp [assignPorts, ih]

/-- The first pass, for router `node` of `router_list[NODE]` with its nodes:
    declare the router, then attach each node. `router_list[ROUTER].find(node)`
    is read as `getD`: the two maps have the same keys for every file
    (`readFile_keys_agree`). -/
def injectRouter (s : BuildState) (e : Int × StdMap (Int × Int)) : BuildState :=
  let radix := (e.2.size + (s.routerList.router.getD e.1 .empty).size : Int)
  let r := assignPorts (injectionEvents e.1) (s.outport e.1) 0 e.2.entries
  { s with
    routerList := { s.routerList with
      node := s.routerList.node.insert e.1
        (e.2.withEntries r.1 (assignPorts_keys _ _ _ _)) },
    outport := Function.update s.outport e.1 (s.outport e.1 + e.2.size),
    events := s.events ++ .newRouter e.1 radix :: r.2 }

/-- The second pass, for router `node` of `router_list[NODE]`: attach a
    channel to each of its neighbours in `router_list[ROUTER]`, over the next
    link numbers. -/
def linkRouter (s : BuildState) (e : Int × StdMap (Int × Int)) : BuildState :=
  let links := s.routerList.router.getD e.1 .empty
  let r := assignPorts (routerEvents e.1 s.channelCount) (s.outport e.1) 0 links.entries
  { s with
    routerList := { s.routerList with
      router := s.routerList.router.insert e.1
        (links.withEntries r.1 (assignPorts_keys _ _ _ _)) },
    outport := Function.update s.outport e.1 (s.outport e.1 + links.size),
    channelCount := s.channelCount + links.size,
    events := s.events ++ r.2 }

/-- The state `_BuildNet` starts from: `outport[]` all zero. -/
def BuildState.init (rl : RouterList) : BuildState := ⟨rl, fun _ => 0, 0, []⟩

/-- The two passes of `_BuildNet`, before `buildRoutingTable`. -/
def buildChannels (rl : RouterList) : BuildState :=
  let s := rl.node.entries.foldl injectRouter (BuildState.init rl)
  s.routerList.node.entries.foldl linkRouter s

/-! ### Indices -/

/-- The index a channel takes and whether it lies in its array: `_inject`,
    `_eject` and their credit channels have one element per node, `_chan` and
    `_chan_cred` one per channel, as `_Alloc` sizes them from `_ComputeSize`. -/
def Channel.inRange (sz : Sizes) : Channel → Bool
  | .inject n | .injectCred n | .eject n | .ejectCred n => decide (0 ≤ n ∧ n < sz.nodes)
  | .chan l | .chanCred l => decide (0 ≤ l ∧ l < sz.channels)

/-- Every index a call uses lies in its array: `_routers[]` (and `outport[]`,
    indexed by the same router ids) has `_size` elements. -/
def Event.inRange (sz : Sizes) : Event → Bool
  | .newRouter id _ => decide (0 ≤ id ∧ id < sz.size)
  | .setLatency c _ => c.inRange sz
  | .addInputChannel r c cred | .addOutputChannel r c cred =>
    decide (0 ≤ r ∧ r < sz.size) && c.inRange sz && cred.inRange sz

/-! ### Reading the calls -/

/-- The channels of the `AddOutputChannel` calls on router `r`, in call order:
    the router's output ports. -/
def outputs (r : Int) (es : List Event) : List Channel :=
  es.filterMap fun e => match e with
    | .addOutputChannel r' c _ => if r' = r then some c else none
    | _ => none

/-- The channels of the `AddInputChannel` calls on router `r`, in call order. -/
def inputs (r : Int) (es : List Event) : List Channel :=
  es.filterMap fun e => match e with
    | .addInputChannel r' c _ => if r' = r then some c else none
    | _ => none

/-- The link numbers of the router-to-router channels, in the order their
    output side is attached. -/
def links (es : List Event) : List Int :=
  es.filterMap fun e => match e with
    | .addOutputChannel _ (.chan l) _ => some l
    | _ => none

/-- Output port `p` of router `x` is a link to router `y`: the `p`-th
    `AddOutputChannel` call on `x` adds a channel whose `AddInputChannel` is at
    `y`. -/
def PortLeadsTo (es : List Event) (x p y : Int) : Prop :=
  ∃ l, (outputs x es)[p.toNat]? = some (.chan l) ∧ .addInputChannel y (.chan l) (.chanCred l) ∈ es

@[simp]
theorem outputs_append (r : Int) (es es' : List Event) :
    outputs r (es ++ es') = outputs r es ++ outputs r es' := List.filterMap_append _ _ _

@[simp]
theorem inputs_append (r : Int) (es es' : List Event) :
    inputs r (es ++ es') = inputs r es ++ inputs r es' := List.filterMap_append _ _ _

@[simp]
theorem links_append (es es' : List Event) :
    links (es ++ es') = links es ++ links es' := List.filterMap_append _ _ _

theorem outputs_flatMap {α : Type} (r : Int) (l : List α) (f : α → List Event) :
    outputs r (l.flatMap f) = l.flatMap fun a => outputs r (f a) := List.filterMap_flatMap _ _ _

theorem inputs_flatMap {α : Type} (r : Int) (l : List α) (f : α → List Event) :
    inputs r (l.flatMap f) = l.flatMap fun a => inputs r (f a) := List.filterMap_flatMap _ _ _

theorem links_flatMap {α : Type} (l : List α) (f : α → List Event) :
    links (l.flatMap f) = l.flatMap fun a => links (f a) := List.filterMap_flatMap _ _ _

@[simp]
theorem outputs_newRouter (r id radix : Int) (es : List Event) :
    outputs r (.newRouter id radix :: es) = outputs r es := rfl

@[simp]
theorem inputs_newRouter (r id radix : Int) (es : List Event) :
    inputs r (.newRouter id radix :: es) = inputs r es := rfl

@[simp]
theorem links_newRouter (id radix : Int) (es : List Event) :
    links (.newRouter id radix :: es) = links es := rfl

@[simp]
theorem outputs_injectionEvents (r node : Int) (i : Nat) (e : Int × (Int × Int)) :
    outputs r (injectionEvents node i e) = if node = r then [.eject e.1] else [] := by
  simp only [outputs, injectionEvents, List.filterMap_cons, List.filterMap_nil]
  split_ifs <;> rfl

@[simp]
theorem inputs_injectionEvents (r node : Int) (i : Nat) (e : Int × (Int × Int)) :
    inputs r (injectionEvents node i e) = if node = r then [.inject e.1] else [] := by
  simp only [inputs, injectionEvents, List.filterMap_cons, List.filterMap_nil]
  split_ifs <;> rfl

@[simp]
theorem links_injectionEvents (node : Int) (i : Nat) (e : Int × (Int × Int)) :
    links (injectionEvents node i e) = [] := by
  simp [links, injectionEvents]

@[simp]
theorem outputs_routerEvents (r node base : Int) (i : Nat) (e : Int × (Int × Int)) :
    outputs r (routerEvents node base i e) = if node = r then [.chan (base + i)] else [] := by
  simp only [outputs, routerEvents, List.filterMap_cons, List.filterMap_nil]
  split_ifs <;> rfl

@[simp]
theorem inputs_routerEvents (r node base : Int) (i : Nat) (e : Int × (Int × Int)) :
    inputs r (routerEvents node base i e) = if e.1 = r then [.chan (base + i)] else [] := by
  simp only [inputs, routerEvents, List.filterMap_cons, List.filterMap_nil]
  split_ifs <;> rfl

@[simp]
theorem links_routerEvents (node base : Int) (i : Nat) (e : Int × (Int × Int)) :
    links (routerEvents node base i e) = [base + i] := by
  simp [links, routerEvents]

/-! ### The inner loops -/

theorem assignPorts_eq (emit : Nat → Int × (Int × Int) → List Event) (port : Int) (i : Nat)
    (l : List (Int × (Int × Int))) :
    assignPorts emit port i l =
      ((l.enumFrom i).map (fun q => (q.2.1, (port + q.1, q.2.2.2))),
        (l.enumFrom i).flatMap (fun q => emit q.1 q.2)) := by
  induction l generalizing i with
  | nil => rfl
  | cons e rest ih =>
    obtain ⟨k, p, lat⟩ := e
    simp [assignPorts, ih]

/-- Entries renumbered from `port`, in order: what both inner loops leave in
    a map. -/
def numbered (port : Int) (l : List (Int × (Int × Int))) : List (Int × (Int × Int)) :=
  (l.enumFrom 0).map fun q => (q.2.1, (port + q.1, q.2.2.2))

theorem assignPorts_fst (emit : Nat → Int × (Int × Int) → List Event) (port : Int)
    (l : List (Int × (Int × Int))) : (assignPorts emit port 0 l).1 = numbered port l := by
  rw [assignPorts_eq, numbered]

theorem numbered_ports (port : Int) (l : List (Int × (Int × Int))) :
    (numbered port l).map (fun e => e.2.1) = (List.range l.length).map (fun j : Nat => port + j) := by
  rw [numbered, List.map_map, List.range_eq_range', ← List.enumFrom_map_fst 0 l, List.map_map]
  rfl

theorem numbered_keys (port : Int) (l : List (Int × (Int × Int))) :
    (numbered port l).map (fun e => (e.1, e.2.2)) = l.map (fun e => (e.1, e.2.2)) := by
  rw [numbered, List.map_map]
  conv => rhs; rw [← List.enumFrom_map_snd 0 l, List.map_map]
  rfl

theorem mem_numbered {port k p lat : Int} {l : List (Int × (Int × Int))}
    (h : (k, (p, lat)) ∈ numbered port l) :
    ∃ j, ∃ hj : j < l.length, l[j].1 = k ∧ p = port + j := by
  obtain ⟨⟨j, x⟩, hq, he⟩ := List.mem_map.mp h
  obtain ⟨-, hlt, hx⟩ := List.mem_enumFrom hq
  simp only [Prod.mk.injEq] at he
  exact ⟨j, by omega, (congrArg Prod.fst hx.symm).trans he.1, he.2.1.symm⟩

theorem flatMap_enumFrom_singleton {α β : Type} (f : α → β) (i : Nat) (l : List α) :
    ((l.enumFrom i).flatMap fun q => [f q.2]) = l.map f := by
  rw [← List.map_eq_flatMap]
  conv => rhs; rw [← List.enumFrom_map_snd i l, List.map_map]
  rfl

/-! ### The first pass -/

theorem foldl_injectRouter_router (l : List (Int × StdMap (Int × Int))) (s : BuildState) :
    (l.foldl injectRouter s).routerList.router = s.routerList.router ∧
      (l.foldl injectRouter s).channelCount = s.channelCount := by
  induction l generalizing s with
  | nil => exact ⟨rfl, rfl⟩
  | cons e rest ih => exact ih (injectRouter s e)

theorem foldl_injectRouter_keys (l : List (Int × StdMap (Int × Int))) (s : BuildState)
    (hl : ∀ e ∈ l, e.1 ∈ s.routerList.node.keys) :
    (l.foldl injectRouter s).routerList.node.keys = s.routerList.node.keys := by
  induction l generalizing s with
  | nil => rfl
  | cons e rest ih =>
    have hkeys : (injectRouter s e).routerList.node.keys = s.routerList.node.keys :=
      StdMap.keys_insert_of_contains _ ((StdMap.mem_keys_iff _ _).mp (hl e (List.mem_cons_self _ _)))
    rw [List.foldl_cons, ih _ (fun e' he' => hkeys ▸ hl e' (List.mem_cons_of_mem _ he')), hkeys]

/-- The calls of the first pass for one router, whose ports start at `0`. -/
def injectionBlock (R : StdMap (StdMap (Int × Int))) (e : Int × StdMap (Int × Int)) : List Event :=
  .newRouter e.1 (e.2.size + (R.getD e.1 .empty).size) ::
    (assignPorts (injectionEvents e.1) 0 0 e.2.entries).2

theorem foldl_injectRouter_events (l : List (Int × StdMap (Int × Int))) (s : BuildState)
    (hl : l.Pairwise (fun a b => a.1 < b.1)) (h0 : ∀ e ∈ l, s.outport e.1 = 0) :
    (l.foldl injectRouter s).events = s.events ++ l.flatMap (injectionBlock s.routerList.router) := by
  induction l generalizing s with
  | nil => simp
  | cons e rest ih =>
    rw [List.pairwise_cons] at hl
    rw [List.foldl_cons, ih (injectRouter s e) hl.2]
    · simp [injectRouter, injectionBlock, h0 e (List.mem_cons_self _ _)]
    · intro e' he'
      simp [injectRouter, Function.update_noteq (Int.ne_of_gt (hl.1 e' he')),
        h0 e' (List.mem_cons_of_mem _ he')]

theorem foldl_injectRouter_node (l : List (Int × StdMap (Int × Int))) (s : BuildState)
    (hl : l.Pairwise (fun a b => a.1 < b.1)) (k : Int) :
    ((l.foldl injectRouter s).routerList.node.getD k .empty).entries =
      (match lookupEntry k l with
        | some v => (assignPorts (injectionEvents k) (s.outport k) 0 v.entries).1
        | none => (s.routerList.node.getD k .empty).entries) ∧
    (l.foldl injectRouter s).outport k = s.outport k + ((lookupEntry k l).map StdMap.size).getD 0 := by
  induction l generalizing s with
  | nil => simp [lookupEntry]
  | cons e rest ih =>
    rw [List.pairwise_cons] at hl
    rw [List.foldl_cons]
    obtain ⟨ih1, ih2⟩ := ih (injectRouter s e) hl.2
    by_cases hk : k = e.1
    · subst hk
      have hnone : lookupEntry e.1 rest = none :=
        lookupEntry_eq_none fun e' he' => Int.ne_of_gt (hl.1 e' he')
      simp only [lookupEntry, if_pos rfl, hnone] at ih1 ih2 ⊢
      rw [ih1, ih2]
      simp [injectRouter]
    · simp only [lookupEntry, if_neg hk] at ih1 ih2 ⊢
      rw [ih1, ih2]
      split <;> simp [injectRouter, hk, Function.update_noteq hk]

theorem outputs_injectionBlock (R : StdMap (StdMap (Int × Int))) (r : Int)
    (e : Int × StdMap (Int × Int)) :
    outputs r (injectionBlock R e) = if e.1 = r then e.2.entries.map (fun q => .eject q.1) else [] := by
  by_cases h : e.1 = r
  · simpa [injectionBlock, assignPorts_eq, outputs_flatMap, h] using
      flatMap_enumFrom_singleton (fun q => Channel.eject q.1) 0 e.2.entries
  · simp [injectionBlock, assignPorts_eq, outputs_flatMap, h]

theorem inputs_injectionBlock (R : StdMap (StdMap (Int × Int))) (r : Int)
    (e : Int × StdMap (Int × Int)) :
    inputs r (injectionBlock R e) = if e.1 = r then e.2.entries.map (fun q => .inject q.1) else [] := by
  by_cases h : e.1 = r
  · simpa [injectionBlock, assignPorts_eq, inputs_flatMap, h] using
      flatMap_enumFrom_singleton (fun q => Channel.inject q.1) 0 e.2.entries
  · simp [injectionBlock, assignPorts_eq, inputs_flatMap, h]

/-- The first pass's output channels at router `r`: its nodes' ejection
    channels, in order. -/
theorem outputs_injectionBlocks (R m : StdMap (StdMap (Int × Int))) (r : Int) :
    outputs r (m.entries.flatMap (injectionBlock R)) =
      (m.getD r .empty).entries.map (fun q => .eject q.1) := by
  rw [outputs_flatMap]
  simp only [outputs_injectionBlock]
  rw [flatMap_ite_key r (fun v : StdMap (Int × Int) => v.entries.map fun q => Channel.eject q.1)
    m.sorted]
  simp only [StdMap.getD, StdMap.find?]
  cases lookupEntry r m.entries <;> rfl

theorem inputs_injectionBlocks (R m : StdMap (StdMap (Int × Int))) (r : Int) :
    inputs r (m.entries.flatMap (injectionBlock R)) =
      (m.getD r .empty).entries.map (fun q => .inject q.1) := by
  rw [inputs_flatMap]
  simp only [inputs_injectionBlock]
  rw [flatMap_ite_key r (fun v : StdMap (Int × Int) => v.entries.map fun q => Channel.inject q.1)
    m.sorted]
  simp only [StdMap.getD, StdMap.find?]
  cases lookupEntry r m.entries <;> rfl

theorem links_injectionBlock (R : StdMap (StdMap (Int × Int))) (e : Int × StdMap (Int × Int)) :
    links (injectionBlock R e) = [] := by
  simp [injectionBlock, assignPorts_eq, links_flatMap]

/-! ### The second pass -/

/-- The calls of the second pass over the routers `l`, with neighbours `R`,
    first ports `outport` and links from `c`. -/
def linkEvents (R : StdMap (StdMap (Int × Int))) (outport : Int → Int) :
    Int → List Int → List Event
  | _, [] => []
  | c, k :: rest =>
    (assignPorts (routerEvents k c) (outport k) 0 (R.getD k .empty).entries).2 ++
      linkEvents R outport (c + (R.getD k .empty).size) rest

theorem foldl_linkRouter_events (l : List (Int × StdMap (Int × Int))) (s : BuildState)
    (R : StdMap (StdMap (Int × Int))) (o : Int → Int) (hl : l.Pairwise (fun a b => a.1 < b.1))
    (hR : ∀ e ∈ l, s.routerList.router.getD e.1 .empty = R.getD e.1 .empty)
    (ho : ∀ e ∈ l, s.outport e.1 = o e.1) :
    (l.foldl linkRouter s).events = s.events ++ linkEvents R o s.channelCount (l.map Prod.fst) := by
  induction l generalizing s with
  | nil => simp [linkEvents]
  | cons e rest ih =>
    rw [List.pairwise_cons] at hl
    have hR' := hR e (List.mem_cons_self _ _)
    have ho' := ho e (List.mem_cons_self _ _)
    rw [List.foldl_cons, ih (linkRouter s e) hl.2]
    · simp [linkRouter, linkEvents, hR', ho']
    · intro e' he'
      simp [linkRouter, Int.ne_of_gt (hl.1 e' he'), hR e' (List.mem_cons_of_mem _ he')]
    · intro e' he'
      simp [linkRouter, Function.update_noteq (Int.ne_of_gt (hl.1 e' he')),
        ho e' (List.mem_cons_of_mem _ he')]

theorem foldl_linkRouter_router (l : List (Int × StdMap (Int × Int))) (s : BuildState)
    (hl : l.Pairwise (fun a b => a.1 < b.1)) (k : Int) :
    (l.foldl linkRouter s).routerList.node = s.routerList.node ∧
    ((l.foldl linkRouter s).routerList.router.getD k .empty).entries =
      (match lookupEntry k l with
        | some _ => numbered (s.outport k) (s.routerList.router.getD k .empty).entries
        | none => (s.routerList.router.getD k .empty).entries) := by
  induction l generalizing s with
  | nil => simp [lookupEntry]
  | cons e rest ih =>
    rw [List.pairwise_cons] at hl
    rw [List.foldl_cons]
    obtain ⟨ih1, ih2⟩ := ih (linkRouter s e) hl.2
    refine ⟨ih1, ?_⟩
    by_cases hk : k = e.1
    · subst hk
      have hnone : lookupEntry e.1 rest = none :=
        lookupEntry_eq_none fun e' he' => Int.ne_of_gt (hl.1 e' he')
      simp only [lookupEntry, if_pos rfl, hnone] at ih2 ⊢
      rw [ih2]
      simp [linkRouter, assignPorts_fst]
    · simp only [lookupEntry, if_neg hk] at ih2 ⊢
      rw [ih2]
      split <;> simp [linkRouter, hk, Function.update_noteq hk]

theorem foldl_linkRouter_keys (l : List (Int × StdMap (Int × Int))) (s : BuildState)
    (hl : ∀ e ∈ l, e.1 ∈ s.routerList.router.keys) :
    (l.foldl linkRouter s).routerList.router.keys = s.routerList.router.keys := by
  induction l generalizing s with
  | nil => rfl
  | cons e rest ih =>
    have hkeys : (linkRouter s e).routerList.router.keys = s.routerList.router.keys :=
      StdMap.keys_insert_of_contains _ ((StdMap.mem_keys_iff _ _).mp (hl e (List.mem_cons_self _ _)))
    rw [List.foldl_cons, ih _ (fun e' he' => hkeys ▸ hl e' (List.mem_cons_of_mem _ he')), hkeys]

theorem links_linkEvents (R : StdMap (StdMap (Int × Int))) (o : Int → Int) (c : Int)
    (ks : List Int) :
    links (linkEvents R o c ks) =
      (List.range (ks.map fun k => (R.getD k .empty).size).sum).map (fun j : Nat => c + j) := by
  induction ks generalizing c with
  | nil => rfl
  | cons k rest ih =>
    have hblock : ((List.enumFrom 0 (R.getD k .empty).entries).flatMap fun q => [c + q.1]) =
        (List.range (R.getD k .empty).size).map (fun j : Nat => c + j) := by
      rw [← List.map_eq_flatMap, List.range_eq_range', StdMap.size,
        ← List.enumFrom_map_fst 0 (R.getD k .empty).entries, List.map_map]
      rfl
    simp only [linkEvents, links_append, assignPorts_eq, links_flatMap, links_routerEvents, hblock,
      ih, List.map_cons, List.sum_cons, List.range_add, List.map_append, List.map_map]
    congr 2
    funext j
    simp only [Function.comp, StdMap.size]
    omega

theorem outputs_linkEvents_of_not_mem (R : StdMap (StdMap (Int × Int))) (o : Int → Int) (r : Int)
    (c : Int) (ks : List Int) (hr : r ∉ ks) : outputs r (linkEvents R o c ks) = [] := by
  induction ks generalizing c with
  | nil => rfl
  | cons k rest ih =>
    rw [List.mem_cons, not_or] at hr
    simp [linkEvents, assignPorts_eq, outputs_flatMap, Ne.symm hr.1, ih _ hr.2]

/-- The output ports the second pass gives router `r`: one per neighbour, in
    order, over consecutive links from some `base`, each link's input side
    attached to that neighbour. -/
theorem outputs_linkEvents (R : StdMap (StdMap (Int × Int))) (o : Int → Int) (r : Int)
    (c : Int) (ks : List Int) (hks : ks.Nodup) (hr : r ∈ ks) :
    ∃ base, outputs r (linkEvents R o c ks) =
        ((R.getD r .empty).entries.enumFrom 0).map (fun q => .chan (base + q.1)) ∧
      ∀ q ∈ (R.getD r .empty).entries.enumFrom 0,
        .addInputChannel q.2.1 (.chan (base + q.1)) (.chanCred (base + q.1)) ∈
          linkEvents R o c ks := by
  induction ks generalizing c with
  | nil => cases hr
  | cons k rest ih =>
    rw [List.nodup_cons] at hks
    by_cases hk : k = r
    · subst hk
      refine ⟨c, ?_, fun q hq => ?_⟩
      · simp only [linkEvents, outputs_append, assignPorts_eq, outputs_flatMap, outputs_routerEvents,
          if_pos rfl, outputs_linkEvents_of_not_mem R o k _ rest hks.1, List.append_nil, if_true]
        rw [← List.map_eq_flatMap]
      · simp only [linkEvents, assignPorts_eq, List.mem_append, List.mem_flatMap]
        exact .inl ⟨q, hq, by simp [routerEvents]⟩
    · obtain ⟨base, h1, h2⟩ := ih (c + (R.getD k .empty).size) hks.2
        ((List.mem_cons.mp hr).resolve_left (Ne.symm hk))
      refine ⟨base, ?_, fun q hq => ?_⟩
      · simp [linkEvents, assignPorts_eq, outputs_flatMap, hk, h1]
      · simp only [linkEvents, List.mem_append]
        exact .inr (h2 q hq)

theorem length_flatMap_ite_key {r c : Int} {l : List (Int × (Int × Int))} (i : Nat)
    (hl : l.Pairwise (fun a b => a.1 < b.1)) :
    ((l.enumFrom i).flatMap fun q => if q.2.1 = r then [Channel.chan (c + q.1)] else []).length =
      if r ∈ l.map Prod.fst then 1 else 0 := by
  induction l generalizing i with
  | nil => rfl
  | cons e rest ih =>
    rw [List.pairwise_cons] at hl
    simp only [List.enumFrom_cons, List.flatMap_cons, List.length_append, ih (i + 1) hl.2,
      List.map_cons, List.mem_cons]
    by_cases h : e.1 = r
    · have : r ∉ rest.map Prod.fst := fun hr => by
        obtain ⟨e', he', rfl⟩ := List.mem_map.mp hr
        exact Int.lt_irrefl _ (h ▸ hl.1 e' he')
      simp [h, this]
    · have h' : r ≠ e.1 := Ne.symm h
      simp only [h, h', if_false, false_or, List.length_nil, Nat.zero_add]

theorem length_inputs_linkEvents (R : StdMap (StdMap (Int × Int))) (o : Int → Int) (r c : Int)
    (ks : List Int) :
    (inputs r (linkEvents R o c ks)).length =
      (ks.filter fun k => (R.getD k .empty).contains r).length := by
  induction ks generalizing c with
  | nil => rfl
  | cons k rest ih =>
    simp only [linkEvents, inputs_append, List.length_append, assignPorts_eq, inputs_flatMap,
      inputs_routerEvents, length_flatMap_ite_key 0 (R.getD k .empty).sorted, ih, List.filter_cons]
    have hk := StdMap.mem_keys_iff (R.getD k .empty) r
    simp only [StdMap.keys] at hk
    by_cases hc : (R.getD k .empty).contains r <;> simp [hc, hk, Nat.add_comm]

/-- With a symmetric adjacency, the routers that list `r` as a neighbour are
    `r`'s neighbours. -/
theorem length_filter_contains (R : StdMap (StdMap (Int × Int))) (r : Int)
    (hsymm : ∀ k k', k' ∈ (R.getD k .empty).keys → k ∈ (R.getD k' .empty).keys) :
    (R.keys.filter fun k => (R.getD k .empty).contains r).length = (R.getD r .empty).size := by
  have hperm : (R.keys.filter fun k => (R.getD k .empty).contains r).Perm (R.getD r .empty).keys := by
    refine (List.perm_ext_iff_of_nodup (R.keys_nodup.filter _) (StdMap.keys_nodup _)).mpr fun k => ?_
    rw [List.mem_filter, ← StdMap.mem_keys_iff]
    constructor
    · exact fun h => hsymm k r h.2
    · intro h
      have hk := hsymm r k h
      refine ⟨by_contra fun hn => ?_, hk⟩
      rw [StdMap.getD_of_not_mem _ hn] at hk
      cases hk
  exact hperm.length_eq.trans (List.length_map _ _)

/-! ### Ports, calls and links -/

/-- After both passes, router `r`'s nodes hold the ports `0 .. |N| - 1` and
    its neighbours the ports after them, each entry in place. -/
theorem buildChannels_getD (rl : RouterList) {r : Int} (hr : r ∈ rl.node.keys) :
    ((buildChannels rl).routerList.node.getD r .empty).entries =
      numbered 0 (rl.node.getD r .empty).entries ∧
    ((buildChannels rl).routerList.router.getD r .empty).entries =
      numbered (rl.node.getD r .empty).size (rl.router.getD r .empty).entries := by
  obtain ⟨s1, hs1⟩ : ∃ s1, rl.node.entries.foldl injectRouter (BuildState.init rl) = s1 :=
    ⟨_, rfl⟩
  have hR1 := (hs1 ▸ foldl_injectRouter_router rl.node.entries (BuildState.init rl)).1
  have hkeys1 : s1.routerList.node.keys = rl.node.keys :=
    hs1 ▸ foldl_injectRouter_keys _ _ (fun e he => List.mem_map_of_mem _ he)
  have hnode1 := hs1 ▸ foldl_injectRouter_node rl.node.entries (BuildState.init rl) rl.node.sorted r
  have hlink := foldl_linkRouter_router s1.routerList.node.entries s1 s1.routerList.node.sorted r
  have hbuild : buildChannels rl = s1.routerList.node.entries.foldl linkRouter s1 := by
    simp only [buildChannels, hs1]
  obtain ⟨N, hN⟩ : ∃ N, rl.node.find? r = some N :=
    Option.isSome_iff_exists.mp ((StdMap.mem_keys_iff _ _).mp hr)
  obtain ⟨N1, hN1⟩ : ∃ N1, s1.routerList.node.find? r = some N1 :=
    Option.isSome_iff_exists.mp ((StdMap.mem_keys_iff _ _).mp (hkeys1 ▸ hr))
  have hNget : rl.node.getD r .empty = N := by simp [StdMap.getD, hN]
  simp only [StdMap.find?] at hN hN1
  rw [hNget, hbuild, hlink.1, hlink.2, hnode1.1, hN, hN1, hnode1.2, hN, hR1]
  exact ⟨assignPorts_fst _ _ _, by simp [BuildState.init]⟩

/-- The calls of both passes: each router's block from the first, then the
    links of the second, numbered from `0`. -/
theorem buildChannels_events (rl : RouterList) :
    ∃ o, (buildChannels rl).events =
      rl.node.entries.flatMap (injectionBlock rl.router) ++ linkEvents rl.router o 0 rl.node.keys := by
  obtain ⟨s1, hs1⟩ : ∃ s1, rl.node.entries.foldl injectRouter (BuildState.init rl) = s1 :=
    ⟨_, rfl⟩
  obtain ⟨hR1, hc1⟩ := hs1 ▸ foldl_injectRouter_router rl.node.entries (BuildState.init rl)
  have hev1 := hs1 ▸ foldl_injectRouter_events rl.node.entries (BuildState.init rl) rl.node.sorted
    (fun _ _ => rfl)
  have hkeys1 : s1.routerList.node.keys = rl.node.keys :=
    hs1 ▸ foldl_injectRouter_keys _ _ (fun e he => List.mem_map_of_mem _ he)
  have hbuild : buildChannels rl = s1.routerList.node.entries.foldl linkRouter s1 := by
    simp only [buildChannels, hs1]
  refine ⟨s1.outport, ?_⟩
  rw [hbuild, foldl_linkRouter_events s1.routerList.node.entries s1 s1.routerList.router
    s1.outport s1.routerList.node.sorted (fun _ _ => rfl) (fun _ _ => rfl), hev1, hc1, hR1,
    ← StdMap.keys, hkeys1]
  rfl

/-- Router `r`'s output channels after both passes: its nodes' ejection
    channels, then one link per neighbour over consecutive link numbers from
    some `base`, the input side of each at that neighbour. -/
theorem outputs_buildChannels (rl : RouterList) {r : Int} (hr : r ∈ rl.node.keys) :
    ∃ base, outputs r (buildChannels rl).events =
        (rl.node.getD r .empty).entries.map (fun q => .eject q.1) ++
          ((rl.router.getD r .empty).entries.enumFrom 0).map (fun q => .chan (base + q.1)) ∧
      ∀ q ∈ (rl.router.getD r .empty).entries.enumFrom 0,
        .addInputChannel q.2.1 (.chan (base + q.1)) (.chanCred (base + q.1)) ∈
          (buildChannels rl).events := by
  obtain ⟨o, hev⟩ := buildChannels_events rl
  obtain ⟨base, hout, hin⟩ := outputs_linkEvents rl.router o r 0 rl.node.keys rl.node.keys_nodup hr
  refine ⟨base, by rw [hev, outputs_append, outputs_injectionBlocks, hout], fun q hq => ?_⟩
  rw [hev]
  exact List.mem_append_right _ (hin q hq)

/-- The port a node entry of router `r` holds after both passes is the index of
    the `AddOutputChannel` call on `r` that adds the node's ejection channel. -/
theorem buildChannels_eject_port (rl : RouterList) {r n p lat : Int} (hr : r ∈ rl.node.keys)
    (hmem : (n, (p, lat)) ∈ ((buildChannels rl).routerList.node.getD r .empty).entries) :
    (outputs r (buildChannels rl).events)[p.toNat]? = some (.eject n) := by
  obtain ⟨base, hout, -⟩ := outputs_buildChannels rl hr
  rw [(buildChannels_getD rl hr).1] at hmem
  obtain ⟨j, hj, hk, rfl⟩ := mem_numbered hmem
  rw [hout, show ((0 : Int) + j).toNat = j by omega,
    List.getElem?_append_left (by simpa using hj), List.getElem?_map, List.getElem?_eq_getElem hj]
  simp [hk]

/-- The port a neighbour entry `r'` of router `r` holds after both passes is
    the index of the `AddOutputChannel` call on `r` that adds a link, and the
    input side of that link is at `r'`. -/
theorem buildChannels_chan_port (rl : RouterList) {r r' p lat : Int} (hr : r ∈ rl.node.keys)
    (hmem : (r', (p, lat)) ∈ ((buildChannels rl).routerList.router.getD r .empty).entries) :
    PortLeadsTo (buildChannels rl).events r p r' := by
  obtain ⟨base, hout, hin⟩ := outputs_buildChannels rl hr
  rw [(buildChannels_getD rl hr).2] at hmem
  obtain ⟨j, hj, hk, rfl⟩ := mem_numbered hmem
  have hq : (j, (rl.router.getD r .empty).entries[j]) ∈
      (rl.router.getD r .empty).entries.enumFrom 0 :=
    List.mem_iff_getElem?.mpr ⟨j, by simp [List.getElem?_enumFrom, hj]⟩
  refine ⟨base + j, ?_, hk ▸ hin _ hq⟩
  rw [hout, show (((rl.node.getD r .empty).size : Int) + j).toNat =
      (rl.node.getD r .empty).size + j by omega,
    List.getElem?_append_right (by simp [StdMap.size])]
  simp [StdMap.size, List.getElem?_enumFrom, hj]

/-- Both passes keep the keys and the latencies of `router_list[ROUTER]`;
    only the ports change. -/
theorem buildChannels_router (rl : RouterList) (hkeys : rl.node.keys = rl.router.keys) :
    (buildChannels rl).routerList.router.keys = rl.router.keys ∧
    ∀ x, ((buildChannels rl).routerList.router.getD x .empty).entries.map (fun e => (e.1, e.2.2)) =
      (rl.router.getD x .empty).entries.map (fun e => (e.1, e.2.2)) := by
  obtain ⟨s1, hs1⟩ : ∃ s1, rl.node.entries.foldl injectRouter (BuildState.init rl) = s1 :=
    ⟨_, rfl⟩
  have hR1 : s1.routerList.router = rl.router :=
    (hs1 ▸ foldl_injectRouter_router rl.node.entries (BuildState.init rl)).1
  have hkeys1 : s1.routerList.node.keys = rl.node.keys :=
    hs1 ▸ foldl_injectRouter_keys _ _ (fun e he => List.mem_map_of_mem _ he)
  have hbuild : buildChannels rl = s1.routerList.node.entries.foldl linkRouter s1 := by
    simp only [buildChannels, hs1]
  refine ⟨?_, fun x => ?_⟩
  · rw [hbuild, foldl_linkRouter_keys _ _ fun e he => ?_, hR1]
    rw [hR1, ← hkeys, ← hkeys1]
    exact List.mem_map_of_mem _ he
  · by_cases hx : x ∈ rl.node.keys
    · rw [(buildChannels_getD rl hx).2, numbered_keys]
    · have hnone : lookupEntry x s1.routerList.node.entries = none :=
        lookupEntry_eq_none fun e he hex => hx (hkeys1 ▸ hex ▸ List.mem_map_of_mem _ he)
      rw [hbuild, (foldl_linkRouter_router _ s1 s1.routerList.node.sorted x).2, hnone, hR1]

theorem build_channels_ports (rl : RouterList) (hkeys : rl.node.keys = rl.router.keys)
    (hsymm : ∀ r r', r' ∈ (rl.router.getD r .empty).keys → r ∈ (rl.router.getD r' .empty).keys) :
    ∃ s, buildChannels rl = s ∧
      (∀ r ∈ rl.node.keys,
        (s.routerList.node.getD r .empty).entries.map (fun e => e.2.1) ++
            (s.routerList.router.getD r .empty).entries.map (fun e => e.2.1) =
          (List.range ((rl.node.getD r .empty).size + (rl.router.getD r .empty).size)).map
            (fun j : Nat => (j : Int)) ∧
        (s.routerList.node.getD r .empty).entries.map (fun e => (e.1, e.2.2)) =
          (rl.node.getD r .empty).entries.map (fun e => (e.1, e.2.2)) ∧
        (s.routerList.router.getD r .empty).entries.map (fun e => (e.1, e.2.2)) =
          (rl.router.getD r .empty).entries.map (fun e => (e.1, e.2.2)) ∧
        (∀ n p lat, (n, (p, lat)) ∈ (s.routerList.node.getD r .empty).entries →
          (outputs r s.events)[p.toNat]? = some (.eject n)) ∧
        (∀ r' p lat, (r', (p, lat)) ∈ (s.routerList.router.getD r .empty).entries →
          ∃ l, (outputs r s.events)[p.toNat]? = some (.chan l) ∧
            .addInputChannel r' (.chan l) (.chanCred l) ∈ s.events) ∧
        .newRouter r ((rl.node.getD r .empty).size + (rl.router.getD r .empty).size) ∈ s.events ∧
        (inputs r s.events).length = (rl.node.getD r .empty).size + (rl.router.getD r .empty).size ∧
        (outputs r s.events).length = (rl.node.getD r .empty).size + (rl.router.getD r .empty).size) ∧
      links s.events = (List.range rl.channels).map (fun j : Nat => (j : Int)) := by
  obtain ⟨o, hev⟩ := buildChannels_events rl
  refine ⟨_, rfl, fun r hr => ?_, ?_⟩
  · obtain ⟨hnodeF, hrouterF⟩ := buildChannels_getD rl hr
    obtain ⟨base, hout, -⟩ := outputs_buildChannels rl hr
    refine ⟨?_, by rw [hnodeF, numbered_keys], by rw [hrouterF, numbered_keys],
      fun n p lat => buildChannels_eject_port rl hr, fun r' p lat => buildChannels_chan_port rl hr,
      ?_, ?_, by simp [hout, StdMap.size]⟩
    · -- The ports: `0 .. |N| - 1`, then `|N| .. radix - 1`.
      rw [hnodeF, hrouterF, numbered_ports, numbered_ports, List.range_add, List.map_append,
        List.map_map]
      exact congrArg₂ (· ++ ·) (List.map_congr_left fun j _ => by simp)
        (List.map_congr_left fun j _ => by simp only [Function.comp]; omega)
    · -- `r`'s block of the first pass opens with `NewRouter`.
      obtain ⟨⟨_, N⟩, hNmem, rfl⟩ := List.mem_map.mp hr
      rw [hev, StdMap.getD_of_mem _ hNmem]
      exact List.mem_append_left _ (List.mem_flatMap.mpr ⟨_, hNmem, by simp [injectionBlock]⟩)
    · -- One input per node, and one per neighbour by the symmetry of the links.
      rw [hev, inputs_append, List.length_append, inputs_injectionBlocks, List.length_map,
        length_inputs_linkEvents, hkeys, length_filter_contains _ _ hsymm]
      rfl
  · rw [hev, links_append, links_flatMap, links_linkEvents, hkeys, StdMap.sum_keys_getD]
    simp [links_injectionBlock, RouterList.channels]

/-- Two routers linked both ways, one node each: links `0` and `1`. -/
theorem build_channels_ports_two_routers :
    ∃ net, readFile "router 0 node 0 router 1\nrouter 1 node 1".toList = .ok net ∧
      ∃ s, buildChannels net.routerList = s ∧ links s.events = [0, 1] := by
  refine ⟨_, rfl, ?_⟩
  exact (build_channels_ports _ (by decide) (StdMap.forall_getD_keys (by decide))).imp
    fun _ h => ⟨h.1, h.2.2.trans rfl⟩

/-- The header's example 2 is accepted, but its latencies put routers `1` and
    `2` into `router_list[ROUTER][0]`: `_size` is `1`, and the second pass
    attaches link `0` to `_routers[1]`. -/
theorem example2_router_out_of_range :
    ∃ net, readFile "router 0 node 0 node 1 5 node 2 5".toList = .ok net ∧
      (computeSize net).size = 1 ∧
      .addInputChannel 1 (.chan 0) (.chanCred 0) ∈ (buildChannels net.routerList).events ∧
      (Event.addInputChannel 1 (.chan 0) (.chanCred 0)).inRange (computeSize net) = false :=
  ⟨_, rfl, by decide⟩

/-! ### Indices in range -/

/-- A block of the first pass indexes in range when its router and nodes
    do. -/
theorem injectionBlock_inRange (sz : Sizes) (R : StdMap (StdMap (Int × Int)))
    (e : Int × StdMap (Int × Int)) (hr : 0 ≤ e.1 ∧ e.1 < sz.size)
    (hn : ∀ n ∈ e.2.keys, 0 ≤ n ∧ n < sz.nodes) :
    ∀ ev ∈ injectionBlock R e, ev.inRange sz = true := by
  intro ev hev
  simp only [injectionBlock, assignPorts_eq, List.mem_cons, List.mem_flatMap] at hev
  rcases hev with rfl | ⟨q, hq, hev⟩
  · simp [Event.inRange, hr]
  · have hq' := hn q.2.1 (List.mem_map_of_mem Prod.fst (List.snd_mem_of_mem_enumFrom hq))
    simp only [injectionEvents, List.mem_cons, List.mem_nil_iff, or_false] at hev
    rcases hev with rfl | rfl | rfl | rfl | rfl | rfl <;>
      simp [Event.inRange, Channel.inRange, hr, hq']

/-- The second pass indexes in range when its routers and their neighbours
    do and the links it numbers from `c` stay below `_channels`. -/
theorem linkEvents_inRange (sz : Sizes) (R : StdMap (StdMap (Int × Int))) (o : Int → Int)
    (c : Int) (ks : List Int) (hks : ∀ k ∈ ks, 0 ≤ k ∧ k < sz.size)
    (hnb : ∀ k ∈ ks, ∀ k' ∈ (R.getD k .empty).keys, 0 ≤ k' ∧ k' < sz.size) (hc : 0 ≤ c)
    (hsum : c + ((ks.map fun k => (R.getD k .empty).size).sum : Int) ≤ sz.channels) :
    ∀ ev ∈ linkEvents R o c ks, ev.inRange sz = true := by
  induction ks generalizing c with
  | nil => exact fun _ h => absurd h (List.not_mem_nil _)
  | cons k rest ih =>
    simp only [List.map_cons, List.sum_cons, Nat.cast_add] at hsum
    intro ev hev
    simp only [linkEvents, List.mem_append, assignPorts_eq, List.mem_flatMap] at hev
    rcases hev with ⟨q, hq, hev⟩ | hev
    · have hk := hks k (List.mem_cons_self _ _)
      have hq' := hnb k (List.mem_cons_self _ _) q.2.1
        (List.mem_map_of_mem Prod.fst (List.snd_mem_of_mem_enumFrom hq))
      have hlt := List.fst_lt_add_of_mem_enumFrom hq
      have hsz : ((R.getD k .empty).size : Int) = (R.getD k .empty).entries.length := rfl
      simp only [routerEvents, List.mem_cons, List.mem_nil_iff, or_false] at hev
      rcases hev with rfl | rfl | rfl | rfl <;>
        simp [Event.inRange, Channel.inRange, hk, hq'] <;> omega
    · exact ih (c + (R.getD k .empty).size) (fun k' hk' => hks k' (List.mem_cons_of_mem _ hk'))
        (fun k' hk' => hnb k' (List.mem_cons_of_mem _ hk')) (by omega) (by omega) ev hev

/-- The two passes of `_BuildNet` index in range for any array sizes that
    bound the router, neighbour and node ids of the maps and the number of
    their links. -/
theorem buildChannels_inRange (rl : RouterList) (sz : Sizes)
    (hkeys : rl.node.keys = rl.router.keys)
    (hrouter : ∀ r ∈ rl.router.keys, 0 ≤ r ∧ r < sz.size)
    (hlinks : ∀ r, ∀ r' ∈ (rl.router.getD r .empty).keys, 0 ≤ r' ∧ r' < sz.size)
    (hnodes : ∀ r, ∀ n ∈ (rl.node.getD r .empty).keys, 0 ≤ n ∧ n < sz.nodes)
    (hch : rl.channels ≤ sz.channels) :
    ∀ ev ∈ (buildChannels rl).events, ev.inRange sz = true := by
  obtain ⟨o, hev⟩ := buildChannels_events rl
  have hnode : ∀ r ∈ rl.node.keys, 0 ≤ r ∧ r < sz.size := fun r hr => hrouter r (hkeys ▸ hr)
  rw [hev]
  intro ev hev
  rcases List.mem_append.mp hev with hev | hev
  · -- The first pass: one block per router of `router_list[NODE]`.
    obtain ⟨e, he, hev⟩ := List.mem_flatMap.mp hev
    refine injectionBlock_inRange _ _ e (hnode e.1 (List.mem_map_of_mem _ he)) (fun n hn => ?_) ev hev
    exact hnodes e.1 n (by rwa [StdMap.getD_of_mem _ he])
  · -- The second pass: links numbered from `0` up to `_channels`.
    refine linkEvents_inRange _ _ o 0 _ hnode (fun k _ => hlinks k) le_rfl ?_ ev hev
    rw [hkeys, StdMap.sum_keys_getD]
    simp only [RouterList.channels] at hch
    omega

/-- What the indices need: when every router id, every neighbour id and every
    node id of the maps lies below `_size` or `_nodes`, and the two maps have
    the same keys (as `readFile` makes them), every call of `_BuildNet` indexes
    within its array; the links it numbers stop below `_channels`. -/
theorem build_channels_in_range (net : Network)
    (hkeys : net.routerList.node.keys = net.routerList.router.keys)
    (hrouter : ∀ r ∈ net.routerList.router.keys, 0 ≤ r ∧ r < (computeSize net).size)
    (hlinks : ∀ r, ∀ r' ∈ (net.routerList.router.getD r .empty).keys,
      0 ≤ r' ∧ r' < (computeSize net).size)
    (hnodes : ∀ r, ∀ n ∈ (net.routerList.node.getD r .empty).keys,
      0 ≤ n ∧ n < (computeSize net).nodes) :
    ∀ ev ∈ (buildChannels net.routerList).events, ev.inRange (computeSize net) = true :=
  buildChannels_inRange _ _ hkeys hrouter hlinks hnodes le_rfl

/-- Two routers linked both ways, one node each. -/
theorem build_channels_in_range_two_routers :
    ∃ net, readFile "router 0 node 0 router 1\nrouter 1 node 1".toList = .ok net ∧
      ∀ ev ∈ (buildChannels net.routerList).events, ev.inRange (computeSize net) = true :=
  ⟨_, rfl, build_channels_in_range _ (by decide) (by decide) (StdMap.forall_getD_keys (by decide))
    (StdMap.forall_getD_keys (by decide))⟩

end AnyNet

end GpuCacheSim
