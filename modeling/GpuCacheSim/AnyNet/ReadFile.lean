import GpuCacheSim.AnyNet.StdMap
import Mathlib.Data.List.Defs

/-!
# Parsing the Network File

`AnyNet::readFile`: how a network description file becomes `router_list` and
`node_list`.

Each line is split at spaces and its words drive a five-state machine. The
first two words name the line's head (`router` or `node`, then an id); the
rest are bodies, each a type and an id, optionally followed by a latency. A
body adds an entry to the maps; a latency overwrites the `second` of
`router_list[head_type][head_id][body_id]`. The file is read as its
characters; `getline` splits them at newlines. Numbers are read by glibc's
`atoi`, `(int) strtol`: one past the range of `int` wraps modulo `2^32`, so
`4294967296` names router `0`.

The latency is written into the map of the head's type, not the body's. For a
router-to-router link that is the link just added, but a latency after a node
body lands in `router_list[ROUTER]`, as a link from the router to a router
whose id is the node's: `example2_latency_misplaced` runs the header's own
example, where the node latencies stay `1` and router `0` gains two links that
were never declared.

What does hold for every file is that both maps get the same keys, because
every line that creates a key in one creates it in the other:
`readFile_keys_agree` shows the size assertion can never fail.

## Main definitions

* `RouterList`, `Network`: `router_list` and `node_list`.
* `strtol`, `longToInt`, `atoi`: Reading numbers as glibc does, into `int`.
* `tokens`: Splitting lines.
* `isTypeWord`, `typeOf`: The type words and the types they name.
* `parseToken`: One word of the state machine.
* `readFile`: The whole file, with its final checks.

## Theorems

* `parseToken_headType_eq`, `parseToken_headId_eq`, `parseToken_typeWord_eq`,
  `parseToken_latency_eq`, `parseTokens_body`: What one word does.
* `parseToken_keysInv`: One word keeps both maps' keys equal.
* `atoi_mem_int`: Every number read lies within `int`.
* `readFile_keys_agree`: The size assertion never fails.
* `example2_latency_misplaced`: The header's example 2 as parsed.
-/

namespace GpuCacheSim

namespace AnyNet

/-- `router_list`: `router_list[NODE][r]` holds the nodes attached to router
    `r`, `router_list[ROUTER][r]` the routers it links to, each with its
    `(port, latency)` pair. -/
structure RouterList where
  node : StdMap (StdMap (Int × Int))
  router : StdMap (StdMap (Int × Int))
  deriving DecidableEq

/-- The members `readFile` fills: `router_list` and `node_list`, which maps
    each node to its router. -/
structure Network where
  routerList : RouterList
  nodeList : StdMap Int
  deriving DecidableEq

/-- `ParseState`. -/
inductive ParseState
  | headType
  | headId
  | bodyType
  | bodyId
  | linkWeight
  deriving DecidableEq, Repr

/-- `ParseType`, which also indexes `router_list`. -/
inductive ParseType
  | node
  | router
  | unknown
  deriving DecidableEq, Repr

/-- The assertions of `readFile`, each with what its message prints. -/
inductive ReadError
  /-- "Anynet:Unknow head of line type". -/
  | unknownHeadType (temp : List Char)
  /-- "Anynet:Unknow body type". -/
  | unknownBodyType (temp : List Char)
  /-- "Anynet:Cannot connect node to node". -/
  | nodeToNode (temp : List Char)
  /-- "Anynet:Node ... trying to connect to multiple router ...", with the
      body id and the router `node_list[head_id]` it prints. -/
  | multipleRouters (bodyId other : Int)
  /-- `router_list[head_type]` with `head_type == UNKNOWN`, past the vector's
      two maps. -/
  | routerListIndex
  /-- `assert(router_list[0].size() == router_list[1].size())`. -/
  | mapSizes
  /-- "Anynet:booksim trafficmanager assumes sequential node numbering
      starting at 0". -/
  | nodeNumbering
  deriving DecidableEq, Repr

/-! ### Words -/

/-- `isspace` in the C locale. -/
def isSpace (c : Char) : Bool :=
  c = ' ' || c = '\t' || c = '\n' || c = '\x0b' || c = '\x0c' || c = '\r'

/-- The value of the leading decimal digits, after `acc`. -/
def digitsValue (acc : Int) : List Char → Int
  | [] => acc
  | c :: cs => if c.isDigit then digitsValue (10 * acc + (c.toNat - '0'.toNat)) cs else acc

/-- `strtol(s, NULL, 10)` with a 64-bit `long`: leading blanks, a sign, then
    digits, `0` if there are none; a value past `LONG_MAX` or `LONG_MIN` is
    clamped to it. -/
def strtol (s : List Char) : Int :=
  max (-9223372036854775808) (min 9223372036854775807
    (match s.dropWhile isSpace with
      | '-' :: cs => -digitsValue 0 cs
      | '+' :: cs => digitsValue 0 cs
      | cs => digitsValue 0 cs))

/-- A `long` stored into an `int`: GCC keeps its low 32 bits, read in two's
    complement. -/
def longToInt (x : Int) : Int := (x + 2147483648) % 4294967296 - 2147483648

/-- `atoi`, which glibc defines as `(int) strtol(s, NULL, 10)`. What
    `readFile` stores in `head_id`, `body_id` and `link_weight`. -/
def atoi (s : List Char) : Int := longToInt (strtol s)

/-- Every id and latency `readFile` reads lies within `int`. -/
theorem atoi_mem_int (s : List Char) : -2147483648 ≤ atoi s ∧ atoi s < 2147483648 := by
  unfold atoi longToInt
  omega

/-- `2^32` is read as `0`, and `99999999999` as `1215752191`. -/
example : atoi "4294967296".toList = 0 ∧ atoi "99999999999".toList = 1215752191 := by decide

/-- The words the `find(" ", pos)` / `substr` loop hands to the state machine:
    the pieces between spaces, with the empty ones skipped. -/
def tokens (line : List Char) : List (List Char) :=
  (line.splitOn ' ').filter (fun t => !t.isEmpty)

/-! ### The state machine -/

/-- The variables of one line's parse. -/
structure LineState where
  state : ParseState
  headId : Int
  headType : ParseType
  bodyType : ParseType
  bodyId : Int
  deriving DecidableEq, Repr

/-- Their values at the start of a line. -/
def LineState.init : LineState := ⟨.headType, -1, .unknown, .unknown, -1⟩

/-- "intialize router structures": give the id an empty entry in both maps
    where it has none. -/
def initRouter (rl : RouterList) (id : Int) : RouterList :=
  { node := if rl.node.contains id then rl.node else rl.node.insert id .empty,
    router := if rl.router.contains id then rl.router else rl.router.insert id .empty }

/-- `router_list[t][k]` as an lvalue, updated by `f`. -/
def RouterList.modifyAt (rl : RouterList) (t : ParseType) (k : Int)
    (f : StdMap (Int × Int) → StdMap (Int × Int)) : Except ReadError RouterList :=
  match t with
  | .node => .ok { rl with node := rl.node.modify k .empty f }
  | .router => .ok { rl with router := rl.router.modify k .empty f }
  | .unknown => .error .routerListIndex

/-- `router` or `node`: the words `LINK_WEIGHT` lets fall through to
    `BODY_TYPE`. -/
def isTypeWord (w : List Char) : Bool := w = "router".toList || w = "node".toList

/-- The type a type word names. -/
def typeOf (w : List Char) : ParseType := if w = "router".toList then .router else .node

/-- The `BODY_TYPE` case, which `LINK_WEIGHT` falls through to. -/
def bodyTypeCase (ls : LineState) (temp : List Char) : Except ReadError LineState :=
  if temp = "router".toList then .ok { ls with bodyType := .router, state := .bodyId }
  else if temp = "node".toList then .ok { ls with bodyType := .node, state := .bodyId }
  else .error (.unknownBodyType temp)

/-- The `BODY_ID` case: record the link between the head and the body. -/
def bodyIdCase (net : Network) (ls : LineState) (temp : List Char) :
    Except ReadError (Network × LineState) :=
  let bodyId := atoi temp
  let rl := if ls.bodyType = .router then initRouter net.routerList bodyId else net.routerList
  let ls := { ls with bodyId, state := .linkWeight }
  match ls.headType, ls.bodyType with
  | .node, .node => .error (.nodeToNode temp)
  | .node, .router =>
    if net.nodeList.contains ls.headId && net.nodeList.getD ls.headId 0 ≠ bodyId then
      .error (.multipleRouters bodyId (net.nodeList.getD ls.headId 0))
    else
      .ok (⟨{ rl with node := rl.node.modify bodyId .empty (·.insert ls.headId (-1, 1)) },
        net.nodeList.insert ls.headId bodyId⟩, ls)
  | .router, .node =>
    if net.nodeList.contains bodyId && net.nodeList.getD bodyId 0 ≠ ls.headId then
      .error (.multipleRouters bodyId (net.nodeList.getD ls.headId 0))
    else
      .ok (⟨{ rl with node := rl.node.modify ls.headId .empty (·.insert bodyId (-1, 1)) },
        net.nodeList.insert bodyId ls.headId⟩, ls)
  | .router, .router =>
    let router := rl.router.modify ls.headId .empty (·.insert bodyId (-1, 1))
    let router := if (router.getD bodyId .empty).contains ls.headId then router
      else router.modify bodyId .empty (·.insert ls.headId (-1, 1))
    .ok (⟨{ rl with router }, net.nodeList⟩, ls)
  | _, _ => .ok (⟨rl, net.nodeList⟩, ls)

/-- One word of a line. -/
def parseToken (net : Network) (ls : LineState) (temp : List Char) :
    Except ReadError (Network × LineState) :=
  match ls.state with
  | .headType =>
    if temp = "router".toList then .ok (net, { ls with headType := .router, state := .headId })
    else if temp = "node".toList then .ok (net, { ls with headType := .node, state := .headId })
    else .error (.unknownHeadType temp)
  | .headId =>
    let headId := atoi temp
    .ok ({ net with routerList := initRouter net.routerList headId },
      { ls with headId, state := .bodyType })
  | .linkWeight =>
    if temp = "router".toList || temp = "node".toList then
      (net, ·) <$> bodyTypeCase ls temp
    else
      (fun rl => ({ net with routerList := rl }, ls)) <$>
        net.routerList.modifyAt ls.headType ls.headId
          (·.modify ls.bodyId (0, 0) (fun p => (p.1, atoi temp)))
  | .bodyType => (net, ·) <$> bodyTypeCase ls temp
  | .bodyId => bodyIdCase net ls temp

/-- The words of a line, in order. -/
def parseTokens (net : Network) (ls : LineState) : List (List Char) → Except ReadError Network
  | [] => .ok net
  | temp :: rest => parseToken net ls temp >>= fun r => parseTokens r.1 r.2 rest

/-- One line; an empty line is skipped. The line's final state only decides
    whether "Anynet:Incomplete parse of the line" is printed. -/
def parseLine (net : Network) (line : List Char) : Except ReadError Network :=
  if line.isEmpty then .ok net else parseTokens net LineState.init (tokens line)

/-- The lines of the file, in order. -/
def parseLines (net : Network) : List (List Char) → Except ReadError Network
  | [] => .ok net
  | line :: rest => parseLine net line >>= fun net => parseLines net rest

/-- The traffic manager's check: the sorted node ids are `0, 1, 2, ...`. The
    keys of `node_list` are already sorted, so `sort` leaves them as they are. -/
def nodesSequential (nodeCheck : List Int) : Bool :=
  nodeCheck.enum.all fun p => p.2 = p.1

/-- The empty maps `readFile` starts from. -/
def Network.empty : Network := ⟨⟨.empty, .empty⟩, .empty⟩

/-- `readFile` on the file's characters. -/
def readFile (text : List Char) : Except ReadError Network :=
  parseLines Network.empty (text.splitOn '\n') >>= fun net =>
    if net.routerList.node.size ≠ net.routerList.router.size then .error .mapSizes
    else if !nodesSequential net.nodeList.keys then .error .nodeNumbering
    else .ok net

/-! ### One word at a time

What a word does in each state of the machine, for the words the documented
shape puts there; the walks over a line rewrite with these and never unfold
`parseToken`.
-/

section Forwards

variable {net net' : Network} {ls ls' : LineState} {temp : List Char}

theorem bind_eq_ok {ε α β : Type} {x : Except ε α} {f : α → Except ε β} {y : β}
    (h : (x >>= f) = .ok y) : ∃ a, x = .ok a ∧ f a = .ok y := by
  cases x with
  | error e => cases h
  | ok a => exact ⟨a, rfl, h⟩

theorem exists_bind_eq_ok {ε α β : Type} {x : Except ε α} {f : α → Except ε β} :
    (∃ b, (x >>= f) = .ok b) ↔ ∃ a, x = .ok a ∧ ∃ b, f a = .ok b := by
  cases x <;> simp [bind, Except.bind]

theorem parseTokens_cons_of_ok {t : List Char} {ts : List (List Char)} {r : Network × LineState}
    (h : parseToken net ls t = .ok r) : parseTokens net ls (t :: ts) = parseTokens r.1 r.2 ts := by
  simp only [parseTokens, h]
  rfl

theorem parseToken_headType_eq (hst : ls.state = .headType) (ht : isTypeWord temp = true) :
    parseToken net ls temp = .ok (net, { ls with headType := typeOf temp, state := .headId }) := by
  simp only [isTypeWord, Bool.or_eq_true, decide_eq_true_eq] at ht
  rcases ht with rfl | rfl <;> simp only [parseToken, hst] <;> rfl

theorem parseToken_headId_eq (hst : ls.state = .headId) :
    parseToken net ls temp = .ok ({ net with routerList := initRouter net.routerList (atoi temp) },
      { ls with headId := atoi temp, state := .bodyType }) := by
  simp only [parseToken, hst]

theorem parseToken_typeWord_eq (hst : ls.state = .bodyType ∨ ls.state = .linkWeight)
    (ht : isTypeWord temp = true) :
    parseToken net ls temp = .ok (net, { ls with bodyType := typeOf temp, state := .bodyId }) := by
  have hb : bodyTypeCase ls temp = .ok { ls with bodyType := typeOf temp, state := .bodyId } := by
    simp only [isTypeWord, Bool.or_eq_true, decide_eq_true_eq] at ht
    rcases ht with rfl | rfl <;> rfl
  rcases hst with hst | hst <;> simp only [parseToken, hst]
  · rw [hb]
    rfl
  · rw [if_pos (by simpa [isTypeWord] using ht), hb]
    rfl

theorem parseToken_latency_eq (hst : ls.state = .linkWeight) (ht : isTypeWord temp = false)
    (hh : ls.headType = .router) :
    parseToken net ls temp = .ok ({ net with routerList := { net.routerList with
      router := net.routerList.router.modify ls.headId .empty
        (·.modify ls.bodyId (0, 0) (fun p => (p.1, atoi temp))) } }, ls) := by
  simp only [parseToken, hst, RouterList.modifyAt, hh]
  rw [if_neg (by simpa [isTypeWord] using ht)]
  rfl

theorem bodyIdCase_ls (h : bodyIdCase net ls temp = .ok (net', ls')) :
    ls' = { ls with bodyId := atoi temp, state := .linkWeight } := by
  simp only [bodyIdCase] at h
  split at h <;> (try split_ifs at h) <;> cases h <;> rfl

/-- A body, a type word then an id, and the rest of the line. -/
theorem parseTokens_body (hst : ls.state = .bodyType ∨ ls.state = .linkWeight) {t i : List Char}
    (ht : isTypeWord t = true) (rest : List (List Char)) :
    parseTokens net ls (t :: i :: rest) =
      bodyIdCase net { ls with bodyType := typeOf t, state := .bodyId } i >>=
        fun r => parseTokens r.1 r.2 rest := by
  rw [parseTokens_cons_of_ok (parseToken_typeWord_eq hst ht)]
  rfl

end Forwards

/-! ### Both maps get the same keys -/

/-- What every word keeps: the two maps have the same keys, and once the head
    id is read, it is one of them. -/
def KeysInv (net : Network) (ls : LineState) : Prop :=
  net.routerList.node.keys = net.routerList.router.keys ∧
    (ls.state ≠ .headType → ls.state ≠ .headId → ls.headId ∈ net.routerList.node.keys)

namespace StdMap

variable {V : Type}

theorem keys_modify_of_contains {m : StdMap V} {k : Int} (d : V) (f : V → V)
    (h : m.contains k = true) : (m.modify k d f).keys = m.keys :=
  keys_insert_of_contains _ h

theorem keys_subset_insert (m : StdMap V) (k : Int) (v : V) {k' : Int} (h : k' ∈ m.keys) :
    k' ∈ (m.insert k v).keys := by
  rw [mem_keys_iff] at h ⊢
  simp [h]

end StdMap

open StdMap

/-- `initRouter` keeps the maps' keys equal, adds the id, and drops nothing. -/
theorem initRouter_keys {rl : RouterList} (h : rl.node.keys = rl.router.keys) (id : Int) :
    (initRouter rl id).node.keys = (initRouter rl id).router.keys ∧
      id ∈ (initRouter rl id).node.keys ∧
      ∀ k ∈ rl.node.keys, k ∈ (initRouter rl id).node.keys := by
  have hc : rl.node.contains id = rl.router.contains id := by
    rw [Bool.eq_iff_iff, ← mem_keys_iff, ← mem_keys_iff, h]
  simp only [initRouter, hc]
  split
  · exact ⟨h, by rw [h, mem_keys_iff]; assumption, fun _ hk => hk⟩
  · exact ⟨keys_insert_congr _ _ _ h, by simp [mem_keys_iff],
      fun _ hk => keys_subset_insert _ _ _ hk⟩

theorem map_eq_ok {α β ε : Type} {f : α → β} {x : Except ε α} {y : β} (h : f <$> x = .ok y) :
    ∃ a, x = .ok a ∧ f a = y := by
  cases x with
  | error e => cases h
  | ok a => exact ⟨a, rfl, Except.ok.inj h⟩

theorem bodyTypeCase_state {ls ls' : LineState} {temp : List Char}
    (h : bodyTypeCase ls temp = .ok ls') : ls'.state = .bodyId ∧ ls'.headId = ls.headId := by
  simp only [bodyTypeCase] at h
  split_ifs at h <;> cases h <;> exact ⟨rfl, rfl⟩

/-- Modifying the entry of a key present in both maps keeps their keys. -/
theorem keys_modify_both {rl : RouterList} {k : Int} (h : rl.node.keys = rl.router.keys)
    (hk : k ∈ rl.node.keys) (f : StdMap (Int × Int) → StdMap (Int × Int)) :
    (rl.node.modify k .empty f).keys = rl.node.keys ∧
      (rl.router.modify k .empty f).keys = rl.router.keys :=
  ⟨keys_modify_of_contains _ _ ((mem_keys_iff _ _).mp hk),
    keys_modify_of_contains _ _ ((mem_keys_iff _ _).mp (h ▸ hk))⟩

theorem bodyIdCase_keysInv {net net' : Network} {ls ls' : LineState} {temp : List Char}
    (hinv : KeysInv net ls) (hs : ls.state = .bodyId)
    (h : bodyIdCase net ls temp = .ok (net', ls')) : KeysInv net' ls' := by
  obtain ⟨hkeys, hhead⟩ := hinv
  have hhead := hhead (by simp [hs]) (by simp [hs])
  -- The maps after the body's "intialize router structures".
  set rl := if ls.bodyType = .router then initRouter net.routerList (atoi temp)
    else net.routerList with hrl
  have hrl_keys : rl.node.keys = rl.router.keys ∧ ls.headId ∈ rl.node.keys ∧
      (ls.bodyType = .router → atoi temp ∈ rl.node.keys) := by
    rw [hrl]
    split
    · obtain ⟨h1, h2, h3⟩ := initRouter_keys hkeys (atoi temp)
      exact ⟨h1, h3 _ hhead, fun _ => h2⟩
    · exact ⟨hkeys, hhead, fun h => absurd h ‹_›⟩
  obtain ⟨hk, hh, hb⟩ := hrl_keys
  simp only [bodyIdCase, ← hrl] at h
  split at h
  · cases h
  · split_ifs at h
    cases h
    obtain ⟨h1, -⟩ := keys_modify_both hk (hb ‹_›) (·.insert ls.headId (-1, 1))
    exact ⟨h1.trans hk, fun _ _ => h1 ▸ hh⟩
  · split_ifs at h
    cases h
    obtain ⟨h1, -⟩ := keys_modify_both hk hh (·.insert (atoi temp) (-1, 1))
    exact ⟨h1.trans hk, fun _ _ => h1 ▸ hh⟩
  · cases h
    have hb' := hb ‹_›
    obtain ⟨-, h1⟩ := keys_modify_both hk hh (·.insert (atoi temp) (-1, 1))
    have h2 : atoi temp ∈ (rl.router.modify ls.headId .empty
        (·.insert (atoi temp) (-1, 1))).keys := h1 ▸ hk ▸ hb'
    refine ⟨?_, fun _ _ => hh⟩
    split
    · exact hk.trans h1.symm
    · rw [keys_modify_of_contains _ _ ((mem_keys_iff _ _).mp h2), h1, hk]
  · cases h
    exact ⟨hk, fun _ _ => hh⟩

/-- One word keeps both maps' keys equal. -/
theorem parseToken_keysInv {net net' : Network} {ls ls' : LineState} {temp : List Char}
    (hinv : KeysInv net ls) (h : parseToken net ls temp = .ok (net', ls')) :
    KeysInv net' ls' := by
  obtain ⟨hkeys, hhead⟩ := hinv
  simp only [parseToken] at h
  split at h
  · -- `HEAD_TYPE`: only the line's variables change.
    split_ifs at h <;> cases h <;> exact ⟨hkeys, fun _ h2 => (h2 rfl).elim⟩
  · -- `HEAD_ID`: the head gets its entries.
    cases h
    obtain ⟨h1, h2, -⟩ := initRouter_keys hkeys (atoi temp)
    exact ⟨h1, fun _ _ => h2⟩
  · -- `LINK_WEIGHT`: a body type falls through; a latency modifies the head's
    -- entry, which is present.
    have hh := hhead (by simp [*]) (by simp [*])
    split_ifs at h
    · obtain ⟨ls'', hb, hr⟩ := map_eq_ok h
      cases hr
      exact ⟨hkeys, fun _ _ => (bodyTypeCase_state hb).2 ▸ hh⟩
    · obtain ⟨rl, hrl, hr⟩ := map_eq_ok h
      cases hr
      simp only [RouterList.modifyAt] at hrl
      have hb := keys_modify_both hkeys hh (·.modify ls.bodyId (0, 0) (fun p => (p.1, atoi temp)))
      split at hrl <;> cases hrl
      · exact ⟨hb.1.trans hkeys, fun _ _ => hb.1 ▸ hh⟩
      · exact ⟨hkeys.trans hb.2.symm, fun _ _ => hh⟩
  · -- `BODY_TYPE`: only the line's variables change.
    obtain ⟨ls'', hb, hr⟩ := map_eq_ok h
    cases hr
    have hh := hhead (by simp [*]) (by simp [*])
    exact ⟨hkeys, fun _ _ => (bodyTypeCase_state hb).2 ▸ hh⟩
  · exact bodyIdCase_keysInv ⟨hkeys, hhead⟩ ‹_› h

theorem parseTokens_keys {net net' : Network} {ls : LineState} {ts : List (List Char)}
    (hinv : KeysInv net ls) (h : parseTokens net ls ts = .ok net') :
    net'.routerList.node.keys = net'.routerList.router.keys := by
  induction ts generalizing net ls with
  | nil => cases h; exact hinv.1
  | cons t ts ih =>
    simp only [parseTokens] at h
    cases ht : parseToken net ls t with
    | error e => rw [ht] at h; cases h
    | ok r =>
      rw [ht] at h
      exact ih (parseToken_keysInv hinv ht) h

theorem parseLines_keys {net net' : Network} {lines : List (List Char)}
    (hkeys : net.routerList.node.keys = net.routerList.router.keys)
    (h : parseLines net lines = .ok net') :
    net'.routerList.node.keys = net'.routerList.router.keys := by
  induction lines generalizing net with
  | nil => cases h; exact hkeys
  | cons line lines ih =>
    simp only [parseLines] at h
    cases hl : parseLine net line with
    | error e => rw [hl] at h; cases h
    | ok net'' =>
      rw [hl] at h
      refine ih ?_ h
      simp only [parseLine] at hl
      split at hl
      · cases hl; exact hkeys
      · exact parseTokens_keys ⟨hkeys, fun h1 => absurd rfl h1⟩ hl

/-- Parsing fails only at the assertions of the words. -/
theorem parseToken_ne_mapSizes (net : Network) (ls : LineState) (temp : List Char) :
    parseToken net ls temp ≠ .error .mapSizes := by
  intro h
  simp only [parseToken, bodyIdCase, bodyTypeCase, RouterList.modifyAt] at h
  repeat' split at h
  all_goals simp_all [Functor.map, Except.map]

theorem parseLines_ne_mapSizes (net : Network) (lines : List (List Char)) :
    parseLines net lines ≠ .error .mapSizes := by
  induction lines generalizing net with
  | nil => simp [parseLines]
  | cons line lines ih =>
    have hline : parseLine net line ≠ .error .mapSizes := by
      simp only [parseLine]
      split
      · simp
      · generalize LineState.init = ls
        induction tokens line generalizing net ls with
        | nil => simp [parseTokens]
        | cons t ts ih' =>
          simp only [parseTokens]
          cases h : parseToken net ls t with
          | error e =>
            show Except.error e ≠ _
            exact fun he => parseToken_ne_mapSizes net ls t (h.trans (by cases he; rfl))
          | ok r => exact ih' r.1 r.2
    simp only [parseLines]
    cases h : parseLine net line with
    | error e => exact fun he => hline (h.trans he)
    | ok net' => exact ih net'

/-- Every line creates a key in `router_list[NODE]` exactly when it creates it
    in `router_list[ROUTER]`, so for every file the two maps end with the same
    keys, and `assert(router_list[0].size() == router_list[1].size())` never
    fails. -/
theorem readFile_keys_agree (text : List Char) :
    readFile text ≠ .error .mapSizes ∧
      ∀ net, readFile text = .ok net → net.routerList.node.keys = net.routerList.router.keys := by
  cases h : parseLines Network.empty (text.splitOn '\n') with
  | error e =>
    have he : e ≠ .mapSizes := fun he => parseLines_ne_mapSizes _ _ (he ▸ h)
    simp only [readFile, h]
    exact ⟨fun h' => he (Except.error.inj h'), fun _ h' => by cases h'⟩
  | ok net =>
    have hkeys := parseLines_keys rfl h
    have hsize := size_eq_of_keys hkeys
    simp only [readFile, h, bind, Except.bind, hsize, ne_eq, not_true_eq_false, if_false]
    split
    · exact ⟨by simp, fun _ h' => by cases h'⟩
    · exact ⟨by simp, fun _ h' => by cases h'; exact hkeys⟩

/-- A file with a node line: node `0`'s line creates router `1` in both maps. -/
theorem readFile_keys_agree_node_line :
    ∃ net, readFile "node 0 router 1\nrouter 1 node 0".toList = .ok net ∧
      net.routerList.node.keys = net.routerList.router.keys :=
  ⟨_, rfl, (readFile_keys_agree "node 0 router 1\nrouter 1 node 0".toList).2 _ rfl⟩

/-- The header's example 2, `router 0 node 0 node 1 5 node 2 5`, which it says
    gives nodes `1` and `2` a latency of `5`. The parse keeps their latency at
    `1`, and the two latencies land in `router_list[ROUTER][0]` as links to
    routers `1` and `2`, which the file never declares. -/
theorem example2_latency_misplaced :
    ∃ net, readFile "router 0 node 0 node 1 5 node 2 5".toList = .ok net ∧
      net.routerList.node.keys = [0] ∧ net.routerList.router.keys = [0] ∧
      net.nodeList.entries = [(0, 0), (1, 0), (2, 0)] ∧
      (net.routerList.node.getD 0 .empty).entries = [(0, (-1, 1)), (1, (-1, 1)), (2, (-1, 1))] ∧
      (net.routerList.router.getD 0 .empty).entries = [(1, (0, 5)), (2, (0, 5))] :=
  ⟨_, rfl, by decide⟩

end AnyNet

end GpuCacheSim
