import GpuCacheSim.AnyNet.Declared
import GpuCacheSim.AnyNet.Dijkstra

/-!
# Links Read from a File

That `readFile` builds what a file of the documented shape declares.

`NetInv` relates the maps to what the words read so far declare:
`router_list[ROUTER]` holds the declared links with the latencies
`declaredLat` gives them (`LinksMatch`), its keys are the routers named so
far, and `router_list[NODE]` and `node_list` hold the declared attachments.
A body writes `router_list[ROUTER][head][body] = (-1, 1)`, so a later
declaration overwrites an earlier latency; it adds the link back only where
there is none, so that never overwrites one (`LinksMatch.link`); a latency
word rewrites the entry of the body before it (`LinksMatch.setLat`). Every
head, also a node's, and every router body is created as a router. A node is
attached where the "trying to connect to multiple router" check allows it,
and `node_list` records its router (`nodes_attach`).

Each word keeps `NetInv` (`bodyIdCase_netInv` and the transitions), the
bodies of a line follow its shape (`parseTokens_bodies`), and the lines add
what they declare in order.

## Main definitions

* `LinksMatch`: `router_list[ROUTER]` holds exactly the declared links.
* `NetInv`: The maps hold what the words read so far declare.

## Theorems

* `LinksMatch.link`, `LinksMatch.setLat`: A router body, and its latency.
* `bodyIdCase_netInv`: The `BODY_ID` word declares what its body says.
* `parseTokens_bodies`: So do the bodies of a line of the documented shape.
* `readFile_links_declared`: `router_list[ROUTER]` holds the links the file
  declares, with the latencies the header gives them.
* `readFile_routers_nodes_declared`: The routers are the ids the file names,
  and `router_list[NODE]` and `node_list` hold its attachments.
* `readFile_links_symm_pos_attached`: The links go both ways with positive
  latencies, and no node sits under two routers.
-/

namespace GpuCacheSim

namespace AnyNet

open StdMap

/-! ### Rows of a map of maps -/

section Rows

variable {V : Type}

@[simp]
theorem StdMap.getD_modify (m : StdMap V) (k k' : Int) (d d' : V) (f : V → V) :
    (m.modify k d f).getD k' d' = if k' = k then f (m.getD k d) else m.getD k' d' := by
  simp [StdMap.modify]

@[simp]
theorem StdMap.find?_modify (m : StdMap V) (k k' : Int) (d : V) (f : V → V) :
    (m.modify k d f).find? k' = if k' = k then some (f (m.getD k d)) else m.find? k' := by
  simp [StdMap.modify]

/-- A row created empty where there was none reads as before. -/
theorem getD_insert_empty (R : StdMap (StdMap V)) (id r : Int) :
    (if R.contains id then R else R.insert id .empty).getD r .empty = R.getD r .empty := by
  split
  · rfl
  · rw [getD_insert]
    split
    · subst r
      exact (getD_of_not_mem _ (by rwa [mem_keys_iff])).symm
    · rfl

theorem getD_initRouter (rl : RouterList) (id r : Int) :
    (initRouter rl id).router.getD r .empty = rl.router.getD r .empty ∧
      (initRouter rl id).node.getD r .empty = rl.node.getD r .empty :=
  ⟨getD_insert_empty _ _ _, getD_insert_empty _ _ _⟩

theorem mem_keys_initRouter (rl : RouterList) (id k : Int) :
    k ∈ (initRouter rl id).router.keys ↔ k ∈ rl.router.keys ∨ k = id := by
  simp only [initRouter]
  split
  · rename_i hc
    exact ⟨.inl, fun h => h.elim (fun h => h) fun h => h ▸ (mem_keys_iff _ _).mpr hc⟩
  · simp [mem_keys_iff, or_comm]

theorem List.filterMap_cons_toList {α β : Type} (f : α → Option β) (a : α) (l : List α) :
    (a :: l).filterMap f = (f a).toList ++ l.filterMap f := by
  cases h : f a <;> simp [h]

end Rows

/-! ### Maps that hold the declared links -/

/-- `router_list[ROUTER]` holds exactly the links of `ds`, with the
    latencies `declaredLat` reads. -/
def LinksMatch (R : StdMap (StdMap (Int × Int))) (ds : List (Int × Int × Int)) : Prop :=
  ∀ r s, ((R.getD r .empty).find? s).map Prod.snd = declaredLat ds r s

section Match

variable {R R' : StdMap (StdMap (Int × Int))} {ds : List (Int × Int × Int)}

theorem LinksMatch.of_getD (hm : LinksMatch R ds) (hg : ∀ r, R'.getD r .empty = R.getD r .empty) :
    LinksMatch R' ds := fun r s => by
  rw [hg]
  exact hm r s

/-- A router-to-router body: the link `h → b` at latency `1`, and `b → h`
    where it is not already there. -/
theorem LinksMatch.link (hm : LinksMatch R ds) (h b : Int) :
    let R1 := R.modify h .empty (·.insert b (-1, 1))
    LinksMatch (if (R1.getD b .empty).contains h then R1
      else R1.modify b .empty (·.insert h (-1, 1))) (ds ++ [(h, b, 1)]) := by
  intro R1
  have f1 : ∀ r s, (R1.getD r .empty).find? s =
      if r = h ∧ s = b then some (-1, 1) else (R.getD r .empty).find? s := by
    intro r s
    by_cases hr : r = h
    · subst hr
      by_cases hs : s = b <;> simp [R1, hs]
    · simp [R1, hr]
  intro r s
  rw [declaredLat_append, ← hm r s]
  by_cases hrs : r = h ∧ s = b
  · -- The link just declared, at latency `1`, whether or not the link back
    -- was there.
    rw [if_pos hrs]
    obtain ⟨rfl, rfl⟩ := hrs
    split
    · rw [f1, if_pos ⟨rfl, rfl⟩]
      rfl
    · rw [StdMap.getD_modify]
      split_ifs with hrs'
      · subst hrs'
        simp
      · rw [f1, if_pos ⟨rfl, rfl⟩]
        rfl
  · rw [if_neg hrs]
    by_cases hbh : r = b ∧ s = h
    · -- The link back: created at latency `1` unless it was there.
      obtain ⟨rfl, rfl⟩ := hbh
      have e1 : (R1.getD r .empty).find? s = (R.getD r .empty).find? s := by rw [f1, if_neg hrs]
      simp only [true_and]
      split
      · rename_i hc
        rw [e1, if_neg]
        simpa [contains, e1, Option.isSome_iff_ne_none] using hc
      · rename_i hc
        have hn : (R.getD r .empty).find? s = none := by simpa [contains, e1] using hc
        simp [hn]
    · -- Any other link is untouched.
      rw [if_neg (show ¬(r = b ∧ s = h ∧ _) from fun h' => hbh ⟨h'.1, h'.2.1⟩)]
      split
      · rw [f1, if_neg hrs]
      · rw [StdMap.getD_modify]
        split_ifs with hr
        · subst hr
          rw [find?_insert, if_neg (fun hs => hbh ⟨rfl, hs⟩), f1, if_neg hrs]
        · rw [f1, if_neg hrs]

/-- A latency word on the link `h → b` that the last declaration created. -/
theorem LinksMatch.setLat {h b x : Int} (hm : LinksMatch R (ds ++ [(h, b, x)])) (w : Int) :
    LinksMatch (R.modify h .empty (·.modify b (0, 0) (fun p => (p.1, w)))) (ds ++ [(h, b, w)]) := by
  intro r s
  have hm' := hm r s
  rw [declaredLat_append] at hm' ⊢
  by_cases hrs : r = h ∧ s = b
  · obtain ⟨rfl, rfl⟩ := hrs
    simp
  · rw [if_neg hrs] at hm' ⊢
    rw [← hm']
    by_cases hr : r = h
    · subst hr
      have hs : s ≠ b := fun hs => hrs ⟨rfl, hs⟩
      simp [hs]
    · simp [hr]

end Match

/-- A node-to-router or router-to-node body that passes the "trying to
    connect to multiple router" check: the entry of node `n₀` at router `t₀`,
    and `node_list[n₀] = t₀`. -/
theorem nodes_attach {N : StdMap (StdMap (Int × Int))} {L : StdMap Int} {atts : List (Int × Int)}
    (hN : ∀ t n, (N.getD t .empty).find? n = if (t, n) ∈ atts then some (-1, 1) else none)
    (hL : ∀ t n, L.find? n = some t ↔ (t, n) ∈ atts) {t₀ n₀ : Int}
    (hg : L.contains n₀ = true → L.getD n₀ 0 = t₀) :
    (∀ t n, ((N.modify t₀ .empty (·.insert n₀ (-1, 1))).getD t .empty).find? n =
      if (t, n) ∈ atts ++ [(t₀, n₀)] then some (-1, 1) else none) ∧
    ∀ t n, (L.insert n₀ t₀).find? n = some t ↔ (t, n) ∈ atts ++ [(t₀, n₀)] := by
  refine ⟨fun t n => ?_, fun t n => ?_⟩
  · simp only [List.mem_append, List.mem_singleton, Prod.mk.injEq, StdMap.getD_modify]
    by_cases ht : t = t₀
    · subst ht
      by_cases hn : n = n₀
      · subst hn
        simp
      · simp [hn, hN]
    · simp [ht, hN]
  · rw [find?_insert, List.mem_append, List.mem_singleton, Prod.mk.injEq, ← hL]
    by_cases hn : n = n₀
    · subst hn
      rw [if_pos rfl]
      refine ⟨fun h => .inr ⟨(Option.some.inj h).symm, rfl⟩, ?_⟩
      rintro (h | ⟨rfl, -⟩)
      · have := hg (by simp [contains, h])
        simp only [getD, h, Option.getD_some] at this
        rw [this]
      · rfl
    · simp [hn]

theorem keys_link {R : StdMap (StdMap (Int × Int))} {h b : Int} (hh : h ∈ R.keys)
    (hb : b ∈ R.keys) :
    let R1 := R.modify h .empty (·.insert b (-1, 1))
    (if (R1.getD b .empty).contains h then R1
      else R1.modify b .empty (·.insert h (-1, 1))).keys = R.keys := by
  intro R1
  have h1 : R1.keys = R.keys := keys_modify_of_contains _ _ ((mem_keys_iff _ _).mp hh)
  split
  · exact h1
  · exact (keys_modify_of_contains _ _ ((mem_keys_iff _ _).mp (h1 ▸ hb))).trans h1

/-! ### Words -/

/-- What the words of a file keep: `router_list[ROUTER]` holds the links
    declared so far and has the routers named so far as keys, and
    `router_list[NODE]` and `node_list` hold the attachments declared so far. -/
structure NetInv (net : Network) (ds : List (Int × Int × Int)) (rs : List Int)
    (atts : List (Int × Int)) : Prop where
  links : LinksMatch net.routerList.router ds
  routers : ∀ k, k ∈ net.routerList.router.keys ↔ k ∈ rs
  nodes : ∀ t n, (net.routerList.node.getD t .empty).find? n =
    if (t, n) ∈ atts then some (-1, 1) else none
  nodeList : ∀ t n, net.nodeList.find? n = some t ↔ (t, n) ∈ atts

section Words

variable {net net' : Network} {ds : List (Int × Int × Int)} {rs : List Int}
  {atts : List (Int × Int)}

theorem NetInv.initRouter (hinv : NetInv net ds rs atts) (id : Int) :
    NetInv { net with routerList := AnyNet.initRouter net.routerList id } ds (rs ++ [id]) atts :=
  ⟨hinv.links.of_getD fun r => (getD_initRouter _ id r).1,
    fun k => by simp [mem_keys_initRouter, hinv.routers],
    fun t n => by rw [(getD_initRouter _ id t).2]; exact hinv.nodes t n, hinv.nodeList⟩

/-- A latency word on the link the last declaration created. -/
theorem NetInv.setLat {h b x : Int} (hinv : NetInv net (ds ++ [(h, b, x)]) rs atts)
    (hh : h ∈ rs) (w : Int) :
    NetInv { net with routerList := { net.routerList with
      router := net.routerList.router.modify h .empty
        (·.modify b (0, 0) (fun p => (p.1, w))) } } (ds ++ [(h, b, w)]) rs atts :=
  ⟨hinv.links.setLat w, fun k => by
    rw [← hinv.routers]
    exact iff_of_eq (congrArg _ (keys_modify_of_contains _ _
      ((mem_keys_iff _ _).mp ((hinv.routers h).mpr hh)))), hinv.nodes, hinv.nodeList⟩

/-- The `BODY_ID` word: the body declares its link, names its router, and
    declares its attachment, the last where the check allows it. -/
theorem bodyIdCase_netInv {ls ls' : LineState} {temp : List Char} (hinv : NetInv net ds rs atts)
    (h : bodyIdCase net ls temp = .ok (net', ls')) (hid : ls.headId ∈ rs) :
    let b : Body := ⟨ls.bodyType, atoi temp, 1⟩
    NetInv net' (ds ++ (b.link ls.headType ls.headId).toList) (rs ++ b.router.toList)
      (atts ++ (b.attachment ls.headType ls.headId).toList) := by
  intro b
  set rl := if ls.bodyType = .router then AnyNet.initRouter net.routerList (atoi temp)
    else net.routerList with hrl
  -- A router body first creates the router's keys in both maps.
  have hinv' : NetInv { net with routerList := rl } ds (rs ++ b.router.toList) atts := by
    rw [hrl]
    split
    · rename_i hbt
      simpa [Body.router, b, hbt] using hinv.initRouter (atoi temp)
    · rename_i hbt
      simpa [Body.router, b, hbt] using hinv
  obtain ⟨hm, hr, hN, hL⟩ := hinv'
  simp only [bodyIdCase, ← hrl] at h
  split at h
  · -- A node body on a node line: "Cannot connect node to node".
    cases h
  all_goals rename_i hht hbt
  · -- A router body on a node line attaches the head node to the body router.
    split_ifs at h with hc
    cases h
    have hg : net.nodeList.contains ls.headId = true → net.nodeList.getD ls.headId 0 = atoi temp :=
      fun h1 => by simpa [h1] using hc
    have e1 : b.link ls.headType ls.headId = none := by simp [Body.link, b, hht]
    have e2 : b.attachment ls.headType ls.headId = some (atoi temp, ls.headId) := by
      simp [Body.attachment, b, hht, hbt]
    rw [e1, e2, Option.toList_none, Option.toList_some, List.append_nil]
    exact ⟨hm, hr, (nodes_attach hN hL hg).1, (nodes_attach hN hL hg).2⟩
  · -- A node body on a router line attaches the body node to the head router.
    split_ifs at h with hc
    cases h
    have hg : net.nodeList.contains (atoi temp) = true →
        net.nodeList.getD (atoi temp) 0 = ls.headId := fun h1 => by simpa [h1] using hc
    have e1 : b.link ls.headType ls.headId = none := by simp [Body.link, b, hbt]
    have e2 : b.attachment ls.headType ls.headId = some (ls.headId, atoi temp) := by
      simp [Body.attachment, b, hht, hbt]
    rw [e1, e2, Option.toList_none, Option.toList_some, List.append_nil]
    exact ⟨hm, hr, (nodes_attach hN hL hg).1, (nodes_attach hN hL hg).2⟩
  · -- A router body on a router line declares the link both ways.
    cases h
    have e1 : b.link ls.headType ls.headId = some (ls.headId, atoi temp, 1) := by
      simp [Body.link, b, hht, hbt]
    have e2 : b.attachment ls.headType ls.headId = none := by simp [Body.attachment, b, hht, hbt]
    rw [e1, e2, Option.toList_none, Option.toList_some, List.append_nil]
    have hkeys := keys_link ((hr ls.headId).mpr (List.mem_append_left _ hid))
      ((hr (atoi temp)).mpr (by simp [Body.router, b, hbt]))
    exact ⟨hm.link _ _, fun k => by rw [← hr, ← hkeys], hN, hL⟩
  · -- An unknown type on either side: the maps stay as the router body left them.
    cases h
    have e1 : b.link ls.headType ls.headId = none := by
      simp only [Body.link, b]
      exact if_neg fun h' => hbt h'.1 h'.2
    have e2 : b.attachment ls.headType ls.headId = none := by
      unfold Body.attachment
      split <;> simp_all [b]
    simp only [e1, e2, Option.toList_none, List.append_nil]
    exact ⟨hm, hr, hN, hL⟩

end Words

/-- The bodies of a line of the documented shape declare what their `Body`s
    say. -/
theorem parseTokens_bodies {headRouter : Bool} {net' : Network} :
    ∀ {ts : List (List Char)} {net : Network} {ls : LineState} {ds : List (Int × Int × Int)}
      {rs : List Int} {atts : List (Int × Int)},
      parseTokens net ls ts = .ok net' → bodiesShaped headRouter ts = true →
      NetInv net ds rs atts → ls.headId ∈ rs →
      (ls.state = .bodyType ∨ ls.state = .linkWeight) →
      (headRouter = true → ls.headType = .router) →
      NetInv net' (ds ++ (lineBodies ts).filterMap (Body.link ls.headType ls.headId))
        (rs ++ (lineBodies ts).filterMap Body.router)
        (atts ++ (lineBodies ts).filterMap (Body.attachment ls.headType ls.headId))
  | [], _, _, _, _, _, h, _, hinv, _, _, _ => by cases h; simpa [lineBodies] using hinv
  | [_], _, _, _, _, _, _, hb, _, _, _, _ => by simp [bodiesShaped] at hb
  | [_, _], _, _, _, _, _, h, hb, hinv, hid, hst, _ => by
    -- One body, and the end of the line.
    rw [parseTokens_body hst hb] at h
    obtain ⟨_, hbody, h⟩ := bind_eq_ok h
    cases h
    simpa only [lineBodies, List.filterMap_cons_toList, List.filterMap_nil, List.append_nil] using
      bodyIdCase_netInv hinv hbody hid
  | t :: i :: w :: rest, _, ls, ds, rs, atts, h, hb, hinv, hid, hst, hh => by
    simp only [bodiesShaped, Bool.and_eq_true] at hb
    rw [parseTokens_body hst hb.1] at h
    obtain ⟨⟨_, ls₂⟩, hbody, h⟩ := bind_eq_ok h
    have hinv2 := bodyIdCase_netInv hinv hbody hid
    have hst₂ : ls₂.state = .linkWeight := by rw [bodyIdCase_ls hbody]
    obtain rfl := bodyIdCase_ls hbody
    by_cases hw : isTypeWord w = true
    · -- The next word starts the next body.
      rw [if_pos hw] at hb
      simpa only [lineBodies, hw, if_true, List.filterMap_cons_toList, List.append_assoc] using
        parseTokens_bodies h hb.2 hinv2 (List.mem_append_left _ hid) (.inr rfl) hh
    · -- The next word is the body's latency, on a link of a router line.
      rw [if_neg hw] at hb
      simp only [Bool.and_eq_true, decide_eq_true_eq] at hb
      obtain ⟨-, ⟨⟨hr, htr⟩, -⟩, hrest⟩ := hb
      rw [parseTokens_cons_of_ok (parseToken_latency_eq hst₂ (by simpa using hw) (hh hr))] at h
      have hlink : ∀ x, (Body.mk (typeOf t) (atoi i) x).link ls.headType ls.headId =
          some (ls.headId, atoi i, x) := fun x => by simp [Body.link, hh hr, htr, typeOf]
      simp only [hlink, Option.toList_some] at hinv2
      simpa only [lineBodies, hw, Bool.false_eq_true, if_false, List.filterMap_cons_toList,
        hlink, Option.toList_some, Body.router, Body.attachment, List.append_assoc,
        List.singleton_append] using
        parseTokens_bodies h hrest (hinv2.setLat (List.mem_append_left _ hid) (atoi w))
          (List.mem_append_left _ hid) (.inr rfl) hh

/-- A line of the documented shape declares what its `lineLinks`,
    `lineRouters` and `lineAttachments` say. -/
theorem parseLine_netInv {net net' : Network} {line : List Char} {ds : List (Int × Int × Int)}
    {rs : List Int} {atts : List (Int × Int)}
    (hl : (line.isEmpty || lineShaped (tokens line)) = true) (hinv : NetInv net ds rs atts)
    (h : parseLine net line = .ok net') :
    NetInv net' (ds ++ lineLinks (tokens line)) (rs ++ lineRouters (tokens line))
      (atts ++ lineAttachments (tokens line)) := by
  simp only [parseLine] at h
  split at h
  · rename_i he
    cases h
    rw [List.isEmpty_iff.mp he]
    show NetInv net (ds ++ []) (rs ++ []) (atts ++ [])
    simpa only [List.append_nil] using hinv
  · rename_i hne
    simp only [hne, Bool.false_or] at hl
    obtain ⟨t, i, rest, htk, ht, hb⟩ := lineShaped_cons hl
    rw [htk] at h ⊢
    rw [parseTokens_cons_of_ok (parseToken_headType_eq rfl ht),
      parseTokens_cons_of_ok (parseToken_headId_eq rfl)] at h
    simpa only [lineLinks, lineRouters, lineAttachments, List.append_assoc,
      List.singleton_append] using
      parseTokens_bodies h hb (hinv.initRouter (atoi i)) (List.mem_append_right _ (.head _))
        (.inl rfl) (fun hr => by simpa [typeOf] using hr)

theorem parseLines_netInv {net net' : Network} {lines : List (List Char)}
    {ds : List (Int × Int × Int)} {rs : List Int} {atts : List (Int × Int)}
    (hshape : ∀ line ∈ lines, (line.isEmpty || lineShaped (tokens line)) = true)
    (hinv : NetInv net ds rs atts) (h : parseLines net lines = .ok net') :
    NetInv net' (ds ++ lines.flatMap fun line => lineLinks (tokens line))
      (rs ++ lines.flatMap fun line => lineRouters (tokens line))
      (atts ++ lines.flatMap fun line => lineAttachments (tokens line)) := by
  induction lines generalizing net ds rs atts with
  | nil => cases h; simpa using hinv
  | cons line lines ih =>
    simp only [parseLines] at h
    cases hl : parseLine net line with
    | error e => rw [hl] at h; cases h
    | ok net₁ =>
      rw [hl] at h
      simpa only [List.flatMap_cons, List.append_assoc] using
        ih (fun l hl' => hshape l (.tail _ hl')) (parseLine_netInv (hshape _ (.head _)) hinv hl) h

theorem netInv_empty : NetInv Network.empty [] [] [] :=
  ⟨fun _ _ => rfl, fun _ => Iff.rfl, fun _ _ => rfl, fun _ _ => by simp [Network.empty]⟩

/-- `readFile` returns the maps its lines leave, if they pass its checks. -/
theorem readFile_ok {text : List Char} {net : Network} (h : readFile text = .ok net) :
    parseLines Network.empty (text.splitOn '\n') = .ok net := by
  simp only [readFile] at h
  cases hp : parseLines Network.empty (text.splitOn '\n') with
  | error e => rw [hp] at h; cases h
  | ok net₀ =>
    simp only [hp, bind, Except.bind] at h
    split_ifs at h
    cases h
    rfl

theorem readFile_netInv {text : List Char} (hshape : fileShaped text = true) {net : Network}
    (h : readFile text = .ok net) :
    NetInv net (fileLinks text) (fileRouters text) (fileAttachments text) := by
  simpa [fileLinks, fileRouters, fileAttachments] using
    parseLines_netInv (List.all_eq_true.mp hshape) netInv_empty (readFile_ok h)

/-! ### What `readFile` leaves -/

/-- For a file every line of which is empty or of the documented shape, the
    links `readFile` leaves in `router_list[ROUTER]` are exactly those the
    file declares, each with the latency the header gives it: that of its
    last declaration in a line of its source, `1` if that declaration gives
    none, and `1` for a link that only its target's line declares. -/
theorem readFile_links_declared (text : List Char) (hshape : fileShaped text = true)
    (net : Network) (h : readFile text = .ok net) (r s : Int) :
    ((net.routerList.router.getD r .empty).find? s).map Prod.snd =
      declaredLat (fileLinks text) r s :=
  (readFile_netInv hshape h).links r s

/-- The header's example 1. -/
theorem readFile_links_example1 :
    ∃ net, readFile "router 0 router 1 15 router 2".toList = .ok net ∧
      ∀ r s, ((net.routerList.router.getD r .empty).find? s).map Prod.snd =
        declaredLat (fileLinks "router 0 router 1 15 router 2".toList) r s :=
  ⟨_, rfl, readFile_links_declared "router 0 router 1 15 router 2".toList (by decide) _ rfl⟩

/-- As the header reads it: `15` cycles from router `0` to router `1`, one
    cycle back, one cycle to router `2`. -/
example : declaredLat (fileLinks "router 0 router 1 15 router 2".toList) 0 1 = some 15 ∧
    declaredLat (fileLinks "router 0 router 1 15 router 2".toList) 1 0 = some 1 ∧
    declaredLat (fileLinks "router 0 router 1 15 router 2".toList) 0 2 = some 1 := by
  decide

/-- For a file every line of which is empty or of the documented shape, the
    routers of `router_list[ROUTER]` are the ids the file names as a line's
    head, router or node, or as a router body; `router_list[NODE]` holds
    exactly the attachments the file declares, each at latency `1`; and
    `node_list` maps each attached node to its router. -/
theorem readFile_routers_nodes_declared (text : List Char) (hshape : fileShaped text = true)
    (net : Network) (h : readFile text = .ok net) :
    (∀ k, k ∈ net.routerList.router.keys ↔ k ∈ fileRouters text) ∧
    (∀ t n, (net.routerList.node.getD t .empty).find? n =
      if (t, n) ∈ fileAttachments text then some (-1, 1) else none) ∧
    ∀ t n, net.nodeList.find? n = some t ↔ (t, n) ∈ fileAttachments text :=
  have hinv := readFile_netInv hshape h
  ⟨hinv.routers, hinv.nodes, hinv.nodeList⟩

/-- A node line: node `1`, attached to router `0`, also becomes router `1`. -/
theorem readFile_node_line_declared :
    ∃ net, readFile "router 0 node 0\nnode 1 router 0".toList = .ok net ∧
      (∀ k, k ∈ net.routerList.router.keys ↔
        k ∈ fileRouters "router 0 node 0\nnode 1 router 0".toList) ∧
      (∀ t n, (net.routerList.node.getD t .empty).find? n =
        if (t, n) ∈ fileAttachments "router 0 node 0\nnode 1 router 0".toList then some (-1, 1)
        else none) ∧
      ∀ t n, net.nodeList.find? n = some t ↔
        (t, n) ∈ fileAttachments "router 0 node 0\nnode 1 router 0".toList :=
  ⟨_, rfl, readFile_routers_nodes_declared "router 0 node 0\nnode 1 router 0".toList
    (by decide) _ rfl⟩

example : fileRouters "router 0 node 0\nnode 1 router 0".toList = [0, 1, 0] ∧
    fileAttachments "router 0 node 0\nnode 1 router 0".toList = [(0, 0), (0, 1)] := by
  decide

/-- For a file every line of which is empty or of the documented shape, the
    links `readFile` leaves in `router_list[ROUTER]` go both ways and have
    positive latencies, and no node of `router_list[NODE]` is attached to two
    routers: the `symm` and `pos` fields of `Topology`, and the attachment
    that `build_net_routes_shortest` asks of the file. -/
theorem readFile_links_symm_pos_attached (text : List Char) (hshape : fileShaped text = true)
    (net : Network) (h : readFile text = .ok net) :
    (∀ r s, s ∈ (net.routerList.router.getD r .empty).keys →
      r ∈ (net.routerList.router.getD s .empty).keys ∧ 0 < linkLat net.routerList.router r s) ∧
    ∀ t t' n, n ∈ (net.routerList.node.getD t .empty).keys →
      n ∈ (net.routerList.node.getD t' .empty).keys → t = t' := by
  obtain ⟨hm, -, hN, hL⟩ := readFile_netInv hshape h
  have hkey : ∀ r s, s ∈ (net.routerList.router.getD r .empty).keys ↔
      (declaredLat (fileLinks text) r s).isSome := fun r s => by
    rw [mem_keys_iff, ← hm r s]
    simp [contains]
  have hatt : ∀ t n, n ∈ (net.routerList.node.getD t .empty).keys → net.nodeList.find? n = some t :=
    fun t n hn => by
      rw [mem_keys_iff, contains, hN] at hn
      split at hn
      · exact (hL t n).mpr ‹_›
      · cases hn
  refine ⟨fun r s hs => ⟨(hkey s r).mpr ?_, ?_⟩, fun t t' n h1 h2 => ?_⟩
  · exact (declaredLat_isSome _ _ _).mpr ((declaredLat_isSome _ _ _).mp ((hkey r s).mp hs)).symm
  · obtain ⟨v, hv⟩ := Option.isSome_iff_exists.mp ((mem_keys_iff _ _).mp hs)
    have hl : linkLat net.routerList.router r s = v.2 := by
      show (((net.routerList.router.getD r .empty).find? s).getD (0, 0)).2 = v.2
      rw [hv]
      rfl
    rw [hl]
    exact declaredLat_pos (fileLinks_pos hshape) (by rw [← hm r s, hv]; rfl)
  · exact Option.some.inj ((hatt t n h1).symm.trans (hatt t' n h2))

/-- Two routers, a `5`-cycle link from `0` to `1`, one node each. -/
theorem readFile_links_two_routers :
    ∃ net, readFile "router 0 node 0 router 1 5\nrouter 1 node 1".toList = .ok net ∧
      (∀ r s, s ∈ (net.routerList.router.getD r .empty).keys →
        r ∈ (net.routerList.router.getD s .empty).keys ∧ 0 < linkLat net.routerList.router r s) ∧
      ∀ t t' n, n ∈ (net.routerList.node.getD t .empty).keys →
        n ∈ (net.routerList.node.getD t' .empty).keys → t = t' :=
  ⟨_, rfl, readFile_links_symm_pos_attached "router 0 node 0 router 1 5\nrouter 1 node 1".toList
    (by decide) _ rfl⟩

end AnyNet

end GpuCacheSim
