import Mathlib.Data.List.Sort
import GpuCacheSim.AnyNet.FileLinks

/-!
# The Files `readFile` Accepts

Which files of the documented shape `readFile` accepts, and so which ones end
in one of its assertions.

A file of the documented shape never reaches the assertions on an unknown
line or body type, nor the one on the sizes of the two maps (their keys
agree). What is left is three checks. A node line's body must not be a node
("Cannot connect node to node"); a node must not be attached to a second
router ("trying to connect to multiple router"), where the check compares the
new attachment with `node_list`, which holds the attachments so far; and the
attached node ids must be `0, 1, 2, ...` (the traffic manager's check on the
sorted keys of `node_list`). `readFile_accepts_iff` says when they pass: a
file of the documented shape is accepted exactly when no node line has a node
body, no node is attached to two routers, and the attached nodes are numbered
from `0` without a gap; `readFile_error_checks` says that a rejected one fails
at one of these three checks and at no other assertion.
`readFile_build_in_range` hands what the checks establish to `_BuildNet`:
with the routers numbered from `0` as well, which no check of `readFile`
asks, every index `_BuildNet` uses is in range.

The proof follows the parse the way `readFile_netInv` does, one body, line
and file at a time, and carries `NetInv` along: at each attachment it is
`node_list` that the code reads, and `NetInv.nodeList` turns that into the
attachments declared so far.

## Main definitions

* `lineNodeToNode`, `fileNodeToNode`: A node line with a node body.
* `SingleRouter`: No node is attached to two routers.
* `BodyError`: The assertions a body can fail.

## Theorems

* `bodyIdCase_accepts`: A body passes its checks exactly when it is no node
  body of a node line and agrees with the attachments so far.
* `parseLines_accepts`: The lines pass exactly when no node line has a node
  body and no node is attached to two routers.
* `nodesSequential_iff`: On sorted ids, the traffic manager's check asks for
  `0, ..., k - 1`.
* `readFile_accepts_iff`: What `readFile` accepts, for files of the
  documented shape.
* `readFile_error_checks`: Such a file is rejected only by one of the three
  checks.
* `readFile_build_in_range`: What such a file leaves makes `_BuildNet` index
  in range, once its routers are numbered from `0`.
-/

namespace GpuCacheSim

namespace AnyNet

open StdMap

/-! ### What a file must satisfy -/

/-- Whether a line is a node line with a node body. -/
def lineNodeToNode : List (List Char) → Bool
  | t :: _ :: rest => typeOf t = .node && (lineBodies rest).any fun b => b.ty = .node
  | _ => false

/-- Whether some line of the file is a node line with a node body. -/
def fileNodeToNode (text : List Char) : Bool :=
  (text.splitOn '\n').any fun line => lineNodeToNode (tokens line)

/-- No node is attached to two routers. -/
def SingleRouter (atts : List (Int × Int)) : Prop :=
  ∀ t t' n, (t, n) ∈ atts → (t', n) ∈ atts → t = t'

theorem SingleRouter.of_append {atts new : List (Int × Int)} (h : SingleRouter (atts ++ new)) :
    SingleRouter atts :=
  fun t t' n h1 h2 => h t t' n (List.mem_append_left _ h1) (List.mem_append_left _ h2)

/-- One more attachment keeps `SingleRouter` exactly when it agrees with
    those before it. -/
theorem SingleRouter.append_toList {atts : List (Int × Int)} (hs : SingleRouter atts)
    (o : Option (Int × Int)) :
    SingleRouter (atts ++ o.toList) ↔ ∀ x ∈ o.toList, ∀ t, (t, x.2) ∈ atts → t = x.1 := by
  cases o with
  | none => simpa using hs
  | some x =>
    simp only [Option.toList_some, List.mem_singleton, forall_eq]
    refine ⟨fun h t ht => h t x.1 x.2 (List.mem_append_left _ ht) (by simp), fun h => ?_⟩
    intro t t' n h1 h2
    simp only [List.mem_append, List.mem_singleton] at h1 h2
    rcases h1 with h1 | rfl <;> rcases h2 with h2 | h2
    · exact hs t t' n h1 h2
    · cases h2
      exact h t h1
    · exact (h t' h2).symm
    · cases h2
      rfl

/-! ### The checks of a body -/

/-- The "trying to connect to multiple router" check on `node_list`, read
    through the attachments it holds. -/
theorem nodeList_check {L : StdMap Int} {atts : List (Int × Int)}
    (hL : ∀ t n, L.find? n = some t ↔ (t, n) ∈ atts) (n t₀ : Int) :
    (L.contains n && decide (L.getD n 0 ≠ t₀)) = true ↔ ∃ t, (t, n) ∈ atts ∧ t ≠ t₀ := by
  simp only [← hL]
  cases h : L.find? n <;> simp [contains, getD, h]

variable {net : Network} {ds : List (Int × Int × Int)} {rs : List Int} {atts : List (Int × Int)}

/-- A `BODY_ID` word passes its checks exactly when the body is no node body
    of a node line and its attachment agrees with those declared so far. -/
theorem bodyIdCase_accepts {ls : LineState} {temp : List Char} (hinv : NetInv net ds rs atts) :
    (∃ r, bodyIdCase net ls temp = .ok r) ↔ ¬(ls.headType = .node ∧ ls.bodyType = .node) ∧
      ∀ x ∈ ((Body.mk ls.bodyType (atoi temp) 1).attachment ls.headType ls.headId).toList,
        ∀ t, (t, x.2) ∈ atts → t = x.1 := by
  have hc := nodeList_check hinv.nodeList
  rcases ls with ⟨st, hid, ht, bt, bid⟩
  cases ht <;> cases bt
  case node.router | router.node =>
    simp only [bodyIdCase, Body.attachment, Option.toList_some, List.mem_singleton, forall_eq,
      reduceCtorEq, ↓reduceIte]
    split_ifs with h
    · obtain ⟨t, ht, hne⟩ := (hc _ _).1 h
      exact iff_of_false (by simp) fun ⟨_, h'⟩ => hne (h' t ht)
    · exact iff_of_true ⟨_, rfl⟩
        ⟨by simp, fun t ht => by_contra fun hne => h ((hc _ _).2 ⟨t, ht, hne⟩)⟩
  all_goals simp [bodyIdCase, Body.attachment]

/-- A body that passes its checks leaves no node attached to two routers. -/
theorem SingleRouter.of_bodyIdCase {ls : LineState} {temp : List Char} {r : Network × LineState}
    (hinv : NetInv net ds rs atts) (hs : SingleRouter atts) (h : bodyIdCase net ls temp = .ok r) :
    SingleRouter (atts ++
      ((Body.mk ls.bodyType (atoi temp) 1).attachment ls.headType ls.headId).toList) :=
  (hs.append_toList _).2 ((bodyIdCase_accepts hinv).1 ⟨_, h⟩).2

/-! ### The checks of a line -/

/-- The checks of a body followed by those of the bodies after it are the
    checks of them all. -/
theorem accepts_cons {ht : ParseType} {hid : Int} (hs : SingleRouter atts) (b : Body)
    (L : List Body) :
    (¬(ht = .node ∧ b.ty = .node) ∧
      (∀ x ∈ (b.attachment ht hid).toList, ∀ t, (t, x.2) ∈ atts → t = x.1) ∧
      (ht = .node → ∀ b ∈ L, b.ty ≠ .node) ∧
      SingleRouter (atts ++ (b.attachment ht hid).toList ++ L.filterMap (Body.attachment ht hid))) ↔
    (ht = .node → ∀ b' ∈ b :: L, b'.ty ≠ .node) ∧
      SingleRouter (atts ++ (b :: L).filterMap (Body.attachment ht hid)) := by
  rw [List.filterMap_cons_toList, ← List.append_assoc, List.forall_mem_cons]
  constructor
  · rintro ⟨h1, -, h3, h4⟩
    exact ⟨fun h => ⟨fun h' => h1 ⟨h, h'⟩, h3 h⟩, h4⟩
  · rintro ⟨h1, h2⟩
    exact ⟨fun ⟨h, h'⟩ => (h1 h).1 h', (hs.append_toList _).1 h2.of_append, fun h => (h1 h).2, h2⟩

/-- A body, a type word then an id, of any latency: when the rest of the line
    passes exactly under the checks of the bodies `L` after it, the line
    passes exactly under the checks of the body and of `L`. -/
theorem body_accepts {ls : LineState} {t : List Char} (i : List Char) (lat : Int)
    (rest : List (List Char)) (L : List Body) (hinv : NetInv net ds rs atts)
    (hs : SingleRouter atts) (hst : ls.state = .bodyType ∨ ls.state = .linkWeight)
    (ht : isTypeWord t = true)
    (hrest : ∀ net₂ ls₂, bodyIdCase net { ls with bodyType := typeOf t, state := .bodyId } i =
      .ok (net₂, ls₂) → ((∃ net', parseTokens net₂ ls₂ rest = .ok net') ↔
        (ls.headType = .node → ∀ b ∈ L, b.ty ≠ .node) ∧
        SingleRouter (atts ++ ((Body.mk (typeOf t) (atoi i) lat).attachment ls.headType
          ls.headId).toList ++ L.filterMap (Body.attachment ls.headType ls.headId)))) :
    (∃ net', parseTokens net ls (t :: i :: rest) = .ok net') ↔
      (ls.headType = .node → ∀ b ∈ Body.mk (typeOf t) (atoi i) lat :: L, b.ty ≠ .node) ∧
      SingleRouter (atts ++ (Body.mk (typeOf t) (atoi i) lat :: L).filterMap
        (Body.attachment ls.headType ls.headId)) := by
  have hacc : (∃ r, bodyIdCase net { ls with bodyType := typeOf t, state := .bodyId } i = .ok r) ↔
      _ := bodyIdCase_accepts hinv
  rw [parseTokens_body hst ht, exists_bind_eq_ok, ← accepts_cons hs]
  constructor
  · rintro ⟨r, hb, hr⟩
    exact ⟨(hacc.1 ⟨r, hb⟩).1, (hacc.1 ⟨r, hb⟩).2, (hrest r.1 r.2 hb).1 hr⟩
  · rintro ⟨h1, h2, hP⟩
    obtain ⟨r, hb⟩ := hacc.2 ⟨h1, h2⟩
    exact ⟨r, hb, (hrest r.1 r.2 hb).2 hP⟩

/-- The bodies of a line of the documented shape pass exactly when none is a
    node body of a node line and no node ends up attached to two routers. -/
theorem parseTokens_bodies_accepts {headRouter : Bool} :
    ∀ {ts : List (List Char)} {net : Network} {ls : LineState} {ds : List (Int × Int × Int)}
      {rs : List Int} {atts : List (Int × Int)},
      bodiesShaped headRouter ts = true → NetInv net ds rs atts → SingleRouter atts →
      ls.headId ∈ rs → (ls.state = .bodyType ∨ ls.state = .linkWeight) →
      (headRouter = true → ls.headType = .router) →
      ((∃ net', parseTokens net ls ts = .ok net') ↔
        (ls.headType = .node → ∀ b ∈ lineBodies ts, b.ty ≠ .node) ∧
        SingleRouter (atts ++ (lineBodies ts).filterMap (Body.attachment ls.headType ls.headId)))
  | [], _, _, _, _, _, _, _, hs, _, _, _ => by simp [parseTokens, lineBodies, hs]
  | [_], _, _, _, _, _, hb, _, _, _, _, _ => by simp [bodiesShaped] at hb
  | [_, i], _, _, _, _, _, hb, hinv, hs, _, hst, _ =>
    -- One body, and the end of the line.
    body_accepts i 1 [] [] hinv hs hst hb fun _ _ hbody => iff_of_true ⟨_, rfl⟩
      ⟨(fun _ _ h => nomatch h), by
        rw [List.filterMap_nil, List.append_nil]
        exact hs.of_bodyIdCase hinv hbody⟩
  | t :: i :: w :: rest, _, ls, _, _, _, hb, hinv, hs, hid, hst, hh => by
    simp only [bodiesShaped, Bool.and_eq_true] at hb
    by_cases hw : isTypeWord w = true
    · -- The next word starts the next body.
      rw [if_pos hw] at hb
      have hL : lineBodies (t :: i :: w :: rest) = ⟨typeOf t, atoi i, 1⟩ :: lineBodies (w :: rest) := by
        simp [lineBodies, hw]
      rw [hL]
      exact body_accepts i 1 (w :: rest) _ hinv hs hst hb.1 fun _ _ hbody => by
        obtain rfl := bodyIdCase_ls hbody
        exact parseTokens_bodies_accepts hb.2 (bodyIdCase_netInv hinv hbody hid)
          (hs.of_bodyIdCase hinv hbody) (List.mem_append_left _ hid) (.inr rfl) hh
    · -- The next word is the body's latency, on a link of a router line: it
      -- passes, and the bodies after it decide.
      rw [if_neg hw] at hb
      simp only [Bool.and_eq_true, decide_eq_true_eq] at hb
      obtain ⟨ht, ⟨⟨hr, htr⟩, -⟩, hrest⟩ := hb
      have hL : lineBodies (t :: i :: w :: rest) = ⟨typeOf t, atoi i, atoi w⟩ :: lineBodies rest := by
        simp [lineBodies, hw]
      rw [hL]
      exact body_accepts i (atoi w) (w :: rest) _ hinv hs hst ht fun _ ls₂ hbody => by
        have hst₂ : ls₂.state = .linkWeight := by rw [bodyIdCase_ls hbody]
        obtain rfl := bodyIdCase_ls hbody
        rw [parseTokens_cons_of_ok (parseToken_latency_eq hst₂ (by simpa using hw) (hh hr))]
        have hinv₂ := bodyIdCase_netInv hinv hbody hid
        simp only [show (Body.mk (typeOf t) (atoi i) 1).link ls.headType ls.headId =
          some (ls.headId, atoi i, 1) by simp [Body.link, hh hr, htr, typeOf],
          Option.toList_some] at hinv₂
        exact parseTokens_bodies_accepts hrest (hinv₂.setLat (List.mem_append_left _ hid) (atoi w))
          (hs.of_bodyIdCase hinv hbody) (List.mem_append_left _ hid) (.inr rfl) hh

/-- A line that is empty or of the documented shape passes exactly when it is
    no node line with a node body and no node ends up attached to two
    routers. -/
theorem parseLine_accepts {line : List Char}
    (hl : (line.isEmpty || lineShaped (tokens line)) = true) (hinv : NetInv net ds rs atts)
    (hs : SingleRouter atts) :
    (∃ net', parseLine net line = .ok net') ↔
      lineNodeToNode (tokens line) = false ∧ SingleRouter (atts ++ lineAttachments (tokens line)) := by
  simp only [parseLine]
  split
  · rename_i he
    rw [List.isEmpty_iff.mp he]
    exact iff_of_true ⟨_, rfl⟩ ⟨rfl, show SingleRouter (atts ++ []) by simpa using hs⟩
  · rename_i hne
    simp only [hne, Bool.false_or] at hl
    obtain ⟨t, i, rest, htk, ht, hb⟩ := lineShaped_cons hl
    rw [htk, parseTokens_cons_of_ok (parseToken_headType_eq rfl ht),
      parseTokens_cons_of_ok (parseToken_headId_eq rfl)]
    refine (parseTokens_bodies_accepts hb (hinv.initRouter (atoi i)) hs
      (List.mem_append_right _ (.head _)) (.inl rfl) (fun hr => by simpa [typeOf] using hr)).trans ?_
    simp [lineNodeToNode, lineAttachments]

/-- The lines of a file, each empty or of the documented shape, pass exactly
    when no node line has a node body and no node ends up attached to two
    routers. -/
theorem parseLines_accepts {lines : List (List Char)}
    (hshape : ∀ line ∈ lines, (line.isEmpty || lineShaped (tokens line)) = true)
    (hinv : NetInv net ds rs atts) (hs : SingleRouter atts) :
    (∃ net', parseLines net lines = .ok net') ↔
      (lines.any fun line => lineNodeToNode (tokens line)) = false ∧
      SingleRouter (atts ++ lines.flatMap fun line => lineAttachments (tokens line)) := by
  induction lines generalizing net ds rs atts with
  | nil => simpa [parseLines] using hs
  | cons line lines ih =>
    have hl := hshape line (.head _)
    have hline := parseLine_accepts hl hinv hs
    have ih' := fun {net₁ : Network} (h₁ : parseLine net line = .ok net₁) hs₁ =>
      ih (fun l hl' => hshape l (.tail _ hl')) (parseLine_netInv hl hinv h₁) hs₁
    simp only [parseLines, exists_bind_eq_ok, List.any_cons, Bool.or_eq_false_iff,
      List.flatMap_cons, ← List.append_assoc]
    constructor
    · rintro ⟨net₁, h₁, hrest⟩
      obtain ⟨hnn, hs₁⟩ := hline.1 ⟨_, h₁⟩
      obtain ⟨hnn', hs'⟩ := (ih' h₁ hs₁).1 hrest
      exact ⟨⟨hnn, hnn'⟩, hs'⟩
    · rintro ⟨⟨hnn, hnn'⟩, hs'⟩
      obtain ⟨net₁, h₁⟩ := hline.2 ⟨hnn, hs'.of_append⟩
      exact ⟨net₁, h₁, (ih' h₁ hs'.of_append).2 ⟨hnn', hs'⟩⟩

/-! ### The numbering check -/

theorem enumFrom_all_iff (l : List Int) (s : Nat) :
    ((l.enumFrom s).all fun p => p.2 = p.1) = true ↔ l = (List.range' s l.length).map (↑) := by
  induction l generalizing s with
  | nil => simp
  | cons a l ih => simp [List.range'_succ, ih (s + 1)]

theorem mem_map_range' (k : Nat) (n : Int) :
    n ∈ (List.range' 0 k).map (↑) ↔ 0 ≤ n ∧ n < k :=
  ⟨by simp only [List.mem_map, List.mem_range'_1]; omega,
    fun ⟨_, _⟩ => List.mem_map.2 ⟨n.toNat, List.mem_range'_1.2 (by omega), by omega⟩⟩

/-- Strictly increasing ids that are exactly those of `0, ..., k - 1` are that
    list. -/
theorem eq_range_of_mem_iff {l : List Int} (hl : l.Pairwise (· < ·)) {k : Nat}
    (hk : ∀ n : Int, n ∈ l ↔ 0 ≤ n ∧ n < k) : l = (List.range' 0 k).map (↑) :=
  have hr : ((List.range' 0 k).map (↑) : List Int).Pairwise (· < ·) :=
    List.pairwise_map.2 ((List.pairwise_lt_range' 0 k).imp fun h => by exact_mod_cast h)
  List.eq_of_perm_of_sorted ((List.perm_ext_iff_of_nodup (hl.imp ne_of_lt)
    (hr.imp ne_of_lt)).2 fun n => (hk n).trans (mem_map_range' k n).symm) hl hr

/-- A map whose keys are `0, ..., k - 1` has `k` entries. -/
theorem size_of_keys_range {V : Type} (m : StdMap V) {k : Nat}
    (hk : ∀ n : Int, n ∈ m.keys ↔ 0 ≤ n ∧ n < k) : m.size = k :=
  have he : m.keys = _ := eq_range_of_mem_iff (List.pairwise_map.2 m.sorted) hk
  calc m.size = m.keys.length := (List.length_map _ _).symm
    _ = k := by rw [he]; simp

/-- On strictly increasing ids, which the keys of `node_list` are, the
    traffic manager's check holds exactly when the ids are `0, ..., k - 1`. -/
theorem nodesSequential_iff {l : List Int} (hl : l.Pairwise (· < ·)) :
    nodesSequential l = true ↔ ∃ k : Nat, ∀ n : Int, n ∈ l ↔ 0 ≤ n ∧ n < k := by
  rw [nodesSequential, List.enum, enumFrom_all_iff]
  constructor
  · intro h
    exact ⟨l.length, fun n => by conv_lhs => rw [h]
                                 exact mem_map_range' _ n⟩
  · rintro ⟨k, hk⟩
    have he := eq_range_of_mem_iff hl hk
    rw [show l.length = k by rw [he]; simp]
    exact he

/-! ### What `readFile` accepts -/

/-- A file every line of which is empty or of the documented shape is
    accepted by `readFile` exactly when no node line has a node body, no node
    is attached to two routers, and the attached nodes are numbered
    `0, ..., k - 1`. -/
theorem readFile_accepts_iff (text : List Char) (hshape : fileShaped text = true) :
    (∃ net, readFile text = .ok net) ↔ fileNodeToNode text = false ∧
      SingleRouter (fileAttachments text) ∧
      ∃ k : Nat, ∀ n : Int, (∃ t, (t, n) ∈ fileAttachments text) ↔ 0 ≤ n ∧ n < k := by
  have hp := parseLines_accepts (List.all_eq_true.mp hshape) netInv_empty
    (fun _ _ _ h => nomatch h)
  simp only [List.nil_append] at hp
  simp only [readFile, exists_bind_eq_ok]
  cases h : parseLines Network.empty (text.splitOn '\n') with
  | error e =>
    -- A line fails a check, so one of the first two conditions fails.
    rw [h] at hp
    exact iff_of_false (by simp) fun ⟨h1, h2, _⟩ => by simpa using hp.2 ⟨h1, h2⟩
  | ok net =>
    -- The lines pass; the size check cannot fail, and the numbering check
    -- reads the attached nodes.
    rw [h] at hp
    obtain ⟨h1, h2⟩ := hp.1 ⟨_, rfl⟩
    have hinv := parseLines_netInv (List.all_eq_true.mp hshape) netInv_empty h
    have hsize : net.routerList.node.size = net.routerList.router.size :=
      size_eq_of_keys (parseLines_keys rfl h)
    have hkeys : ∀ n, n ∈ net.nodeList.keys ↔ ∃ t, (t, n) ∈ fileAttachments text := fun n => by
      rw [mem_keys_iff, contains, Option.isSome_iff_exists]
      exact exists_congr fun t => by simpa [fileAttachments] using hinv.nodeList t n
    have hseq : nodesSequential net.nodeList.keys = true ↔
        ∃ k : Nat, ∀ n : Int, (∃ t, (t, n) ∈ fileAttachments text) ↔ 0 ≤ n ∧ n < k := by
      have hl : net.nodeList.keys.Pairwise (· < ·) := List.pairwise_map.2 net.nodeList.sorted
      rw [nodesSequential_iff hl]
      exact exists_congr fun k => forall_congr' fun n => by rw [hkeys]
    have h1' : fileNodeToNode text = false := h1
    have h2' : SingleRouter (fileAttachments text) := h2
    rw [← hseq]
    cases hn : nodesSequential net.nodeList.keys <;> simp [hsize, hn, h1', h2']

/-- Two routers with one node each, numbered `0` and `1`. -/
theorem readFile_accepts_two_routers :
    fileShaped "router 0 node 0 router 1 5\nrouter 1 node 1".toList = true ∧
      ((∃ net, readFile "router 0 node 0 router 1 5\nrouter 1 node 1".toList = .ok net) ↔
        fileNodeToNode "router 0 node 0 router 1 5\nrouter 1 node 1".toList = false ∧
        SingleRouter (fileAttachments "router 0 node 0 router 1 5\nrouter 1 node 1".toList) ∧
        ∃ k : Nat, ∀ n : Int, (∃ t, (t, n) ∈
          fileAttachments "router 0 node 0 router 1 5\nrouter 1 node 1".toList) ↔ 0 ≤ n ∧ n < k) :=
  ⟨by decide, readFile_accepts_iff _ (by decide)⟩

/-- Node `1` without a node `0`: the numbering check fails. Node
    `4294967296` is node `0` as `atoi` reads it, and passes. -/
example : readFile "router 0 node 1".toList = .error .nodeNumbering ∧
    (readFile "router 0 node 4294967296".toList).toBool = true := ⟨rfl, by decide⟩

/-! ### How a file of the documented shape fails -/

/-- The assertions a body can fail: "Cannot connect node to node" and
    "trying to connect to multiple router". -/
def BodyError (e : ReadError) : Prop :=
  (∃ temp, e = .nodeToNode temp) ∨ ∃ b o, e = .multipleRouters b o

theorem bind_eq_error {ε α β : Type} {x : Except ε α} {f : α → Except ε β} {e : ε}
    (h : (x >>= f) = .error e) : x = .error e ∨ ∃ a, x = .ok a ∧ f a = .error e := by
  cases x with
  | error e' =>
    cases h
    exact .inl rfl
  | ok a => exact .inr ⟨a, rfl, h⟩

theorem bodyIdCase_error {ls : LineState} {temp : List Char} {e : ReadError}
    (h : bodyIdCase net ls temp = .error e) : BodyError e := by
  simp only [bodyIdCase] at h
  split at h <;> (try split_ifs at h) <;> cases h
  · exact .inl ⟨_, rfl⟩
  all_goals exact .inr ⟨_, _, rfl⟩

/-- The bodies of a line of the documented shape fail only at a body's
    checks. -/
theorem parseTokens_bodies_error {headRouter : Bool} :
    ∀ {ts : List (List Char)} {net : Network} {ls : LineState} {e : ReadError},
      parseTokens net ls ts = .error e → bodiesShaped headRouter ts = true →
      (ls.state = .bodyType ∨ ls.state = .linkWeight) →
      (headRouter = true → ls.headType = .router) → BodyError e
  | [], _, _, _, h, _, _, _ => nomatch h
  | [_], _, _, _, _, hb, _, _ => by simp [bodiesShaped] at hb
  | [_, _], _, _, _, h, hb, hst, _ => by
    rw [parseTokens_body hst hb] at h
    rcases bind_eq_error h with h | ⟨_, _, h⟩
    · exact bodyIdCase_error h
    · cases h
  | t :: i :: w :: rest, _, ls, _, h, hb, hst, hh => by
    simp only [bodiesShaped, Bool.and_eq_true] at hb
    rw [parseTokens_body hst hb.1] at h
    rcases bind_eq_error h with h | ⟨⟨_, ls₂⟩, hbody, h⟩
    · exact bodyIdCase_error h
    have hls := bodyIdCase_ls hbody
    have hst₂ : ls₂.state = .linkWeight := by rw [hls]
    have hh₂ : headRouter = true → ls₂.headType = .router := fun hr => by rw [hls]; exact hh hr
    by_cases hw : isTypeWord w = true
    · rw [if_pos hw] at hb
      exact parseTokens_bodies_error h hb.2 (.inr hst₂) hh₂
    · rw [if_neg hw] at hb
      simp only [Bool.and_eq_true, decide_eq_true_eq] at hb
      obtain ⟨-, ⟨⟨hr, -⟩, -⟩, hrest⟩ := hb
      rw [parseTokens_cons_of_ok (parseToken_latency_eq hst₂ (by simpa using hw) (hh₂ hr))] at h
      exact parseTokens_bodies_error h hrest (.inr hst₂) hh₂

theorem parseLine_error {line : List Char} {e : ReadError}
    (hl : (line.isEmpty || lineShaped (tokens line)) = true) (h : parseLine net line = .error e) :
    BodyError e := by
  simp only [parseLine] at h
  split at h
  · cases h
  · rename_i hne
    simp only [hne, Bool.false_or] at hl
    obtain ⟨t, i, rest, htk, ht, hb⟩ := lineShaped_cons hl
    rw [htk, parseTokens_cons_of_ok (parseToken_headType_eq rfl ht),
      parseTokens_cons_of_ok (parseToken_headId_eq rfl)] at h
    exact parseTokens_bodies_error h hb (.inl rfl) fun hr => by simpa [typeOf] using hr

theorem parseLines_error {lines : List (List Char)} {e : ReadError}
    (hshape : ∀ line ∈ lines, (line.isEmpty || lineShaped (tokens line)) = true)
    (h : parseLines net lines = .error e) : BodyError e := by
  induction lines generalizing net with
  | nil => cases h
  | cons line lines ih =>
    rcases bind_eq_error h with h | ⟨_, -, h⟩
    · exact parseLine_error (hshape _ (.head _)) h
    · exact ih (fun l hl => hshape l (.tail _ hl)) h

/-- A file every line of which is empty or of the documented shape that
    `readFile` rejects is rejected by one of three checks: a node body on a
    node line, a node attached to a second router, or node ids that are not
    `0, ..., k - 1`. No unknown type, no index past `router_list`, and no
    difference in the sizes of the two maps is reached. -/
theorem readFile_error_checks (text : List Char) (hshape : fileShaped text = true)
    (e : ReadError) (h : readFile text = .error e) :
    (∃ temp, e = .nodeToNode temp) ∨ (∃ b o, e = .multipleRouters b o) ∨ e = .nodeNumbering := by
  rcases bind_eq_error h with h | ⟨net, hp, h⟩
  · rcases parseLines_error (List.all_eq_true.mp hshape) h with h | h
    · exact .inl h
    · exact .inr (.inl h)
  · have hsize := size_eq_of_keys (parseLines_keys rfl hp)
    simp only [hsize, ne_eq, not_true_eq_false, if_false] at h
    split_ifs at h
    cases h
    exact .inr (.inr rfl)

/-- Node `0` on routers `0` and `1`. -/
theorem readFile_error_two_routers :
    fileShaped "router 0 node 0\nrouter 1 node 0".toList = true ∧
      readFile "router 0 node 0\nrouter 1 node 0".toList = .error (.multipleRouters 0 0) ∧
      ((∃ temp, ReadError.multipleRouters 0 0 = .nodeToNode temp) ∨
        (∃ b o, ReadError.multipleRouters 0 0 = .multipleRouters b o) ∨
        ReadError.multipleRouters 0 0 = .nodeNumbering) :=
  ⟨by decide, rfl,
    readFile_error_checks "router 0 node 0\nrouter 1 node 0".toList (by decide) _ rfl⟩

/-! ### What `_BuildNet` then indexes -/

/-- What `readFile` accepts has passed the traffic manager's check. -/
theorem readFile_nodesSequential {text : List Char} {net : Network} (h : readFile text = .ok net) :
    nodesSequential net.nodeList.keys = true := by
  have hp := readFile_ok h
  simp only [readFile, hp, bind, Except.bind] at h
  split_ifs at h with _ hn
  simpa using hn

/-- A file of the documented shape that `readFile` accepts makes every call of
    `_BuildNet` index within its array, once its routers are numbered
    `0, ..., size - 1` as the header asks ("Router and node numbers must be
    sequential starting with 0"). `readFile` checks that for the nodes only;
    the router numbering is the one condition left to the file. -/
theorem readFile_build_in_range (text : List Char) (hshape : fileShaped text = true)
    (net : Network) (h : readFile text = .ok net) (size : Nat)
    (hrouters : ∀ r : Int, r ∈ fileRouters text ↔ 0 ≤ r ∧ r < size) :
    ∀ ev ∈ (buildChannels net.routerList).events, ev.inRange (computeSize net) = true := by
  have hinv := readFile_netInv hshape h
  have hR : ∀ r, r ∈ net.routerList.router.keys ↔ 0 ≤ r ∧ r < size :=
    fun r => (hinv.routers r).trans (hrouters r)
  have hsize : (computeSize net).size = size := size_of_keys_range _ hR
  obtain ⟨k, hk⟩ := (nodesSequential_iff (List.pairwise_map.2 net.nodeList.sorted)).1
    (readFile_nodesSequential h)
  have hnodes : (computeSize net).nodes = k := size_of_keys_range _ hk
  refine buildChannels_inRange _ _ (parseLines_keys rfl (readFile_ok h))
    (fun r hr => hsize ▸ (hR r).1 hr) (fun r r' hr' => ?_) (fun r n hn => ?_) le_rfl
  · -- A neighbour is the other end of a declared link, so a named router.
    have hs : (declaredLat (fileLinks text) r r').isSome := by
      rw [← hinv.links r r', Option.isSome_map']
      exact (mem_keys_iff _ _).1 hr'
    rw [hsize, ← hrouters]
    rcases (declaredLat_isSome _ r r').1 hs with ⟨d, hd, -, rfl⟩ | ⟨d, hd, rfl, -⟩
    exacts [(fileLinks_routers d hd).2, (fileLinks_routers d hd).1]
  · -- An attached node is a key of `node_list`, numbered below `_nodes`.
    have ha : (r, n) ∈ fileAttachments text := by
      have hc := (mem_keys_iff _ _).1 hn
      rw [contains, hinv.nodes] at hc
      split_ifs at hc with ha
      exacts [ha, absurd hc Bool.false_ne_true]
    have hn' : n ∈ net.nodeList.keys := by
      rw [mem_keys_iff, contains, (hinv.nodeList r n).2 ha]
      rfl
    exact hnodes ▸ (hk n).1 hn'

/-- Two routers numbered `0` and `1`, one node each. -/
theorem readFile_build_two_routers :
    ∃ net, fileShaped "router 0 node 0 router 1 5\nrouter 1 node 1".toList = true ∧
      readFile "router 0 node 0 router 1 5\nrouter 1 node 1".toList = .ok net ∧
      (∀ r : Int, r ∈ fileRouters "router 0 node 0 router 1 5\nrouter 1 node 1".toList ↔
        0 ≤ r ∧ r < 2) ∧
      ∀ ev ∈ (buildChannels net.routerList).events, ev.inRange (computeSize net) = true :=
  have hr : ∀ r : Int, r ∈ fileRouters "router 0 node 0 router 1 5\nrouter 1 node 1".toList ↔
      0 ≤ r ∧ r < 2 := fun r => by
    rw [show fileRouters "router 0 node 0 router 1 5\nrouter 1 node 1".toList = [0, 1, 1] by
      decide]
    simp only [List.mem_cons, List.mem_singleton, List.not_mem_nil, or_false]
    omega
  ⟨_, by decide, rfl, hr,
    readFile_build_in_range "router 0 node 0 router 1 5\nrouter 1 node 1".toList (by decide) _ rfl 2 hr⟩

end AnyNet

end GpuCacheSim
