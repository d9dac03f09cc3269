import GpuCacheSim.AnyNet.ReadFile

/-!
# What a Network File Declares

The reading of a network file that the header of `anynet.cpp` gives, as an
abstract model for `readFile` to be checked against.

The header reads `router 0 router 1 15 router 2` as: "Router 0 is connect to
router 1 with a 15-cycle channel, and router 0 is connected to router 2 with
a 1-cycle channel, the channels latency are unidirectional, so channel from
router 1 back to router 0 is only single-cycle because it was not
specified". A line is a head and its bodies (`lineBodies`), and each body
declares a link, names a router, or attaches a node (`Body.link`,
`Body.router`, `Body.attachment`). `declaredLat` reads the links as the
header does: the link `r → s` has the latency of the last declaration of `s`
in a line of `r`, and latency `1` where only a line of `s` names `r`. Under
this reading every link goes both ways (`declaredLat_isSome`), and a file
that writes only positive latencies gets only positive ones
(`declaredLat_pos`).

`fileShaped` is the documented shape: every line a head and its bodies, with
a latency only after a router body of a router line, and only a positive
one. A latency after a node body, as in the header's example 2, is not of
that shape.

## Main definitions

* `lineBodies`, `Body`: The bodies of a line, and what each declares.
* `fileLinks`, `fileRouters`, `fileAttachments`: What a file declares.
* `declaredLat`: The latencies of the declared links, as the header reads
  them.
* `fileShaped`: Every line is a head and its bodies, with a positive latency
  only after a router body of a router line.

## Theorems

* `declaredLat_append`: One more declaration.
* `declaredLat_isSome`: A link exists if either end declares it.
* `fileLinks_pos`: A file of the documented shape declares only positive
  latencies.
* `fileLinks_routers`: Both ends of a declared link are routers the file
  names.
-/

namespace GpuCacheSim

namespace AnyNet

/-- A body of a line: its type, its id, and its latency, `1` unless a
    latency word follows it. -/
structure Body where
  ty : ParseType
  id : Int
  lat : Int
  deriving DecidableEq, Repr

/-- The bodies of a line, after its head. -/
def lineBodies : List (List Char) → List Body
  | [] => []
  | [_] => []
  | [t, i] => [⟨typeOf t, atoi i, 1⟩]
  | t :: i :: w :: rest =>
    if isTypeWord w then ⟨typeOf t, atoi i, 1⟩ :: lineBodies (w :: rest)
    else ⟨typeOf t, atoi i, atoi w⟩ :: lineBodies rest

/-- The link a body declares under the head `hid` of type `ht`:
    `(head, body, latency)` for a router body of a router line. -/
def Body.link (ht : ParseType) (hid : Int) (b : Body) : Option (Int × Int × Int) :=
  if ht = .router ∧ b.ty = .router then some (hid, b.id, b.lat) else none

/-- The router a body names, if it is a router body. -/
def Body.router (b : Body) : Option Int :=
  if b.ty = .router then some b.id else none

/-- The attachment `(router, node)` a body declares: a node body of a router
    line, or a router body of a node line. -/
def Body.attachment (ht : ParseType) (hid : Int) (b : Body) : Option (Int × Int) :=
  match ht, b.ty with
  | .router, .node => some (hid, b.id)
  | .node, .router => some (b.id, hid)
  | _, _ => none

/-- The links a line declares. -/
def lineLinks : List (List Char) → List (Int × Int × Int)
  | t :: h :: rest => (lineBodies rest).filterMap (Body.link (typeOf t) (atoi h))
  | _ => []

/-- The routers a line names: its head, router or node, and its router
    bodies. -/
def lineRouters : List (List Char) → List Int
  | _ :: h :: rest => atoi h :: (lineBodies rest).filterMap Body.router
  | _ => []

/-- The attachments a line declares. -/
def lineAttachments : List (List Char) → List (Int × Int)
  | t :: h :: rest => (lineBodies rest).filterMap (Body.attachment (typeOf t) (atoi h))
  | _ => []

/-- The links a file declares, line after line. -/
def fileLinks (text : List Char) : List (Int × Int × Int) :=
  (text.splitOn '\n').flatMap fun line => lineLinks (tokens line)

/-- The routers a file names. -/
def fileRouters (text : List Char) : List Int :=
  (text.splitOn '\n').flatMap fun line => lineRouters (tokens line)

/-- The attachments a file declares. -/
def fileAttachments (text : List Char) : List (Int × Int) :=
  (text.splitOn '\n').flatMap fun line => lineAttachments (tokens line)

/-- The latency of the link `r → s` as the header reads the declarations:
    that of the last declaration of `s` in a line of `r`, else `1` if a line
    of `s` declares `r`; `none` if neither does. -/
def declaredLat (ds : List (Int × Int × Int)) (r s : Int) : Option Int :=
  match (ds.filter fun d => d.1 = r ∧ d.2.1 = s).getLast? with
  | some d => some d.2.2
  | none => if ds.any (fun d => d.1 = s ∧ d.2.1 = r) then some 1 else none

/-- One more declaration, `h → b` at latency `x`: it is the last of its link,
    and it creates the link back where there was none. -/
theorem declaredLat_append (ds : List (Int × Int × Int)) (h b x r s : Int) :
    declaredLat (ds ++ [(h, b, x)]) r s =
      if r = h ∧ s = b then some x
      else if r = b ∧ s = h ∧ declaredLat ds r s = none then some 1
      else declaredLat ds r s := by
  by_cases hrs : r = h ∧ s = b
  · obtain ⟨rfl, rfl⟩ := hrs
    simp [declaredLat]
  · have hf : ¬(h = r ∧ b = s) := fun h' => hrs ⟨h'.1.symm, h'.2.symm⟩
    simp only [declaredLat, List.filter_append, List.filter_singleton, hf, decide_False,
      cond_false, List.append_nil, List.any_append, List.any_cons, List.any_nil, Bool.or_false,
      if_neg hrs]
    split
    · simp
    · by_cases hb : r = b ∧ s = h
      · obtain ⟨rfl, rfl⟩ := hb
        split_ifs <;> simp_all
      · have : ¬(h = s ∧ b = r) := fun h' => hb ⟨h'.2.symm, h'.1.symm⟩
        rw [decide_eq_false this, Bool.or_false]
        exact (if_neg fun h' => hb ⟨h'.1, h'.2.1⟩).symm

/-- A link exists if either end declares it. -/
theorem declaredLat_isSome (ds : List (Int × Int × Int)) (r s : Int) :
    (declaredLat ds r s).isSome ↔
      (∃ d ∈ ds, d.1 = r ∧ d.2.1 = s) ∨ ∃ d ∈ ds, d.1 = s ∧ d.2.1 = r := by
  unfold declaredLat
  split
  · rename_i d hd
    have := List.mem_filter.mp (List.mem_of_getLast?_eq_some hd)
    simp only [Option.isSome_some, true_iff]
    exact .inl ⟨d, this.1, by simpa using this.2⟩
  · rename_i hn
    have hno : ¬∃ d ∈ ds, d.1 = r ∧ d.2.1 = s := fun ⟨d, hd, hrs⟩ => by
      have := List.getLast?_eq_none_iff.mp hn
      exact List.not_mem_nil d (this ▸ List.mem_filter.mpr ⟨hd, by simpa using hrs⟩)
    split <;> simp_all

theorem declaredLat_pos {ds : List (Int × Int × Int)} (hds : ∀ d ∈ ds, 0 < d.2.2) {r s w : Int}
    (h : declaredLat ds r s = some w) : 0 < w := by
  unfold declaredLat at h
  split at h
  · rename_i d hd
    cases h
    exact hds d (List.mem_filter.mp (List.mem_of_getLast?_eq_some hd)).1
  · split at h <;> cases h
    exact Int.one_pos

/-! ### Lines of the documented shape -/

/-- The bodies of a line: a type word and an id, each followed by a latency
    only if it is a router body of a router line and the latency is
    positive. -/
def bodiesShaped (headRouter : Bool) : List (List Char) → Bool
  | [] => true
  | [_] => false
  | [t, _] => isTypeWord t
  | t :: _ :: w :: rest => isTypeWord t && if isTypeWord w then bodiesShaped headRouter (w :: rest)
      else headRouter && t = "router".toList && 0 < atoi w && bodiesShaped headRouter rest

/-- A line: a head, `router <id>` or `node <id>`, then its bodies. -/
def lineShaped : List (List Char) → Bool
  | t :: _ :: rest => isTypeWord t && bodiesShaped (t = "router".toList) rest
  | _ => false

/-- Every line of the file is empty or of the documented shape. -/
def fileShaped (text : List Char) : Bool :=
  (text.splitOn '\n').all fun line => line.isEmpty || lineShaped (tokens line)

/-- The bodies of the documented shape have positive latencies. -/
theorem lineBodies_pos {headRouter : Bool} :
    ∀ {ts : List (List Char)}, bodiesShaped headRouter ts = true → ∀ b ∈ lineBodies ts, 0 < b.lat
  | [], _ => nofun
  | [_], hb => by simp [bodiesShaped] at hb
  | [_, _], _ => by simp [lineBodies]
  | _ :: _ :: w :: rest, hb => by
    simp only [bodiesShaped, Bool.and_eq_true] at hb
    by_cases hw : isTypeWord w = true
    · rw [if_pos hw] at hb
      simp only [lineBodies, hw, if_true, List.mem_cons, forall_eq_or_imp]
      exact ⟨Int.one_pos, lineBodies_pos hb.2⟩
    · rw [if_neg hw] at hb
      simp only [Bool.and_eq_true, decide_eq_true_eq] at hb
      simp only [lineBodies, hw, Bool.false_eq_true, if_false, List.mem_cons, forall_eq_or_imp]
      exact ⟨hb.2.1.2, lineBodies_pos hb.2.2⟩

theorem lineShaped_cons {ts : List (List Char)} (h : lineShaped ts = true) :
    ∃ t i rest, ts = t :: i :: rest ∧ isTypeWord t = true ∧
      bodiesShaped (t = "router".toList) rest = true := by
  rcases ts with _ | ⟨t, _ | ⟨i, rest⟩⟩
  · simp [lineShaped] at h
  · simp [lineShaped] at h
  · simp only [lineShaped, Bool.and_eq_true] at h
    exact ⟨t, i, rest, rfl, h⟩

/-- A file of the documented shape declares only positive latencies. -/
theorem fileLinks_pos {text : List Char} (hshape : fileShaped text = true) :
    ∀ d ∈ fileLinks text, 0 < d.2.2 := by
  intro d hd
  obtain ⟨line, hl, hd⟩ := List.mem_flatMap.mp hd
  rcases Bool.or_eq_true _ _ |>.mp (List.all_eq_true.mp hshape line hl) with he | hs
  · rw [List.isEmpty_iff.mp he] at hd
    exact absurd hd (List.not_mem_nil _)
  · obtain ⟨t, i, rest, htk, -, hb⟩ := lineShaped_cons hs
    rw [htk] at hd
    obtain ⟨b, hb', hbd⟩ := List.mem_filterMap.mp hd
    simp only [Body.link] at hbd
    split at hbd <;> cases hbd
    exact lineBodies_pos hb b hb'

/-- Both ends of a declared link are routers the file names. -/
theorem fileLinks_routers {text : List Char} :
    ∀ d ∈ fileLinks text, d.1 ∈ fileRouters text ∧ d.2.1 ∈ fileRouters text := by
  intro d hd
  obtain ⟨line, hl, hd⟩ := List.mem_flatMap.mp hd
  have hr : ∀ r ∈ lineRouters (tokens line), r ∈ fileRouters text :=
    fun r hr => List.mem_flatMap.mpr ⟨line, hl, hr⟩
  generalize tokens line = ts at hd hr
  match ts, hd, hr with
  | [], hd, _ | [_], hd, _ => simp [lineLinks] at hd
  | t :: h :: rest, hd, hr =>
    obtain ⟨b, hb, hbd⟩ := List.mem_filterMap.mp hd
    simp only [Body.link, Option.ite_none_right_eq_some, Option.some.injEq] at hbd
    obtain ⟨hty, rfl⟩ := hbd
    exact ⟨hr _ (List.mem_cons_self _ _),
      hr _ (List.mem_cons_of_mem _ (List.mem_filterMap.mpr ⟨b, hb, by simp [Body.router, hty.2]⟩))⟩

end AnyNet

end GpuCacheSim
