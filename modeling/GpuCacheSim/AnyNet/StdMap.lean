import Mathlib.Data.List.Perm.Basic
import Mathlib.Algebra.Order.Group.Int
import Mathlib.Algebra.Order.Ring.Nat
import Mathlib.Algebra.Ring.Int.Defs

/-!
# Ordered Maps

`std::map<int, V>`, as the AnyNet network reads and writes it.

AnyNet keeps its whole topology in maps keyed by router or node id, and its
behaviour depends on their iteration order: ports are handed out in the order
the loops of `_BuildNet` visit the entries, and the routing's minimum search
breaks ties by the order of a `std::set<int>`. A map is therefore its entry
list in increasing key order, and the order is a field of the structure, so
that no map with unsorted or repeated keys can be built.

`operator[]` is two operations here. As an lvalue it is `modify`: the entry
is created with the value type's default if missing, then updated. As an
rvalue it is `getD`, which reads the default for a missing key without
inserting it. The insertion a read leaves behind is an empty entry that later
reads see as the same default, so the only thing it could change is the
outer map's size, and AnyNet reads that size before its routing inserts
anything.

## Main definitions

* `StdMap`: A map, as its sorted entry list.
* `StdMap.find?`, `StdMap.contains`, `StdMap.getD`: `find`, `count`, and
  `operator[]` as a read.
* `StdMap.insert`, `StdMap.modify`: Assignment through `operator[]`.

## Theorems

* `StdMap.find?_insert`: Reading back an assignment.
* `StdMap.mem_entries_iff`: An entry is in the map iff `find?` returns it.
* `StdMap.keys_insert_of_contains`: Assigning to a present key keeps the keys.
* `StdMap.keys_insert_congr`: Maps with the same keys keep them equal under one
  insertion.
-/

namespace GpuCacheSim

namespace AnyNet

section Entries

variable {V : Type}

/-- Insertion into an entry list sorted by key, replacing the value of an
    equal key. -/
def insertEntry (k : Int) (v : V) : List (Int × V) → List (Int × V)
  | [] => [(k, v)]
  | (k', v') :: rest =>
    if k < k' then (k, v) :: (k', v') :: rest
    else if k = k' then (k, v) :: rest
    else (k', v') :: insertEntry k v rest

/-- The value of the first entry with the key. -/
def lookupEntry (k : Int) : List (Int × V) → Option V
  | [] => none
  | (k', v) :: rest => if k = k' then some v else lookupEntry k rest

theorem mem_insertEntry {k : Int} {v : V} {a : Int × V} {l : List (Int × V)}
    (h : a ∈ insertEntry k v l) : a = (k, v) ∨ a ∈ l := by
  induction l with
  | nil => simpa [insertEntry] using h
  | cons e rest ih =>
    obtain ⟨k', v'⟩ := e
    simp only [insertEntry] at h
    split_ifs at h
    · simpa using h
    · rcases List.mem_cons.mp h with rfl | h
      · exact .inl rfl
      · exact .inr (List.mem_cons_of_mem _ h)
    · rcases List.mem_cons.mp h with rfl | h
      · exact .inr (List.mem_cons_self _ _)
      · exact (ih h).imp_right (List.mem_cons_of_mem _)

theorem pairwise_insertEntry (k : Int) (v : V) {l : List (Int × V)}
    (h : l.Pairwise (fun a b => a.1 < b.1)) :
    (insertEntry k v l).Pairwise (fun a b => a.1 < b.1) := by
  induction l with
  | nil => exact List.pairwise_singleton _ _
  | cons e rest ih =>
    obtain ⟨k', v'⟩ := e
    rw [List.pairwise_cons] at h
    simp only [insertEntry]
    split_ifs with hlt heq
    · refine List.Pairwise.cons (fun a ha => ?_) (h.2.cons h.1)
      rcases List.mem_cons.mp ha with rfl | ha
      · exact hlt
      · exact Int.lt_trans hlt (h.1 a ha)
    · subst heq
      exact h.2.cons h.1
    · refine List.Pairwise.cons (fun a ha => ?_) (ih h.2)
      rcases mem_insertEntry ha with rfl | ha
      · show k' < k
        omega
      · exact h.1 a ha

theorem lookupEntry_insertEntry (k k' : Int) (v : V) (l : List (Int × V)) :
    lookupEntry k' (insertEntry k v l) = if k' = k then some v else lookupEntry k' l := by
  induction l with
  | nil => simp [insertEntry, lookupEntry]
  | cons e rest ih =>
    obtain ⟨k'', v''⟩ := e
    simp only [insertEntry]
    split_ifs <;> simp_all [lookupEntry]

theorem keys_insertEntry_of_mem {k : Int} {l : List (Int × V)} (v : V)
    (hl : l.Pairwise (fun a b => a.1 < b.1)) (h : k ∈ l.map Prod.fst) :
    (insertEntry k v l).map Prod.fst = l.map Prod.fst := by
  induction l with
  | nil => cases h
  | cons e rest ih =>
    obtain ⟨k', v'⟩ := e
    rw [List.pairwise_cons] at hl
    simp only [List.map_cons, List.mem_cons] at h
    simp only [insertEntry]
    split_ifs with hlt heq
    · -- A key below the head is below every later key too: it is absent.
      rcases h with h | h
      · omega
      · obtain ⟨a, ha, rfl⟩ := List.mem_map.mp h
        exact absurd (Int.lt_trans hlt (hl.1 a ha)) (Int.lt_irrefl _)
    · simp [heq]
    · simp only [List.map_cons, ih hl.2 (h.resolve_left heq)]

theorem keys_insertEntry_congr {k : Int} {l l' : List (Int × V)} (v v' : V)
    (h : l.map Prod.fst = l'.map Prod.fst) :
    (insertEntry k v l).map Prod.fst = (insertEntry k v' l').map Prod.fst := by
  induction l generalizing l' with
  | nil => cases l' <;> simp_all [insertEntry]
  | cons e rest ih =>
    obtain ⟨k', w⟩ := e
    obtain _ | ⟨⟨k'', w'⟩, rest'⟩ := l'
    · cases h
    · simp only [List.map_cons, List.cons.injEq] at h
      obtain ⟨rfl, h⟩ := h
      simp only [insertEntry]
      split_ifs <;> simp [h, ih h]

theorem lookupEntry_map {W : Type} (f : V → W) (k : Int) (l : List (Int × V)) :
    lookupEntry k (l.map fun e => (e.1, f e.2)) = (lookupEntry k l).map f := by
  induction l with
  | nil => rfl
  | cons e rest ih =>
    simp only [List.map_cons, lookupEntry]
    split <;> simp_all

theorem lookupEntry_eq_none {k : Int} {l : List (Int × V)} (h : ∀ e ∈ l, e.1 ≠ k) :
    lookupEntry k l = none := by
  induction l with
  | nil => rfl
  | cons e rest ih =>
    simp only [lookupEntry, if_neg (h e (List.mem_cons_self _ _)).symm]
    exact ih fun e' he' => h e' (List.mem_cons_of_mem _ he')

/-- In a list sorted by key, the entries with one key contribute as its
    lookup does. -/
theorem flatMap_ite_key {W : Type} (r : Int) (f : V → List W) {l : List (Int × V)}
    (hl : l.Pairwise (fun a b => a.1 < b.1)) :
    l.flatMap (fun e => if e.1 = r then f e.2 else []) = (lookupEntry r l).elim [] f := by
  induction l with
  | nil => rfl
  | cons e rest ih =>
    rw [List.pairwise_cons] at hl
    rw [List.flatMap_cons, ih hl.2]
    by_cases h : e.1 = r
    · have hnone : lookupEntry r rest = none :=
        lookupEntry_eq_none fun e' he' => h ▸ Int.ne_of_gt (hl.1 e' he')
      simp [lookupEntry, h, hnone]
    · simp [lookupEntry, h, Ne.symm h]

end Entries

/-- `std::map<int, V>`: its entries in increasing key order, the order its
    iterators visit them in. -/
@[ext]
structure StdMap (V : Type) where
  entries : List (Int × V)
  sorted : entries.Pairwise (fun a b => a.1 < b.1)

namespace StdMap

variable {V : Type}

instance [DecidableEq V] : DecidableEq (StdMap V) := fun a b =>
  decidable_of_iff (a.entries = b.entries) ⟨StdMap.ext, congrArg _⟩

/-- A default-constructed map. -/
def empty : StdMap V := ⟨[], List.Pairwise.nil⟩

/-- `find`: the value at a key, if present. -/
def find? (m : StdMap V) (k : Int) : Option V := lookupEntry k m.entries

/-- `count(k) != 0`. -/
def contains (m : StdMap V) (k : Int) : Bool := (m.find? k).isSome

/-- `operator[]` read as a value: a missing key reads as the default. -/
def getD (m : StdMap V) (k : Int) (d : V) : V := (m.find? k).getD d

/-- The keys, in increasing order. -/
def keys (m : StdMap V) : List Int := m.entries.map Prod.fst

/-- `size()`. -/
def size (m : StdMap V) : Nat := m.entries.length

/-- `m[k] = v`. -/
def insert (m : StdMap V) (k : Int) (v : V) : StdMap V :=
  ⟨insertEntry k v m.entries, pairwise_insertEntry k v m.sorted⟩

/-- `m[k]` as an lvalue updated by `f`: a missing entry is first created with
    the default `d`. -/
def modify (m : StdMap V) (k : Int) (d : V) (f : V → V) : StdMap V :=
  m.insert k (f (m.getD k d))

@[simp]
theorem find?_empty (k : Int) : (empty : StdMap V).find? k = none := rfl

@[simp]
theorem find?_insert (m : StdMap V) (k k' : Int) (v : V) :
    (m.insert k v).find? k' = if k' = k then some v else m.find? k' :=
  lookupEntry_insertEntry k k' v m.entries

@[simp]
theorem getD_insert (m : StdMap V) (k k' : Int) (v d : V) :
    (m.insert k v).getD k' d = if k' = k then v else m.getD k' d := by
  simp only [getD, find?_insert]
  split_ifs <;> rfl

@[simp]
theorem contains_insert (m : StdMap V) (k k' : Int) (v : V) :
    (m.insert k v).contains k' = (k' = k || m.contains k') := by
  simp only [contains, find?_insert]
  split_ifs <;> simp_all

theorem keys_nodup (m : StdMap V) : m.keys.Nodup :=
  (List.pairwise_map.mpr m.sorted).imp Int.ne_of_lt

/-- An entry is in the map iff `find?` returns its value: keys do not repeat. -/
theorem mem_entries_iff (m : StdMap V) (k : Int) (v : V) :
    (k, v) ∈ m.entries ↔ m.find? k = some v := by
  obtain ⟨l, hl⟩ := m
  simp only [find?]
  induction l with
  | nil => simp [lookupEntry]
  | cons e rest ih =>
    obtain ⟨k', v'⟩ := e
    rw [List.pairwise_cons] at hl
    simp only [List.mem_cons, lookupEntry, Prod.mk.injEq]
    by_cases hk : k = k'
    · -- The head holds the key, so no later entry does.
      subst hk
      have : (k, v) ∉ rest := fun h => Int.lt_irrefl _ (hl.1 (k, v) h)
      simp [this, eq_comm]
    · simp [hk, ih hl.2]

theorem mem_keys_iff (m : StdMap V) (k : Int) : k ∈ m.keys ↔ m.contains k = true := by
  simp only [keys, List.mem_map, contains, Option.isSome_iff_exists, ← mem_entries_iff]
  constructor
  · rintro ⟨⟨k', v⟩, h, rfl⟩
    exact ⟨v, h⟩
  · rintro ⟨v, h⟩
    exact ⟨_, h, rfl⟩

theorem keys_insert_of_contains {m : StdMap V} {k : Int} (v : V) (h : m.contains k = true) :
    (m.insert k v).keys = m.keys :=
  keys_insertEntry_of_mem v m.sorted ((mem_keys_iff m k).mpr h)

theorem keys_insert_congr {m m' : StdMap V} (k : Int) (v v' : V) (h : m.keys = m'.keys) :
    (m.insert k v).keys = (m'.insert k v').keys :=
  keys_insertEntry_congr v v' h

theorem size_eq_of_keys {m : StdMap V} {m' : StdMap V} (h : m.keys = m'.keys) :
    m.size = m'.size := by
  simpa [keys, size] using congrArg List.length h

theorem getD_of_not_mem {m : StdMap V} {k : Int} (d : V) (h : k ∉ m.keys) : m.getD k d = d := by
  cases hf : m.find? k with
  | none => simp [getD, hf]
  | some v => exact absurd ((mem_keys_iff m k).mpr (by simp [contains, hf])) h

theorem getD_mem_entries {m : StdMap V} {k : Int} (d : V) (h : k ∈ m.keys) :
    (k, m.getD k d) ∈ m.entries := by
  obtain ⟨v, hv⟩ := Option.isSome_iff_exists.mp ((mem_keys_iff m k).mp h)
  rw [getD, hv]
  exact (mem_entries_iff m k v).mpr hv

theorem getD_of_mem {m : StdMap V} {k : Int} {v : V} (d : V) (h : (k, v) ∈ m.entries) :
    m.getD k d = v := by
  simp [getD, (mem_entries_iff m k v).mp h]

theorem exists_of_mem_getD_keys {m : StdMap (StdMap V)} {r k : Int}
    (hk : k ∈ (m.getD r empty).keys) : ∃ v, (r, v) ∈ m.entries ∧ k ∈ v.keys := by
  by_cases hr : r ∈ m.keys
  · obtain ⟨⟨r', v⟩, he, rfl⟩ := List.mem_map.mp hr
    exact ⟨v, he, getD_of_mem _ he ▸ hk⟩
  · rw [getD_of_not_mem _ hr] at hk
    cases hk

/-- A property of every link of a map of maps, checked entry by entry. -/
theorem forall_getD_keys {m : StdMap (StdMap V)} {P : Int → Int → Prop}
    (h : ∀ e ∈ m.entries, ∀ k ∈ e.2.keys, P e.1 k) (r k : Int) (hk : k ∈ (m.getD r empty).keys) :
    P r k := by
  obtain ⟨v, he, hk⟩ := exists_of_mem_getD_keys hk
  exact h _ he k hk

/-- No key under two outer keys, checked entry by entry. -/
theorem eq_of_mem_getD_keys {m : StdMap (StdMap V)}
    (h : ∀ e ∈ m.entries, ∀ e' ∈ m.entries, ∀ k ∈ e.2.keys, k ∈ e'.2.keys → e.1 = e'.1)
    {r r' k : Int} (hk : k ∈ (m.getD r empty).keys) (hk' : k ∈ (m.getD r' empty).keys) : r = r' := by
  obtain ⟨v, he, hk⟩ := exists_of_mem_getD_keys hk
  obtain ⟨v', he', hk'⟩ := exists_of_mem_getD_keys hk'
  exact h _ he _ he' k hk hk'

theorem sum_keys_getD (m : StdMap V) (d : V) (f : V → Nat) :
    (m.keys.map fun k => f (m.getD k d)).sum = (m.entries.map fun e => f e.2).sum := by
  rw [keys, List.map_map]
  congr 1
  refine List.map_congr_left fun e he => ?_
  obtain ⟨k, v⟩ := e
  simp [getD_of_mem d he]

/-- The map with its values rewritten in place: an entry list with the same
    keys, in the same order. -/
def withEntries {W : Type} (m : StdMap V) (l : List (Int × W)) (h : l.map Prod.fst = m.keys) :
    StdMap W :=
  ⟨l, List.pairwise_map.mp (h ▸ List.pairwise_map.mpr m.sorted)⟩

@[simp]
theorem withEntries_entries {W : Type} (m : StdMap V) (l : List (Int × W))
    (h : l.map Prod.fst = m.keys) : (m.withEntries l h).entries = l := rfl

end StdMap

end AnyNet

end GpuCacheSim
