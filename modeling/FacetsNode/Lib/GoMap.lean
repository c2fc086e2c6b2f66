import Mathlib.Data.List.AList
import Mathlib.Algebra.Order.BigOperators.Group.List
import Mathlib.Algebra.Ring.Int.Defs

/-!
# Go maps

A Go `map[K]V` as Mathlib's association list with distinct keys. Lookup, assignment and `delete`
are the `AList` operations under Go's words; what this module adds is what loops over a map need:

* `pairs` — the entries a `range` loop visits, in *some* order (Go leaves the order open, so every
  lemma about a loop is stated through membership or a sum);
* `Extends` — no entry is lost or changed;
* `sumBy` — the total of a measure over the values, with how assignment and `delete` move it;
* `mapValues`, `filter`, `deleteAll`, `setAll` — the loops that mutate, copy or prune a map.
-/

namespace FacetsNode

/-- A Go map from `K` to `V`. -/
abbrev GoMap (K V : Type) := AList (fun _ : K => V)

namespace GoMap

variable {K V W : Type}

/-- The entries, as pairs. -/
def pairs (m : GoMap K V) : List (K × V) := m.entries.map (fun e => (e.1, e.2))

/-- `len(m)`. -/
def len (m : GoMap K V) : Nat := m.entries.length

/-- The sum of `f` over the values. -/
def sumBy (f : V → Int) (m : GoMap K V) : Int := (m.entries.map (fun e => f e.2)).sum

/-- The sum of `g` over the entries. -/
def sumPairs (g : K → V → Int) (m : GoMap K V) : Int := (m.entries.map (fun e => g e.1 e.2)).sum

/-- A `range` loop that rewrites every value in place. -/
def mapValues (f : V → W) (m : GoMap K V) : GoMap K W :=
  ⟨m.entries.map (fun e => ⟨e.1, f e.2⟩), m.nodupKeys.map₂ (fun _ => f)⟩

open List

/-- A `range` loop that copies the entries satisfying `p` to a fresh map. -/
def filter (p : K → V → Bool) (m : GoMap K V) : GoMap K V :=
  ⟨m.entries.filter (fun e => p e.1 e.2), m.nodupKeys.sublist filter_sublist⟩

section Keyed
variable [DecidableEq K]

/-- `v, ok := m[k]`. -/
def get? (m : GoMap K V) (k : K) : Option V := AList.lookup k m

/-- `m[k] = v`. -/
def set (m : GoMap K V) (k : K) (v : V) : GoMap K V := AList.insert k v m

/-- `delete(m, k)`. -/
def delete (m : GoMap K V) (k : K) : GoMap K V := AList.erase k m

/-- Assign every pair of a list, in order. -/
def setAll (m : GoMap K V) (l : List (K × V)) : GoMap K V := l.foldl (fun m p => m.set p.1 p.2) m

/-- Delete every key of a list, in order. -/
def deleteAll (m : GoMap K V) (ks : List K) : GoMap K V := ks.foldl (fun m k => m.delete k) m

/-! ## Lookup -/

@[simp] theorem get?_empty (k : K) : (∅ : GoMap K V).get? k = none := AList.lookup_empty k

theorem get?_set (m : GoMap K V) (k k' : K) (v : V) :
    (m.set k v).get? k' = if k' = k then some v else m.get? k' := by
  split
  · next h => subst h; exact AList.lookup_insert m
  · next h => exact AList.lookup_insert_ne h

@[simp] theorem get?_set_self (m : GoMap K V) (k : K) (v : V) : (m.set k v).get? k = some v := by
  rw [get?_set, if_pos rfl]

variable {k : K} {m : GoMap K V} {l : List (K × V)} {v : V} {g : K → V → Int} {f : V → Int}

theorem get?_set_ne (m : GoMap K V) {k' : K} (v : V) (h : k' ≠ k) :
    (m.set k v).get? k' = m.get? k' := by
  rw [get?_set, if_neg h]

/-- Only the last assignment to a key counts. -/
theorem set_set (m : GoMap K V) (k : K) (v v' : V) : (m.set k v).set k v' = m.set k v' :=
  AList.insert_insert m

theorem get?_delete (m : GoMap K V) (k k' : K) :
    (m.delete k).get? k' = if k' = k then none else m.get? k' := by
  split
  · next h => subst h; exact AList.lookup_erase k' m
  · next h => exact AList.lookup_erase_ne h

theorem get?_setAll_of_notMem (h : k ∉ l.map Prod.fst) : (m.setAll l).get? k = m.get? k := by
  induction l generalizing m with
  | nil => rfl
  | cons p l ih =>
    rw [map_cons, mem_cons, not_or] at h
    show ((m.set p.1 p.2).setAll l).get? k = _
    rw [ih h.2, get?_set_ne _ _ h.1]

theorem get?_setAll_of_mem (hl : (l.map Prod.fst).Nodup)
     (h : (k, v) ∈ l) : (m.setAll l).get? k = some v := by
  induction l generalizing m with
  | nil => cases h
  | cons p l ih =>
    rw [map_cons, nodup_cons] at hl
    show ((m.set p.1 p.2).setAll l).get? k = _
    rcases mem_cons.mp h with rfl | h
    · rw [get?_setAll_of_notMem hl.1, get?_set_self]
    · exact ih hl.2 h

/-- A key that was there or is assigned is there. -/
theorem isSome_get?_setAll (h : (m.get? k).isSome = true ∨ k ∈ l.map Prod.fst) :
    ((m.setAll l).get? k).isSome = true := by
  induction l generalizing m with
  | nil => simpa [setAll] using h
  | cons p l ih =>
    apply ih
    rw [get?_set]
    split
    · exact .inl rfl
    · next hne =>
      rcases h with h | h
      · exact .inl h
      · exact .inr ((mem_cons.mp h).resolve_left hne)

/-- A map built by assigning distinct keys holds exactly the assigned pairs. -/
theorem get?_setAll_empty (hl : (l.map Prod.fst).Nodup) :
    ((∅ : GoMap K V).setAll l).get? k = some v ↔ (k, v) ∈ l := by
  refine ⟨fun h => ?_, get?_setAll_of_mem hl⟩
  by_cases hk : k ∈ l.map Prod.fst
  · obtain ⟨⟨k', v'⟩, hp, rfl⟩ := mem_map.mp hk
    rw [get?_setAll_of_mem hl hp] at h
    cases h
    exact hp
  · rw [get?_setAll_of_notMem hk, get?_empty] at h
    cases h

theorem get?_deleteAll (m : GoMap K V) (ks : List K) (k : K) :
    (m.deleteAll ks).get? k = if k ∈ ks then none else m.get? k := by
  induction ks generalizing m with
  | nil => rfl
  | cons k₀ ks ih =>
    show ((m.delete k₀).deleteAll ks).get? k = _
    rw [ih, get?_delete]
    by_cases h : k = k₀ <;> by_cases h' : k ∈ ks <;> simp [h, h']

theorem get?_mapValues (f : V → W) (m : GoMap K V) (k : K) :
    (m.mapValues f).get? k = (m.get? k).map f :=
  dlookup_map₂ (γ := fun _ : K => V) (δ := fun _ : K => W) (f := fun _ => f) k

theorem mapValues_congr {f g : V → W}
    (h : ∀ k v, m.get? k = some v → f v = g v) : m.mapValues f = m.mapValues g := by
  refine AList.ext (map_congr_left fun e he => ?_)
  rw [h e.1 e.2 (AList.mem_lookup_iff.mpr he)]

/-! ## Growth -/

/-- Every entry of `m` is an entry of `m'`. -/
def Extends (m m' : GoMap K V) : Prop := ∀ k v, m.get? k = some v → m'.get? k = some v

theorem Extends.refl (m : GoMap K V) : m.Extends m := fun _ _ h => h

theorem Extends.trans {m' m'' : GoMap K V} (h : m.Extends m') (h' : m'.Extends m'') :
    m.Extends m'' := fun k v hget => h' k v (h k v hget)

/-- Filing a value under a new key keeps the other entries. -/
theorem extends_set (v : V) (hnew : m.get? k = none) : m.Extends (m.set k v) := by
  intro k' v' hget
  have hne : k' ≠ k := by
    rintro rfl
    rw [hnew] at hget
    cases hget
  rw [get?_set_ne m v hne, hget]

/-- No key is lost, and every value goes on as `R` allows. -/
def Evolves (R : V → V → Prop) (m m' : GoMap K V) : Prop :=
  ∀ k v, m.get? k = some v → ∃ v', m'.get? k = some v' ∧ R v v'

section
variable {R : V → V → Prop} (hR : ∀ v, R v v)
include hR

theorem Evolves.refl (m : GoMap K V) : m.Evolves R m := fun _ v h => ⟨v, h, hR v⟩

/-- One entry is written: a new one, or one that goes on from the value before. -/
theorem Evolves.set {k : K} {v : V} (h : ∀ old, m.get? k = some old → R old v) :
    m.Evolves R (m.set k v) := by
  intro k' old hold
  by_cases hk : k' = k
  · subst hk
    exact ⟨v, get?_set_self _ _ _, h old hold⟩
  · exact ⟨old, (get?_set_ne _ _ hk).trans hold, hR old⟩

theorem Evolves.set_new {k : K} {v : V} (hnew : m.get? k = none) : m.Evolves R (m.set k v) :=
  .set hR fun _ h => by cases hnew.symm.trans h

theorem Evolves.set_old {k : K} {old v : V} (hold : m.get? k = some old) (h : R old v) :
    m.Evolves R (m.set k v) :=
  .set hR fun _ h' => by cases hold.symm.trans h'; exact h

end

theorem Evolves.trans {R : V → V → Prop} {m' m'' : GoMap K V} (h : m.Evolves R m')
    (h' : m'.Evolves R m'') (hR : ∀ {u v w}, R u v → R v w → R u w) : m.Evolves R m'' := by
  intro k v hv
  obtain ⟨v', hv', hvv'⟩ := h k v hv
  obtain ⟨v'', hv'', hvv''⟩ := h' k v' hv'
  exact ⟨v'', hv'', hR hvv' hvv''⟩

/-! ## The entries -/

theorem mem_pairs : (k, v) ∈ m.pairs ↔ m.get? k = some v := by
  unfold pairs get?
  rw [mem_map]
  constructor
  · rintro ⟨⟨k', v'⟩, he, heq⟩
    cases heq
    exact AList.mem_lookup_iff.mpr he
  · intro h
    exact ⟨⟨k, v⟩, AList.mem_lookup_iff.mp h, rfl⟩

theorem get?_filter (p : K → V → Bool) (m : GoMap K V) :
    (m.filter p).get? k = some v ↔ m.get? k = some v ∧ p k v = true := by
  rw [← mem_pairs, ← mem_pairs]
  unfold pairs filter
  simp only [mem_map, mem_filter]
  constructor
  · rintro ⟨⟨k', v'⟩, ⟨he, hp⟩, heq⟩
    cases heq
    exact ⟨⟨_, he, rfl⟩, hp⟩
  · rintro ⟨⟨⟨k', v'⟩, he, heq⟩, hp⟩
    cases heq
    exact ⟨_, ⟨he, hp⟩, rfl⟩

/-- A search loop over a map succeeds exactly when some entry answers it. -/
theorem any_pairs {p : K × V → Bool} :
    m.pairs.any p = true ↔ ∃ k v, m.get? k = some v ∧ p (k, v) = true := by
  rw [any_eq_true]
  constructor
  · rintro ⟨⟨k, v⟩, hm, hp⟩
    exact ⟨k, v, mem_pairs.mp hm, hp⟩
  · rintro ⟨k, v, hm, hp⟩
    exact ⟨(k, v), mem_pairs.mpr hm, hp⟩

omit [DecidableEq K] in
theorem pairs_keys_nodup (m : GoMap K V) : (m.pairs.map Prod.fst).Nodup := by
  unfold pairs
  rw [map_map]
  exact m.keys_nodup

/-! ## Sums -/

theorem sumPairs_delete_of_none (h : m.get? k = none) : (m.delete k).sumPairs g = m.sumPairs g := by
  show ((List.kerase k m.entries).map (fun e => g e.1 e.2)).sum = _
  rw [kerase_of_notMem_keys (AList.lookup_eq_none.mp h)]
  rfl

theorem sumPairs_delete
    (h : m.get? k = some v) : (m.delete k).sumPairs g = m.sumPairs g - g k v := by
  have hmem : (⟨k, v⟩ : Sigma (fun _ : K => V)) ∈ m.entries := AList.mem_lookup_iff.mp h
  have hk : k ∈ m.entries.keys := mem_keys_of_mem hmem
  obtain ⟨v', l₁, l₂, hnot, hl, he⟩ := exists_of_kerase hk
  have hv : v' = v := by
    have hmem' : (⟨k, v'⟩ : Sigma (fun _ : K => V)) ∈ m.entries := by rw [hl]; simp
    exact m.nodupKeys.eq_of_mk_mem hmem' hmem
  subst hv
  unfold sumPairs delete AList.erase
  simp only [he]
  conv_rhs => rw [hl]
  simp only [map_append, map_cons, sum_append, sum_cons]
  omega

/-- Assignment replaces whatever the key held before. -/
theorem sumPairs_set : (m.set k v).sumPairs g = g k v + (m.delete k).sumPairs g := by
  unfold sumPairs set delete AList.insert AList.erase
  simp only [kinsert_def, map_cons, sum_cons]

theorem sumPairs_set_of_none
    (h : m.get? k = none) : (m.set k v).sumPairs g = g k v + m.sumPairs g := by
  rw [sumPairs_set, sumPairs_delete_of_none h]

theorem sumPairs_set_of_some {old : V}
    (h : m.get? k = some old) : (m.set k v).sumPairs g = m.sumPairs g - g k old + g k v := by
  rw [sumPairs_set, sumPairs_delete h]
  omega

theorem sumBy_delete_of_none (h : m.get? k = none) :
    (m.delete k).sumBy f = m.sumBy f := sumPairs_delete_of_none (g := fun _ => f) h

theorem sumBy_delete (h : m.get? k = some v) :
    (m.delete k).sumBy f = m.sumBy f - f v := sumPairs_delete (g := fun _ => f) h

theorem sumBy_set_of_none (h : m.get? k = none) :
    (m.set k v).sumBy f = f v + m.sumBy f := sumPairs_set_of_none (g := fun _ => f) h

theorem sumBy_set_of_some {old : V}
    (h : m.get? k = some old) : (m.set k v).sumBy f = m.sumBy f - f old + f v :=
  sumPairs_set_of_some (g := fun _ => f) h

/-- Deleting distinct present keys takes their values out of the sum. -/
theorem sumBy_deleteAll (hl : (l.map Prod.fst).Nodup) (hmem : ∀ p ∈ l, m.get? p.1 = some p.2) :
    (m.deleteAll (l.map Prod.fst)).sumBy f = m.sumBy f - (l.map (fun p => f p.2)).sum := by
  induction l generalizing m with
  | nil => simp [deleteAll]
  | cons p l ih =>
    rw [map_cons, nodup_cons] at hl
    have hp : m.get? p.1 = some p.2 := hmem p mem_cons_self
    have hrest : ∀ q ∈ l, (m.delete p.1).get? q.1 = some q.2 := by
      intro q hq
      have hne : q.1 ≠ p.1 := fun h => hl.1 (h ▸ mem_map_of_mem hq)
      rw [get?_delete, if_neg hne]
      exact hmem q (mem_cons_of_mem _ hq)
    show ((m.delete p.1).deleteAll (l.map Prod.fst)).sumBy f = _
    rw [ih hl.2 hrest, sumBy_delete hp, map_cons, sum_cons]
    omega

/-- Deleting distinct keys, present or not, takes out what they held. -/
theorem sumBy_deleteAll_keys {ks : List K} (hks : ks.Nodup) : (m.deleteAll ks).sumBy f =
      m.sumBy f - ((ks.filterMap (fun k => (m.get? k).map (k, ·))).map (fun p => f p.2)).sum := by
  induction ks generalizing m with
  | nil => simp [deleteAll]
  | cons k ks ih =>
    rw [nodup_cons] at hks
    have hrest : ks.filterMap (fun k' => ((m.delete k).get? k').map (k', ·)) =
        ks.filterMap (fun k' => (m.get? k').map (k', ·)) := by
      refine filterMap_congr fun k' hk' => ?_
      rw [get?_delete, if_neg]
      rintro rfl
      exact hks.1 hk'
    show ((m.delete k).deleteAll ks).sumBy f = _
    rw [ih hks.2, hrest]
    cases hk : m.get? k with
    | none => rw [sumBy_delete_of_none hk, filterMap_cons_none (by rw [hk]; rfl)]
    | some v =>
      rw [sumBy_delete hk, filterMap_cons_some (b := (k, v)) (by rw [hk]; rfl),
        map_cons, sum_cons, ← sub_sub]

theorem len_deleteAll_le (m : GoMap K V) (ks : List K) : (m.deleteAll ks).len ≤ m.len := by
  induction ks generalizing m with
  | nil => exact le_rfl
  | cons k ks ih =>
    refine (ih (m.delete k)).trans ?_
    exact (kerase_sublist k m.entries).length_le

end Keyed

theorem len_eq_sumBy (m : GoMap K V) : (m.len : Int) = m.sumBy (fun _ => 1) := by
  unfold len sumBy
  induction m.entries with
  | nil => rfl
  | cons e l ih => rw [map_cons, sum_cons, ← ih, length_cons]; push_cast; omega

theorem len_set_of_none [DecidableEq K] {m : GoMap K V} {k : K} {v : V} (h : m.get? k = none) :
    ((m.set k v).len : Int) = m.len + 1 := by
  rw [len_eq_sumBy, len_eq_sumBy, sumBy_set_of_none h]
  omega

end GoMap

end FacetsNode
