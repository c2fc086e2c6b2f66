import Mathlib.Data.List.Sort

/-!
# Slices over shared arrays

A Go slice is a header: an array, a length, and the room the array has left. Copying the header does
not copy the array, so a write through one header is seen through every other one of the same array,
and an `append` writes in place as long as there is room. `Slices α H S` lists what code does with
slices — `H` is the memory and `S` the header — and `Slices.arrays` reads it as the language does:
headers over arrays in a heap.
-/

namespace FacetsNode

/-- A slice that shares nothing: the nil slice, or its elements. -/
abbrev GoSlice (α : Type) := Option (List α)

/-- What code does with slices. `none` is the nil slice; the last argument of `make` and of `append`
is the room left in an array that has to be made. -/
structure Slices (α H S : Type) where
  empty : H
  elems : H → S → GoSlice α
  hasRoom : H → S → Bool
  make : H → GoSlice α → Nat → H × S
  set : H → S → Nat → α → H × S
  append : H → S → α → Nat → H × S
  sortBy : (α → α → Bool) → H → S → H × S

/-- `append`, then `sort.Slice`. -/
def Slices.appendSorted {α H S : Type} (L : Slices α H S) (le : α → α → Bool) (h : H) (s : S)
    (v : α)
    (spare : Nat) : H × S :=
  L.sortBy le (L.append h s v spare).1 (L.append h s v spare).2

/-! ## Shared arrays -/

/-- An array: the cells that were ever written, and how many there is room for. -/
structure GoArray (α : Type) where
  cells : List α
  capacity : Nat

/-- A header; every slice here starts at the first cell of its array. -/
structure Slice where
  array : Option Nat
  length : Nat

/-- Arrays by address. -/
abbrev Heap (α : Type) := List (GoArray α)

namespace Heap

variable {α : Type}

/-- The array at an address. -/
def array (h : Heap α) (a : Nat) : GoArray α := h.getD a ⟨[], 0⟩

/-- The elements of a slice. -/
def elems (h : Heap α) (s : Slice) : GoSlice α :=
  s.array.map fun a => (h.array a).cells.take s.length

/-- An `append` would write in place. -/
def hasRoom (h : Heap α) (s : Slice) : Bool := s.array.any fun a => s.length < (h.array a).capacity

/-- A new array for these elements, with some room left. -/
def make (h : Heap α) (elems : GoSlice α) (spare : Nat) : Heap α × Slice :=
  match elems with
  | none => (h, ⟨none, 0⟩)
  | some l => (h ++ [⟨l, l.length + spare⟩], ⟨some h.length, l.length⟩)

/-- Other cells at an address. -/
def alter (h : Heap α) (a : Nat) (f : List α → List α) : Heap α :=
  h.set a { h.array a with cells := f (h.array a).cells }

/-- `s[i] = v`. -/
def set (h : Heap α) (s : Slice) (i : Nat) (v : α) : Heap α × Slice :=
  match s.array with
  | none => (h, s)
  | some a => (h.alter a fun cells => cells.set i v, s)

/-- `append(s, v)`: in place if there is room, else in a new array. -/
def append (h : Heap α) (s : Slice) (v : α) (spare : Nat) : Heap α × Slice :=
  match s.array with
  | none => h.make (some [v]) spare
  | some a =>
    if s.length < (h.array a).capacity then
      (h.alter a fun cells => cells.take s.length ++ v :: cells.drop (s.length + 1),
        ⟨some a, s.length + 1⟩)
    else h.make (some ((h.array a).cells.take s.length ++ [v])) spare

/-- `sort.Slice`, on the cells of the slice. -/
def sortBy (le : α → α → Bool) (h : Heap α) (s : Slice) : Heap α × Slice :=
  match s.array with
  | none => (h, s)
  | some a =>
    (h.alter a fun cells => (cells.take s.length).insertionSort (le · · = true) ++
      cells.drop s.length, s)

end Heap

/-- Slices of the language. -/
def Slices.arrays {α : Type} : Slices α (Heap α) Slice where
  empty := []
  elems := Heap.elems
  hasRoom := Heap.hasRoom
  make := Heap.make
  set := Heap.set
  append := Heap.append
  sortBy := Heap.sortBy

/-! ## What a command leaves alone

A header is fit for a memory, and two headers may be apart: what is written through one is not seen
through the other. `Laws` says what the commands do to the slice they are given and that they leave
everything apart from it as it was. The interesting law is the last one: what a *copy* of the header
sees after its array was appended to and sorted behind its back. -/

/-- From `h` to `h'`, with `s` replaced by `s'`: what is apart from `s` is as it was, and apart from
`s'` too. -/
def Slices.Keeps {α H S : Type} (L : Slices α H S) (Ok : H → S → Prop) (Apart : S → S → Prop)
    (h h' : H)
    (s s' : S) : Prop :=
  ∀ t, Ok h t → Apart s t → Ok h' t ∧ L.elems h' t = L.elems h t ∧ Apart s' t

/-- The old header keeps what its replacement keeps. -/
theorem Slices.Keeps.stay {α H S : Type} {L : Slices α H S} {Ok : H → S → Prop}
    {Apart : S → S → Prop}
    {h h' : H} {s s' : S} (hkeeps : L.Keeps Ok Apart h h' s s') :
    L.Keeps Ok Apart h h' s s := fun t hok hapart =>
  ⟨(hkeeps t hok hapart).1, (hkeeps t hok hapart).2.1, hapart⟩

theorem Slices.Keeps.refl {α H S : Type} {L : Slices α H S} {Ok : H → S → Prop}
    {Apart : S → S → Prop}
    (h : H) (s : S) : L.Keeps Ok Apart h h s s := fun _ hok hapart =>
  ⟨hok, rfl, hapart⟩

theorem Slices.Keeps.trans {α H S : Type} {L : Slices α H S} {Ok : H → S → Prop}
    {Apart : S → S → Prop}
    {h₁ h₂ h₃ : H} {s₁ s₂ s₃ : S} (h : L.Keeps Ok Apart h₁ h₂ s₁ s₂)
    (h' : L.Keeps Ok Apart h₂ h₃ s₂ s₃) : L.Keeps Ok Apart h₁ h₃ s₁ s₃ := by
  intro t hok hapart
  obtain ⟨hok₂, helems₂, hapart₂⟩ := h t hok hapart
  obtain ⟨hok₃, helems₃, hapart₃⟩ := h' t hok₂ hapart₂
  exact ⟨hok₃, helems₃.trans helems₂, hapart₃⟩

/-- What the commands of a kind of slices do. -/
structure Slices.Laws {α H S : Type} (L : Slices α H S) (Ok : H → S → Prop) (Apart : S → S → Prop) :
    Prop where
  apart_symm : ∀ {s t}, Apart s t → Apart t s
  make_ok : ∀ h v n, Ok (L.make h v n).1 (L.make h v n).2
  elems_make : ∀ h v n, L.elems (L.make h v n).1 (L.make h v n).2 = v
  make_keeps : ∀ h v n t, Ok h t →
    Ok (L.make h v n).1 t ∧ L.elems (L.make h v n).1 t = L.elems h t ∧ Apart (L.make h v n).2 t
  set_ok : ∀ {h s} i v, Ok h s → Ok (L.set h s i v).1 (L.set h s i v).2
  set_keeps : ∀ {h s} i v, Ok h s → L.Keeps Ok Apart h (L.set h s i v).1 s (L.set h s i v).2
  set_copy : ∀ {h s} i v, Ok h s → Ok (L.set h s i v).1 s ∧
    L.elems (L.set h s i v).1 s = (L.elems h s).map (·.set i v)
  appendSorted_ok : ∀ {h s} le v n, Ok h s →
    Ok (L.appendSorted le h s v n).1 (L.appendSorted le h s v n).2
  appendSorted_keeps : ∀ {h s} le v n, Ok h s →
    L.Keeps Ok Apart h (L.appendSorted le h s v n).1 s (L.appendSorted le h s v n).2
  appendSorted_copy : ∀ {h s} le v n, Ok h s → Ok (L.appendSorted le h s v n).1 s ∧
    L.elems (L.appendSorted le h s v n).1 s =
      if L.hasRoom h s then (L.elems h s).map fun l =>
        ((l ++ [v]).insertionSort (le · · = true)).take l.length
      else L.elems h s

namespace Heap

variable {α : Type}

/-- The header stays within its array. -/
def Ok (h : Heap α) (s : Slice) : Prop :=
  ∀ a, s.array = some a → a < h.length ∧ s.length ≤ (h.array a).cells.length

/-- The headers are of different arrays. -/
def Apart (s t : Slice) : Prop := ∀ a, s.array = some a → t.array ≠ some a

variable {h : Heap α} {s t : Slice}

theorem length_alter (h : Heap α) (a : Nat)
    (f : List α → List α) : (h.alter a f).length = h.length :=
  List.length_set

theorem array_alter_self {a : Nat} (ha : a < h.length) (f : List α → List α) :
    (h.alter a f).array a = { h.array a with cells := f (h.array a).cells } := by
  simp [alter, array, ha]

theorem array_alter_ne {a b : Nat} (hne : a ≠ b) (f : List α → List α) :
    (h.alter a f).array b = h.array b := by
  simp [alter, array, List.getElem?_set_ne hne]

theorem array_append {a : Nat} (ha : a < h.length) (b : GoArray α) :
    (h ++ [b] : Heap α).array a = h.array a := by
  show (h ++ [b])[a]?.getD _ = h[a]?.getD _
  rw [List.getElem?_append_left ha]

theorem array_append_self (b : GoArray α) : (h ++ [b] : Heap α).array h.length = b := by
  simp [array]

/-- A header apart from an array that is rewritten. -/
theorem Ok.alter_of_apart {a : Nat} {f : List α → List α} (hs : s.array = some a) (ht : Ok h t)
    (hapart : Apart s t) : Ok (h.alter a f) t ∧ elems (h.alter a f) t = elems h t := by
  have hne : ∀ b, t.array = some b → a ≠ b := by
    rintro b hb rfl
    exact hapart a hs hb
  constructor
  · intro b hb
    rw [length_alter, array_alter_ne (hne b hb)]
    exact ht b hb
  · unfold elems
    cases hb : t.array with
    | none => rfl
    | some b => simp only [Option.map_some, array_alter_ne (hne b hb)]

/-- A header of the next array is apart from those there are. -/
theorem Ok.apart_fresh (ht : Ok h t) (m : Nat) : Apart ⟨some h.length, m⟩ t := by
  rintro a ha hta
  cases ha
  exact absurd (ht _ hta).1 (lt_irrefl _)

/-- A new array changes nothing for those there are. -/
theorem Ok.push (ht : Ok h t) (b : GoArray α) :
    Ok (h ++ [b]) t ∧ elems (h ++ [b]) t = elems h t := by
  refine ⟨?_, ?_⟩
  · intro a ha
    obtain ⟨hlt, hle⟩ := ht a ha
    rw [array_append hlt]
    exact ⟨by rw [List.length_append]; omega, hle⟩
  · unfold elems
    cases ha : t.array with
    | none => rfl
    | some a => simp only [Option.map_some, array_append (ht a ha).1]

theorem elems_of_array {a : Nat} (hs : s.array = some a) :
    elems h s = some ((h.array a).cells.take s.length) := by
  simp [elems, hs]

/-- A slice after its first cells were rewritten, as many as it has. -/
theorem Ok.alter_self {a : Nat} {f : List α → List α} (hs : s.array = some a) (h' : Ok h s)
    (hlength : s.length ≤ (f (h.array a).cells).length) : Ok (h.alter a f) s ∧
      elems (h.alter a f) s = some ((f (h.array a).cells).take s.length) := by
  obtain ⟨ha, -⟩ := h' a hs
  constructor
  · intro b hb
    cases hs.symm.trans hb
    rw [length_alter, array_alter_self ha]
    exact ⟨ha, hlength⟩
  · rw [elems_of_array hs, array_alter_self ha]

/-- **Where `append` writes.** In place, past the end of the slice, or in a new array. -/
theorem append_cases (h : Heap α) (s : Slice) (v : α) (n : Nat) :
    (∃ a, s.array = some a ∧ hasRoom h s = true ∧
      append h s v n = (h.alter a fun cells => cells.take s.length ++
        v :: cells.drop (s.length + 1),
        ⟨some a, s.length + 1⟩)) ∨
    hasRoom h s = false ∧
      append h s v n =
        (h ++ [⟨(elems h s).getD [] ++ [v], ((elems h s).getD [] ++ [v]).length + n⟩],
        ⟨some h.length, ((elems h s).getD [] ++ [v]).length⟩) := by
  unfold append
  cases hs : s.array with
  | none =>
    right
    simp [make, elems, hasRoom, hs]
  | some a =>
    by_cases hroom : s.length < (h.array a).capacity
    · left
      exact ⟨a, rfl, by simp [hasRoom, hs, hroom], by simp [hroom]⟩
    · right
      simp [hroom, make, elems, hasRoom, hs]

theorem take_append_drop {l : List α} {n : Nat} (hn : n ≤ l.length) (v : α) :
    (l.take n ++ v :: l.drop (n + 1)).take (n + 1) = l.take n ++ [v] := by
  have hlength : (l.take n).length = n := by simp [hn]
  rw [List.take_append, hlength, List.take_of_length_le (by rw [hlength]; omega)]
  simp

/-- What `append` returns, and whom it disturbs: nobody. -/
theorem Ok.append (hok : Ok h s) (v : α) (n : Nat) :
    Ok (Heap.append h s v n).1 (Heap.append h s v n).2 ∧
      elems (Heap.append h s v n).1 (Heap.append h s v n).2 = some ((elems h s).getD [] ++ [v]) ∧
      (∀ t, Ok h t → (Apart s t ∨ t = s) →
        Ok (Heap.append h s v n).1 t ∧ elems (Heap.append h s v n).1 t = elems h t) ∧
      (∀ t, Ok h t → Apart s t → Apart (Heap.append h s v n).2 t) := by
  -- With room left the array is written in place, behind the end of the header; else it is copied.
  rcases append_cases h s v n with ⟨a, ha, -, happend⟩ | ⟨-, happend⟩
  · rw [happend]
    obtain ⟨hlt, hle⟩ := hok a ha
    have hlength : s.length + 1 ≤
        ((h.array a).cells.take s.length ++ v :: (h.array a).cells.drop (s.length + 1)).length := by
      simp; omega
    have hget : (elems h s).getD [] = (h.array a).cells.take s.length := by
      rw [elems_of_array ha]; rfl
    refine ⟨?_, ?_, ?_, ?_⟩
    · rintro b hb
      cases hb
      rw [length_alter, array_alter_self hlt]
      exact ⟨hlt, hlength⟩
    · rw [elems_of_array rfl, array_alter_self hlt, hget]
      exact congrArg some (take_append_drop hle v)
    · rintro t ht (hapart | rfl)
      · obtain ⟨htok, htelems⟩ := ht.alter_of_apart (f := fun cells =>
          cells.take s.length ++ v :: cells.drop (s.length + 1)) ha hapart
        exact ⟨htok, htelems⟩
      · obtain ⟨hok', helems⟩ := hok.alter_self
          (f := fun cells => cells.take t.length ++ v :: cells.drop (t.length + 1)) ha (by omega)
        refine ⟨hok', helems.trans ?_⟩
        rw [elems_of_array ha, List.take_append_of_le_length (by simp [hle]), List.take_take,
          min_self]
    · rintro t - hapart b hb
      cases hb
      exact hapart a ha
  · rw [happend]
    refine ⟨?_, ?_, fun t ht _ => ht.push _, fun t ht _ => ht.apart_fresh _⟩
    · rintro b hb
      cases hb
      rw [array_append_self]
      exact ⟨by simp, le_rfl⟩
    · rw [elems_of_array rfl, array_append_self]
      exact congrArg some (List.take_of_length_le le_rfl)

/-- What sorting does to a slice and to what is apart from it. -/
theorem Ok.sortBy (hok : Ok h s) (le : α → α → Bool) :
    Ok (Heap.sortBy le h s).1 s ∧ (Heap.sortBy le h s).2 = s ∧ elems (Heap.sortBy le h s).1 s =
        (elems h s).map (fun l => l.insertionSort (le · · = true)) ∧
      ∀ t, Ok h t → Apart s t →
        Ok (Heap.sortBy le h s).1 t ∧ elems (Heap.sortBy le h s).1 t = elems h t := by
  unfold Heap.sortBy
  cases hs : s.array with
  | none => exact ⟨hok, rfl, by simp [elems, hs], fun t ht _ => ⟨ht, rfl⟩⟩
  | some a =>
    obtain ⟨hlt, hle⟩ := hok a hs
    have hsorted : (((h.array a).cells.take s.length).insertionSort (le · · = true)).length =
        s.length := by
      rw [List.length_insertionSort]
      simp [hle]
    obtain ⟨hok', helems⟩ := hok.alter_self (f := fun cells =>
      (cells.take s.length).insertionSort (le · · = true) ++ cells.drop s.length) hs
        (by simp; omega)
    refine ⟨hok', rfl, ?_, fun t ht hapart => ?_⟩
    swap
    · obtain ⟨htok, htelems⟩ := ht.alter_of_apart (f := fun cells =>
        (cells.take s.length).insertionSort (le · · = true) ++ cells.drop s.length) hs hapart
      exact ⟨htok, htelems⟩
    rw [show elems (h.alter a _) s = _ from helems, elems_of_array hs,
      List.take_append_of_le_length hsorted.ge, List.take_of_length_le hsorted.le]
    rfl

end Heap

/-- A list keeps its elements under an append and a sort only if the new one sorts last. -/
theorem take_insertionSort_eq_iff {α : Type} (r : α → α → Prop) [DecidableRel r] [Std.Total r]
    [IsTrans α r] (l : List α) (v : α) :
    ((l ++ [v]).insertionSort r).take l.length = l ↔ (l ++ [v]).Pairwise r := by
  constructor
  · intro htake
    have hsplit := List.take_append_drop l.length ((l ++ [v]).insertionSort r)
    rw [htake] at hsplit
    have hperm := List.perm_insertionSort r (l ++ [v])
    rw [← hsplit, List.perm_append_left_iff, List.perm_singleton] at hperm
    rw [hperm] at hsplit
    rw [hsplit]
    exact List.pairwise_insertionSort r (l ++ [v])
  · intro hsorted
    rw [hsorted.insertionSort_eq, List.take_left]

theorem Slices.arrays_appendSorted {α : Type} (le : α → α → Bool) (h : Heap α) (s : Slice) (v : α)
    (n : Nat) : Slices.arrays.appendSorted le h s v n =
      Heap.sortBy le (Heap.append h s v n).1 (Heap.append h s v n).2 := rfl

/-- **Slices of the language keep the laws.** -/
theorem Slices.arrays_laws {α : Type} :
    (Slices.arrays : Slices α (Heap α) Slice).Laws Heap.Ok Heap.Apart where
  apart_symm h a ht hs := h a hs ht
  make_ok h v n := by
    cases v with
    | none => intro a ha; cases ha
    | some l =>
      rintro a ha
      cases ha
      show h.length < (h ++ [_]).length ∧
        l.length ≤ (Heap.array (h ++ [⟨l, l.length + n⟩]) h.length).cells.length
      rw [Heap.array_append_self]
      exact ⟨by simp, le_rfl⟩
  elems_make h v n := by
    cases v with
    | none => rfl
    | some l =>
      show Heap.elems (h ++ [_]) ⟨some h.length, l.length⟩ = some l
      rw [Heap.elems_of_array rfl, Heap.array_append_self]
      simp
  make_keeps h v n t ht := by
    cases v with
    | none => exact ⟨ht, rfl, fun a ha => by cases ha⟩
    | some l =>
      obtain ⟨hok, helems⟩ := ht.push ⟨l, l.length + n⟩
      exact ⟨hok, helems, ht.apart_fresh _⟩
  set_ok := by
    intro h s i v hok
    show Heap.Ok (Heap.set h s i v).1 (Heap.set h s i v).2
    unfold Heap.set
    cases hs : s.array with
    | none => exact hok
    | some a =>
      obtain ⟨hok', -⟩ := hok.alter_self (f := fun cells => cells.set i v) hs
        (by simpa using (hok a hs).2)
      exact hok'
  set_keeps := by
    intro h s i v hok t ht hapart
    show Heap.Ok (Heap.set h s i v).1 t ∧ Heap.elems (Heap.set h s i v).1 t = Heap.elems h t ∧
      Heap.Apart (Heap.set h s i v).2 t
    unfold Heap.set
    cases hs : s.array with
    | none => exact ⟨ht, rfl, hapart⟩
    | some a =>
      obtain ⟨hok', helems⟩ := ht.alter_of_apart (f := fun cells => cells.set i v) hs hapart
      exact ⟨hok', helems, hapart⟩
  set_copy := by
    intro h s i v hok
    show Heap.Ok (Heap.set h s i v).1 s ∧ Heap.elems (Heap.set h s i v).1 s = (Heap.elems h s).map _
    unfold Heap.set
    cases hs : s.array with
    | none => exact ⟨hok, by simp [Heap.elems, hs]⟩
    | some a =>
      obtain ⟨hok', helems⟩ := hok.alter_self (f := fun cells => cells.set i v) hs
        (by simpa using (hok a hs).2)
      refine ⟨hok', ?_⟩
      rw [show Heap.elems (h.alter a _) s = _ from helems, Heap.elems_of_array hs, List.take_set]
      rfl
  appendSorted_ok := by
    intro h s le v n hok
    obtain ⟨hok', -⟩ := hok.append v n
    obtain ⟨hsorted, hsame, -⟩ := hok'.sortBy le
    rw [arrays_appendSorted, hsame]
    exact hsorted
  appendSorted_keeps := by
    intro h s le v n hok t ht hapart
    obtain ⟨hok', -, hothers, hapart'⟩ := hok.append v n
    obtain ⟨htok, htelems⟩ := hothers t ht (.inl hapart)
    obtain ⟨-, hsame, -, hkept⟩ := hok'.sortBy le
    obtain ⟨htok', htelems'⟩ := hkept t htok (hapart' t ht hapart)
    refine ⟨htok', htelems'.trans htelems, ?_⟩
    rw [arrays_appendSorted, hsame]
    exact hapart' t ht hapart
  appendSorted_copy := by
    intro h s le v n hok
    obtain ⟨hok', helems, hothers, -⟩ := hok.append v n
    obtain ⟨hsok, hselems⟩ := hothers s hok (.inr rfl)
    rw [arrays_appendSorted]
    rcases Heap.append_cases h s v n with ⟨a, ha, hroom, happend⟩ | ⟨hroom, happend⟩
    · -- in place: the copy sees the first cells of what was sorted
      have hheader : (Heap.append h s v n).2 = ⟨some a, s.length + 1⟩ := by rw [happend]
      rw [hheader, Heap.elems_of_array rfl] at helems
      have hcells := Option.some.inj helems
      have hlength : s.length ≤ ((Heap.elems h s).getD []).length := by
        rw [Heap.elems_of_array ha]
        simp [(hok a ha).2]
      rw [hheader]
      obtain ⟨hfinal, hseen⟩ := hsok.alter_self (f := fun cells =>
        (cells.take (s.length + 1)).insertionSort (le · · = true) ++ cells.drop (s.length + 1)) ha
        (by rw [hcells, List.length_append, List.length_insertionSort, List.length_append]; omega)
      refine ⟨hfinal, hseen.trans ?_⟩
      have htaken : ((h.array a).cells.take s.length).length = s.length := by simp [(hok a ha).2]
      rw [hcells]
      refine Eq.trans ?_ (if_pos hroom).symm
      show _ = (Heap.elems h s).map _
      rw [Heap.elems_of_array ha, Option.map_some, Option.getD_some, htaken,
        List.take_append_of_le_length (by simp [htaken])]
    · have hapart : Heap.Apart (Heap.append h s v n).2 s := by
        rw [happend]
        exact hok.apart_fresh _
      obtain ⟨-, -, -, hkept⟩ := hok'.sortBy le
      obtain ⟨hfinal, hsame⟩ := hkept s hsok hapart
      exact ⟨hfinal, (hsame.trans hselems).trans (if_neg (Bool.not_eq_true _ ▸ hroom)).symm⟩

end FacetsNode
