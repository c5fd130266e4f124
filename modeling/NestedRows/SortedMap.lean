/-!
# Maps kept in key order

Tables, columns, fields and fingerprints are all listed by name, so the maps of this library are
association lists in strictly increasing key order. Two maps with the same look-ups are then equal
(`SortedMap.ext_get?`): a map has one representation, and whatever is computed by walking it cannot
depend on the order in which it was filled.

A `SortedSet` is the same without values.
-/

namespace NestedRows

open Std (TransOrd LawfulEqOrd)

/-- An association list in strictly increasing key order. -/
structure SortedMap (κ : Type) (α : Type) [Ord κ] where
  /-- The entries, smallest key first. -/
  toList : List (κ × α)
  sorted : toList.Pairwise fun a b => compare a.1 b.1 = .lt

namespace SortedMap

variable {κ α β : Type} [Ord κ]

/-- Writes `v` at `k` into an ordered association list, in place of an earlier value. -/
def insertInto (k : κ) (v : α) : List (κ × α) → List (κ × α)
  | [] => [(k, v)]
  | (k', v') :: rest =>
    match compare k k' with
    | .lt => (k, v) :: (k', v') :: rest
    | .eq => (k, v) :: rest
    | .gt => (k', v') :: insertInto k v rest

/-- The value at `k`; the walk stops at the first larger key. -/
def lookupIn (k : κ) : List (κ × α) → Option α
  | [] => none
  | (k', v) :: rest =>
    match compare k k' with
    | .lt => none
    | .eq => some v
    | .gt => lookupIn k rest

theorem mem_insertInto {k : κ} {v : α} {l : List (κ × α)} {e : κ × α}
    (h : e ∈ insertInto k v l) : e = (k, v) ∨ e ∈ l := by
  induction l with
  | nil => simp [insertInto] at h; exact .inl h
  | cons hd rest ih =>
    obtain ⟨k', v'⟩ := hd
    simp only [insertInto] at h
    split at h
    · rcases List.mem_cons.1 h with h | h
      · exact .inl h
      · exact .inr h
    · rcases List.mem_cons.1 h with h | h
      · exact .inl h
      · exact .inr (List.mem_cons_of_mem _ h)
    · rcases List.mem_cons.1 h with h | h
      · exact .inr (h ▸ List.mem_cons_self)
      · rcases ih h with h | h
        · exact .inl h
        · exact .inr (List.mem_cons_of_mem _ h)

theorem sorted_insertInto [TransOrd κ] {k : κ} {v : α} {l : List (κ × α)}
    (h : l.Pairwise fun a b => compare a.1 b.1 = .lt) :
    (insertInto k v l).Pairwise fun a b => compare a.1 b.1 = .lt := by
  induction l with
  | nil => simp [insertInto]
  | cons hd rest ih =>
    obtain ⟨k', v'⟩ := hd
    obtain ⟨hhd, hrest⟩ := List.pairwise_cons.1 h
    simp only [insertInto]
    split
    case h_1 hc =>
      refine List.pairwise_cons.2 ⟨fun e he => ?_, h⟩
      rcases List.mem_cons.1 he with rfl | he
      · exact hc
      · exact Std.TransCmp.lt_trans hc (hhd e he)
    case h_2 hc =>
      refine List.pairwise_cons.2 ⟨fun e he => ?_, hrest⟩
      exact Std.TransCmp.lt_of_eq_of_lt hc (hhd e he)
    case h_3 hc =>
      refine List.pairwise_cons.2 ⟨fun e he => ?_, ih hrest⟩
      rcases mem_insertInto he with rfl | he
      · exact Std.OrientedCmp.gt_iff_lt.1 hc
      · exact hhd e he

def empty : SortedMap κ α := ⟨[], .nil⟩

instance : EmptyCollection (SortedMap κ α) := ⟨empty⟩
instance : Inhabited (SortedMap κ α) := ⟨empty⟩

/-- The value at `k`, if there is one. -/
def get? (m : SortedMap κ α) (k : κ) : Option α := lookupIn k m.toList

/-- Whether `k` has a value. -/
def contains (m : SortedMap κ α) (k : κ) : Bool := (m.get? k).isSome

/-- Writes `v` at `k`, in place of an earlier value. -/
def insert [TransOrd κ] (m : SortedMap κ α) (k : κ) (v : α) : SortedMap κ α :=
  ⟨insertInto k v m.toList, sorted_insertInto m.sorted⟩

/-- Forgets the value at `k`. -/
def erase (m : SortedMap κ α) (k : κ) : SortedMap κ α :=
  ⟨m.toList.filter fun e => compare k e.1 != .eq, m.sorted.filter _⟩

/-- Fills a map from left to right, so that a later entry wins over an earlier one. -/
def ofList [TransOrd κ] (l : List (κ × α)) : SortedMap κ α :=
  l.foldl (fun m e => m.insert e.1 e.2) empty

def keys (m : SortedMap κ α) : List κ := m.toList.map (·.1)

/-- The values, in the order of their keys. -/
def values (m : SortedMap κ α) : List α := m.toList.map (·.2)

def size (m : SortedMap κ α) : Nat := m.toList.length

def isEmpty (m : SortedMap κ α) : Bool := m.toList.isEmpty

def mapValues (f : κ → α → β) (m : SortedMap κ α) : SortedMap κ β :=
  ⟨m.toList.map fun e => (e.1, f e.1 e.2), by
    rw [List.pairwise_map]; exact m.sorted⟩

/-! ### Look-ups -/

@[ext] theorem ext {m n : SortedMap κ α} (h : m.toList = n.toList) : m = n := by
  cases m; cases n; congr

@[simp] theorem get?_empty (k : κ) : (empty : SortedMap κ α).get? k = none := rfl

theorem lookupIn_insertInto [TransOrd κ] (k j : κ) (v : α) {l : List (κ × α)}
    (h : l.Pairwise fun a b => compare a.1 b.1 = .lt) :
    lookupIn j (insertInto k v l) = if compare j k = .eq then some v else lookupIn j l := by
  induction l with
  | nil =>
    simp only [insertInto, lookupIn]
    split <;> simp_all
  | cons hd rest ih =>
    obtain ⟨k', v'⟩ := hd
    obtain ⟨hhd, hrest⟩ := List.pairwise_cons.1 h
    simp only [insertInto]
    split
    case h_1 hc =>
      simp only [lookupIn]
      split
      case h_1 hj => rw [hj, Std.TransCmp.lt_trans hj hc]; rfl
      case h_2 hj => rw [hj]; rfl
      case h_3 hj => rw [hj]; rfl
    case h_2 hc =>
      simp only [lookupIn]
      have hcongr : compare j k = compare j k' := Std.TransCmp.congr_right hc
      rw [hcongr]
      split <;> simp_all
    case h_3 hc =>
      simp only [lookupIn]
      split
      case h_1 hj =>
        have : compare j k ≠ .eq := by
          intro he
          have := Std.TransCmp.lt_trans hj (Std.OrientedCmp.gt_iff_lt.1 hc)
          rw [this] at he; cases he
        simp [this]
      case h_2 hj =>
        have : compare j k ≠ .eq := by
          intro he
          have := Std.TransCmp.eq_trans (Std.OrientedCmp.eq_symm he) hj
          rw [this] at hc; cases hc
        simp [this]
      case h_3 hj => exact ih hrest

/-- Writing changes the look-up of the written key and of no other. -/
theorem get?_insert [TransOrd κ] (m : SortedMap κ α) (k j : κ) (v : α) :
    (m.insert k v).get? j = if compare j k = .eq then some v else m.get? j :=
  lookupIn_insertInto k j v m.sorted

theorem lookupIn_eq_some_iff [TransOrd κ] [LawfulEqOrd κ] {k : κ} {v : α} {l : List (κ × α)}
    (h : l.Pairwise fun a b => compare a.1 b.1 = .lt) :
    lookupIn k l = some v ↔ (k, v) ∈ l := by
  induction l with
  | nil => simp [lookupIn]
  | cons hd rest ih =>
    obtain ⟨k', v'⟩ := hd
    obtain ⟨hhd, hrest⟩ := List.pairwise_cons.1 h
    simp only [lookupIn]
    split
    case h_1 hc =>
      simp only [reduceCtorEq, List.mem_cons, Prod.mk.injEq, false_iff, not_or]
      refine ⟨fun ⟨e, _⟩ => ?_, fun hm => ?_⟩
      · subst e; simp at hc
      · have := Std.TransCmp.lt_trans hc (hhd _ hm)
        simp at this
    case h_2 hc =>
      have e := Std.LawfulEqCmp.eq_of_compare hc
      subst e
      simp only [Option.some.injEq, List.mem_cons, Prod.mk.injEq, true_and]
      refine ⟨fun e => .inl e.symm, fun hm => ?_⟩
      rcases hm with rfl | hm
      · rfl
      · have := hhd _ hm; simp at this
    case h_3 hc =>
      rw [ih hrest]
      simp only [List.mem_cons, Prod.mk.injEq]
      refine ⟨.inr, fun hm => ?_⟩
      rcases hm with ⟨rfl, _⟩ | hm
      · simp at hc
      · exact hm

/-- A look-up finds exactly the listed value. -/
theorem get?_eq_some_iff [TransOrd κ] [LawfulEqOrd κ] {m : SortedMap κ α} {k : κ} {v : α} :
    m.get? k = some v ↔ (k, v) ∈ m.toList :=
  lookupIn_eq_some_iff m.sorted

theorem eq_of_mem_iff [TransOrd κ] {l l' : List (κ × α)}
    (h : l.Pairwise fun a b => compare a.1 b.1 = .lt)
    (h' : l'.Pairwise fun a b => compare a.1 b.1 = .lt)
    (hmem : ∀ e, e ∈ l ↔ e ∈ l') : l = l' := by
  induction l generalizing l' with
  | nil =>
    cases l' with
    | nil => rfl
    | cons hd _ => exact absurd ((hmem hd).2 List.mem_cons_self) (by simp)
  | cons a rest ih =>
    cases l' with
    | nil => exact absurd ((hmem a).1 List.mem_cons_self) (by simp)
    | cons b rest' =>
      obtain ⟨ha, hrest⟩ := List.pairwise_cons.1 h
      obtain ⟨hb, hrest'⟩ := List.pairwise_cons.1 h'
      have irrefl : ∀ x : κ, compare x x ≠ .lt := by
        intro x hx; simp at hx
      have hab : a = b := by
        rcases List.mem_cons.1 ((hmem a).1 List.mem_cons_self) with e | hm
        · exact e
        · rcases List.mem_cons.1 ((hmem b).2 List.mem_cons_self) with e | hm'
          · exact e.symm
          · exact absurd (Std.TransCmp.lt_trans (ha b hm') (hb a hm)) (irrefl _)
      subst hab
      have hrests : ∀ e, e ∈ rest ↔ e ∈ rest' := by
        intro e
        constructor
        · intro he
          rcases List.mem_cons.1 ((hmem e).1 (List.mem_cons_of_mem _ he)) with rfl | h
          · exact absurd (ha _ he) (irrefl _)
          · exact h
        · intro he
          rcases List.mem_cons.1 ((hmem e).2 (List.mem_cons_of_mem _ he)) with rfl | h
          · exact absurd (hb _ he) (irrefl _)
          · exact h
      rw [ih hrest hrest' hrests]

/-- A map is determined by its look-ups. -/
theorem ext_get? [TransOrd κ] [LawfulEqOrd κ] {m n : SortedMap κ α}
    (h : ∀ k, m.get? k = n.get? k) : m = n :=
  ext (eq_of_mem_iff m.sorted n.sorted fun ⟨k, v⟩ => by
    rw [← get?_eq_some_iff, ← get?_eq_some_iff, h])

end SortedMap

/-! ### Sets -/

/-- A list without repetition in increasing order. -/
structure SortedSet (κ : Type) [Ord κ] where
  /-- The elements, smallest first. -/
  toList : List κ
  sorted : toList.Pairwise fun a b => compare a b = .lt

namespace SortedSet

variable {κ : Type} [Ord κ]

@[ext] theorem ext {s t : SortedSet κ} (h : s.toList = t.toList) : s = t := by
  cases s; cases t; congr

instance [DecidableEq κ] : DecidableEq (SortedSet κ) := fun s t =>
  if h : s.toList = t.toList then isTrue (ext h) else isFalse fun e => h (e ▸ rfl)

/-- Adds `x` to an ordered list unless it is there. -/
def insertInto (x : κ) : List κ → List κ
  | [] => [x]
  | y :: rest =>
    match compare x y with
    | .lt => x :: y :: rest
    | .eq => y :: rest
    | .gt => y :: insertInto x rest

theorem mem_insertInto {x y : κ} {l : List κ} (h : y ∈ insertInto x l) : y = x ∨ y ∈ l := by
  induction l with
  | nil => simp [insertInto] at h; exact .inl h
  | cons z rest ih =>
    simp only [insertInto] at h
    split at h
    · exact List.mem_cons.1 h
    · exact .inr h
    · rcases List.mem_cons.1 h with rfl | h
      · exact .inr List.mem_cons_self
      · exact (ih h).imp id (List.mem_cons_of_mem _)

theorem sorted_insertInto [TransOrd κ] {x : κ} {l : List κ}
    (h : l.Pairwise fun a b => compare a b = .lt) :
    (insertInto x l).Pairwise fun a b => compare a b = .lt := by
  induction l with
  | nil => simp [insertInto]
  | cons y rest ih =>
    obtain ⟨hy, hrest⟩ := List.pairwise_cons.1 h
    simp only [insertInto]
    split
    case h_1 hc =>
      refine List.pairwise_cons.2 ⟨fun z hz => ?_, h⟩
      rcases List.mem_cons.1 hz with rfl | hz
      · exact hc
      · exact Std.TransCmp.lt_trans hc (hy z hz)
    case h_2 => exact h
    case h_3 hc =>
      refine List.pairwise_cons.2 ⟨fun z hz => ?_, ih hrest⟩
      rcases mem_insertInto hz with rfl | hz
      · exact Std.OrientedCmp.gt_iff_lt.1 hc
      · exact hy z hz

def empty : SortedSet κ := ⟨[], .nil⟩

instance : EmptyCollection (SortedSet κ) := ⟨empty⟩
instance : Inhabited (SortedSet κ) := ⟨empty⟩
instance : Membership κ (SortedSet κ) := ⟨fun s x => x ∈ s.toList⟩

def insert [TransOrd κ] (s : SortedSet κ) (x : κ) : SortedSet κ :=
  ⟨insertInto x s.toList, sorted_insertInto s.sorted⟩

def ofList [TransOrd κ] (l : List κ) : SortedSet κ := l.foldl insert empty

def union [TransOrd κ] (s t : SortedSet κ) : SortedSet κ := t.toList.foldl insert s

/-- Whether `x` is an element. -/
def contains (s : SortedSet κ) (x : κ) : Bool := s.toList.any fun y => compare x y == .eq

def min? (s : SortedSet κ) : Option κ := s.toList.head?

end SortedSet

end NestedRows
