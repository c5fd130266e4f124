import NestedRows.TypeGraph.Reachable
import NestedRows.Proofs.SortedMap
import Mathlib.Data.List.Nodup
import Mathlib.Data.List.Perm.Subperm
import Mathlib.Logic.Relation
/-!
# Reachable tables are the closure

The tables that are reached from a table are those that a chain of edges leads to
(`TypeGraph.mem_reachableFrom_iff`). A search keeps what it has visited and what waits for a visit apart,
and everything that it has found is one of the two (`Search.Notes`). So no table is visited twice, and
there are enough visits: all that is ever found is the start and the ends of edges.
-/

namespace NestedRows

/-- An edge of the graph leads from the one table to the other. -/
def TypeGraph.Leads (g : TypeGraph) (a b : String) : Prop := b ∈ g.targets a

theorem TypeGraph.leads_iff_mem_edges {g : TypeGraph} {a b : String} : g.Leads a b ↔ (a, b) ∈ g.edges := by
  rw [Leads, targets, List.mem_filterMap]
  constructor
  · rintro ⟨⟨source, target⟩, hmem, heq⟩
    obtain ⟨rfl, rfl⟩ : source = a ∧ target = b := by simpa using heq
    exact hmem
  · intro hmem
    exact ⟨(a, b), hmem, if_pos rfl⟩

namespace Search

variable {g : TypeGraph} {visited : List String} {s : Search}

/-- What has been found has been visited or waits for its visit, and nothing does so twice. -/
structure Notes (visited : List String) (s : Search) : Prop where
  nodup : (visited ++ s.waiting).Nodup
  found : ∀ a, a ∈ s.found ↔ a ∈ visited ++ s.waiting

theorem Notes.find (h : Notes visited s) (name : String) :
    Notes visited (s.find name) ∧
      ∀ a, a ∈ visited ++ (s.find name).waiting ↔ a ∈ visited ++ s.waiting ∨ a = name := by
  rw [Search.find]
  by_cases hfound : name ∈ s.found
  · rw [if_pos (SortedSet.contains_iff.mpr hfound)]
    refine ⟨h, fun a => ⟨.inl, ?_⟩⟩
    rintro (ha | rfl)
    · exact ha
    · exact (h.found _).mp hfound
  · rw [if_neg fun hcontains => hfound (SortedSet.contains_iff.mp hcontains)]
    have hmem : ∀ a, a ∈ visited ++ (s.waiting ++ [name]) ↔ a ∈ visited ++ s.waiting ∨ a = name := by
      intro a
      rw [← List.append_assoc, List.mem_append, List.mem_singleton]
    refine ⟨⟨?_, fun a => ?_⟩, hmem⟩
    · have hnew : name ∉ visited ++ s.waiting := fun hold => hfound ((h.found name).mpr hold)
      show (visited ++ (s.waiting ++ [name])).Nodup
      rw [← List.append_assoc]
      refine List.nodup_append.mpr ⟨h.nodup, List.nodup_singleton name, ?_⟩
      intro a ha b hb
      obtain rfl := List.mem_singleton.mp hb
      exact fun heq => hnew (heq ▸ ha)
    · show a ∈ s.found.insert name ↔ a ∈ visited ++ (s.waiting ++ [name])
      rw [SortedSet.mem_insert, hmem, h.found, or_comm]

theorem Notes.foldl_find (h : Notes visited s) (l : List String) :
    Notes visited (l.foldl Search.find s) ∧
      ∀ a, a ∈ visited ++ (l.foldl Search.find s).waiting ↔ a ∈ visited ++ s.waiting ∨ a ∈ l := by
  induction l generalizing s with
  | nil => exact ⟨h, by simp⟩
  | cons name rest ih =>
    obtain ⟨hnotes, hmem⟩ := h.find name
    obtain ⟨hall, hmore⟩ := ih hnotes
    refine ⟨hall, fun a => ?_⟩
    rw [List.foldl_cons, hmore, hmem, List.mem_cons, or_assoc]

/-- How far a search from `root` has come: everything found is reached by a chain of edges, and whatever
an edge leads to from a visited table has been found. -/
structure Tracks (g : TypeGraph) (root : String) (visited : List String) (s : Search) : Prop
    extends Notes visited s where
  begins : root ∈ visited ++ s.waiting
  chain : ∀ a ∈ visited ++ s.waiting, Relation.ReflTransGen g.Leads root a
  followed : ∀ a ∈ visited, ∀ b, g.Leads a b → b ∈ visited ++ s.waiting

theorem tracks_start (g : TypeGraph) (root : String) : Tracks g root [] (.start root) where
  nodup := List.nodup_singleton root
  found a := by simp [start]
  begins := List.mem_singleton_self root
  chain a ha := by
    obtain rfl := List.mem_singleton.mp ha
    exact .refl
  followed a ha := by cases ha

theorem Tracks.visit {root name : String} {s' : Search} (h : Tracks g root visited s)
    (hvisit : s.visit? g = some (name, s')) : Tracks g root (visited ++ [name]) s' := by
  rw [visit?] at hvisit
  cases hwaiting : s.waiting with
  | nil =>
    rw [hwaiting] at hvisit
    cases hvisit
  | cons first rest =>
    rw [hwaiting] at hvisit
    obtain ⟨rfl, rfl⟩ := Prod.mk.inj (Option.some.inj hvisit)
    -- the table leaves those that wait and joins those that have been visited
    have hmoved : visited ++ s.waiting = (visited ++ [first]) ++ rest := by
      rw [hwaiting, List.append_assoc, List.singleton_append]
    have hnotes : Notes (visited ++ [first]) { s with waiting := rest } :=
      ⟨hmoved ▸ h.nodup, fun a => hmoved ▸ h.found a⟩
    obtain ⟨hfound, hmem⟩ := hnotes.foldl_find (g.targets first)
    refine ⟨hfound, ?_, ?_, ?_⟩
    · exact (hmem root).mpr (.inl (hmoved ▸ h.begins))
    · intro a ha
      rcases (hmem a).mp ha with hold | hleads
      · exact h.chain a (hmoved ▸ hold)
      · have hfirst : first ∈ visited ++ s.waiting := by simp [hwaiting]
        exact (h.chain first hfirst).tail hleads
    · intro a ha b hleads
      rcases List.mem_append.mp ha with hold | hnew
      · exact (hmem b).mpr (.inl (hmoved ▸ h.followed a hold b hleads))
      · obtain rfl := List.mem_singleton.mp hnew
        exact (hmem b).mpr (.inr hleads)

/-- Visits go on until nothing waits any more, or until there have been as many as were asked for. -/
theorem Tracks.visits {root : String} (h : Tracks g root visited s) (n : Nat) :
    ∃ s', Tracks g root (visited ++ visits g n s) s' ∧
      (s'.waiting = [] ∨ (visits g n s).length = n) := by
  induction n generalizing visited s with
  | zero => exact ⟨s, by rwa [Search.visits, List.append_nil], .inr rfl⟩
  | succ n ih =>
    rw [Search.visits]
    cases hvisit : s.visit? g with
    | none =>
      have hdone : s.waiting = [] := by
        rw [visit?] at hvisit
        split at hvisit
        · assumption
        · cases hvisit
      exact ⟨s, by rwa [List.append_nil], .inl hdone⟩
    | some next =>
      obtain ⟨name, s'⟩ := next
      obtain ⟨last, htracks, hover⟩ := ih (h.visit hvisit)
      rw [List.append_assoc, List.singleton_append] at htracks
      exact ⟨last, htracks, hover.imp_right (congrArg Nat.succ)⟩

/-- All that is found is the start and the ends of edges. -/
theorem Tracks.length_le {root : String} (h : Tracks g root visited s) :
    (visited ++ s.waiting).length ≤ g.edges.length + 1 := by
  have hends : visited ++ s.waiting ⊆ root :: g.edges.map Prod.snd := by
    intro a ha
    rcases (h.chain a ha).cases_tail with rfl | ⟨b, -, hleads⟩
    · exact List.mem_cons_self
    · exact List.mem_cons_of_mem _
        (List.mem_map.mpr ⟨(b, a), TypeGraph.leads_iff_mem_edges.mp hleads, rfl⟩)
  calc (visited ++ s.waiting).length
      ≤ (root :: g.edges.map Prod.snd).length := (List.subperm_of_subset h.nodup hends).length_le
    _ = g.edges.length + 1 := by rw [List.length_cons, List.length_map]

theorem mem_visits_iff {root b : String} :
    b ∈ visits g (g.edges.length + 1) (.start root) ↔ Relation.ReflTransGen g.Leads root b := by
  obtain ⟨s, htracks, hover⟩ := (tracks_start g root).visits (g.edges.length + 1)
  rw [List.nil_append] at htracks
  have hdone : s.waiting = [] := by
    refine hover.elim id fun hall => ?_
    have hbound := htracks.length_le
    rw [List.length_append, hall] at hbound
    apply List.eq_nil_of_length_eq_zero
    omega
  have hvisited : ∀ a, a ∈ visits g (g.edges.length + 1) (.start root) ++ s.waiting ↔
      a ∈ visits g (g.edges.length + 1) (.start root) := by
    intro a
    rw [hdone, List.append_nil]
  constructor
  · intro hb
    exact htracks.chain b ((hvisited b).mpr hb)
  · intro hchain
    induction hchain with
    | refl => exact (hvisited root).mp htracks.begins
    | tail _ hleads ih => exact (hvisited _).mp (htracks.followed _ ih _ hleads)

end Search

/-- What is reached from a table of the graph is what chains of edges lead to. -/
theorem TypeGraph.mem_reachableFrom_iff {g : TypeGraph} {root b : String} :
    b ∈ g.reachableFrom root ↔
      root ∈ g.types.keys ∧ Relation.ReflTransGen g.Leads root b := by
  rw [reachableFrom, ← SortedMap.contains_iff_mem_keys]
  split_ifs with hknown
  · rw [SortedSet.mem_ofList, Search.mem_visits_iff, and_iff_right hknown]
  · refine iff_of_false (SortedSet.not_mem_empty b) ?_
    rintro ⟨hroot, -⟩
    exact hknown hroot

end NestedRows
