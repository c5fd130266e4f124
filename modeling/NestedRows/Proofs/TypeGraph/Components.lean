import NestedRows.Proofs.TypeGraph.Fields
import NestedRows.Proofs.TypeGraph.Reachable
import Mathlib.Order.Bounds.Basic
/-!
# Components of the type graph

The edges of the graph are kept apart from the fields, but a field leads from one table to another
exactly if an edge does (`TypeGraph.hasFieldTo_iff_leads`). So what is reached along edges is what fields
lead to. Each reference is known to the columns at both of its ends, so for each edge there is one the
other way round (`TypeGraph.leads_symm`), and the tables split into components
(`TypeGraph.reachableFrom_components`).
-/

namespace NestedRows

theorem Key.mem_neighbours {k : Key} {table : String} :
    table ∈ k.neighbours ↔
      (∃ p, k.referencing = some p ∧ p.table = table) ∨ ∃ m ∈ k.referencedBy, m.table = table := by
  rw [neighbours, List.mem_append, List.mem_map, List.mem_map]
  simp only [Option.mem_toList]
  rfl

/-- The fields of a column lead to the tables at the other ends of its references. -/
theorem Key.mem_neighbours_iff_fields {k : Key} {table : String} :
    table ∈ k.neighbours ↔ ∃ f ∈ k.fields, f.kind.target? = some table := by
  rw [mem_neighbours]
  constructor
  · rintro (⟨p, hp, rfl⟩ | ⟨m, hm, rfl⟩)
    · have hown : ⟨k.name.column, .one p.table k.name.column p.column, true⟩ ∈ k.ownFields := by
        rw [ownFields, hp]
        exact List.mem_cons_of_mem _ List.mem_cons_self
      exact ⟨_, List.mem_append_left _ hown, rfl⟩
    · exact ⟨k.inverseField m, List.mem_append_right _ (List.mem_map_of_mem hm), rfl⟩
  · rintro ⟨f, hf, htarget⟩
    rcases kind_of_mem_fields hf with hkind | ⟨p, hp, hkind⟩ | ⟨m, hm, hkind⟩
    · rw [hkind] at htarget
      cases htarget
    · rw [hkind] at htarget
      exact .inl ⟨p, hp, Option.some.inj htarget⟩
    · rw [hkind] at htarget
      exact .inr ⟨m, hm, Option.some.inj htarget⟩

namespace TypeGraph

variable {s : Schema} {g : TypeGraph}

/-- Some field of the one table's type leads to the other table. -/
def HasFieldTo (g : TypeGraph) (a b : String) : Prop :=
  ∃ o f, g.object? a = some o ∧ f ∈ o.fields.values ∧ f.kind.target? = some b

theorem leads_iff_neighbours (hg : ofSchema s = .ok g) {a b : String} :
    g.Leads a b ↔ ∃ t ∈ s.tables.values, t.name = a ∧ ∃ k ∈ t.columns.values, b ∈ k.neighbours := by
  obtain ⟨-, rfl⟩ := ofSchema_eq_ok_iff.mp hg
  rw [leads_iff_mem_edges, List.mem_flatMap]
  constructor
  · rintro ⟨t, ht, hedge⟩
    obtain ⟨target, htarget, heq⟩ := List.mem_map.mp hedge
    obtain ⟨rfl, rfl⟩ := Prod.mk.inj heq
    exact ⟨t, ht, rfl, List.mem_flatMap.mp htarget⟩
  · rintro ⟨t, ht, rfl, hb⟩
    exact ⟨t, ht, List.mem_map.mpr ⟨b, List.mem_flatMap.mpr hb, rfl⟩⟩

theorem leads_of_field (hg : ofSchema s = .ok g) {name field target : String} {o : ObjectType} {f : Field}
    (ho : g.object? name = some o) (hfield : o.fields.get? field = some f)
    (htarget : f.kind.target? = some target) : g.Leads name target := by
  rw [leads_iff_neighbours hg]
  obtain ⟨-, rfl⟩ := ofSchema_eq_ok_iff.mp hg
  obtain ⟨t, ht, heq⟩ := List.mem_map.mp (SortedMap.mem_of_get?_ofList ho)
  obtain ⟨rfl, rfl⟩ := Prod.mk.inj heq
  obtain ⟨f', hf, heq⟩ := List.mem_map.mp (SortedMap.mem_of_get?_ofList hfield)
  obtain ⟨rfl, rfl⟩ := Prod.mk.inj heq
  obtain ⟨k, hk, hfk⟩ := List.mem_flatMap.mp hf
  exact ⟨t, ht, rfl, k, hk, Key.mem_neighbours_iff_fields.mpr ⟨f', hfk, htarget⟩⟩

section WellFormed

variable (hs : s.WellFormed) (hg : ofSchema s = .ok g)

include hs hg

theorem leads_iff_has {a b : String} :
    g.Leads a b ↔ ∃ column k, s.Has a column k ∧ b ∈ k.neighbours := by
  rw [leads_iff_neighbours hg]
  constructor
  · rintro ⟨t, ht, rfl, k, hk, hb⟩
    obtain ⟨name, hname⟩ := SortedMap.mem_values.mp ht
    obtain ⟨column, hcolumn⟩ := SortedMap.mem_values.mp hk
    exact ⟨column, k, ⟨t, hs.tableName hname ▸ hname, hcolumn⟩, hb⟩
  · rintro ⟨column, k, ⟨t, ht, hk⟩, hb⟩
    exact ⟨t, SortedMap.mem_values.mpr ⟨a, ht⟩, hs.tableName ht, k,
      SortedMap.mem_values.mpr ⟨column, hk⟩, hb⟩

/-- There is an edge for each field that leads to a table, and no other. -/
theorem hasFieldTo_iff_leads {a b : String} : g.HasFieldTo a b ↔ g.Leads a b := by
  constructor
  · rintro ⟨o, f, ho, hf, htarget⟩
    obtain ⟨field, hfield⟩ := SortedMap.mem_values.mp hf
    exact leads_of_field hg ho hfield htarget
  · intro hleads
    obtain ⟨column, k, hk, hb⟩ := (leads_iff_has hs hg).mp hleads
    obtain ⟨f, hf, htarget⟩ := Key.mem_neighbours_iff_fields.mp hb
    obtain ⟨o, ho⟩ := exists_object? hs hg hk
    have hfield := (get?_fields_iff hs hg ho).mpr ⟨rfl, column, k, hk, hf⟩
    exact ⟨o, f, ho, SortedMap.mem_values.mpr ⟨f.name, hfield⟩, htarget⟩

theorem leads_symm {a b : String} (h : g.Leads a b) : g.Leads b a := by
  rw [leads_iff_has hs hg] at h ⊢
  obtain ⟨column, k, hk, hb⟩ := h
  have hname := (hs.keyName hk).1
  rcases Key.mem_neighbours.mp hb with ⟨p, hp, rfl⟩ | ⟨m, hm, rfl⟩
  · obtain ⟨k', hk', hmem, -⟩ := hs.exists_target hk hp
    exact ⟨p.column, k', hk', Key.mem_neighbours.mpr (.inr ⟨k.name, hmem, hname⟩)⟩
  · obtain ⟨k', hk', href⟩ := hs.exists_source hk hm
    exact ⟨m.column, k', hk', Key.mem_neighbours.mpr (.inl ⟨k.name, href, hname⟩)⟩

/-- What has an edge to it is a table, for there is an edge back. -/
theorem mem_keys_of_leads {a b : String} (h : g.Leads a b) : a ∈ g.types.keys := by
  obtain ⟨column, k, hk, -⟩ := (leads_iff_has hs hg).mp h
  obtain ⟨o, ho⟩ := exists_object? hs hg hk
  exact SortedMap.contains_iff_mem_keys.mp (SortedMap.contains_iff.mpr ⟨o, ho⟩)

theorem mem_reachableFrom_symm {a b : String} (h : b ∈ g.reachableFrom a) : a ∈ g.reachableFrom b := by
  obtain ⟨ha, hchain⟩ := mem_reachableFrom_iff.mp h
  have hback : Relation.ReflTransGen g.Leads b a :=
    Relation.ReflTransGen.mono (fun _ _ => leads_symm hs hg) b a hchain.swap
  have hb : b ∈ g.types.keys := by
    rcases hchain.cases_tail with rfl | ⟨c, -, hleads⟩
    · exact ha
    · exact mem_keys_of_leads hs hg (leads_symm hs hg hleads)
  exact mem_reachableFrom_iff.mpr ⟨hb, hback⟩

theorem reachableFrom_eq_of_mem {a b : String} (h : b ∈ g.reachableFrom a) :
    g.reachableFrom b = g.reachableFrom a := by
  have hback := mem_reachableFrom_iff.mp (mem_reachableFrom_symm hs hg h)
  obtain ⟨ha, hchain⟩ := mem_reachableFrom_iff.mp h
  apply SortedSet.ext_mem
  intro c
  rw [mem_reachableFrom_iff, mem_reachableFrom_iff, and_iff_right hback.1, and_iff_right ha]
  exact ⟨hchain.trans, hback.2.trans⟩

end WellFormed

/-- The tables reached from a table are the least set with the table itself and what the fields of its
tables lead to; nothing is reached from what is no table. What is reached reaches back, so tables that
reach each other reach the same tables, and others have none in common. -/
theorem reachableFrom_components {tables : List Catalog.Table} {s : Schema} {g : TypeGraph}
    (hs : Schema.ofTables tables = .ok s) (hg : ofSchema s = .ok g) :
    (∀ root, g.object? root = none → g.reachableFrom root = ∅) ∧
    (∀ root o, g.object? root = some o →
      IsLeast {S : Set String | root ∈ S ∧ ∀ a ∈ S, ∀ b, g.HasFieldTo a b → b ∈ S}
        {a | a ∈ g.reachableFrom root}) ∧
    (∀ a b, b ∈ g.reachableFrom a ↔ a ∈ g.reachableFrom b) ∧
    (∀ a b, b ∈ g.reachableFrom a → g.reachableFrom b = g.reachableFrom a) ∧
    ∀ a b, g.reachableFrom a = g.reachableFrom b ∨
      ∀ c, ¬ (c ∈ g.reachableFrom a ∧ c ∈ g.reachableFrom b) := by
  have hwf := Schema.wellFormed_of_ofTables hs
  have hknown : ∀ name, name ∈ g.types.keys ↔ ∃ o, g.object? name = some o := by
    intro name
    rw [← SortedMap.contains_iff_mem_keys, SortedMap.contains_iff]
    rfl
  refine ⟨?_, ?_, ?_, fun a b => reachableFrom_eq_of_mem hwf hg, ?_⟩
  · intro root hnone
    apply SortedSet.ext_mem
    intro b
    refine iff_of_false ?_ (SortedSet.not_mem_empty b)
    intro hb
    obtain ⟨o, ho⟩ := (hknown root).mp (mem_reachableFrom_iff.mp hb).1
    rw [hnone] at ho
    cases ho
  · intro root o ho
    have hroot : root ∈ g.types.keys := (hknown root).mpr ⟨o, ho⟩
    constructor
    · refine ⟨mem_reachableFrom_iff.mpr ⟨hroot, .refl⟩, ?_⟩
      intro a ha b hfield
      have hchain := (mem_reachableFrom_iff.mp ha).2
      exact mem_reachableFrom_iff.mpr ⟨hroot, hchain.tail ((hasFieldTo_iff_leads hwf hg).mp hfield)⟩
    · rintro S ⟨hstart, hclosed⟩ b hb
      have hchain := (mem_reachableFrom_iff.mp hb).2
      induction hchain with
      | refl => exact hstart
      | tail hbefore hleads ih =>
        refine hclosed _ (ih (mem_reachableFrom_iff.mpr ⟨hroot, hbefore⟩)) _ ?_
        exact (hasFieldTo_iff_leads hwf hg).mpr hleads
  · exact fun a b => ⟨mem_reachableFrom_symm hwf hg, mem_reachableFrom_symm hwf hg⟩
  · intro a b
    by_cases hcommon : ∃ c, c ∈ g.reachableFrom a ∧ c ∈ g.reachableFrom b
    · obtain ⟨c, ha, hb⟩ := hcommon
      exact .inl ((reachableFrom_eq_of_mem hwf hg ha).symm.trans (reachableFrom_eq_of_mem hwf hg hb))
    · exact .inr fun c hc => hcommon ⟨c, hc⟩

/-- Beside the shop, transfers that point at accounts twice. -/
def splitTables : List Catalog.Table := Schema.shopTables ++ [
  { namespaceName := "shop", name := "transfers"
    columns := [⟨"id", "INTEGER", false, true⟩, ⟨"from_id", "INTEGER", false, false⟩,
      ⟨"to_id", "INTEGER", false, false⟩]
    foreignKeys := [⟨"from_id", "accounts", "id"⟩, ⟨"to_id", "accounts", "id"⟩] },
  { namespaceName := "shop", name := "accounts", columns := [⟨"id", "INTEGER", false, true⟩] }]

theorem reachableFrom_components_split : ∃ s g, Schema.ofTables splitTables = .ok s ∧
    ofSchema s = .ok g ∧ (g.reachableFrom "orders").toList = ["customers", "orders"] ∧
    g.reachableFrom "customers" = g.reachableFrom "orders" ∧
    (∀ c, ¬ (c ∈ g.reachableFrom "orders" ∧ c ∈ g.reachableFrom "transfers")) ∧
    g.reachableFrom "payments" = ∅ := by
  have htest : ((Schema.ofTables splitTables).toOption.any fun s => (ofSchema s).toOption.any fun g =>
      decide ((g.reachableFrom "orders").toList = ["customers", "orders"]) &&
        decide ((g.reachableFrom "transfers").toList = ["accounts", "transfers"]) &&
          (g.object? "payments").isNone) = true := by
    decide +kernel
  obtain ⟨s, hs, hgraph⟩ := exists_ok_of_any htest
  obtain ⟨g, hg, hall⟩ := exists_ok_of_any hgraph
  simp only [Bool.and_eq_true, decide_eq_true_eq, Option.isNone_iff_eq_none] at hall
  obtain ⟨⟨horders, htransfers⟩, hpayments⟩ := hall
  obtain ⟨hnowhere, -, -, hsame, hapart⟩ := reachableFrom_components hs hg
  have hcustomers : "customers" ∈ g.reachableFrom "orders" := by
    show "customers" ∈ (g.reachableFrom "orders").toList
    rw [horders]
    exact List.mem_cons_self
  refine ⟨s, g, hs, hg, horders, hsame _ _ hcustomers, ?_, hnowhere _ hpayments⟩
  refine (hapart "orders" "transfers").resolve_left fun heq => ?_
  rw [heq, htransfers] at horders
  simp at horders

end TypeGraph

end NestedRows
