import NestedRows.Proofs.Front.Publication
import NestedRows.Proofs.Schema.Fingerprint
import NestedRows.Proofs.TypeGraph.Fields
/-!
# What a rebuild skips

A rebuild compares digests, not schemas. It is right to do so as long as the digest does not collide on
the two texts: these tell the schemas, so a rebuild that publishes nothing has found the schema that is
served, and with it the type graph (`Front.skips_only_served`).
-/

namespace NestedRows.Front

/-- What the call publishes comes from a finished draft; a rebuild makes its own. -/
def Call.Drafted : Call → Prop
  | .publish s _ => ∃ d, Draft.build d = .ok s.schema
  | .publishSchema s => ∃ d, Draft.build d = .ok s
  | .rebuild _ => True

theorem Call.Offers.allDeclared {f : Front} {c : Call} {s : Snapshot} (h : c.Offers f s)
    (hc : c.Drafted) : s.schema.AllDeclared := by
  cases c with
  | publish s' built =>
    obtain rfl : s' = s := h
    obtain ⟨d, hd⟩ := hc
    exact Draft.build_allDeclared hd
  | publishSchema schema =>
    obtain ⟨d, hd⟩ := hc
    rw [(Snapshot.ofSchema_eq_ok h).1]
    exact Draft.build_allDeclared hd
  | rebuild p =>
    obtain ⟨tables, schema, -, hschema, hs, -⟩ := h
    rw [(Snapshot.ofSchema_eq_ok hs).1]
    exact Schema.ofTables_allDeclared hschema

theorem allDeclared_callAll {calls : List Call} (hcalls : ∀ c ∈ calls, c.Drafted) {f : Front}
    (hf : ∀ s, f.current = some s → s.schema.AllDeclared) {s : Snapshot}
    (hs : (f.callAll calls).2.current = some s) : s.schema.AllDeclared := by
  induction calls generalizing f with
  | nil => exact hf s hs
  | cons c rest ih =>
    have hstep : ∀ s', (f.call c).2.current = some s' → s'.schema.AllDeclared := ?_
    · exact ih (fun c' hc' => hcalls c' (List.mem_cons_of_mem _ hc')) hstep hs
    intro s' hs'
    rcases call_cases f c with ⟨offered, hoffers, hcall⟩ | ⟨-, -, hsame⟩
    · rw [hcall] at hs'
      obtain rfl := Option.some.inj hs'
      exact hoffers.allDeclared (hcalls c List.mem_cons_self)
    · rw [hsame] at hs'
      exact hf s' hs'

theorem serves_iff {f : Front} {schema : Schema} : f.serves schema = true ↔
    ∃ current, f.current = some current ∧ current.fingerprint = schema.fingerprint := by
  rw [serves]
  cases f.current <;> simp

theorem rebuild_skips_iff_serves {f : Front} {p : Catalog.Provider} {tables : List Catalog.Table}
    {schema : Schema} (htables : p.introspect f.namespaceName = .ok tables)
    (hschema : Schema.ofTables tables = .ok schema) :
    (f.rebuild p).1 = .ok none ↔ f.serves schema = true := by
  simp only [rebuild, htables, hschema]
  cases f.serves schema with
  | true => exact ⟨fun _ => rfl, fun _ => rfl⟩
  | false =>
    cases hs : Snapshot.ofSchema schema f.namespaceName with
    | error e =>
      rw [publishSchema_of_error hs]
      simp [Except.map]
    | ok s =>
      rw [publishSchema_of_ok hs]
      simp [Except.map]

theorem exists_schema_of_rebuild_skips {f : Front} {p : Catalog.Provider}
    (h : (f.rebuild p).1 = .ok none) : ∃ tables schema,
      p.introspect f.namespaceName = .ok tables ∧ Schema.ofTables tables = .ok schema := by
  rw [rebuild] at h
  cases htables : p.introspect f.namespaceName with
  | error e =>
    rw [htables] at h
    cases h
  | ok tables =>
    cases hschema : Schema.ofTables tables with
    | error e =>
      rw [htables] at h
      simp only [hschema] at h
      cases h
    | ok schema => exact ⟨tables, schema, rfl, hschema⟩

/-- The text of a finished draft's schema tells the schema. So if the digest tells the texts of the served
and the new schema apart, a rebuild publishes nothing exactly if they are the same, and then the type graph
of the new schema is the one that is served. -/
theorem skips_only_served (namespaceName : String) (calls : List Call)
    (hcalls : ∀ c ∈ calls, c.Drafted) (p : Catalog.Provider) :
    let f := (callAll { namespaceName } calls).2
    (∀ d d' s s', Draft.build d = .ok s → Draft.build d' = .ok s' →
      (s.toJson.render = s'.toJson.render ↔ s = s')) ∧
    ((f.rebuild p).1 = .ok none → ∃ current tables schema, f.current = some current ∧
      p.introspect f.namespaceName = .ok tables ∧ Schema.ofTables tables = .ok schema) ∧
    ∀ current tables schema, f.current = some current → p.introspect f.namespaceName = .ok tables →
      Schema.ofTables tables = .ok schema →
      Sha256.Separates current.schema.toJson.render schema.toJson.render →
      ((f.rebuild p).1 = .ok none ↔ current.schema = schema) ∧
      (current.schema = schema → TypeGraph.ofSchema schema = .ok current.graph) := by
  intro f
  refine ⟨fun d d' s s' hs hs' => ?_, fun h => ?_, ?_⟩
  · exact Schema.render_eq_iff (Draft.build_allDeclared hs) (Draft.build_allDeclared hs')
  · obtain ⟨tables, schema, htables, hschema⟩ := exists_schema_of_rebuild_skips h
    obtain ⟨current, hcurrent, -⟩ :=
      serves_iff.mp ((rebuild_skips_iff_serves htables hschema).mp h)
    exact ⟨current, tables, schema, hcurrent, htables, hschema⟩
  · intro current tables schema hcurrent htables hschema hseparates
    have hserved : current.schema.AllDeclared :=
      allDeclared_callAll hcalls (fun s hs => by cases hs) hcurrent
    have hsame : current.fingerprint = schema.fingerprint ↔ current.schema = schema :=
      Schema.fingerprint_eq_iff hserved (Schema.ofTables_allDeclared hschema) hseparates
    refine ⟨?_, ?_⟩
    · rw [rebuild_skips_iff_serves htables hschema, serves_iff, hcurrent, ← hsame]
      simp
    · rintro rfl
      have hserves : f.Serves _ := (serves_nothing namespaceName).callAll calls
      rw [hserves.current] at hcurrent
      exact hserves.graph current (List.mem_of_getLast? hcurrent)

/-- A table with names that hold what JSON escapes. -/
def quotedTables (column : String) : List Catalog.Table := [
  { namespaceName := "shop", name := "a\":b"
    columns := [⟨column, "INTEGER", false, true⟩], foreignKeys := [] }]

def quotedShop (column : String) : Catalog.Provider := .ofTables (quotedTables column)

theorem skips_only_served_quoted :
    let f := (callAll { namespaceName := "shop" } [.rebuild (quotedShop "c\\,")]).2
    ∃ current s', f.current = some current ∧
      Schema.ofTables (quotedTables "c\\,") = .ok current.schema ∧
      Schema.ofTables (quotedTables "c,") = .ok s' ∧
      current.schema.toJson.render ≠ s'.toJson.render ∧
      (f.rebuild (quotedShop "c\\,")).1 = .ok none ∧ (f.rebuild (quotedShop "c,")).1 ≠ .ok none ∧
      TypeGraph.ofSchema current.schema = .ok current.graph := by
  intro f
  have htests : ((Schema.ofTables (quotedTables "c\\,")).toOption.any fun s =>
      (Schema.ofTables (quotedTables "c,")).toOption.any fun s' =>
        decide (f.current.map (·.schema.toJson.render) = some s.toJson.render) &&
        decide (s.fingerprint ≠ s'.fingerprint)) = true := by
    decide +kernel
  obtain ⟨s, hs, htests⟩ := exists_ok_of_any htests
  obtain ⟨s', hs', htests⟩ := exists_ok_of_any htests
  obtain ⟨htext, hfingerprint⟩ := Bool.and_eq_true_iff.mp htests
  obtain ⟨current, hcurrent, htext⟩ := Option.map_eq_some_iff.mp (of_decide_eq_true htext)
  have hne : s.fingerprint ≠ s'.fingerprint := of_decide_eq_true hfingerprint
  have hcalls : ∀ c ∈ [Call.rebuild (quotedShop "c\\,")], c.Drafted := by simp [Call.Drafted]
  have htables : (quotedShop "c\\,").introspect f.namespaceName = .ok (quotedTables "c\\,") := rfl
  have hagain := (skips_only_served "shop" _ hcalls (quotedShop "c\\,")).2.2 current
    (quotedTables "c\\,") s hcurrent htables hs (fun _ => htext)
  have hnew := skips_only_served "shop" _ hcalls (quotedShop "c,")
  have hskips : (f.rebuild (quotedShop "c\\,")).1 = .ok none :=
    (rebuild_skips_iff_serves htables hs).mpr
      (serves_iff.mpr ⟨current, hcurrent, congrArg Sha256.hexDigestOfText htext⟩)
  obtain rfl : current.schema = s := hagain.1.mp hskips
  obtain ⟨d, hd⟩ := Schema.exists_draft hs
  obtain ⟨d', hd'⟩ := Schema.exists_draft hs'
  have hschemas : current.schema ≠ s' := fun h => hne (congrArg Schema.fingerprint h)
  refine ⟨current, s', hcurrent, hs, hs', ?_, hskips, ?_, hagain.2 rfl⟩
  · exact fun h => hschemas ((hnew.1 d d' _ _ hd hd').mp h)
  · intro h
    exact hschemas (((hnew.2.2 current (quotedTables "c,") s' hcurrent rfl hs'
      (fun h => absurd h hne)).1).mp h)

end NestedRows.Front
