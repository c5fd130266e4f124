import NestedRows.Front.Basic
import NestedRows.Proofs.Schema.Build
/-!
# What a front serves

A front is only changed by publishing: a call either publishes the snapshot that it offers, under the
next version number, or leaves the front as it is (`Front.call_cases`). So after any calls, one after the
other, the front serves what was published last, and the version numbers count the publications.
-/

namespace NestedRows

/-- The snapshot was made of its schema, and it has not been published. -/
def Snapshot.IsBuilt (s : Snapshot) : Prop := Snapshot.ofSchema s.schema s.namespaceName = .ok s

theorem Snapshot.ofSchema_eq_ok {schema : Schema} {namespaceName : String} {s : Snapshot}
    (h : ofSchema schema namespaceName = .ok s) :
    s.schema = schema ∧ TypeGraph.ofSchema s.schema = .ok s.graph := by
  rw [ofSchema] at h
  cases hg : TypeGraph.ofSchema schema with
  | error e =>
    rw [hg] at h
    cases h
  | ok graph =>
    rw [hg] at h
    obtain rfl := Except.ok.inj h
    exact ⟨rfl, hg⟩

theorem Snapshot.exists_ofSchema_iff {schema : Schema} {namespaceName : String} :
    (∃ s, ofSchema schema namespaceName = .ok s) ↔ ∃ graph, TypeGraph.ofSchema schema = .ok graph := by
  rw [ofSchema]
  cases TypeGraph.ofSchema schema <;> simp

namespace Front

/-- A call that may publish something. -/
inductive Call where
  | publish (s : Snapshot) (built : s.IsBuilt)
  | publishSchema (s : Schema)
  | rebuild (p : Catalog.Provider)

/-- What a call answers: the snapshot that it published, if it published any. -/
abbrev Answer := Except FrontError (Option Snapshot)

def call (f : Front) : Call → Answer × Front
  | .publish s _ =>
    let (s, f) := f.publish s
    (.ok (some s), f)
  | .publishSchema s =>
    let (r, f) := f.publishSchema s
    (r.map some, f)
  | .rebuild p => f.rebuild p

/-- Makes calls one after the other. -/
def callAll : Front → List Call → List Answer × Front
  | f, [] => ([], f)
  | f, c :: rest =>
    let (answer, f) := f.call c
    let (answers, f) := callAll f rest
    (answer :: answers, f)

def publishedBy : Answer → Option Snapshot
  | .ok s => s
  | .error _ => none

/-- The snapshots that were published, the first first. -/
def published (answers : List Answer) : List Snapshot := answers.filterMap publishedBy

/-- The snapshot that a call has to publish. A rebuild has none if its schema is served already. -/
def Call.Offers (f : Front) : Call → Snapshot → Prop
  | .publish s' _, s => s' = s
  | .publishSchema schema, s => Snapshot.ofSchema schema f.namespaceName = .ok s
  | .rebuild p, s => ∃ tables schema, p.introspect f.namespaceName = .ok tables ∧
      Schema.ofTables tables = .ok schema ∧ Snapshot.ofSchema schema f.namespaceName = .ok s ∧
      ∀ current, f.current = some current → current.fingerprint ≠ schema.fingerprint

/-- The front after the publication of a snapshot. -/
def after (f : Front) (s : Snapshot) : Front :=
  { f with versions := f.versions + 1, current := some { s with version := f.versions + 1 } }

theorem serves_eq_false_iff {f : Front} {schema : Schema} : f.serves schema = false ↔
    ∀ current, f.current = some current → current.fingerprint ≠ schema.fingerprint := by
  rw [serves]
  cases f.current <;> simp

theorem publishSchema_of_ok {f : Front} {schema : Schema} {s : Snapshot}
    (h : Snapshot.ofSchema schema f.namespaceName = .ok s) :
    f.publishSchema schema = (.ok { s with version := f.versions + 1 }, f.after s) := by
  rw [publishSchema, h]
  rfl

theorem publishSchema_of_error {f : Front} {schema : Schema} {e : FrontError}
    (h : Snapshot.ofSchema schema f.namespaceName = .error e) :
    f.publishSchema schema = (.error e, f) := by
  rw [publishSchema, h]

theorem offers_rebuild_iff {f : Front} {p : Catalog.Provider} {tables : List Catalog.Table}
    {schema : Schema} (htables : p.introspect f.namespaceName = .ok tables)
    (hschema : Schema.ofTables tables = .ok schema) {s : Snapshot} :
    Call.Offers f (.rebuild p) s ↔
      Snapshot.ofSchema schema f.namespaceName = .ok s ∧ f.serves schema = false := by
  rw [serves_eq_false_iff]
  constructor
  · rintro ⟨tables', schema', htables', hschema', hs, hnew⟩
    obtain rfl := Except.ok.inj (htables.symm.trans htables')
    obtain rfl := Except.ok.inj (hschema.symm.trans hschema')
    exact ⟨hs, hnew⟩
  · rintro ⟨hs, hnew⟩
    exact ⟨tables, schema, htables, hschema, hs, hnew⟩

/-- Nothing was published, and the front is as it was. -/
def Idle (f : Front) (r : Answer × Front) : Prop := publishedBy r.1 = none ∧ r.2 = f

theorem rebuild_cases (f : Front) (p : Catalog.Provider) :
    (∃ s, Call.Offers f (.rebuild p) s ∧
      f.rebuild p = (.ok (some { s with version := f.versions + 1 }), f.after s)) ∨
    (∀ s, ¬ Call.Offers f (.rebuild p) s) ∧ f.Idle (f.rebuild p) := by
  cases htables : p.introspect f.namespaceName with
  | error e =>
    refine .inr ⟨?_, by simp [rebuild, htables, Idle, publishedBy]⟩
    rintro s ⟨tables, schema, h, -⟩
    cases htables.symm.trans h
  | ok tables =>
    cases hschema : Schema.ofTables tables with
    | error e =>
      refine .inr ⟨?_, by simp [rebuild, htables, hschema, Idle, publishedBy]⟩
      rintro s ⟨tables', schema, h, hschema', -⟩
      obtain rfl := Except.ok.inj (htables.symm.trans h)
      cases hschema.symm.trans hschema'
    | ok schema =>
      simp only [offers_rebuild_iff htables hschema, rebuild, htables, hschema]
      cases hserves : f.serves schema with
      | true => exact .inr ⟨by simp, rfl, rfl⟩
      | false =>
        cases hs : Snapshot.ofSchema schema f.namespaceName with
        | error e =>
          rw [publishSchema_of_error hs]
          exact .inr ⟨by simp, rfl, rfl⟩
        | ok s =>
          rw [publishSchema_of_ok hs]
          exact .inl ⟨s, ⟨rfl, rfl⟩, rfl⟩

/-- A call publishes what it offers, or it changes nothing. -/
theorem call_cases (f : Front) (c : Call) :
    (∃ s, c.Offers f s ∧
      f.call c = (.ok (some { s with version := f.versions + 1 }), f.after s)) ∨
    (∀ s, ¬ c.Offers f s) ∧ f.Idle (f.call c) := by
  cases c with
  | publish s => exact .inl ⟨s, rfl, rfl⟩
  | publishSchema schema =>
    rw [call]
    cases hs : Snapshot.ofSchema schema f.namespaceName with
    | error e =>
      rw [publishSchema_of_error hs]
      refine .inr ⟨?_, rfl, rfl⟩
      intro s h
      cases hs.symm.trans h
    | ok s =>
      rw [publishSchema_of_ok hs]
      exact .inl ⟨s, hs, rfl⟩
  | rebuild p => exact rebuild_cases f p

theorem Call.Offers.unique {f : Front} {c : Call} {s s' : Snapshot} (h : c.Offers f s)
    (h' : c.Offers f s') : s = s' := by
  cases c with
  | publish => exact h.symm.trans h'
  | publishSchema => exact Except.ok.inj (Eq.trans (Eq.symm h) h')
  | rebuild p =>
    obtain ⟨tables, schema, htables, hschema, hs, -⟩ := h
    exact Except.ok.inj (hs.symm.trans ((offers_rebuild_iff htables hschema).mp h').1)

theorem Call.Offers.graph {f : Front} {c : Call} {s : Snapshot} (h : c.Offers f s) :
    TypeGraph.ofSchema s.schema = .ok s.graph := by
  cases c with
  | publish s' built =>
    obtain rfl : s' = s := h
    exact (Snapshot.ofSchema_eq_ok built).2
  | publishSchema => exact (Snapshot.ofSchema_eq_ok h).2
  | rebuild p =>
    obtain ⟨_, _, -, -, hs, -⟩ := h
    exact (Snapshot.ofSchema_eq_ok hs).2

theorem publishedBy_eq_some_iff {answer : Answer} {s : Snapshot} :
    publishedBy answer = some s ↔ answer = .ok (some s) := by
  cases answer <;> simp [publishedBy]

theorem call_eq_ok_iff {f : Front} {c : Call} {s : Snapshot} : (f.call c).1 = .ok (some s) ↔
    ∃ s', c.Offers f s' ∧ s = { s' with version := f.versions + 1 } := by
  rcases call_cases f c with ⟨s', hs', hcall⟩ | ⟨hnone, hidle⟩
  · rw [hcall, Except.ok.injEq, Option.some.injEq]
    constructor
    · rintro rfl
      exact ⟨s', hs', rfl⟩
    · rintro ⟨s'', hs'', rfl⟩
      rw [hs'.unique hs'']
  · rw [← publishedBy_eq_some_iff, hidle.1]
    constructor
    · intro h
      cases h
    · rintro ⟨s', hs', -⟩
      exact absurd hs' (hnone s')

theorem call_of_not_published {f : Front} {c : Call} (h : ∀ s, (f.call c).1 ≠ .ok (some s)) :
    (f.call c).2 = f := by
  rcases call_cases f c with ⟨s, -, hcall⟩ | ⟨-, hidle⟩
  · exact absurd (congrArg Prod.fst hcall) (h _)
  · exact hidle.2

theorem rebuild_congr (f : Front) {p p' : Catalog.Provider}
    (h : p'.introspect f.namespaceName = p.introspect f.namespaceName) : f.rebuild p' = f.rebuild p := by
  rw [rebuild, rebuild, h]

/-- What was just rebuilt is served already, or cannot be built again. -/
theorem idle_rebuild_again (f : Front) {p p' : Catalog.Provider}
    (h : p'.introspect f.namespaceName = p.introspect f.namespaceName) :
    (f.rebuild p).2.Idle ((f.rebuild p).2.rebuild p') := by
  rcases rebuild_cases f p with ⟨s, hs, hrebuild⟩ | ⟨-, hidle⟩
  · rw [hrebuild]
    rcases rebuild_cases (f.after s) p' with ⟨s', hs', -⟩ | ⟨-, hagain⟩
    · obtain ⟨tables, schema, htables, hschema, hs, -⟩ := hs
      have htables' : p'.introspect (f.after s).namespaceName = .ok tables := h.trans htables
      have hserved := ((offers_rebuild_iff htables' hschema).mp hs').2
      rw [serves_eq_false_iff] at hserved
      have hsame : s.schema = schema := (Snapshot.ofSchema_eq_ok hs).1
      exact absurd (congrArg Schema.fingerprint hsame)
        (hserved { s with version := f.versions + 1 } rfl)
    · exact hagain
  · rw [hidle.2, rebuild_congr f h]
    exact hidle

/-! ### Any number of calls -/

/-- The front serves the last of the snapshots, which are numbered from one on. -/
structure Serves (f : Front) (snapshots : List Snapshot) : Prop where
  current : f.current = snapshots.getLast?
  versions : f.versions = snapshots.length
  numbered : snapshots.map Snapshot.version = List.range' 1 snapshots.length
  graph : ∀ s ∈ snapshots, TypeGraph.ofSchema s.schema = .ok s.graph

theorem serves_nothing (namespaceName : String) : Serves { namespaceName } [] :=
  ⟨rfl, rfl, rfl, by simp⟩

theorem Serves.call {f : Front} {snapshots : List Snapshot} (h : f.Serves snapshots) (c : Call) :
    (f.call c).2.Serves (snapshots ++ (publishedBy (f.call c).1).toList) := by
  rcases call_cases f c with ⟨s, hs, hcall⟩ | ⟨-, hnone, hsame⟩
  · rw [hcall]
    constructor
    · simp [after, publishedBy]
    · simp [after, publishedBy, h.versions]
    · simp [publishedBy, h.numbered, h.versions, List.range'_1_concat,
        Nat.add_comm]
    · intro s' hs'
      rcases List.mem_append.mp hs' with hs' | hs'
      · exact h.graph s' hs'
      · obtain rfl := List.mem_singleton.mp hs'
        exact hs.graph
  · rw [hnone, hsame, Option.toList_none, List.append_nil]
    exact h

theorem Serves.callAll {f : Front} {snapshots : List Snapshot} (h : f.Serves snapshots)
    (calls : List Call) :
    (f.callAll calls).2.Serves (snapshots ++ published (f.callAll calls).1) := by
  induction calls generalizing f snapshots with
  | nil => simpa [Front.callAll, published] using h
  | cons c rest ih =>
    have hrest := ih (h.call c)
    rw [List.append_assoc] at hrest
    rw [Front.callAll, published]
    cases hc : publishedBy (f.call c).1 <;> simpa [List.filterMap_cons, hc, published] using hrest

theorem Serves.version_eq {f : Front} {snapshots : List Snapshot} (h : f.Serves snapshots)
    {s : Snapshot} (hs : f.current = some s) : s.version = snapshots.length := by
  rw [h.current, List.getLast?_eq_some_iff] at hs
  obtain ⟨before, rfl⟩ := hs
  have hlast := congrArg List.getLast? h.numbered
  simpa [List.range'_1_concat, Nat.add_comm] using hlast

/-- After any calls the front serves the snapshot published last, with the number of publications for
its version and the type graph of its own schema. The next call publishes what it offers, or it leaves the
front as it is. A rebuild publishes if there is a new schema to serve, so not when it is repeated. -/
theorem serves_last_publication (namespaceName : String) (calls : List Call) :
    let f := (callAll { namespaceName } calls).2
    let snapshots := published (callAll { namespaceName } calls).1
    f.Serves snapshots ∧
    (∀ s, f.current = some s → s.version = snapshots.length) ∧
    (∀ c s, (f.call c).1 = .ok (some s) ↔
      ∃ s', c.Offers f s' ∧ s = { s' with version := f.versions + 1 }) ∧
    (∀ c, (∀ s, (f.call c).1 ≠ .ok (some s)) → (f.call c).2 = f) ∧
    (∀ p, (∃ s, (f.rebuild p).1 = .ok (some s)) ↔ ∃ tables schema graph,
      p.introspect f.namespaceName = .ok tables ∧ Schema.ofTables tables = .ok schema ∧
      TypeGraph.ofSchema schema = .ok graph ∧
      ∀ current, f.current = some current → current.fingerprint ≠ schema.fingerprint) ∧
    ∀ p p', p'.introspect f.namespaceName = p.introspect f.namespaceName →
      ((f.rebuild p).2.rebuild p').2 = (f.rebuild p).2 ∧
      ∀ s, ((f.rebuild p).2.rebuild p').1 ≠ .ok (some s) := by
  intro f snapshots
  have hserves : f.Serves snapshots := by
    simpa using (serves_nothing namespaceName).callAll calls
  refine ⟨hserves, fun s hs => hserves.version_eq hs, fun c s => call_eq_ok_iff,
    fun c hc => call_of_not_published hc, fun p => ?_, fun p p' h => ?_⟩
  · have hcall : ∀ s, (f.rebuild p).1 = .ok (some s) ↔ _ := fun s => call_eq_ok_iff (c := .rebuild p)
    simp only [hcall]
    constructor
    · rintro ⟨_, s, ⟨tables, schema, htables, hschema, hs, hnew⟩, -⟩
      obtain ⟨graph, hgraph⟩ := Snapshot.exists_ofSchema_iff.mp ⟨s, hs⟩
      exact ⟨tables, schema, graph, htables, hschema, hgraph, hnew⟩
    · rintro ⟨tables, schema, graph, htables, hschema, hgraph, hnew⟩
      obtain ⟨s, hs⟩ := Snapshot.exists_ofSchema_iff.mpr ⟨graph, hgraph⟩
      exact ⟨_, s, ⟨tables, schema, htables, hschema, hs, hnew⟩, rfl⟩
  · obtain ⟨hnone, hsame⟩ := idle_rebuild_again f h
    refine ⟨hsame, fun s hs => ?_⟩
    rw [publishedBy_eq_some_iff.mpr hs] at hnone
    cases hnone

/-- The tables of the shop. -/
def shop : Catalog.Provider := .ofTables Schema.shopTables

/-- The shop with a table that nobody can describe. -/
def brokenShop : Catalog.Provider := shop.withListed ["suppliers"]

theorem serves_last_publication_shop :
    let f := (callAll { namespaceName := "shop" } [.rebuild brokenShop]).2
    let f' := (f.rebuild shop).2
    f.current = none ∧ f'.versions = 1 ∧ (f'.rebuild shop).2 = f' ∧
      ∀ s, (f'.rebuild shop).1 ≠ .ok (some s) := by
  intro f f'
  obtain ⟨hserves, -, -, -, -, hagain⟩ :=
    serves_last_publication "shop" [.rebuild brokenShop]
  have hnone : published (callAll { namespaceName := "shop" } [.rebuild brokenShop]).1 = [] := by
    apply List.eq_nil_of_length_eq_zero
    decide +kernel
  have hversions : f'.versions = 1 := by decide +kernel
  refine ⟨?_, hversions, hagain shop shop rfl⟩
  rw [hserves.current, hnone]
  rfl

end Front

end NestedRows
