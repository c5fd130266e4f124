import NestedRows.Proofs.Query.Fetching
import NestedRows.Proofs.Query.Meaning
import Mathlib.Data.List.Forall2
/-!
# The shape of a response

Whatever rows a source answers with, the response is made like its selection (`CompiledQuery.run_shaped`).
There is an object for each row of the root, and its fields are named like the fields selected. A scalar is
a cell of the row, or null; a step to one row is an object made of the same row, or null where the row has
no value for the column that leads there; a step to many rows is a list of objects, each made of a row that
was fetched. Of selections with one name the last counts.

A selection is compiled before anything is fetched, so the shape has to survive twice: components are in
the order of the selections that are no markers (`Shapes`), and an object keeps the last of the fields with
one name.
-/

namespace NestedRows

variable {σ α β : Type}

/-- The last of the selections with a name. -/
def Selection.lastNamed? (l : List Selection) (name : String) : Option Selection :=
  (l.filter fun s => s.name = name).getLast?

/-- Rows that are known of tables: `given table aliasName row`. -/
abbrev GivenRows := String → String → Row → Prop

mutual

/-- The value of a selected field, made of a row in which the table of `o` is called `aliasName`. -/
inductive Shaped (g : TypeGraph) (given : GivenRows) : Row → String → ObjectType → Selection → Json → Prop
  | scalar {row : Row} {aliasName name column : String} {o : ObjectType} {fieldType : FieldType} {f : Field}
      (hfield : o.fields.get? name = some f) (hkind : f.kind = .scalar column fieldType) :
      Shaped g given row aliasName o (.node name []) ((row.get? (aliasName ++ "_" ++ column)).getD .null)
  | absent {row : Row} {aliasName below name target localKey remoteKey : String} {o : ObjectType}
      {f : Field} {children : List Selection} (hfield : o.fields.get? name = some f)
      (hkind : f.kind = .one target localKey remoteKey)
      (hnull : (row.get? (below ++ "_" ++ remoteKey)).getD .null = .null) :
      Shaped g given row aliasName o (.node name children) .null
  | one {row : Row} {aliasName below name target localKey remoteKey : String} {o t : ObjectType}
      {f : Field} {children : List Selection} {v : Json} (hfield : o.fields.get? name = some f)
      (hkind : f.kind = .one target localKey remoteKey) (htarget : g.object? target = some t)
      (hpresent : (row.get? (below ++ "_" ++ remoteKey)).getD .null ≠ .null)
      (hobject : ShapedObject g given row below t children v) :
      Shaped g given row aliasName o (.node name children) v
  | many {row : Row} {aliasName name target localKey remoteKey : String} {o t : ObjectType}
      {f : Field} {children : List Selection} {items : List Json} (hfield : o.fields.get? name = some f)
      (hkind : f.kind = .many target localKey remoteKey) (htarget : g.object? target = some t)
      (hitems : ∀ item ∈ items, ShapedItem g given t children item) :
      Shaped g given row aliasName o (.node name children) (.arr items)

/-- An object with a field for each name selected, made as the last selection of the name says. -/
inductive ShapedObject (g : TypeGraph) (given : GivenRows) :
    Row → String → ObjectType → List Selection → Json → Prop
  | object {row : Row} {aliasName : String} {o : ObjectType} {l : List Selection}
      {fields : SortedMap String Json}
      (hnames : ∀ name, fields.contains name = true ↔
        Plan.isMarker name = false ∧ name ∈ l.map Selection.name)
      (hvalues : ∀ name s v, Selection.lastNamed? l name = some s → fields.get? name = some v →
        Shaped g given row aliasName o s v) :
      ShapedObject g given row aliasName o l (.obj fields.toList)

/-- An object in a list, made of a row of the table that the list is about. -/
inductive ShapedItem (g : TypeGraph) (given : GivenRows) : ObjectType → List Selection → Json → Prop
  | item {row : Row} {aliasName : String} {t : ObjectType} {l : List Selection} {v : Json}
      (hgiven : given t.name aliasName row) (hobject : ShapedObject g given row aliasName t l v) :
      ShapedItem g given t l v

end

/-! ### Fields in order -/

/-- Fields in the order of the selections that are no markers. -/
def Shapes (g : TypeGraph) (given : GivenRows) (row : Row) (aliasName : String) (o : ObjectType)
    (l : List Selection) (fields : List (String × Json)) : Prop :=
  List.Forall₂ (fun s f => f.1 = s.name ∧ Shaped g given row aliasName o s f.2)
    (l.filter fun s => !Plan.isMarker s.name) fields

theorem getLast?_of_forall₂ {R : α → β → Prop} {l : List α} {m : List β} (h : List.Forall₂ R l m)
    {b : β} (hb : m.getLast? = some b) : ∃ a, l.getLast? = some a ∧ R a b := by
  rw [← List.head?_reverse] at hb ⊢
  have hreverse := List.forall₂_reverse_iff.mpr h
  generalize l.reverse = l', m.reverse = m' at hb hreverse
  cases hreverse with
  | nil => cases hb
  | cons hab _ =>
    obtain rfl := Option.some.inj hb
    exact ⟨_, rfl, hab⟩

section Shapes

variable {g : TypeGraph} {given : GivenRows} {row : Row} {aliasName : String} {o : ObjectType}
  {l : List Selection} {fields : List (String × Json)}

theorem Shapes.names (h : Shapes g given row aliasName o l fields) :
    fields.map Prod.fst = (l.filter fun s => !Plan.isMarker s.name).map Selection.name := by
  rw [Shapes] at h
  generalize (l.filter fun s => !Plan.isMarker s.name) = selected at h ⊢
  induction h with
  | nil => rfl
  | cons hsf _ ih => rw [List.map_cons, List.map_cons, hsf.1, ih]

theorem Shapes.filter (h : Shapes g given row aliasName o l fields) {name : String}
    (hname : Plan.isMarker name = false) :
    List.Forall₂ (fun s f => f.1 = s.name ∧ Shaped g given row aliasName o s f.2)
      (l.filter fun s => s.name = name) (fields.filter fun f => f.1 = name) := by
  have hfilter : (l.filter fun s => s.name = name)
      = (l.filter fun s => !Plan.isMarker s.name).filter fun s => s.name = name := by
    rw [List.filter_filter]
    refine List.filter_congr fun s _ => ?_
    by_cases hs : s.name = name <;> simp [hs, hname]
  rw [hfilter]
  refine List.rel_filter (fun s f hsf => ?_) h
  simp only [hsf.1]

theorem Shapes.sortedObj (h : Shapes g given row aliasName o l fields) :
    ShapedObject g given row aliasName o l (.sortedObj fields) := by
  have hget : ∀ name v, (SortedMap.ofList fields).get? name = some v → (name, v) ∈ fields :=
    fun _ _ => SortedMap.mem_of_get?_ofList
  have hmem : ∀ name, name ∈ fields.map Prod.fst ↔
      Plan.isMarker name = false ∧ name ∈ l.map Selection.name := by
    intro name
    simp only [h.names, List.mem_map, List.mem_filter, Bool.not_eq_true']
    constructor
    · rintro ⟨s, ⟨hs, hmarker⟩, rfl⟩
      exact ⟨hmarker, s, hs, rfl⟩
    · rintro ⟨hmarker, s, hs, rfl⟩
      exact ⟨s, ⟨hs, hmarker⟩, rfl⟩
  refine .object (fun name => ?_) fun name s v hs hv => ?_
  · rw [← hmem, SortedMap.contains, SortedMap.get?_ofList_eq_getLast?, Option.isSome_map,
      List.getLast?_isSome]
    simp
  · have hmarker : Plan.isMarker name = false :=
      ((hmem name).mp (List.mem_map_of_mem (hget name v hv))).1
    rw [SortedMap.get?_ofList_eq_getLast?, Option.map_eq_some_iff] at hv
    obtain ⟨f, hf, rfl⟩ := hv
    obtain ⟨s', hs', -, hshaped⟩ := getLast?_of_forall₂ (h.filter hmarker) hf
    obtain rfl := Option.some.inj (hs'.symm.trans hs)
    exact hshaped

end Shapes

/-! ### Runs that succeed -/

/-- Nothing that was asked before is forgotten. -/
def Run.Keeps (r : Run (σ × List Asked) α) (log : List Asked) : Prop := log ⊆ r.2.2

/-- The run ends with a result, and what was asked is among what `log` holds. -/
structure Run.EndsIn (r : Run (σ × List Asked) α) (log : List Asked) (a : α) : Prop where
  result : r.1 = .ok a
  logged : r.2.2 ⊆ log

theorem Run.Keeps.next {r : Run (σ × List Asked) α} {f : α → σ × List Asked → Run (σ × List Asked) β}
    {log : List Asked} (hr : r.Keeps log) (hf : ∀ a state, (f a state).Keeps state.2) :
    (r.next f).Keeps log := by
  obtain ⟨result, state⟩ := r
  cases result with
  | error e => exact hr
  | ok a => exact List.Subset.trans hr (hf a state)

theorem Run.EndsIn.of_next {r : Run (σ × List Asked) α}
    {f : α → σ × List Asked → Run (σ × List Asked) β} {log : List Asked} {b : β}
    (h : (r.next f).EndsIn log b) (hf : ∀ a state, (f a state).Keeps state.2) :
    ∃ a, r.EndsIn log a ∧ (f a r.2).EndsIn log b := by
  obtain ⟨result, state⟩ := r
  cases result with
  | error e => cases h.result
  | ok a => exact ⟨a, ⟨rfl, List.Subset.trans (hf a state) h.logged⟩, h⟩

section Logged

variable (source : RowSource σ) (d : Dialect)

theorem RowSource.keeps_logged (sql : String) (columns : List OutputColumn) (state : σ × List Asked) :
    Run.Keeps (source.logged sql columns state) state.2 :=
  List.subset_append_left _ _

theorem Statement.keeps_runWith (s : Statement) (keys : List Sql.Literal)
    {below : List Row → σ × List Asked → Run (σ × List Asked) (List Groups)}
    (hbelow : ∀ rows state, (below rows state).Keeps state.2) (state : σ × List Asked) :
    (s.runWith source.logged d keys below state).Keeps state.2 := by
  rw [Statement.runWith]
  split
  · exact List.Subset.refl _
  · refine (source.keeps_logged _ _ _).next fun rows state => ?_
    exact (hbelow rows state).next fun _ _ => List.Subset.refl _

mutual

theorem Component.keeps_runBelow : (c : Component) → (rows : List Row) → (state : σ × List Asked) →
    (c.runBelow source.logged d rows state).Keeps state.2
  | .row _ _, _, _ => List.Subset.refl _
  | .one _ _ children, rows, state => keeps_runBelow children rows state
  | .many _ _ _ _ components, rows, state => by
    rw [Component.runBelow]
    refine Run.Keeps.next ?_ fun _ _ => List.Subset.refl _
    exact Statement.keeps_runWith source d _ _ (keeps_runBelow components) state

theorem keeps_runBelow : (l : List Component) → (rows : List Row) → (state : σ × List Asked) →
    (runBelow source.logged d l rows state).Keeps state.2
  | [], _, _ => List.Subset.refl _
  | c :: rest, rows, state => by
    rw [runBelow]
    refine (Component.keeps_runBelow c rows state).next fun _ state => ?_
    exact (keeps_runBelow rest rows state).next fun _ _ => List.Subset.refl _

end

variable {source d}

theorem Run.EndsIn.of_map {r : Run (σ × List Asked) α} {f : α → β} {log : List Asked} {b : β}
    (h : (r.next fun a state => (.ok (f a), state)).EndsIn log b) : ∃ a, r.EndsIn log a ∧ b = f a := by
  obtain ⟨a, ha, hb⟩ := h.of_next fun _ _ => List.Subset.refl _
  exact ⟨a, ha, (Except.ok.inj hb.result).symm⟩

/-- The run of a statement that succeeds has nothing to fetch, or makes its objects of the rows that the
source answered with. -/
theorem Statement.runWith_endsIn {s : Statement} {keys : List Sql.Literal}
    {below : List Row → σ × List Asked → Run (σ × List Asked) (List Groups)}
    {state : σ × List Asked} {log : List Asked} {objects : List (Option String × Json)}
    (h : (s.runWith source.logged d keys below state).EndsIn log objects)
    (hbelow : ∀ rows state, (below rows state).Keeps state.2) :
    (s.fetch.filter.isSome = true ∧ objects = []) ∨ ∃ rows subs state',
      (source (s.fetch.render d keys) s.fetch.columns state.1).1 = .ok rows ∧
      ⟨s.fetch.render d keys, s.fetch.columns, .ok rows⟩ ∈ log ∧ (below rows state').EndsIn log subs ∧
      objects = s.assembleAll rows subs := by
  rw [Statement.runWith] at h
  split at h
  case isTrue hskip => exact .inl ⟨(Bool.and_eq_true_iff.mp hskip).1, (Except.ok.inj h.result).symm⟩
  case isFalse =>
    obtain ⟨rows, hrows, hrest⟩ := h.of_next fun rows state =>
      (hbelow rows state).next fun _ _ => List.Subset.refl _
    obtain ⟨subs, hsubs, rfl⟩ := hrest.of_map
    have hanswer : (source (s.fetch.render d keys) s.fetch.columns state.1).1 = .ok rows := hrows.result
    refine .inr ⟨rows, subs, _, hanswer, ?_, hsubs, rfl⟩
    have hlogged := hrows.logged (List.mem_append_right _ (List.mem_singleton_self _))
    rwa [hanswer] at hlogged

theorem runBelow_cons_endsIn {c : Component} {rest : List Component} {rows : List Row}
    {state : σ × List Asked} {log : List Asked} {groups : List Groups}
    (h : (runBelow source.logged d (c :: rest) rows state).EndsIn log groups) :
    ∃ first more state', (c.runBelow source.logged d rows state).EndsIn log first ∧
      (runBelow source.logged d rest rows state').EndsIn log more ∧ groups = first ++ more := by
  rw [runBelow] at h
  obtain ⟨first, hfirst, hrest⟩ := h.of_next fun _ state =>
    (keeps_runBelow source d rest rows state).next fun _ _ => List.Subset.refl _
  obtain ⟨more, hmore, rfl⟩ := hrest.of_map
  exact ⟨first, more, _, hfirst, hmore, rfl⟩

end Logged

/-! ### The objects of a run -/

/-- The rows that answered statements on a table. -/
def givenIn (d : Dialect) (log : List Asked) : GivenRows := fun table aliasName row =>
  ∃ (f : Fetch) (keys : List Sql.Literal) (rows : List Row),
    (⟨f.render d keys, f.columns, .ok rows⟩ : Asked) ∈ log ∧ f.table = table ∧ f.aliasName = aliasName ∧
    row ∈ rows

section Run

variable {g : TypeGraph} {source : RowSource σ} {d : Dialect} {log : List Asked}
  {namespaceName : Option String}

/-- What a run that succeeds does with the components of the selections `l`. -/
def ShapesTo (g : TypeGraph) (given : GivenRows) (aliasName : String) (o : ObjectType)
    (l : List Selection) (slot : Nat) (components : List Component) (groups : List Groups) : Prop :=
  ∀ before after : List Groups, before.length = slot → ∀ row,
    Shapes g given row aliasName o l (assembleFields row (before ++ groups ++ after) components)

theorem ShapesTo.cons {given : GivenRows} {aliasName name : String} {o : ObjectType}
    {children l : List Selection} {slot next : Nat} {c : Component} {components : List Component}
    {groups more : List Groups} (hmarker : Plan.isMarker name = false)
    (hvalue : ∀ before after : List Groups, before.length = slot → ∀ row,
      ∃ v, c.assemble row (before ++ groups ++ after) = (name, v) ∧
        Shaped g given row aliasName o (.node name children) v)
    (hrest : ShapesTo g given aliasName o l next components more)
    (hnext : next = slot + groups.length) :
    ShapesTo g given aliasName o (.node name children :: l) slot (c :: components) (groups ++ more) := by
  intro before after hbefore row
  obtain ⟨v, hv, hshaped⟩ := hvalue before (more ++ after) hbefore row
  have hothers := hrest (before ++ groups) after (by rw [List.length_append, hbefore, hnext]) row
  rw [Shapes, List.filter_cons_of_pos (by simpa [Selection.name] using hmarker), assembleFields,
    ← List.append_assoc before]
  refine .cons ?_ hothers
  rw [List.append_assoc _ more, hv]
  exact ⟨rfl, hshaped⟩

theorem ShapesTo.object {given : GivenRows} {aliasName : String} {o : ObjectType}
    {l : List Selection} {components : List Component} {groups : List Groups}
    (h : ShapesTo g given aliasName o l 0 components groups) (row : Row) :
    ShapedObject g given row aliasName o l (assemble components row groups) := by
  have hfields := h [] [] rfl row
  rw [List.nil_append, List.append_nil] at hfields
  exact hfields.sortedObj

/-- All objects of a statement below another are made of rows that were fetched. -/
theorem shapedItem_of_runWith {t : ObjectType} {l : List Selection} {s : Statement}
    {keys : List Sql.Literal} {state : σ × List Asked} {objects : List (Option String × Json)}
    (htable : s.fetch.table = t.name)
    (hobjects : (s.runWith source.logged d keys (fun rows state =>
      runBelow source.logged d s.components rows state) state).EndsIn log objects)
    (hbelow : ∀ rows groups state, (runBelow source.logged d s.components rows state).EndsIn log groups →
      ShapesTo g (givenIn d log) s.fetch.aliasName t l 0 s.components groups)
    {object : Option String × Json} (hmem : object ∈ objects) :
    ShapedItem g (givenIn d log) t l object.2 := by
  rcases Statement.runWith_endsIn hobjects (keeps_runBelow source d _) with
    ⟨-, rfl⟩ | ⟨rows, groups, state', -, hlogged, hgroups, rfl⟩
  · cases hmem
  · obtain ⟨row, hrow, rfl⟩ := List.mem_map.mp hmem
    exact .item ⟨s.fetch, keys, rows, hlogged, htable, rfl, hrow⟩
      ((hbelow rows groups state' hgroups).object row)

theorem Plan.Checks.shapesTo {o : ObjectType} {l : List Selection} {fields : List Plan.Field}
    (hchecks : Plan.Checks g o l fields) {aliasName : String} {e e' : Emission}
    {components : List Component} (hemits : Plan.Emits namespaceName aliasName fields e components e')
    {rows : List Row} {state : σ × List Asked} {groups : List Groups}
    (h : (runBelow source.logged d components rows state).EndsIn log groups) :
    e'.subFetches = e.subFetches + groups.length ∧
      ShapesTo g (givenIn d log) aliasName o l e.subFetches components groups := by
  induction hchecks generalizing aliasName e e' components rows state groups with
  | nil =>
    cases hemits with
    | nil =>
      obtain rfl := Except.ok.inj h.result
      exact ⟨rfl, fun _ _ _ _ => .nil⟩
  | marker hmarker _ ih =>
    obtain ⟨hslots, hshapes⟩ := ih hemits h
    refine ⟨hslots, fun before after hbefore row => ?_⟩
    rw [Shapes, List.filter_cons_of_neg (by simp [Selection.name, hmarker])]
    exact hshapes before after hbefore row
  | scalar hmarker hfield hkind _ ih =>
    cases hemits with
    | scalar hrest =>
      obtain ⟨first, more, state', hfirst, hmore, rfl⟩ := runBelow_cons_endsIn h
      obtain rfl := Except.ok.inj hfirst.result
      obtain ⟨hslots, hshapes⟩ := ih hrest hmore
      rw [Emission.subFetches_select] at hslots hshapes
      exact ⟨hslots, .cons hmarker (fun _ _ _ _ => ⟨_, rfl, .scalar hfield hkind⟩) hshapes rfl⟩
  | one hmarker hfield hkind htarget _ hremote _ _ ihbelow ih =>
    obtain rfl := Plan.columnOf_name hremote
    cases hemits with
    | one hchildren hrest =>
      obtain ⟨first, more, state', hfirst, hmore, rfl⟩ := runBelow_cons_endsIn h
      obtain ⟨hslots, hobject⟩ := ihbelow hchildren hfirst
      obtain ⟨hslots', hshapes⟩ := ih hrest hmore
      rw [Emission.subFetches_select] at hslots hobject
      refine ⟨?_, .cons hmarker (fun before after hbefore row => ?_) hshapes hslots⟩
      · rw [hslots', hslots, List.length_append, Nat.add_assoc]
        rfl
      · rw [Component.assemble]
        split
        case h_1 hcell => exact ⟨_, rfl, .absent hfield hkind (congrArg (·.getD .null) hcell)⟩
        case h_2 hcell => exact ⟨_, rfl, .absent hfield hkind (congrArg (·.getD .null) hcell)⟩
        case h_3 v hnull hcell =>
          exact ⟨_, rfl, .one hfield hkind htarget ((congrArg (·.getD .null) hcell).trans_ne hnull)
            (hobject before after hbefore row).sortedObj⟩
  | many hmarker hfield hkind htarget _ _ _ _ _ ihbelow ih =>
    cases hemits with
    | many hchildren hrest =>
      obtain ⟨first, more, state', hfirst, hmore, rfl⟩ := runBelow_cons_endsIn h
      rw [Component.runBelow] at hfirst
      obtain ⟨objects, hobjects, rfl⟩ := hfirst.of_map
      obtain ⟨hslots, hshapes⟩ := ih hrest hmore
      rw [Emission.after, Emission.subFetches_select] at hslots hshapes
      refine ⟨?_, .cons hmarker (fun before after hbefore row => ?_) hshapes rfl⟩
      · rw [hslots, List.length_append, Nat.add_assoc]
        rfl
      · refine ⟨_, Component.assemble_many hbefore, .many hfield hkind htarget fun item hitem => ?_⟩
        cases hkey : row.key? _ with
        | none =>
          rw [hkey] at hitem
          cases hitem
        | some k =>
          rw [hkey, Option.bind_some, get?_group] at hitem
          obtain ⟨object, hobject, rfl⟩ := List.mem_map.mp hitem
          exact shapedItem_of_runWith rfl hobjects
            (fun rows groups state hgroups => (ihbelow hchildren hgroups).2)
            (List.mem_of_mem_filter hobject)

end Run

/-- **A response has the shape of its request.** If no fetch of a run fails, whatever rows the fetches
bring, the query answers with one object for each row of the root in their order, and each object has the
shape of the selection. -/
theorem CompiledQuery.run_shaped {g : TypeGraph} {sel : Selection} {namespaceName : Option String}
    {q : CompiledQuery} (hq : CompiledQuery.of g sel namespaceName = .ok q) (source : RowSource σ)
    (d : Dialect) (state : σ) :
    let log := (q.run source.logged d (state, [])).2.2
    (∀ asked ∈ log, ∃ rows, asked.answer = .ok rows) →
    ∃ o rows objects, g.object? sel.name = some o ∧
      (source (q.statement.fetch.render d []) q.statement.fetch.columns state).1 = .ok rows ∧
      (q.run source d state).1 = .ok objects ∧
      List.Forall₂ (fun row object => ShapedObject g (givenIn d log) row (aliasOf 0) o sel.children object)
        rows objects := by
  intro log hlog
  obtain ⟨-, visits, hfetched, hrun, -⟩ := run_fetched hq source d state
  obtain ⟨objects, hobjects⟩ : ∃ objects, (q.run source d state).1 = .ok objects := by
    cases hresult : (q.run source d state).1 with
    | ok objects => exact ⟨objects, rfl⟩
    | error e =>
      obtain ⟨v, hv, e', he'⟩ := hfetched.failed_iff.mp ⟨e, hresult⟩
      have hasked : v.asked d ∈ log := by
        rw [show log = _ from congrArg (fun r => r.2.2) hrun]
        exact List.mem_map_of_mem hv
      obtain ⟨rows, hrows⟩ := hlog _ hasked
      cases he'.symm.trans hrows
  have hends : (q.run source.logged d (state, [])).EndsIn log objects :=
    ⟨(congrArg Prod.fst hrun).trans hobjects, List.Subset.refl _⟩
  obtain ⟨keyed, hkeyed, rfl⟩ := hends.of_map
  obtain ⟨p, hp, heq⟩ := bind_eq_ok_iff.mp hq
  obtain ⟨o, ho, -, -, hchecks⟩ := Plan.of_eq_ok hp
  obtain rfl := Except.ok.inj heq
  rcases Statement.runWith_endsIn hkeyed (keeps_runBelow source d _) with
    ⟨hfilter, -⟩ | ⟨rows, groups, state', hrows, -, hgroups, rfl⟩
  · cases hfilter
  · have hshapes := (hchecks.shapesTo (Plan.emits_emitFields p.fields) hgroups).2
    refine ⟨o, rows, _, ho, hrows, hobjects, ?_⟩
    rw [Statement.assembleAll, List.map_map, List.forall₂_map_right_iff, List.forall₂_same]
    exact fun row _ => hshapes.object row

/-- Customers with names that are selected twice and a marker. -/
def repeatedSelection : Selection := .node "customers" [
  .node "orders_on_customer_id" [.node "id" []],
  .node "email" [],
  .node "__typename" [.node "id" []],
  .node "referrer_id" [.node "id" [], .node "orders_on_customer_id" [.node "id" []]],
  .node "email" [],
  .node "orders_on_customer_id" [.node "customer_id_key" [], .node "id" [], .node "id" []]]

/-- Two customers, one of whom has nothing but a referrer. Of the orders of the other, one has no number.
Some cells are missing, and some are not of their column's type. -/
def strayAnswers : List (Except QueryError (List Row)) := [
  .ok [[("t0_id", .int 7), ("t0_email", .arr []), ("t9_id", .int 1)], [("t2_id", .bool true)]],
  .ok [[("t1_id", .int 6), ("t1_customer_id", .int 7)]],
  .ok [[]],
  .ok [[("t4_customer_id", .int 7)], [("t4_id", .str "five"), ("t4_customer_id", .int 7)]]]

/-- The first customer has the two orders that the last selection of them brought. -/
theorem CompiledQuery.run_shaped_repeatedSelection : ∃ s g q o rows objects log,
    Schema.ofTables Schema.shopTables = .ok s ∧ TypeGraph.ofSchema s = .ok g ∧
    CompiledQuery.of g repeatedSelection none = .ok q ∧
    (q.run RowSource.ofAnswers .sqlite strayAnswers).1 = .ok objects ∧
    List.Forall₂ (fun row object =>
      ShapedObject g (givenIn .sqlite log) row (aliasOf 0) o repeatedSelection.children object)
      rows objects ∧
    objects.map (fun v => ((v.field? "orders_on_customer_id").bind Json.items?).map List.length)
      = [some 2, some 0] ∧
    objects.map (fun v => (v.field? "email").map Json.render) = [some "[]", some "null"] := by
  have htest : ((Schema.ofTables Schema.shopTables).toOption.any fun s =>
      (TypeGraph.ofSchema s).toOption.any fun g =>
        (CompiledQuery.of g repeatedSelection none).toOption.any fun q =>
          ((q.run RowSource.ofAnswers.logged .sqlite (strayAnswers, [])).2.2.all fun asked =>
            asked.answer.isOk) &&
          (q.run RowSource.ofAnswers .sqlite strayAnswers).1.toOption.any fun objects =>
            decide (objects.map (fun v => ((v.field? "orders_on_customer_id").bind Json.items?).map
              List.length) = [some 2, some 0] ∧
              objects.map (fun v => (v.field? "email").map Json.render) = [some "[]", some "null"])) =
      true := by
    decide +kernel
  obtain ⟨s, g, q, hs, hg, hq, htest⟩ := exists_of_test htest
  obtain ⟨hanswers, hobjects⟩ := Bool.and_eq_true_iff.mp htest
  obtain ⟨objects', hobjects', htest⟩ := exists_ok_of_any hobjects
  obtain ⟨o, rows, objects, -, -, hrun, hshaped⟩ := run_shaped hq RowSource.ofAnswers .sqlite strayAnswers
    fun asked hasked => by
      cases hanswer : asked.answer with
      | ok rows => exact ⟨rows, rfl⟩
      | error e =>
        have hok := List.all_eq_true.mp hanswers asked hasked
        rw [hanswer] at hok
        cases hok
  obtain rfl := Except.ok.inj (hrun.symm.trans hobjects')
  exact ⟨s, g, q, o, rows, objects, _, hs, hg, hq, hrun, hshaped, of_decide_eq_true htest⟩

end NestedRows
