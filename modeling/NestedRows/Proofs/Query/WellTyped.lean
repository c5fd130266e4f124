import NestedRows.Proofs.Query.Emission
/-!
# Which selections are accepted

A selection is well typed if its outermost name is a table, every name below it is a field of the type
that is reached there, and something is selected exactly where a field leads to rows. Markers are
passed over with all that is below them.

Compiling stops at the first violation. The definitions here do not stop: they list what is wrong with
a selection from its beginning to its end (`Selection.violations`), and the error of the compiler is
the head of this list. The compiler also looks up the columns of keys as it goes. These look-ups are no
source of errors, because each column of a table is shown by a scalar field of its type
(`TypeGraph.exists_columnOf`).
-/

namespace NestedRows

namespace Selection

/-- A selection that asks rightly for a field of `o`. -/
inductive WellTyped (g : TypeGraph) : ObjectType → Selection → Prop
  | marker {o : ObjectType} {name : String} {children : List Selection}
      (hmarker : Plan.isMarker name = true) : WellTyped g o (.node name children)
  | scalar {o : ObjectType} {name : String} {f : Field} (hfield : o.fields.get? name = some f)
      (hkind : f.kind.target? = none) : WellTyped g o (.node name [])
  | reference {o t : ObjectType} {name target : String} {f : Field} {children : List Selection}
      (hfield : o.fields.get? name = some f) (hkind : f.kind.target? = some target)
      (htarget : g.object? target = some t) (hfields : ∃ c ∈ children, Plan.isMarker c.name = false)
      (hchildren : ∀ c ∈ children, WellTyped g t c) : WellTyped g o (.node name children)

/-- A whole selection that is right: it asks for something of the rows of a table. -/
def Accepted (g : TypeGraph) (sel : Selection) : Prop :=
  ∃ o, g.object? sel.name = some o ∧ (∃ c ∈ sel.children, Plan.isMarker c.name = false) ∧
    ∀ c ∈ sel.children, WellTyped g o c

/-- What is wrong if nothing is selected of the rows of `o`. -/
def nothingSelected (o : ObjectType) (name : String) (children : List Selection) : List QueryError :=
  if children.all fun c => Plan.isMarker c.name then [.malformedSelection (.needsFields name o.name)]
  else []

mutual

/-- What is wrong with a selected field of `o` and below it, from the first to the last. -/
def violationsOn (g : TypeGraph) (o : ObjectType) : Selection → List QueryError
  | .node name children =>
    if Plan.isMarker name then []
    else
      match o.fields.get? name with
      | none => [.unknownField o.name name]
      | some f =>
        match f.kind.target? with
        | none =>
          if children.isEmpty then [] else [.malformedSelection (.belowScalar o.name name)]
        | some target =>
          match g.object? target with
          | none => [.unknownRoot target]
          | some t => nothingSelected t name children ++ violationsOnAll g t children

def violationsOnAll (g : TypeGraph) (o : ObjectType) : List Selection → List QueryError
  | [] => []
  | c :: rest => violationsOn g o c ++ violationsOnAll g o rest

end

/-- All that is wrong with a selection, in the order in which it is written. -/
def violations (g : TypeGraph) (sel : Selection) : List QueryError :=
  match g.object? sel.name with
  | none => [.unknownRoot sel.name]
  | some o => nothingSelected o sel.name sel.children ++ violationsOnAll g o sel.children

mutual

/-- The names of the fields that are asked for. -/
def requested : Selection → List String
  | .node name children => if Plan.isMarker name then [] else name :: requestedBy children

def requestedBy : List Selection → List String
  | [] => []
  | c :: rest => c.requested ++ requestedBy rest

end

theorem unknownField_not_mem_nothingSelected {o : ObjectType} {name object field : String}
    {children : List Selection} : .unknownField object field ∉ nothingSelected o name children := by
  rw [nothingSelected]
  split <;> simp

/-! ### Nothing is wrong with what is well typed -/

theorem nothingSelected_eq_nil_iff {o : ObjectType} {name : String} {children : List Selection} :
    nothingSelected o name children = [] ↔ ∃ c ∈ children, Plan.isMarker c.name = false := by
  simp [nothingSelected]

theorem wellTyped_node_iff {g : TypeGraph} {o : ObjectType} {name : String}
    {children : List Selection} : WellTyped g o (.node name children) ↔
      Plan.isMarker name = true ∨ ∃ f, o.fields.get? name = some f ∧
        ((f.kind.target? = none ∧ children = []) ∨
          ∃ target t, f.kind.target? = some target ∧ g.object? target = some t ∧
            (∃ c ∈ children, Plan.isMarker c.name = false) ∧ ∀ c ∈ children, WellTyped g t c) := by
  constructor
  · intro h
    cases h with
    | marker hmarker => exact .inl hmarker
    | scalar hfield hkind => exact .inr ⟨_, hfield, .inl ⟨hkind, rfl⟩⟩
    | reference hfield hkind htarget hfields hchildren =>
      exact .inr ⟨_, hfield, .inr ⟨_, _, hkind, htarget, hfields, hchildren⟩⟩
  · rintro (hmarker | ⟨f, hfield, ⟨hkind, rfl⟩ | ⟨target, t, hkind, htarget, hfields, hchildren⟩⟩)
    · exact .marker hmarker
    · exact .scalar hfield hkind
    · exact .reference hfield hkind htarget hfields hchildren

mutual

theorem violationsOn_eq_nil_iff {g : TypeGraph} {o : ObjectType} :
    (sel : Selection) → (violationsOn g o sel = [] ↔ WellTyped g o sel)
  | .node name children => by
    rw [violationsOn, wellTyped_node_iff]
    by_cases hmarker : Plan.isMarker name = true
    · simp [hmarker]
    rw [if_neg hmarker]
    cases hfield : o.fields.get? name with
    | none => simp [hmarker]
    | some f =>
      cases hkind : f.kind.target? with
      | none => simp [hmarker, hkind]
      | some target =>
        cases htarget : g.object? target with
        | none => simp [hmarker, hkind, htarget]
        | some t =>
          simp [hmarker, hkind, htarget, nothingSelected_eq_nil_iff,
            violationsOnAll_eq_nil_iff children]

theorem violationsOnAll_eq_nil_iff {g : TypeGraph} {o : ObjectType} :
    (l : List Selection) → (violationsOnAll g o l = [] ↔ ∀ c ∈ l, WellTyped g o c)
  | [] => by simp [violationsOnAll]
  | c :: rest => by
    rw [violationsOnAll, List.append_eq_nil_iff, violationsOn_eq_nil_iff c,
      violationsOnAll_eq_nil_iff rest, List.forall_mem_cons]

end

theorem violations_eq_nil_iff {g : TypeGraph} {sel : Selection} :
    sel.violations g = [] ↔ sel.Accepted g := by
  rw [violations, Accepted]
  cases g.object? sel.name with
  | none => simp
  | some o =>
    simp only [List.append_eq_nil_iff, nothingSelected_eq_nil_iff, violationsOnAll_eq_nil_iff,
      Option.some.injEq, exists_eq_left']

mutual

/-- What is unknown was asked for. -/
theorem mem_requested_of_violationsOn {g : TypeGraph} {o : ObjectType} {object field : String} :
    (sel : Selection) → .unknownField object field ∈ violationsOn g o sel → field ∈ sel.requested
  | .node name children => by
    rw [violationsOn, requested]
    intro h
    by_cases hmarker : Plan.isMarker name = true
    · simp [hmarker] at h
    rw [if_neg hmarker] at h ⊢
    split at h
    case h_1 =>
      obtain ⟨-, rfl⟩ := QueryError.unknownField.inj (List.mem_singleton.mp h)
      exact List.mem_cons_self
    case h_2 =>
      split at h
      case h_1 => split at h <;> simp at h
      case h_2 =>
        split at h
        case h_1 => simp at h
        case h_2 =>
          rcases List.mem_append.mp h with h | h
          · exact absurd h unknownField_not_mem_nothingSelected
          · exact List.mem_cons_of_mem _ (mem_requestedBy_of_violationsOnAll children h)

theorem mem_requestedBy_of_violationsOnAll {g : TypeGraph} {o : ObjectType} {object field : String} :
    (l : List Selection) → .unknownField object field ∈ violationsOnAll g o l → field ∈ requestedBy l
  | [], h => by simp [violationsOnAll] at h
  | c :: rest, h => by
    rcases List.mem_append.mp h with h | h
    · exact List.mem_append_left _ (mem_requested_of_violationsOn c h)
    · exact List.mem_append_right _ (mem_requestedBy_of_violationsOnAll rest h)

end

end Selection

/-! ### The columns of keys are known -/

theorem Key.exists_scalar (k : Key) :
    ∃ f ∈ k.fields, f.kind = .scalar k.name.column k.fieldType := by
  cases href : k.referencing with
  | none => exact ⟨⟨k.name.column, .scalar k.name.column k.fieldType, k.nullable⟩,
      by simp [fields, ownFields, href], rfl⟩
  | some p => exact ⟨⟨k.name.column ++ "_key", .scalar k.name.column k.fieldType, k.nullable⟩,
      by simp [fields, ownFields, href], rfl⟩

namespace TypeGraph

section Graph

variable {s : Schema} {g : TypeGraph} (hs : s.WellFormed) (hg : ofSchema s = .ok g)

include hs hg

theorem exists_columnOf {name column : String} {o : ObjectType} (ho : g.object? name = some o)
    {k : Key} (hk : s.Has name column k) : ∃ c, Plan.columnOf o column = .ok c := by
  obtain ⟨f, hf, hkind⟩ := k.exists_scalar
  have hget := (get?_fields_iff hs hg ho).mpr ⟨rfl, column, k, hk, hf⟩
  rw [Plan.columnOf]
  split
  case h_1 => exact ⟨_, rfl⟩
  case h_2 hnone =>
    have hshown := List.findSome?_eq_none_iff.mp hnone f (SortedMap.mem_values.mpr ⟨_, hget⟩)
    simp [hkind, (hs.keyName hk).2] at hshown

/-- What a field leads to is there, with the columns that are matched. -/
theorem exists_keys_of_target {name field target : String} {o : ObjectType} {f : Field}
    (ho : g.object? name = some o) (hf : o.fields.get? field = some f)
    (htarget : f.kind.target? = some target) : ∃ t, g.object? target = some t ∧
      ((∃ localKey remoteKey remote, f.kind = .one target localKey remoteKey ∧
        Plan.columnOf t remoteKey = .ok remote) ∨
      ∃ localKey remoteKey parent remote, f.kind = .many target localKey remoteKey ∧
        Plan.columnOf o localKey = .ok parent ∧ Plan.columnOf t remoteKey = .ok remote) := by
  cases hkind : f.kind with
  | scalar =>
    rw [hkind] at htarget
    cases htarget
  | one target' localKey remoteKey =>
    rw [hkind] at htarget
    obtain rfl := Option.some.inj htarget
    have href := references_of_one hs hg ho hf hkind
    obtain ⟨k, hk⟩ := href.source
    obtain ⟨k', hk', -⟩ := hs.target_of_references href hk
    obtain ⟨t, ht⟩ := exists_object? hs hg hk'
    obtain ⟨remote, hremote⟩ := exists_columnOf hs hg ht hk'
    exact ⟨t, ht, .inl ⟨localKey, remoteKey, remote, rfl, hremote⟩⟩
  | many target' localKey remoteKey =>
    rw [hkind] at htarget
    obtain rfl := Option.some.inj htarget
    have href := references_of_many hs hg ho hf hkind
    obtain ⟨k, hk⟩ := href.source
    obtain ⟨k', hk', -⟩ := hs.target_of_references href hk
    obtain ⟨t, ht⟩ := exists_object? hs hg hk
    obtain ⟨parent, hparent⟩ := exists_columnOf hs hg ho hk'
    obtain ⟨remote, hremote⟩ := exists_columnOf hs hg ht hk
    exact ⟨t, ht, .inr ⟨localKey, remoteKey, parent, remote, rfl, hparent, hremote⟩⟩

end Graph

end TypeGraph

/-! ### The compiler reports the first violation -/

namespace Plan

/-- The result is an error exactly if something is wrong, and then the first that is wrong. -/
def Reports {α : Type} (r : Except QueryError α) (violations : List QueryError) : Prop :=
  match r with
  | .ok _ => violations = []
  | .error e => violations.head? = some e

theorem Reports.bind {α β : Type} {x : Except QueryError α} {f : α → Except QueryError β}
    {violations more : List QueryError} (hx : Reports x violations)
    (hf : ∀ a, x = .ok a → Reports (f a) more) : Reports (x >>= f) (violations ++ more) := by
  cases x with
  | ok a =>
    obtain rfl : violations = [] := hx
    exact hf a rfl
  | error e =>
    have hhead : violations.head? = some e := hx
    change (violations ++ more).head? = some e
    simp [hhead]

theorem Reports.of_ok {α β : Type} {x : Except QueryError α} {a : α} (hx : x = .ok a)
    {f : α → Except QueryError β} {violations : List QueryError}
    (hf : Reports (f a) violations) : Reports (x >>= f) violations := by
  subst hx
  exact hf

theorem Reports.map {α β : Type} {x : Except QueryError α} {violations : List QueryError}
    (hx : Reports x violations) (f : α → β) :
    Reports (x >>= fun a => pure (f a)) violations := by
  rw [← List.append_nil violations]
  exact hx.bind fun _ _ => rfl

theorem reports_requireFields (o : ObjectType) (name : String) (children : List Selection) :
    Reports (requireFields o name children) (Selection.nothingSelected o name children) := by
  have hany : (children.any fun c => !isMarker c.name) = !children.all fun c => isMarker c.name :=
    List.not_all_eq_any_not.symm
  rw [requireFields, Selection.nothingSelected, hany]
  cases children.all fun c => isMarker c.name <;> rfl

mutual

theorem reports_ofSelection {s : Schema} {g : TypeGraph} (hs : s.WellFormed)
    (hg : TypeGraph.ofSchema s = .ok g) {name : String} {o : ObjectType}
    (ho : g.object? name = some o) : (sel : Selection) → Reports (ofSelection g o sel) (sel.violationsOn g o)
  | .node field children => by
    rw [ofSelection, Selection.violationsOn]
    by_cases hmarker : isMarker field = true
    · rw [if_pos hmarker, if_pos hmarker]
      rfl
    rw [if_neg hmarker, if_neg hmarker]
    cases hfield : o.fields.get? field with
    | none => rfl
    | some f =>
      cases htarget : f.kind.target? with
      | none =>
        cases hkind : f.kind with
        | scalar column fieldType =>
          simp only [htarget]
          simp only [hkind]
          cases children.isEmpty <;> rfl
        | one => rw [hkind] at htarget; cases htarget
        | many => rw [hkind] at htarget; cases htarget
      | some target =>
        obtain ⟨t, ht, hkeys⟩ := TypeGraph.exists_keys_of_target hs hg ho hfield htarget
        have hbelow : Reports (ofSelections g t children) (Selection.violationsOnAll g t children) :=
          reports_ofSelections hs hg ht children
        simp only [htarget, ht]
        -- the look-ups of columns succeed, so only the two checks of the selection are left
        rcases hkeys with ⟨localKey, remoteKey, remote, hkind, hremote⟩ |
          ⟨localKey, remoteKey, parent, remote, hkind, hparent, hremote⟩
        · simp only [hkind]
          refine .of_ok (targetOf_eq_ok_iff.mpr ht) ?_
          refine (reports_requireFields t field children).bind fun _ _ => .of_ok hremote ?_
          exact hbelow.map _
        · simp only [hkind]
          refine .of_ok (targetOf_eq_ok_iff.mpr ht) ?_
          refine (reports_requireFields t field children).bind fun _ _ =>
            .of_ok hparent (.of_ok hremote ?_)
          exact hbelow.map _

theorem reports_ofSelections {s : Schema} {g : TypeGraph} (hs : s.WellFormed)
    (hg : TypeGraph.ofSchema s = .ok g) {name : String} {o : ObjectType}
    (ho : g.object? name = some o) :
    (l : List Selection) → Reports (ofSelections g o l) (Selection.violationsOnAll g o l)
  | [] => rfl
  | sel :: rest => by
    rw [ofSelections, Selection.violationsOnAll]
    exact (reports_ofSelection hs hg ho sel).bind fun _ _ =>
      (reports_ofSelections hs hg ho rest).map _

end

theorem reports_compiled {s : Schema} {g : TypeGraph} (hs : s.WellFormed)
    (hg : TypeGraph.ofSchema s = .ok g) (sel : Selection) (namespaceName : Option String) :
    Reports (CompiledQuery.of g sel namespaceName) (sel.violations g) := by
  rw [CompiledQuery.of, of, Selection.violations]
  cases ho : g.object? sel.name with
  | none => rfl
  | some o =>
    refine Reports.map ?_ _
    exact (reports_requireFields o sel.name sel.children).bind fun _ _ =>
      (reports_ofSelections hs hg ho sel.children).map _

end Plan

/-- A selection is compiled exactly if it is right. Otherwise the error is the first of all that is
wrong with it, and an unknown field is one that was asked for. -/
theorem CompiledQuery.of_accepts_wellTyped {tables : List Catalog.Table} {s : Schema} {g : TypeGraph}
    (hs : Schema.ofTables tables = .ok s) (hg : TypeGraph.ofSchema s = .ok g) (sel : Selection)
    (namespaceName : Option String) :
    ((∃ q, CompiledQuery.of g sel namespaceName = .ok q) ↔ sel.Accepted g) ∧
    (∀ e, CompiledQuery.of g sel namespaceName = .error e ↔ (sel.violations g).head? = some e) ∧
    ∀ object field, CompiledQuery.of g sel namespaceName = .error (.unknownField object field) →
      field ∈ Selection.requestedBy sel.children := by
  have hreports := Plan.reports_compiled (Schema.wellFormed_of_ofTables hs) hg sel namespaceName
  have herror : ∀ e, CompiledQuery.of g sel namespaceName = .error e ↔
      (sel.violations g).head? = some e := by
    intro e
    cases hq : CompiledQuery.of g sel namespaceName with
    | ok q =>
      rw [hq] at hreports
      simp [show sel.violations g = [] from hreports]
    | error e' =>
      rw [hq] at hreports
      rw [show (sel.violations g).head? = some e' from hreports, Except.error.injEq,
        Option.some.injEq]
  refine ⟨?_, herror, ?_⟩
  · rw [← Selection.violations_eq_nil_iff]
    cases hq : CompiledQuery.of g sel namespaceName with
    | ok q =>
      rw [hq] at hreports
      exact iff_of_true ⟨q, rfl⟩ hreports
    | error e =>
      have hhead := (herror e).mp hq
      refine iff_of_false (fun ⟨q, h⟩ => nomatch h) fun hnil => ?_
      rw [hnil] at hhead
      cases hhead
  · intro object field hq
    have hmem := List.mem_of_mem_head? ((herror _).mp hq)
    rw [Selection.violations] at hmem
    split at hmem
    case h_1 => simp at hmem
    case h_2 =>
      rcases List.mem_append.mp hmem with hmem | hmem
      · exact absurd hmem Selection.unknownField_not_mem_nothingSelected
      · exact Selection.mem_requestedBy_of_violationsOnAll sel.children hmem

/-- Orders with two mistakes: something below the text of an email, and a field that customers lack. -/
def mistakenSelection : Selection := .node "orders" [
  .node "__typename" [.node "unheard_of" []],
  .node "customer_id_key" [],
  .node "customer_id" [
    .node "referrer_id" [.node "email" [.node "length" []]],
    .node "price" []]]

theorem CompiledQuery.of_rejects_mistakenSelection : ∃ s g, Schema.ofTables Schema.shopTables = .ok s ∧
    TypeGraph.ofSchema s = .ok g ∧ CompiledQuery.of g mistakenSelection none
      = .error (.malformedSelection (.belowScalar "customers" "email")) := by
  have htest : ((Schema.ofTables Schema.shopTables).toOption.any fun s =>
      (TypeGraph.ofSchema s).toOption.any fun g =>
        decide ((mistakenSelection.violations g).head?
          = some (.malformedSelection (.belowScalar "customers" "email")))) = true := by
    decide +kernel
  obtain ⟨s, hs, hgraph⟩ := exists_ok_of_any htest
  obtain ⟨g, hg, hhead⟩ := exists_ok_of_any hgraph
  have hfirst := of_decide_eq_true hhead
  exact ⟨s, g, hs, hg, ((of_accepts_wellTyped hs hg mistakenSelection none).2.1 _).mpr hfirst⟩

end NestedRows
