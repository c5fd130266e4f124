import NestedRows.Query.Execute
import NestedRows.Proofs.Query.Plan
import NestedRows.Proofs.Sql.Value
/-!
# What a selection asks for

The answer to a selection over the rows of a database, by recursion on the selection and without a
statement: an object for each row of the root, in it the value of a column, the object of the one row
that a foreign key leads to, or the objects of the rows whose foreign keys lead back. A plan has the
same answer by the same recursion (`Plan.Checks.valuesOn_eq`).
-/

namespace NestedRows

open Sql (Database Record)

def Schema.Admits (s : Schema) (table column : String) (v : Sql.Literal) : Prop :=
  ∀ k, s.Has table column k → v.HasType k.fieldType

namespace Sql.Database

/-- The rows of a table in the order of a column, or as they are. -/
def inOrder (D : Database) (namespaceName : Option String) (table : String) :
    Option String → List Record
  | none => D.rows namespaceName table
  | some pk => (D.rows namespaceName table).mergeSort fun a b => D.le (a pk) (b pk)

/-- The rows of the namespace are rows of the schema: values have the types of their columns, keys are
no doubles, and a foreign key leads to one row at most. -/
structure Fits (D : Database) (s : Schema) (namespaceName : Option String) : Prop where
  typed : ∀ {table r}, r ∈ D.rows namespaceName table → ∀ column, s.Admits table column (r column)
  keyTypes : ∀ {table column target remote k}, s.References table column target remote →
    s.Has table column k → k.fieldType ≠ .float
  distinct : ∀ {table column target remote}, s.References table column target remote →
    (D.rows namespaceName target).Pairwise fun a b => a remote ≠ .null → a remote ≠ b remote

/-- The test whether the rows of the namespace are rows of the schema, column by column. -/
def fitsTest (D : Database) (s : Schema) (namespaceName : Option String) : Bool :=
  s.tables.toList.all fun t => t.2.columns.toList.all fun c =>
    ((D.rows namespaceName t.1).all fun r => decide ((r c.1).HasType c.2.fieldType)) &&
    c.2.referencing.all fun p => decide (c.2.fieldType ≠ .float) &&
      decide ((D.rows namespaceName p.table).Pairwise fun a b =>
        a p.column ≠ .null → a p.column ≠ b p.column)

theorem fits_of_fitsTest {D : Database} {s : Schema} {namespaceName : Option String}
    (h : D.fitsTest s namespaceName = true) : D.Fits s namespaceName := by
  have hcolumn : ∀ {table column k}, s.Has table column k →
      (∀ r ∈ D.rows namespaceName table, (r column).HasType k.fieldType) ∧
      ∀ p ∈ k.referencing, k.fieldType ≠ .float ∧
        (D.rows namespaceName p.table).Pairwise fun a b =>
          a p.column ≠ .null → a p.column ≠ b p.column := by
    rintro table column k ⟨t, ht, hk⟩
    have htest := List.all_eq_true.mp (List.all_eq_true.mp h _ (SortedMap.get?_eq_some_iff.mp ht)) _
      (SortedMap.get?_eq_some_iff.mp hk)
    simpa [Option.all_eq_true] using htest
  refine ⟨fun hr column k hk => (hcolumn hk).1 _ hr, ?_, ?_⟩
  · rintro table column target remote k ⟨k', p, hk', hp, -, -⟩ hk
    obtain rfl := hk.unique hk'
    exact ((hcolumn hk).2 p hp).1
  · rintro table column target remote ⟨k, p, hk, hp, rfl, rfl⟩
    exact ((hcolumn hk).2 p hp).2

end Sql.Database

section Answer

variable (D : Database) (namespaceName : Option String)

/-- The one row of a table whose column `remote` holds the value. -/
def partner? (table remote : String) (v : Sql.Literal) : Option Record :=
  (D.rows namespaceName table).find? fun r => v.agrees (r remote)

def partners (table : String) (primaryKey : Option String) (remote : String) (v : Sql.Literal) :
    List Record :=
  (D.inOrder namespaceName table primaryKey).filter fun r => v.agrees (r remote)

mutual

/-- The field that a selection asks for of a row of `o`; nothing for a marker. -/
def Selection.valueOn (g : TypeGraph) : Selection → ObjectType → Record → List (String × Json)
  | .node name children, o, r =>
    if Plan.isMarker name then []
    else
      match o.fields.get? name with
      | none => []
      | some f =>
        match f.kind with
        | .scalar column _ => [(name, (r column).toJson)]
        | .one target localKey remoteKey =>
          match g.object? target with
          | none => []
          | some t =>
            match partner? D namespaceName t.name remoteKey (r localKey) with
            | none => [(name, .null)]
            | some r' => [(name, .sortedObj (valuesOn g children t r'))]
        | .many target localKey remoteKey =>
          match g.object? target with
          | none => []
          | some t => [(name, .arr ((partners D namespaceName t.name t.primaryKey remoteKey
              (r localKey)).map fun r' => .sortedObj (valuesOn g children t r')))]

def valuesOn (g : TypeGraph) : List Selection → ObjectType → Record → List (String × Json)
  | [], _, _ => []
  | sel :: rest, o, r => sel.valueOn g o r ++ valuesOn g rest o r

end

/-- The answer to a selection: an object for each row of its table. -/
def Selection.answer (g : TypeGraph) (sel : Selection) : List Json :=
  match g.object? sel.name with
  | none => []
  | some o => (D.inOrder namespaceName o.name o.primaryKey).map fun r =>
      .sortedObj (valuesOn D namespaceName g sel.children o r)

namespace Plan

mutual

def Field.valueOn : Field → Record → String × Json
  | .scalar field column, r => (field, (r column.name).toJson)
  | .one field target localKey remote children, r =>
    match partner? D namespaceName target.table remote.name (r localKey) with
    | none => (field, .null)
    | some r' => (field, .sortedObj (valuesOn children r'))
  | .many field target parent remote children, r =>
    (field, .arr ((partners D namespaceName target.table target.primaryKey remote.name
      (r parent.name)).map fun r' => .sortedObj (valuesOn children r')))

/-- The fields of the answer that checked fields are for. -/
def valuesOn : List Field → Record → List (String × Json)
  | [], _ => []
  | f :: rest, r => f.valueOn r :: valuesOn rest r

end

theorem columnOf_name {o : ObjectType} {column : String} {c : Column} (h : columnOf o column = .ok c) :
    c.name = column := by
  rw [columnOf] at h
  split at h
  · obtain rfl := Except.ok.inj h
    rfl
  · cases h

theorem Checks.valuesOn_eq {g : TypeGraph} {o : ObjectType} {l : List Selection} {fields : List Field}
    (h : Checks g o l fields) (r : Record) :
    NestedRows.valuesOn D namespaceName g l o r = valuesOn D namespaceName fields r := by
  induction h generalizing r with
  | nil => rfl
  | marker hmarker _ ih => simp [NestedRows.valuesOn, Selection.valueOn, hmarker, ih]
  | scalar hmarker hfield hkind _ ih =>
    simp [NestedRows.valuesOn, Selection.valueOn, hmarker, hfield, hkind, ih, valuesOn, Field.valueOn]
  | one hmarker hfield hkind htarget _ hremote _ _ ihbelow ih =>
    obtain rfl := columnOf_name hremote
    simp only [NestedRows.valuesOn, Selection.valueOn, hmarker, hfield, hkind, htarget, ih, valuesOn,
      Field.valueOn, visitOf, Bool.false_eq_true, if_false]
    split <;> simp [ihbelow]
  | many hmarker hfield hkind htarget _ hparent hremote _ _ ihbelow ih =>
    obtain rfl := columnOf_name hremote
    obtain rfl := columnOf_name hparent
    simp [NestedRows.valuesOn, Selection.valueOn, hmarker, hfield, hkind, htarget, ih, valuesOn,
      Field.valueOn, visitOf, ihbelow]

end Plan

end Answer

end NestedRows
