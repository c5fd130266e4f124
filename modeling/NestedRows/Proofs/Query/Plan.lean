import NestedRows.Query.Plan
import NestedRows.Proofs.TypeGraph.Fields
/-!
# What a plan knows

Checking a selection gives the fields of a plan by rules (`Plan.Checks`), one for each kind of field
and one for markers. What the checked fields know of their tables is then read off the rules
(`Plan.Sound`): every column is there with its type, and every step to another table follows a
foreign key.
-/

namespace NestedRows

/-- Two steps succeed exactly if the first one does and the second one does after it. -/
theorem bind_eq_ok_iff {ε α β : Type} {x : Except ε α} {f : α → Except ε β} {b : β} :
    (x >>= f) = .ok b ↔ ∃ a, x = .ok a ∧ f a = .ok b := by
  cases x with
  | error e => simp [bind, Except.bind]
  | ok a => simp [bind, Except.bind]

namespace Plan

theorem targetOf_eq_ok_iff {g : TypeGraph} {target : String} {t : ObjectType} :
    targetOf g target = .ok t ↔ g.object? target = some t := by
  rw [targetOf]
  cases g.object? target <;> simp

/-- Something is selected that is not a marker. -/
def HasFields (children : List Selection) : Prop := ∃ s ∈ children, isMarker s.name = false

theorem requireFields_eq_ok_iff {o : ObjectType} {name : String} {children : List Selection} :
    requireFields o name children = .ok () ↔ HasFields children := by
  have hany : (children.any fun s => !isMarker s.name) = true ↔ HasFields children := by
    simp [HasFields]
  rw [requireFields, ← hany]
  split <;> simp_all

/-- The rules by which selections on a type become fields of a plan. -/
inductive Checks (g : TypeGraph) : ObjectType → List Selection → List Field → Prop
  | nil {o : ObjectType} : Checks g o [] []
  | marker {o : ObjectType} {name : String} {children rest : List Selection} {fields : List Field}
      (hmarker : isMarker name = true) (hrest : Checks g o rest fields) :
      Checks g o (.node name children :: rest) fields
  | scalar {o : ObjectType} {name column : String} {fieldType : FieldType} {f : NestedRows.Field}
      {rest : List Selection} {fields : List Field} (hmarker : isMarker name = false)
      (hfield : o.fields.get? name = some f) (hkind : f.kind = .scalar column fieldType)
      (hrest : Checks g o rest fields) :
      Checks g o (.node name [] :: rest) (.scalar name ⟨column, fieldType⟩ :: fields)
  | one {o t : ObjectType} {name target localKey remoteKey : String} {remote : Column}
      {f : NestedRows.Field} {children rest : List Selection} {below fields : List Field}
      (hmarker : isMarker name = false) (hfield : o.fields.get? name = some f)
      (hkind : f.kind = .one target localKey remoteKey) (htarget : g.object? target = some t)
      (hfields : HasFields children) (hremote : columnOf t remoteKey = .ok remote)
      (hbelow : Checks g t children below) (hrest : Checks g o rest fields) :
      Checks g o (.node name children :: rest) (.one name (visitOf t) localKey remote below :: fields)
  | many {o t : ObjectType} {name target localKey remoteKey : String} {parent remote : Column}
      {f : NestedRows.Field} {children rest : List Selection} {below fields : List Field}
      (hmarker : isMarker name = false) (hfield : o.fields.get? name = some f)
      (hkind : f.kind = .many target localKey remoteKey) (htarget : g.object? target = some t)
      (hfields : HasFields children) (hparent : columnOf o localKey = .ok parent)
      (hremote : columnOf t remoteKey = .ok remote) (hbelow : Checks g t children below)
      (hrest : Checks g o rest fields) :
      Checks g o (.node name children :: rest) (.many name (visitOf t) parent remote below :: fields)

mutual

theorem checks_of_ofSelection {g : TypeGraph} {o : ObjectType} : (s : Selection) → {first : List Field} →
    ofSelection g o s = .ok first → ∀ {rest : List Selection} {fields : List Field},
    Checks g o rest fields → Checks g o (s :: rest) (first ++ fields)
  | .node name children, first, h => by
    intro hrest
    rw [ofSelection] at h
    cases hmarker : isMarker name with
    | true =>
      simp only [hmarker, if_true, Except.ok.injEq] at h
      subst h
      exact .marker hmarker hrest
    | false =>
      cases hfield : o.fields.get? name with
      | none => simp [hmarker, hfield] at h
      | some f =>
        simp only [hmarker, hfield] at h
        cases hkind : f.kind with
        | scalar column fieldType =>
          simp only [hkind] at h
          match children, h with
          | [], h =>
            simp only [List.isEmpty_nil, if_true, Except.ok.injEq, Bool.false_eq_true, if_false] at h
            subst h
            exact .scalar hmarker hfield hkind hrest
        | one target localKey remoteKey =>
          simp only [hkind, bind_eq_ok_iff, targetOf_eq_ok_iff, Bool.false_eq_true, if_false] at h
          obtain ⟨t, htarget, ⟨⟩, hfields, remote, hremote, below, hbelow, heq⟩ := h
          obtain rfl := Except.ok.inj heq
          exact .one hmarker hfield hkind htarget (requireFields_eq_ok_iff.mp hfields) hremote
            (checks_of_ofSelections children hbelow) hrest
        | many target localKey remoteKey =>
          simp only [hkind, bind_eq_ok_iff, targetOf_eq_ok_iff, Bool.false_eq_true, if_false] at h
          obtain ⟨t, htarget, ⟨⟩, hfields, parent, hparent, remote, hremote, below, hbelow, heq⟩ := h
          obtain rfl := Except.ok.inj heq
          exact .many hmarker hfield hkind htarget (requireFields_eq_ok_iff.mp hfields) hparent hremote
            (checks_of_ofSelections children hbelow) hrest

theorem checks_of_ofSelections {g : TypeGraph} {o : ObjectType} : (l : List Selection) →
    {fields : List Field} → ofSelections g o l = .ok fields → Checks g o l fields
  | [], fields, h => by
    rw [ofSelections] at h
    obtain rfl := Except.ok.inj h
    exact .nil
  | s :: rest, fields, h => by
    rw [ofSelections] at h
    simp only [bind_eq_ok_iff] at h
    obtain ⟨first, hfirst, more, hmore, heq⟩ := h
    obtain rfl := Except.ok.inj heq
    exact checks_of_ofSelection s hfirst (checks_of_ofSelections rest hmore)

end

theorem of_eq_ok {g : TypeGraph} {s : Selection} {p : Plan} (h : of g s = .ok p) :
    ∃ o, g.object? s.name = some o ∧ HasFields s.children ∧ p.root = visitOf o ∧
      Checks g o s.children p.fields := by
  rw [of] at h
  cases hroot : g.object? s.name with
  | none =>
    rw [hroot] at h
    cases h
  | some o =>
    simp only [hroot, bind_eq_ok_iff] at h
    obtain ⟨⟨⟩, hfields, fields, hchecks, heq⟩ := h
    obtain rfl := Except.ok.inj heq
    exact ⟨o, rfl, requireFields_eq_ok_iff.mp hfields, rfl, checks_of_ofSelections s.children hchecks⟩

/-- Where something is selected, something is checked. -/
theorem Checks.ne_nil {g : TypeGraph} {o : ObjectType} {l : List Selection} {fields : List Field}
    (h : Checks g o l fields) (hl : HasFields l) : fields ≠ [] := by
  induction h with
  | nil => exact absurd hl (by simp [HasFields])
  | marker hmarker _ ih => exact ih (by simpa [HasFields, Selection.name, hmarker] using hl)
  | scalar => exact List.cons_ne_nil _ _
  | one => exact List.cons_ne_nil _ _
  | many => exact List.cons_ne_nil _ _

/-! ### Columns and references of a plan -/

def Column.In (c : Column) (s : Schema) (table : String) : Prop :=
  ∃ k, s.Has table c.name k ∧ k.fieldType = c.fieldType

def Visit.In (v : Visit) (s : Schema) : Prop := ∀ pk, v.primaryKey = some pk → ∃ k, s.Has v.table pk k

/-- Checked fields of a table: its columns are there with their types, a step to one row follows a
foreign key, and a step to many rows follows one backwards. -/
inductive Sound (s : Schema) : String → List Field → Prop
  | nil {table : String} : Sound s table []
  | scalar {table field : String} {column : Column} {fields : List Field} (hcolumn : column.In s table)
      (hrest : Sound s table fields) : Sound s table (.scalar field column :: fields)
  | one {table field localKey : String} {target : Visit} {remote : Column} {below fields : List Field}
      (hvisit : target.In s) (href : s.References table localKey target.table remote.name)
      (hremote : remote.In s target.table) (hne : below ≠ [])
      (hbelow : Sound s target.table below) (hrest : Sound s table fields) :
      Sound s table (.one field target localKey remote below :: fields)
  | many {table field : String} {target : Visit} {parent remote : Column} {below fields : List Field}
      (hvisit : target.In s) (href : s.References target.table remote.name table parent.name)
      (hparent : parent.In s table) (hremote : remote.In s target.table) (hne : below ≠ [])
      (hbelow : Sound s target.table below) (hrest : Sound s table fields) :
      Sound s table (.many field target parent remote below :: fields)

section Sound

variable {s : Schema} {g : TypeGraph} (hs : s.WellFormed) (hg : TypeGraph.ofSchema s = .ok g)

include hs hg

theorem visitOf_in {name : String} {o : ObjectType} (ho : g.object? name = some o) :
    (visitOf o).In s := by
  intro pk hpk
  obtain rfl := TypeGraph.name_of_object? hg ho
  exact TypeGraph.has_primaryKey hs hg ho hpk

theorem columnOf_in {name column : String} {o : ObjectType} (ho : g.object? name = some o) {c : Column}
    (h : columnOf o column = .ok c) : c.name = column ∧ c.In s name := by
  rw [columnOf] at h
  split at h
  case h_1 fieldType hfound =>
    obtain rfl := Except.ok.inj h
    obtain ⟨f, hf, hkind⟩ := List.exists_of_findSome?_eq_some hfound
    obtain ⟨field, hfield⟩ := SortedMap.mem_values.mp hf
    split at hkind
    case h_1 c' fieldType' hscalar =>
      split at hkind
      case isTrue heq =>
        obtain rfl := heq
        obtain rfl := Option.some.inj hkind
        exact ⟨rfl, TypeGraph.has_of_scalar hs hg ho hfield hscalar⟩
      case isFalse => cases hkind
    case h_2 => cases hkind
  case h_2 => cases h

theorem Checks.sound {name : String} {o : ObjectType} {l : List Selection} {fields : List Field}
    (h : Checks g o l fields) (ho : g.object? name = some o) : Sound s name fields := by
  induction h generalizing name with
  | nil => exact .nil
  | marker _ _ ih => exact ih ho
  | scalar _ hfield hkind _ ih =>
    exact .scalar (TypeGraph.has_of_scalar hs hg ho hfield hkind) (ih ho)
  | one _ hfield hkind htarget hfields hremote hbelow _ ihbelow ih =>
    have hname := TypeGraph.name_of_object? hg htarget
    obtain ⟨rfl, hin⟩ := columnOf_in hs hg htarget hremote
    subst hname
    exact .one (visitOf_in hs hg htarget) (TypeGraph.references_of_one hs hg ho hfield hkind) hin
      (hbelow.ne_nil hfields) (ihbelow htarget) (ih ho)
  | many _ hfield hkind htarget hfields hparent hremote hbelow _ ihbelow ih =>
    have hname := TypeGraph.name_of_object? hg htarget
    obtain ⟨rfl, hin⟩ := columnOf_in hs hg htarget hremote
    obtain ⟨rfl, hparentIn⟩ := columnOf_in hs hg ho hparent
    subst hname
    exact .many (visitOf_in hs hg htarget) (TypeGraph.references_of_many hs hg ho hfield hkind) hparentIn
      hin (hbelow.ne_nil hfields) (ihbelow htarget) (ih ho)

end Sound

end Plan

end NestedRows
