import NestedRows.Front.Request
import NestedRows.Proofs.Selection.Tokens
/-!
# The grammar of selection text

The tokens of a selection by the rules of the grammar. The walk with its stack of open blocks is an
implementation of these rules: what it has read is always the beginning of a text by the rules, and
it gets through every text by the rules.
-/

namespace NestedRows.Selection

mutual

/-- The tokens of a field: its name, and the block of what is selected below it. -/
inductive IsField : Selection → List Token → Prop
  | leaf (name : String) : IsField (.node name []) [.name name.toList]
  | block (name : String) {children : List Selection} {tokens : List Token} :
    children ≠ [] → AreFields children tokens →
      IsField (.node name children)
        (.name name.toList :: .openBlock :: tokens ++ [.closeBlock])

/-- The tokens of the fields in a block. A comma may follow each of them. -/
inductive AreFields : List Selection → List Token → Prop
  | nil : AreFields [] []
  | cons {s : Selection} {rest : List Selection} {tokens more : List Token} :
    IsField s tokens → AreFields rest more → AreFields (s :: rest) (tokens ++ more)
  | cons_comma {s : Selection} {rest : List Selection} {tokens more : List Token} :
    IsField s tokens → AreFields rest more → AreFields (s :: rest) (tokens ++ .comma :: more)

end

/-- The tokens of a whole text. -/
def IsText (s : Selection) (tokens : List Token) : Prop :=
  ∃ field, IsField s field ∧ tokens = .openBlock :: field ++ [.closeBlock]

theorem AreFields.append {left right : List Selection} {tokens more : List Token}
    (hleft : AreFields left tokens) (hright : AreFields right more) :
    AreFields (left ++ right) (tokens ++ more) := by
  match hleft with
  | .nil => exact hright
  | .cons hfield hrest =>
    rw [List.cons_append, List.append_assoc]
    exact .cons hfield (hrest.append hright)
  | .cons_comma hfield hrest =>
    rw [List.cons_append, List.append_assoc, List.cons_append]
    exact .cons_comma hfield (hrest.append hright)

theorem AreFields.snoc {fields : List Selection} {s : Selection} {tokens field : List Token}
    (hfields : AreFields fields tokens) (hs : IsField s field) :
    AreFields (fields ++ [s]) (tokens ++ field) := by
  simpa using hfields.append (.cons hs .nil)

theorem AreFields.snoc_comma {fields : List Selection} {s : Selection}
    {tokens field : List Token} (hfields : AreFields fields tokens) (hs : IsField s field) :
    AreFields (fields ++ [s]) (tokens ++ field ++ [.comma]) := by
  simpa using hfields.append (.cons_comma hs .nil)

namespace Reading

/-! ## What is read is by the rules -/

/-- The tokens before the field that is being read now, when these blocks are open. -/
def Opens : List Block → List Token → Prop
  | [], tokens => tokens = [.openBlock]
  | ⟨owner, done⟩ :: outer, tokens =>
    ∃ before fields, Opens outer before ∧ AreFields done.reverse fields ∧
      tokens = before ++ .name owner :: .openBlock :: fields

/-- A reading that stands behind these tokens. -/
def Follows (r : Reading) (tokens : List Token) : Prop :=
  match r.expecting with
  | .opening => r.blocks = [] ∧ tokens = []
  | .firstName => Opens r.blocks tokens
  | .blockOf name => ∃ before, Opens r.blocks before ∧ tokens = before ++ [.name name]
  | .afterField s => ∃ before field, Opens r.blocks before ∧ IsField s field ∧
      tokens = before ++ field
  | .afterComma => Opens r.blocks tokens ∧ ∀ block ∈ r.blocks.head?, block.done ≠ []
  | .nothing s => IsText s tokens

/-- The end of a block ends the field that it belongs to. -/
theorem follows_of_closeBlock {owner : List Char} {done : List Selection} {outer : List Block}
    {tokens : List Token} (h : Opens (⟨owner, done⟩ :: outer) tokens) (hdone : done ≠ []) :
    Follows ⟨outer, .afterField (.node (String.ofList owner) done.reverse)⟩
      (tokens ++ [.closeBlock]) := by
  obtain ⟨before, fields, hbefore, hfields, rfl⟩ := h
  have hfield := IsField.block (String.ofList owner) (by simpa using hdone) hfields
  rw [String.toList_ofList] at hfield
  exact ⟨before, _, hbefore, hfield, by simp⟩

theorem Follows.afterField {blocks : List Block} {s : Selection} {tokens : List Token}
    {token : Token} {r : Reading} (h : Follows ⟨blocks, .afterField s⟩ tokens)
    (hr : Reading.afterField blocks s token = some r) : r.Follows (tokens ++ [token]) := by
  obtain ⟨before, field, hbefore, hfield, rfl⟩ := h
  match blocks, token with
  | [], .closeBlock =>
    cases hr
    obtain rfl : before = [.openBlock] := hbefore
    exact ⟨field, hfield, rfl⟩
  | ⟨owner, done⟩ :: outer, token =>
    obtain ⟨older, fields, holder, hfields, rfl⟩ := hbefore
    have hpushed : Opens (⟨owner, s :: done⟩ :: outer)
        ((older ++ .name owner :: .openBlock :: fields) ++ field) :=
      ⟨older, fields ++ field, holder, by simpa using hfields.snoc hfield, by simp⟩
    match token with
    | .closeBlock =>
      cases hr
      exact follows_of_closeBlock hpushed (List.cons_ne_nil _ _)
    | .comma =>
      cases hr
      refine ⟨⟨older, fields ++ field ++ [.comma], holder, ?_, by simp⟩, by simp⟩
      simpa using hfields.snoc_comma hfield
    | .name name =>
      cases hr
      exact ⟨_, hpushed, rfl⟩

theorem Follows.step {r next : Reading} {tokens : List Token} {token : Token}
    (h : r.Follows tokens) (hstep : r.step token = some next) :
    next.Follows (tokens ++ [token]) := by
  obtain ⟨blocks, expecting⟩ := r
  match expecting, token with
  | .opening, .openBlock =>
    cases hstep
    obtain ⟨rfl, rfl⟩ := h
    rfl
  | .firstName, .name name =>
    cases hstep
    exact ⟨tokens, h, rfl⟩
  | .blockOf name, .openBlock =>
    cases hstep
    obtain ⟨before, hbefore, rfl⟩ := h
    exact ⟨before, [], hbefore, .nil, by simp⟩
  | .blockOf name, .closeBlock | .blockOf name, .comma | .blockOf name, .name _ =>
    obtain ⟨before, hbefore, rfl⟩ := h
    have hleaf : IsField (.node (String.ofList name) []) [.name name] := by
      simpa using IsField.leaf (String.ofList name)
    exact Follows.afterField ⟨before, _, hbefore, hleaf, rfl⟩ hstep
  | .afterField s, token => exact Follows.afterField h hstep
  | .afterComma, .name name =>
    cases hstep
    exact ⟨tokens, h.1, rfl⟩
  | .afterComma, .closeBlock =>
    match blocks with
    | ⟨owner, done⟩ :: outer =>
      cases hstep
      exact follows_of_closeBlock h.1 (h.2 _ rfl)

theorem Follows.run {r final : Reading} {tokens more : List Token} (h : r.Follows tokens)
    (hrun : r.run more = some final) : final.Follows (tokens ++ more) := by
  induction more generalizing r tokens with
  | nil =>
    cases hrun
    rwa [List.append_nil]
  | cons token more ih =>
    obtain ⟨next, hstep, hrest⟩ := Option.bind_eq_some_iff.mp hrun
    rw [List.append_cons]
    exact ih (h.step hstep) hrest

/-! ## What is by the rules is read -/

theorem run_cons {r next : Reading} {token : Token} (more : List Token)
    (hstep : r.step token = some next) : r.run (token :: more) = next.run more := by
  simp [run, hstep]

theorem run_append {r next : Reading} {tokens : List Token} (more : List Token)
    (hrun : r.run tokens = some next) : r.run (tokens ++ more) = next.run more := by
  induction tokens generalizing r with
  | nil =>
    cases hrun
    rfl
  | cons token tokens ih =>
    obtain ⟨middle, hstep, hrest⟩ := Option.bind_eq_some_iff.mp hrun
    rw [List.cons_append, run_cons _ hstep]
    exact ih hrest

/-- The reading is ready for a field among these open blocks. -/
def TakesName (r : Reading) (blocks : List Block) : Prop :=
  ∀ name, r.step (.name name) = some ⟨blocks, .blockOf name⟩

/-- The reading has just read a field among these open blocks. A field that could still open a block
of its own counts as read. -/
def HasRead (r : Reading) (blocks : List Block) (s : Selection) : Prop :=
  ∀ token, token ≠ .openBlock → r.step token = Reading.afterField blocks s token

mutual

theorem run_field {s : Selection} {tokens : List Token} (h : IsField s tokens) {r : Reading}
    {blocks : List Block} (hr : r.TakesName blocks) :
    ∃ next, r.run tokens = some next ∧ next.HasRead blocks s := by
  match h with
  | .leaf name =>
    refine ⟨_, run_cons [] (hr name.toList), fun token htoken => ?_⟩
    cases token with
    | openBlock => exact absurd rfl htoken
    | _ => simp [step]
  | .block name hne hchildren =>
    have hopen : Reading.step ⟨blocks, .blockOf name.toList⟩ .openBlock =
        some ⟨⟨name.toList, []⟩ :: blocks, .firstName⟩ := rfl
    obtain ⟨inner, hrun, hclose⟩ := run_fields hchildren
      (r := ⟨⟨name.toList, []⟩ :: blocks, .firstName⟩) (fun _ => rfl) (fun h => absurd h hne)
    refine ⟨⟨blocks, .afterField (.node name _)⟩, ?_, fun _ _ => rfl⟩
    rw [List.cons_append, List.cons_append, run_cons _ (hr _), run_cons _ hopen,
      run_append _ hrun, run_cons _ hclose]
    simp [run]

theorem run_fields {fields : List Selection} {tokens : List Token} (h : AreFields fields tokens)
    {r : Reading} {owner : List Char} {done : List Selection} {outer : List Block}
    (hname : r.TakesName (⟨owner, done⟩ :: outer))
    (hclose : fields = [] → r.step .closeBlock =
      some ⟨outer, .afterField (.node (String.ofList owner) done.reverse)⟩) :
    ∃ next, r.run tokens = some next ∧ next.step .closeBlock =
      some ⟨outer, .afterField (.node (String.ofList owner) (done.reverse ++ fields))⟩ := by
  match h with
  | .nil => exact ⟨r, rfl, by simpa using hclose rfl⟩
  | .cons (s := s) hfield hrest =>
    obtain ⟨middle, hrun, hread⟩ := run_field hfield hname
    have hready : middle.TakesName (⟨owner, s :: done⟩ :: outer) := fun _ => hread _ (by simp)
    obtain ⟨next, hmore, hend⟩ := run_fields hrest hready fun _ => hread _ (by simp)
    exact ⟨next, by rw [run_append _ hrun, hmore], by simpa using hend⟩
  | .cons_comma (s := s) hfield hrest =>
    obtain ⟨middle, hrun, hread⟩ := run_field hfield hname
    obtain ⟨next, hmore, hend⟩ := run_fields hrest
      (r := ⟨⟨owner, s :: done⟩ :: outer, .afterComma⟩) (fun _ => rfl) (fun _ => rfl)
    have hcomma : middle.step .comma = some ⟨⟨owner, s :: done⟩ :: outer, .afterComma⟩ :=
      hread _ (by simp)
    exact ⟨next, by rw [run_append _ hrun, run_cons _ hcomma, hmore], by simpa using hend⟩

end

end Reading

theorem ofTokens?_eq_some_iff {tokens : List Token} {s : Selection} :
    ofTokens? tokens = some s ↔ IsText s tokens := by
  constructor
  · intro h
    obtain ⟨r, hrun, hr⟩ := Option.bind_eq_some_iff.mp h
    obtain ⟨blocks, expecting⟩ := r
    match expecting with
    | .nothing selection =>
      obtain rfl : selection = s := Option.some.inj hr
      have hstart : Reading.Follows ⟨[], .opening⟩ [] := ⟨rfl, rfl⟩
      exact hstart.run hrun
  · rintro ⟨field, hfield, rfl⟩
    have hopen : Reading.step ⟨[], .opening⟩ .openBlock = some ⟨[], .firstName⟩ := rfl
    obtain ⟨next, hrun, hread⟩ := Reading.run_field hfield (r := ⟨[], .firstName⟩) fun _ => rfl
    have hclose : next.step .closeBlock = some ⟨[], .nothing s⟩ := hread _ (by simp)
    have hwhole : Reading.run ⟨[], .opening⟩ (.openBlock :: field ++ [.closeBlock]) =
        some ⟨[], .nothing s⟩ := by
      rw [List.cons_append, Reading.run_cons _ hopen, Reading.run_append _ hrun,
        Reading.run_cons _ hclose]
      rfl
    exact Option.bind_eq_some_iff.mpr ⟨_, hwhole, rfl⟩

/-! ## Texts -/

/-- The text is a way to write the selection: it spells the selection's tokens. -/
def IsWrittenAs (s : Selection) (text : String) : Prop :=
  ∃ tokens pieces, IsText s tokens ∧ Spells pieces tokens text.toList

theorem tokens?_eq_some_iff {text : String} {tokens : List Token} :
    tokens? text = some tokens ↔ ∃ pieces, Spells pieces tokens text.toList :=
  tokensFrom_eq_some_iff

/-- A text is read as exactly the selection that it is a way to write, and a request made in it is
the request of that selection. A text that writes no selection, and no other, is answered with the
error of an unreadable selection. -/
theorem parse?_exact (text : String) :
    (∀ s, parse? text = some s ↔ s.IsWrittenAs text) ∧
      (∀ s, Request.ofText text = .ofSelection s ↔ s.IsWrittenAs text) ∧
      (Request.ofText text = .answered (.ofError (.malformedSelection .unreadable)) ↔
        ∀ s, ¬ IsWrittenAs s text) := by
  have hparse (s : Selection) : parse? text = some s ↔ s.IsWrittenAs text := by
    constructor
    · intro h
      obtain ⟨tokens, htokens, hs⟩ := Option.bind_eq_some_iff.mp h
      obtain ⟨pieces, hpieces⟩ := tokens?_eq_some_iff.mp htokens
      exact ⟨tokens, pieces, ofTokens?_eq_some_iff.mp hs, hpieces⟩
    · rintro ⟨tokens, pieces, hs, hpieces⟩
      exact Option.bind_eq_some_iff.mpr
        ⟨tokens, tokens?_eq_some_iff.mpr ⟨pieces, hpieces⟩, ofTokens?_eq_some_iff.mpr hs⟩
  refine ⟨hparse, ?_⟩
  simp only [← hparse, Request.ofText]
  cases parse? text with
  | none => simp [Request.ofSelection]
  | some s => simp [Request.ofSelection]

example : parse? "\x7b a \x7b b, _c # \x7d\n \x7d \x7d" =
    some (.node "a" [.node "b" [], .node "_c" []]) := by rfl

example : parse? "\x7b a \x7b b,, c \x7d \x7d" = none := by rfl

end NestedRows.Selection
