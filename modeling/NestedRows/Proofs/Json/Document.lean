import NestedRows.Json.Reader
import NestedRows.Proofs.Json.Text
/-!
# Written text read back

The text of a value without numbers is read back as the document of that value
(`Document.ofUnits?_render`). Each of its strings has the text that was written, whatever characters are in
it, and an object with the fields of a record is read as that record (`Document.record?_document`).

Reading has two stages. The text of a value is cut into the tokens of the document, provided that no word
goes on behind it. The tokens of any document build this document.
-/

namespace NestedRows.Json

/-! ### The document of a value -/

/-- A character of a string as it is read: a code unit if it was written with its code. -/
def StringPart.ofChar (c : Char) : StringPart :=
  if (escaped c).length = 6 then .unit c.toNat else .char c

theorem StringPart.ofChar_cases (c : Char) :
    ofChar c = .char c ∧ (escaped c = [c] ∨ ∃ letter, escaped c = ['\\', letter] ∧ ofLetter? letter = some c) ∨
      ofChar c = .unit c.toNat ∧ c.toNat < 0x20 ∧
        escaped c = ['\\', 'u', '0', '0', hexDigit (c.toNat / 16), hexDigit (c.toNat % 16)] := by
  rcases escaped_cases c with ⟨h, -⟩ | ⟨letter, h, hletter⟩ | ⟨h, hlt⟩
  · exact .inl ⟨by rw [ofChar, h]; rfl, .inl h⟩
  · exact .inl ⟨by rw [ofChar, h]; rfl, .inr ⟨letter, h, hletter⟩⟩
  · exact .inr ⟨by rw [ofChar, h]; rfl, hlt, h⟩

def partsOf (s : String) : List StringPart := s.toList.map StringPart.ofChar

theorem text?_ofChar_cons (c : Char) (rest : List StringPart) :
    text? (.ofChar c :: rest) = (text? rest).map (c :: ·) := by
  rcases StringPart.ofChar_cases c with ⟨h, -⟩ | ⟨h, hlt, -⟩
  · rw [h, text?]
  · have hvalue : c.toNat < 0xD800 ∨ 0xDFFF < c.toNat := .inl (by omega)
    rw [h, text?.eq_def]
    simp only [if_pos hvalue, Char.ofNat_toNat]

/-- A string has the text that was written. -/
@[simp] theorem text?_partsOf (s : String) : text? (partsOf s) = some s.toList := by
  rw [partsOf]
  induction s.toList with
  | nil => rfl
  | cons c rest ih => rw [List.map_cons, text?_ofChar_cons, ih, Option.map_some]

mutual

/-- The document that the text of a value writes down; of a number it is not told. -/
def document : Json → Document
  | null | int _ | float _ => .null
  | bool b => .bool b
  | str s => .string (partsOf s)
  | arr items => .array (documents items)
  | obj fields => .object (fieldDocuments fields)

def documents : List Json → List Document
  | [] => []
  | item :: items => item.document :: documents items

def fieldDocuments : List (String × Json) → List (List StringPart × Document)
  | [] => []
  | (name, value) :: fields => (partsOf name, value.document) :: fieldDocuments fields

end

namespace Document

mutual

def tokens : Document → List Token
  | null => [.null]
  | bool b => [.bool b]
  | number n => [.number n]
  | string parts => [.string parts]
  | array [] => [.openArray, .closeArray]
  | array (item :: items) => .openArray :: item.tokens ++ itemTokens items ++ [.closeArray]
  | object [] => [.openObject, .closeObject]
  | object ((name, value) :: fields) =>
    .openObject :: .string name :: .colon :: value.tokens ++ fieldTokens fields ++ [.closeObject]

/-- The tokens of the items behind the first. -/
def itemTokens : List Document → List Token
  | [] => []
  | item :: items => .comma :: item.tokens ++ itemTokens items

/-- The tokens of the fields behind the first. -/
def fieldTokens : List (List StringPart × Document) → List Token
  | [] => []
  | (name, value) :: fields => .comma :: .string name :: .colon :: value.tokens ++ fieldTokens fields

end

end Document

/-! ### Text into tokens -/

theorem tokensFrom_cons {state : Lexing} {u : Option Char} {rest : Text.Units} :
    tokensFrom state (u :: rest) =
      (lexStep state u).bind fun (next, tokens) => (tokensFrom next rest).map (tokens ++ ·) := by
  cases state <;> simp only [tokensFrom, Option.map_eq_bind] <;> rfl

theorem tokensFrom_of_lexStep {state next : Lexing} {u : Option Char} (h : lexStep state u = some (next, []))
    (rest : Text.Units) : tokensFrom state (u :: rest) = tokensFrom next rest := by
  rw [tokensFrom_cons, h]
  exact Option.map_id'

theorem tokensFrom_sign {c : Char} (token : Token) (h : startToken? c = some (.between, [token]))
    (rest : Text.Units) :
    tokensFrom .between (some c :: rest) = (tokensFrom .between rest).map (token :: ·) := by
  rw [tokensFrom_cons, lexStep, h]
  rfl

theorem simpleEscape?_of_ofLetter? {letter c : Char} (h : ofLetter? letter = some c) :
    letter ≠ 'u' ∧ simpleEscape? letter = some c := by
  rw [ofLetter?.eq_def] at h
  split at h <;> cases h <;> exact ⟨by decide, rfl⟩

theorem hexValue?_hexDigit {n : Nat} (h : n < 16) : hexValue? (hexDigit n) = some n := by
  have hall : ∀ n < 16, hexValue? (hexDigit n) = some n := by decide
  exact hall n h

theorem plain_of_escaped_eq {c : Char} (h : escaped c = [c]) : c ≠ '"' ∧ c ≠ '\\' ∧ ¬ c.toNat < 0x20 := by
  rw [escaped] at h
  split_ifs at h with h₁ h₂ h₃ h₄ h₅ h₆ h₇ h₈ <;> simp at h
  exact ⟨h₁, h₂, h₈⟩

/-- What stands for a character in a string's text is read as this character. -/
theorem tokensFrom_escaped (c : Char) (done : List StringPart) (rest : Text.Units) :
    tokensFrom (.string done) ((escaped c).map some ++ rest) =
      tokensFrom (.string (.ofChar c :: done)) rest := by
  rcases StringPart.ofChar_cases c with ⟨hpart, h | ⟨letter, h, hletter⟩⟩ | ⟨hpart, hlt, h⟩
  · obtain ⟨hmark, hslash, hcontrol⟩ := plain_of_escaped_eq h
    have hstep : lexStep (.string done) (some c) = some (.string (.char c :: done), []) := by
      rw [lexStep, if_neg hmark, if_neg hslash, if_neg hcontrol]
    rw [h, hpart]
    exact tokensFrom_of_lexStep hstep rest
  · obtain ⟨hne, hescape⟩ := simpleEscape?_of_ofLetter? hletter
    have hstep : lexStep (.escape done) (some letter) = some (.string (.char c :: done), []) := by
      rw [lexStep, if_neg hne, hescape]
      rfl
    rw [h, hpart]
    exact (tokensFrom_of_lexStep rfl _).trans (tokensFrom_of_lexStep hstep rest)
  · have hhigh : lexStep (.unit done 1 0) (some (hexDigit (c.toNat / 16))) =
        some (.unit done 0 (c.toNat / 16), []) := by
      rw [lexStep, hexValue?_hexDigit (by omega)]
      simp
    have hlow : lexStep (.unit done 0 (c.toNat / 16)) (some (hexDigit (c.toNat % 16))) =
        some (.string (.unit c.toNat :: done), []) := by
      rw [lexStep, hexValue?_hexDigit (by omega)]
      simp [Nat.div_add_mod']
    rw [h, hpart]
    exact (tokensFrom_of_lexStep rfl _).trans <| (tokensFrom_of_lexStep rfl _).trans <|
      (tokensFrom_of_lexStep rfl _).trans <| (tokensFrom_of_lexStep rfl _).trans <|
      (tokensFrom_of_lexStep hhigh _).trans (tokensFrom_of_lexStep hlow rest)

theorem tokensFrom_chars (l : List Char) (done : List StringPart) (rest : Text.Units) :
    tokensFrom (.string done) ((l.flatMap escaped).map some ++ some '"' :: rest) =
      (tokensFrom .between rest).map (.string (done.reverse ++ l.map .ofChar) :: ·) := by
  induction l generalizing done with
  | nil =>
    rw [List.map_nil, List.append_nil, List.flatMap_nil, List.map_nil, List.nil_append, tokensFrom_cons]
    rfl
  | cons c l ih =>
    rw [List.flatMap_cons, List.map_append, List.append_assoc, tokensFrom_escaped, ih, List.reverse_cons,
      List.append_assoc, List.map_cons, List.singleton_append]

theorem tokensFrom_renderString (s : String) (rest : Text.Units) :
    tokensFrom .between ((renderString s).map some ++ rest) =
      (tokensFrom .between rest).map (.string (partsOf s) :: ·) := by
  rw [renderString, List.cons_append, List.map_cons, List.map_append, List.cons_append, List.append_assoc]
  exact (tokensFrom_of_lexStep rfl _).trans (tokensFrom_chars s.toList [] rest)

/-- No word goes on here. -/
def EndsWord (rest : Text.Units) : Prop := ∀ u ∈ rest.head?, ∃ c, u = some c ∧ isWordPart c = false

theorem endsWord_nil : EndsWord [] := by
  intro u hu
  cases hu

theorem endsWord_cons {c : Char} (h : isWordPart c = false) (rest : Text.Units) :
    EndsWord (some c :: rest) := by
  intro u hu
  exact ⟨c, (Option.mem_some.mp hu).symm, h⟩

theorem tokensFrom_ended {done : List Char} {token : Token} (h : wordToken? done.reverse = some token)
    {rest : Text.Units} (hrest : EndsWord rest) :
    tokensFrom (.word done) rest = (tokensFrom .between rest).map (token :: ·) := by
  cases rest with
  | nil => simp [tokensFrom, h]
  | cons u rest =>
    obtain ⟨c, rfl, hc⟩ := hrest u rfl
    have hstep : lexStep (.word done) (some c) =
        (startToken? c).map fun (state, tokens) => (state, token :: tokens) := by
      rw [lexStep, if_neg (by simp [hc]), h]
      cases startToken? c <;> rfl
    rw [tokensFrom_cons, tokensFrom_cons, hstep, lexStep]
    cases startToken? c <;> simp [Function.comp_def]

theorem tokensFrom_wordParts (word done : List Char) {token : Token}
    (hword : word.all isWordPart = true) (h : wordToken? (done.reverse ++ word) = some token)
    {rest : Text.Units} (hrest : EndsWord rest) :
    tokensFrom (.word done) (word.map some ++ rest) = (tokensFrom .between rest).map (token :: ·) := by
  induction word generalizing done with
  | nil => exact tokensFrom_ended (by rwa [List.append_nil] at h) hrest
  | cons c word ih =>
    rw [List.all_cons, Bool.and_eq_true] at hword
    have hstep : lexStep (.word done) (some c) = some (.word (c :: done), []) := if_pos hword.1
    have hmore := ih (c :: done) hword.2 (by rwa [List.reverse_cons, List.append_assoc])
    exact (tokensFrom_of_lexStep hstep _).trans hmore

theorem endsWord_renderItems (items : List Json) {rest : Text.Units} (hrest : EndsWord rest) :
    EndsWord ((renderItems items).map some ++ rest) := by
  cases items with
  | nil => rwa [renderItems, List.map_nil, List.nil_append]
  | cons item items =>
    rw [renderItems]
    exact endsWord_cons (by decide) _

theorem endsWord_renderFields (fields : List (String × Json)) {rest : Text.Units} (hrest : EndsWord rest) :
    EndsWord ((renderFields fields).map some ++ rest) := by
  cases fields with
  | nil => rwa [renderFields, List.map_nil, List.nil_append]
  | cons field fields =>
    rw [renderFields]
    exact endsWord_cons (by decide) _

mutual

/-- The text of a value is cut into the tokens of its document. -/
theorem tokensFrom_renderChars : (v : Json) → v.numberFree = true → {rest : Text.Units} → EndsWord rest →
    tokensFrom .between (v.renderChars.map some ++ rest) =
      (tokensFrom .between rest).map (v.document.tokens ++ ·)
  | null, _, rest, hrest => by
    rw [renderChars, document, Document.tokens]
    exact (tokensFrom_of_lexStep rfl _).trans
      (tokensFrom_wordParts ['u', 'l', 'l'] _ rfl rfl hrest)
  | bool true, _, rest, hrest => by
    rw [renderChars, document, Document.tokens]
    exact (tokensFrom_of_lexStep rfl _).trans
      (tokensFrom_wordParts ['r', 'u', 'e'] _ rfl rfl hrest)
  | bool false, _, rest, hrest => by
    rw [renderChars, document, Document.tokens]
    exact (tokensFrom_of_lexStep rfl _).trans
      (tokensFrom_wordParts ['a', 'l', 's', 'e'] _ rfl rfl hrest)
  | str s, _, rest, _ => by
    rw [renderChars, document, Document.tokens]
    exact tokensFrom_renderString s rest
  | arr [], _, rest, _ => by
    rw [renderChars, document, documents, Document.tokens]
    rw [List.map_cons, List.map_cons, List.map_nil, List.cons_append, List.cons_append, List.nil_append,
      tokensFrom_sign .openArray rfl, tokensFrom_sign .closeArray rfl, Option.map_map]
    rfl
  | arr (item :: items), hv, rest, _ => by
    rw [numberFree, itemsNumberFree, Bool.and_eq_true] at hv
    have hclose : EndsWord (some ']' :: rest) := endsWord_cons rfl rest
    have hitem := tokensFrom_renderChars item hv.1 (endsWord_renderItems items hclose)
    have hitems := tokensFrom_renderItems items hv.2 hclose
    rw [renderChars, document, documents, Document.tokens]
    simp only [List.map_cons, List.map_append, List.cons_append, List.append_assoc, List.map_nil,
      List.nil_append]
    rw [tokensFrom_sign .openArray rfl, hitem, hitems, tokensFrom_sign .closeArray rfl]
    simp [Function.comp_def]
  | obj [], _, rest, _ => by
    rw [renderChars, document, fieldDocuments, Document.tokens]
    rw [List.map_cons, List.map_cons, List.map_nil, List.cons_append, List.cons_append, List.nil_append,
      tokensFrom_sign .openObject rfl, tokensFrom_sign .closeObject rfl, Option.map_map]
    rfl
  | obj ((name, value) :: fields), hv, rest, _ => by
    rw [numberFree, fieldsNumberFree, Bool.and_eq_true] at hv
    have hclose : EndsWord (some '\x7d' :: rest) := endsWord_cons rfl rest
    have hvalue := tokensFrom_renderChars value hv.1 (endsWord_renderFields fields hclose)
    have hfields := tokensFrom_renderFields fields hv.2 hclose
    rw [renderChars, document, fieldDocuments, Document.tokens]
    simp only [List.map_cons, List.map_append, List.cons_append, List.append_assoc, List.map_nil,
      List.nil_append]
    rw [tokensFrom_sign .openObject rfl, tokensFrom_renderString,
      tokensFrom_sign .colon rfl, hvalue, hfields, tokensFrom_sign .closeObject rfl]
    simp [Function.comp_def]

theorem tokensFrom_renderItems : (items : List Json) → itemsNumberFree items = true → {rest : Text.Units} →
    EndsWord rest → tokensFrom .between ((renderItems items).map some ++ rest) =
      (tokensFrom .between rest).map (Document.itemTokens (documents items) ++ ·)
  | [], _, rest, _ => by
    rw [renderItems, documents, Document.itemTokens]
    exact Option.map_id'.symm
  | item :: items, hv, rest, hrest => by
    rw [itemsNumberFree, Bool.and_eq_true] at hv
    have hitem := tokensFrom_renderChars item hv.1 (endsWord_renderItems items hrest)
    have hitems := tokensFrom_renderItems items hv.2 hrest
    rw [renderItems, documents, Document.itemTokens]
    simp only [List.map_cons, List.map_append, List.cons_append, List.append_assoc]
    rw [tokensFrom_sign .comma rfl, hitem, hitems]
    simp [Function.comp_def]

theorem tokensFrom_renderFields : (fields : List (String × Json)) → fieldsNumberFree fields = true →
    {rest : Text.Units} → EndsWord rest → tokensFrom .between ((renderFields fields).map some ++ rest) =
      (tokensFrom .between rest).map (Document.fieldTokens (fieldDocuments fields) ++ ·)
  | [], _, rest, _ => by
    rw [renderFields, fieldDocuments, Document.fieldTokens]
    exact Option.map_id'.symm
  | (name, value) :: fields, hv, rest, hrest => by
    rw [fieldsNumberFree, Bool.and_eq_true] at hv
    have hvalue := tokensFrom_renderChars value hv.1 (endsWord_renderFields fields hrest)
    have hfields := tokensFrom_renderFields fields hv.2 hrest
    rw [renderFields, fieldDocuments, Document.fieldTokens]
    simp only [List.map_cons, List.map_append, List.cons_append, List.append_assoc]
    rw [tokensFrom_sign .comma rfl, tokensFrom_renderString,
      tokensFrom_sign .colon rfl, hvalue, hfields]
    simp [Function.comp_def]

end

/-! ### Tokens into a document -/

namespace Document

theorem Reading.run_of_step {r : Reading} (next : Reading) {token : Token} (h : r.step token = some next)
    (rest : List Token) : r.run (token :: rest) = next.run rest := by
  rw [run, h]
  rfl

theorem exists_tokens_eq_cons (d : Document) :
    ∃ token rest, d.tokens = token :: rest ∧ token ≠ .closeArray := by
  rcases d with _ | _ | _ | _ | (_ | ⟨item, items⟩) | (_ | ⟨⟨name, value⟩, fields⟩) <;>
    simp only [tokens, List.cons_append] <;> exact ⟨_, _, rfl, by simp⟩

/-- A first item is read like any other. -/
theorem Reading.run_firstItem (stack : List Frame) (d : Document) (rest : List Token) :
    Reading.run ⟨stack, .firstItem⟩ (d.tokens ++ rest) = Reading.run ⟨stack, .value⟩ (d.tokens ++ rest) := by
  obtain ⟨token, more, htokens, hne⟩ := exists_tokens_eq_cons d
  have hstep : Reading.step ⟨stack, .firstItem⟩ token = Reading.step ⟨stack, .value⟩ token := by
    cases token <;> first | rfl | exact absurd rfl hne
  rw [htokens, List.cons_append, run, run, hstep]

mutual

theorem Reading.run_tokens : (d : Document) → (stack : List Frame) → (rest : List Token) →
    Reading.run ⟨stack, .value⟩ (d.tokens ++ rest) = (Reading.complete d stack).run rest
  | null, stack, rest => by
    rw [tokens]
    exact run_of_step _ rfl rest
  | bool b, stack, rest => by
    rw [tokens]
    exact run_of_step _ rfl rest
  | number n, stack, rest => by
    rw [tokens]
    exact run_of_step _ rfl rest
  | string parts, stack, rest => by
    rw [tokens]
    exact run_of_step _ rfl rest
  | array [], stack, rest => by
    rw [tokens]
    exact (run_of_step _ rfl _).trans (run_of_step _ rfl rest)
  | array (item :: items), stack, rest => by
    rw [tokens]
    simp only [List.cons_append, List.append_assoc, List.nil_append]
    rw [run_of_step ⟨.array [] :: stack, .firstItem⟩ rfl, run_firstItem, run_tokens item]
    exact run_itemTokens items [item] stack rest
  | object [], stack, rest => by
    rw [tokens]
    exact (run_of_step _ rfl _).trans (run_of_step _ rfl rest)
  | object ((name, value) :: fields), stack, rest => by
    rw [tokens]
    simp only [List.cons_append, List.append_assoc, List.nil_append]
    rw [run_of_step ⟨stack, .firstField⟩ rfl, run_of_step ⟨stack, .colon [] name⟩ rfl,
      run_of_step ⟨.object [] name :: stack, .value⟩ rfl, run_tokens value]
    exact run_fieldTokens fields [(name, value)] stack rest

theorem Reading.run_itemTokens : (items done : List Document) → (stack : List Frame) → (rest : List Token) →
    Reading.run ⟨.array done :: stack, .separator⟩ (itemTokens items ++ .closeArray :: rest) =
      (Reading.complete (.array (done.reverse ++ items)) stack).run rest
  | [], done, stack, rest => by
    rw [itemTokens, List.append_nil]
    exact run_of_step _ rfl rest
  | item :: items, done, stack, rest => by
    rw [itemTokens, List.cons_append, List.cons_append, List.append_assoc,
      run_of_step ⟨.array done :: stack, .value⟩ rfl, run_tokens item]
    have hitems := run_itemTokens items (item :: done) stack rest
    rwa [List.reverse_cons, List.append_assoc] at hitems

theorem Reading.run_fieldTokens : (fields done : List (List StringPart × Document)) → (stack : List Frame) →
    (rest : List Token) →
    Reading.run ⟨.object done [] :: stack, .separator⟩ (fieldTokens fields ++ .closeObject :: rest) =
      (Reading.complete (.object (done.reverse ++ fields)) stack).run rest
  | [], done, stack, rest => by
    rw [fieldTokens, List.append_nil]
    exact run_of_step _ rfl rest
  | (name, value) :: fields, done, stack, rest => by
    rw [fieldTokens]
    simp only [List.cons_append, List.append_assoc]
    rw [run_of_step ⟨stack, .name done⟩ rfl, run_of_step ⟨stack, .colon done name⟩ rfl,
      run_of_step ⟨.object done name :: stack, .value⟩ rfl, run_tokens value]
    have hfields := run_fieldTokens fields ((name, value) :: done) stack rest
    rwa [List.reverse_cons, List.append_assoc] at hfields

end

/-- The tokens of a document build this document. -/
theorem ofTokens?_tokens (d : Document) : ofTokens? d.tokens = some d := by
  have hrun := Reading.run_tokens d [] []
  rw [List.append_nil] at hrun
  rw [ofTokens?, hrun]
  rfl

/-- The text of a value is read as the document of the value. -/
theorem ofUnits?_render {v : Json} (hv : v.numberFree = true) :
    ofUnits? (Text.unitsOf v.render) = some v.document := by
  have htokens : tokens? (Text.unitsOf v.render) = some v.document.tokens := by
    have hwhole := tokensFrom_renderChars v hv endsWord_nil
    rw [List.append_nil] at hwhole
    rw [tokens?, Text.unitsOf, render, String.toList_ofList, hwhole, tokensFrom, Option.map_some,
      List.append_nil]
  rw [ofUnits?, htokens]
  exact ofTokens?_tokens _

/-! ### Records -/

theorem placeFields_documents (fields : List (String × Json)) {names : List String}
    (before after : List String) (hnames : names = before ++ fields.map Prod.fst ++ after)
    (hnodup : names.Nodup) (done missing : Fields) (hdone : done.length = before.length) :
    placeFields names (fieldDocuments fields) (done ++ (fields.map fun _ => none) ++ missing) =
      some (done ++ (fields.map fun f => some f.2.document) ++ missing) := by
  induction fields generalizing before done with
  | nil => rw [fieldDocuments, placeFields, List.map_nil, List.map_nil]
  | cons f rest ih =>
    obtain ⟨name, value⟩ := f
    have hfresh : name ∉ before := by
      rw [hnames, List.append_assoc, List.nodup_append] at hnodup
      intro hmem
      exact hnodup.2.2 name hmem name (by simp) rfl
    have hplace : names.idxOf? name = some before.length := by
      have hbefore : before.findIdx? (· == name) = none := by
        rw [List.findIdx?_eq_none_iff]
        intro other hother
        exact beq_eq_false_iff_ne.mpr fun heq => hfresh (heq ▸ hother)
      rw [hnames, List.idxOf?, List.append_assoc, List.findIdx?_append, hbefore]
      simp [List.findIdx?_cons]
    have hmore := ih (before ++ [name]) (by simpa using hnames) (done ++ [some value.document])
      (by simp [hdone])
    rw [fieldDocuments, placeFields, text?_partsOf, Option.bind_eq_bind, Option.bind_some,
      String.ofList_toList, hplace]
    simpa [← hdone] using hmore

/-- An object with the first fields of a record, in the order of their declaration, is this record if the
other fields may be missing. -/
theorem record?_document_append (known missing : List (String × Presence))
    {fields : List (String × Json)} (hnames : fields.map Prod.fst = known.map Prod.fst)
    (hnodup : ((known ++ missing).map Prod.fst).Nodup) (hmissing : ∀ e ∈ missing, e.2 ≠ .required)
    (depth : Nat) :
    record? (known ++ missing) (depth + 1) (Json.document (.obj fields)) =
      some (depth, (fields.map fun f => some f.2.document) ++ missing.map fun _ => none) := by
  have hlength : known.length = fields.length := by
    have hlengths := congrArg List.length hnames
    rw [List.length_map, List.length_map] at hlengths
    exact hlengths.symm
  have hplaced : placeFields ((known ++ missing).map Prod.fst) (fieldDocuments fields)
        ((known ++ missing).map fun _ => none) =
      some ((fields.map fun f => some f.2.document) ++ missing.map fun _ => none) := by
    have hwhole := placeFields_documents fields [] (missing.map Prod.fst)
      (by rw [List.nil_append, hnames, List.map_append]) hnodup [] (missing.map fun _ => none) rfl
    have hnone : (fields.map fun _ => none : Fields) = known.map fun _ => none := by
      rw [List.map_const', List.map_const', hlength]
    rwa [List.nil_append, List.nil_append, hnone, ← List.map_append] at hwhole
  have hcomplete : complete true (known ++ missing)
      ((fields.map fun f => some f.2.document) ++ missing.map fun _ => none) = true := by
    rw [complete, List.zip_append (by rw [List.length_map, hlength]), List.all_append, Bool.and_eq_true,
      List.all_eq_true, List.all_eq_true]
    constructor
    · intro entry hentry
      obtain ⟨-, hmem⟩ := List.of_mem_zip (a := entry.1) (b := entry.2) hentry
      obtain ⟨f, -, hf⟩ := List.mem_map.mp hmem
      simp [← hf]
    · intro entry hentry
      obtain ⟨hmem, -⟩ := List.of_mem_zip (a := entry.1) (b := entry.2) hentry
      have hallowed := hmissing entry.1 hmem
      cases hpresence : entry.1.2 with
      | required => exact absurd hpresence hallowed
      | optional | defaulted => simp [hpresence]
  rw [document, record?, hplaced]
  exact if_pos hcomplete

/-- An object with exactly the fields of a record, in the order of their declaration, is this record. -/
theorem record?_document {spec : List (String × Presence)} {fields : List (String × Json)}
    (hnames : fields.map Prod.fst = spec.map Prod.fst) (hnodup : (spec.map Prod.fst).Nodup) (depth : Nat) :
    record? spec (depth + 1) (Json.document (.obj fields)) =
      some (depth, fields.map fun f => some f.2.document) := by
  have hwhole := record?_document_append spec [] hnames (by rwa [List.append_nil]) (by simp) depth
  rwa [List.append_nil, List.map_nil, List.append_nil] at hwhole

/-- An array is read item by item. -/
theorem list?_document {α : Type} {read : Nat → Document → Option α} {toJson : α → Json} {depth : Nat}
    (hread : ∀ a, read depth (toJson a).document = some a) (l : List α) :
    list? read (depth + 1) (Json.document (.arr (l.map toJson))) = some l := by
  rw [document, list?]
  induction l with
  | nil => rfl
  | cons a rest ih =>
    rw [List.map_cons, documents, List.mapM_cons, hread, ih]
    rfl

@[simp] theorem text?_document_str (s : String) : (Json.document (.str s)).text? = some s := by
  rw [document, text?, text?_partsOf, Option.map_some, String.ofList_toList]

@[simp] theorem bool?_document_bool (b : Bool) : (Json.document (.bool b)).bool? = some b := rfl

end Document

/-- A reader of texts gets the document of the value that was written. -/
theorem readText_render {α : Type} (read : Nat → Document → Option α) {v : Json}
    (hv : v.numberFree = true) : readText read v.render = read maxDepth v.document := by
  rw [readText, Document.ofText?, Document.ofUnits?_render hv]
  rfl

end NestedRows.Json
