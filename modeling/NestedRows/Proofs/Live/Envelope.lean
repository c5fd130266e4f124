import NestedRows.Live.Envelope
import NestedRows.Proofs.Json.Document
import NestedRows.Proofs.Text.Split
import NestedRows.Proofs.Text.Utf8
/-!
# Messages and the events that they carry

An event is named twice in its message: in the topic, whose parts are joined by full stops, and in the
envelope. The topic can be cut into its parts again only if these are not empty and hold no full stop
(`Topic.parse_eq_ok_iff`), while the envelope can hold any names. So a message carries exactly the events
whose names can be parts of a topic.
-/

namespace NestedRows

/-! ### Topics -/

/-- Whether a name can be a part of a topic. -/
def IsTopicPart (s : String) : Prop := s ≠ "" ∧ '.' ∉ s.toList

instance (s : String) : Decidable (IsTopicPart s) := inferInstanceAs (Decidable (_ ∧ _))

/-- The three parts can be told apart when they are joined. -/
def TableId.IsTopicOf (source : String) (t : TableId) : Prop :=
  IsTopicPart source ∧ IsTopicPart t.namespaceName ∧ IsTopicPart t.table

instance (source : String) (t : TableId) : Decidable (t.IsTopicOf source) :=
  inferInstanceAs (Decidable (_ ∧ _))

namespace Topic

theorem toList_topicName (source : String) (t : TableId) : (topicName source t).toList =
    source.toList ++ '.' :: (t.namespaceName.toList ++ '.' :: t.table.toList) := by
  simp [topicName, TableId.toText]

theorem splitAt_topicName {source : String} {t : TableId} (hsource : '.' ∉ source.toList)
    (hnamespace : '.' ∉ t.namespaceName.toList) (htable : '.' ∉ t.table.toList) :
    Text.splitAt '.' (topicName source t).toList
      = [source.toList, t.namespaceName.toList, t.table.toList] := by
  rw [toList_topicName, Text.splitAt_append_cons hsource, Text.splitAt_append_cons hnamespace,
    Text.splitAt_of_notMem htable]

/-- A joined name with two full stops only has none of them in its parts. -/
theorem isTopicOf_of_topicName_eq {source source' : String} {t t' : TableId} (h' : t'.IsTopicOf source')
    (h : topicName source t = topicName source' t') : t.IsTopicOf source := by
  obtain ⟨⟨hne₁, hdot₁⟩, ⟨hne₂, hdot₂⟩, hne₃, hdot₃⟩ := h'
  have hcount := congrArg (fun s : String => s.toList.count '.') h
  simp only [toList_topicName, List.count_append, List.count_cons_self,
    List.count_eq_zero_of_not_mem hdot₁, List.count_eq_zero_of_not_mem hdot₂,
    List.count_eq_zero_of_not_mem hdot₃] at hcount
  have hsource : '.' ∉ source.toList := List.count_eq_zero.mp (by omega)
  have hnamespace : '.' ∉ t.namespaceName.toList := List.count_eq_zero.mp (by omega)
  have htable : '.' ∉ t.table.toList := List.count_eq_zero.mp (by omega)
  have hparts := splitAt_topicName hsource hnamespace htable
  rw [h, splitAt_topicName hdot₁ hdot₂ hdot₃] at hparts
  simp only [List.cons.injEq, String.toList_inj, and_true] at hparts
  obtain ⟨hsource_eq, hnamespace_eq, htable_eq⟩ := hparts
  exact ⟨⟨hsource_eq ▸ hne₁, hsource⟩, ⟨hnamespace_eq ▸ hne₂, hnamespace⟩, htable_eq ▸ hne₃, htable⟩

theorem isEmpty_toList_iff {s : String} : s.toList.isEmpty = true ↔ s = "" := by
  rw [List.isEmpty_iff, String.toList_eq_nil_iff]

/-- A text is a topic if it has three parts that can be parts of a topic, and no other text is. -/
theorem parse_eq_ok_iff {s : String} {t : Topic} :
    parse s = .ok t ↔ t.table.IsTopicOf t.source ∧ s = t.toText := by
  constructor
  · intro h
    rw [parse] at h
    split at h
    case h_2 => cases h
    case h_1 source namespaceName table hparts =>
      split at h
      case isTrue => cases h
      case isFalse hempty =>
        obtain rfl := Except.ok.inj h
        have hdot := fun part (hpart : part ∈ [source, namespaceName, table]) =>
          Text.separator_notMem_of_mem_splitAt (hparts ▸ hpart)
        have hjoined := Text.intercalate_splitAt '.' s.toList
        rw [hparts] at hjoined
        have hpart : ∀ part ∈ [source, namespaceName, table], IsTopicPart (String.ofList part) := by
          intro part hmem
          refine ⟨?_, by simpa using hdot part hmem⟩
          rw [ne_eq, ← isEmpty_toList_iff, String.toList_ofList]
          simp only [List.mem_cons, List.not_mem_nil, or_false] at hmem
          rcases hmem with rfl | rfl | rfl <;> simp_all
        refine ⟨⟨hpart _ (by simp), hpart _ (by simp), hpart _ (by simp)⟩, String.toList_inj.mp ?_⟩
        rw [toText, toList_topicName, ← hjoined]
        simp [List.intercalate]
  · rintro ⟨h, rfl⟩
    obtain ⟨⟨hsource, hdot₁⟩, ⟨hnamespace, hdot₂⟩, htable, hdot₃⟩ := h
    rw [ne_eq, ← isEmpty_toList_iff] at hsource hnamespace htable
    rw [parse, toText, splitAt_topicName hdot₁ hdot₂ hdot₃]
    simp [hsource, hnamespace, htable]

theorem parse_cases (s : String) : (∃ t, parse s = .ok t) ∨ parse s = .error (.invalidTopic s) := by
  rw [parse]
  split
  · split
    · exact .inr rfl
    · exact .inl ⟨_, rfl⟩
  · exact .inr rfl

theorem parse_topicName (source : String) (t : TableId) :
    parse (topicName source t) =
      if t.IsTopicOf source then .ok ⟨source, t⟩ else .error (.invalidTopic (topicName source t)) := by
  by_cases h : t.IsTopicOf source
  · rw [if_pos h]
    exact parse_eq_ok_iff.mpr ⟨h, rfl⟩
  · rw [if_neg h]
    refine (parse_cases _).resolve_left ?_
    rintro ⟨t', ht'⟩
    obtain ⟨hparts, heq⟩ := parse_eq_ok_iff.mp ht'
    exact h (isTopicOf_of_topicName_eq hparts heq)

end Topic

namespace BrokerMessage

/-! ### Envelopes -/

theorem numberFree_envelope (e : ChangeEvent) : (envelope e).numberFree = true := by
  simp [envelope, ChangeKind.toJson, Json.numberFree, Json.fieldsNumberFree]

theorem ofText?_toText (k : ChangeKind) : ChangeKind.ofText? k.toText = some k := by
  cases k <;> rfl

open Json Document in
theorem eventOfDocument?_envelope (e : ChangeEvent) :
    eventOfDocument? maxDepth (envelope e).document = some e := by
  have hkind : ChangeKind.ofDocument? 126 (document e.kind.toJson) = some e.kind := by
    have htext : (document e.kind.toJson).text? = some e.kind.toText := text?_document_str _
    have hstring : document e.kind.toJson = .string (partsOf e.kind.toText) := by
      rw [ChangeKind.toJson, document]
    rw [hstring] at htext ⊢
    rw [ChangeKind.ofDocument?, htext]
    exact ofText?_toText e.kind
  have horigin : originOfDocument? 126 (document (.obj [("name", .str e.source),
      ("schema", .str e.table.namespaceName), ("table", .str e.table.table)])) = some (e.source, e.table) := by
    rw [originOfDocument?, record?_document rfl (by decide)]
    simp
  rw [eventOfDocument?, envelope, maxDepth, record?_document rfl (by decide)]
  simp [hkind, horigin]

/-- The event that the envelope of a message names. -/
def event? (m : BrokerMessage) : Option ChangeEvent :=
  (Json.Document.ofUnits? m.payload).bind (eventOfDocument? Json.maxDepth)

theorem event?_encode (e : ChangeEvent) : (encode e).event? = some e := by
  rw [event?, encode, payloadText, Json.Document.ofUnits?_render (numberFree_envelope e), Option.bind_some,
    eventOfDocument?_envelope]

/-! ### Messages -/

theorem decode_of_parse_error {m : BrokerMessage} {e : FeedError} (h : Topic.parse m.topic = .error e) :
    m.decode = .error e := by
  rw [decode, h]
  rfl

theorem decode_of_parse_ok {m : BrokerMessage} {t : Topic} (h : Topic.parse m.topic = .ok t) :
    m.decode =
      if m.payload.all isBlank then .ok none
      else match m.event? with
        | none => .error .deserialization
        | some e =>
          if e.source = t.source ∧ e.table = t.table then .ok (some e)
          else .error (.invalidTopic ("payload for " ++ e.topic ++ " arrived on " ++ m.topic)) := by
  rw [decode, h]
  cases hblank : m.payload.all isBlank with
  | true => simp [bind, Except.bind, pure, Except.pure]
  | false =>
    rw [event?]
    cases (Json.Document.ofUnits? m.payload).bind (eventOfDocument? Json.maxDepth) with
    | none => rfl
    | some e =>
      by_cases hsame : e.source = t.source ∧ e.table = t.table
      · simp [bind, Except.bind, pure, Except.pure, hsame]
      · have hother : e.source ≠ t.source ∨ e.table ≠ t.table := by rwa [not_and_or] at hsame
        simp only [bind, Except.bind, pure, Except.pure, Bool.false_eq_true, if_false, if_pos hother,
          if_neg hsame]
        rfl

theorem decode_eq_ok_some_iff {m : BrokerMessage} {e : ChangeEvent} :
    m.decode = .ok (some e) ↔ Topic.parse m.topic = .ok ⟨e.source, e.table⟩ ∧
      m.payload.all isBlank = false ∧ m.event? = some e := by
  rcases Topic.parse_cases m.topic with ⟨t, ht⟩ | ht
  · rw [decode_of_parse_ok ht, ht]
    cases m.payload.all isBlank with
    | true => simp
    | false =>
      cases m.event? with
      | none => simp
      | some e' =>
        by_cases hsame : e'.source = t.source ∧ e'.table = t.table
        · obtain ⟨hsource, htable⟩ := hsame
          simp only [Bool.false_eq_true, if_false, hsource, htable, and_self, if_true, Except.ok.injEq,
            Option.some.injEq, true_and]
          constructor
          · rintro rfl
            exact ⟨by rw [hsource, htable], rfl⟩
          · exact And.right
        · simp only [Bool.false_eq_true, if_false, if_neg hsame, Except.ok.injEq, Option.some.injEq,
            true_and, reduceCtorEq, false_iff, not_and]
          rintro rfl rfl
          exact hsame ⟨rfl, rfl⟩
  · rw [decode_of_parse_error ht, ht]
    simp

theorem decode_eq_ok_none_iff {m : BrokerMessage} :
    m.decode = .ok none ↔ (∃ t, Topic.parse m.topic = .ok t) ∧ m.payload.all isBlank = true := by
  rcases Topic.parse_cases m.topic with ⟨t, ht⟩ | ht
  · rw [decode_of_parse_ok ht, ht]
    cases m.payload.all isBlank with
    | true => simp
    | false =>
      simp only [Bool.false_eq_true, if_false, and_false, iff_false]
      split
      · simp
      · split <;> simp
  · rw [decode_of_parse_error ht, ht]
    simp

theorem not_isBlank_payload_encode (e : ChangeEvent) : (encode e).payload.all isBlank = false := by
  rw [encode, payloadText, envelope, Json.render, Json.renderChars, Text.unitsOf, String.toList_ofList]
  rfl

/-- An event is read back from its message if its names can be parts of a topic. If not, there is no such
topic. -/
theorem decode_encode (e : ChangeEvent) :
    (encode e).decode =
      if e.table.IsTopicOf e.source then .ok (some e) else .error (.invalidTopic e.topic) := by
  have hparse : Topic.parse (encode e).topic = _ := Topic.parse_topicName e.source e.table
  by_cases h : e.table.IsTopicOf e.source
  · rw [if_pos h] at hparse ⊢
    exact decode_eq_ok_some_iff.mpr ⟨hparse, not_isBlank_payload_encode e, event?_encode e⟩
  · rw [if_neg h] at hparse ⊢
    exact decode_of_parse_error hparse

/-- A message of which the bytes of the payload are given. -/
def ofBytes (topic : String) (bytes : List UInt8) : BrokerMessage := ⟨topic, Text.decodeUtf8 bytes⟩

/-- White space of ASCII. -/
def asciiBlanks : List UInt8 := [0x20, 0x09, 0x0A, 0x0C, 0x0D]

theorem isBlank_eq_any :
    isBlank = Option.any fun c => c ∈ [' ', '\t', '\n', '\x0c', '\r'] := by
  funext u
  cases u with
  | none => rfl
  | some c => simp [isBlank, Bool.or_assoc]

theorem mem_asciiBlanks_iff (b : UInt8) : b ∈ asciiBlanks ↔
    b.toNat < 128 ∧ Char.ofNat b.toNat ∈ [' ', '\t', '\n', '\x0c', '\r'] := by
  have hall : ∀ n < 256, UInt8.ofNat n ∈ asciiBlanks ↔
      n < 128 ∧ Char.ofNat n ∈ [' ', '\t', '\n', '\x0c', '\r'] := by
    decide +kernel
  have hb := hall b.toNat b.toNat_lt
  rwa [UInt8.ofNat_toNat] at hb

theorem isBlank_ofBytes_iff {topic : String} {bytes : List UInt8} :
    (ofBytes topic bytes).payload.all isBlank = true ↔ ∀ b ∈ bytes, b ∈ asciiBlanks := by
  have hascii : ∀ c, decide (c ∈ [' ', '\t', '\n', '\x0c', '\r']) = true → c.toNat < 128 := by
    intro c hc
    simp only [List.mem_cons, List.not_mem_nil, or_false, decide_eq_true_eq] at hc
    rcases hc with rfl | rfl | rfl | rfl | rfl <;> decide
  rw [ofBytes, isBlank_eq_any, Text.all_decodeUtf8 hascii]
  simp only [List.all_eq_true, Bool.and_eq_true, decide_eq_true_eq, mem_asciiBlanks_iff]

/-- A message carries the event that was encoded in it exactly if the names of the event can be parts of a
topic. -/
theorem decode_exact :
    (∀ e : ChangeEvent, (encode e).decode =
      if e.table.IsTopicOf e.source then .ok (some e) else .error (.invalidTopic e.topic)) ∧
    (∀ e : ChangeEvent, ofBytes e.topic (Text.utf8 (payloadText e)) = encode e) ∧
    (∀ (m : BrokerMessage) (e : ChangeEvent), m.decode = .ok (some e) →
      m.topic = e.topic ∧ e.table.IsTopicOf e.source ∧ (encode e).decode = .ok (some e)) ∧
    ∀ (topic : String) (bytes : List UInt8), (ofBytes topic bytes).decode = .ok none ↔
      (∃ (source : String) (t : TableId), t.IsTopicOf source ∧ topic = topicName source t) ∧
        ∀ b ∈ bytes, b ∈ asciiBlanks := by
  refine ⟨decode_encode, fun e => ?_, fun m e h => ?_, fun topic bytes => ?_⟩
  · rw [ofBytes, Text.decodeUtf8_utf8, encode]
  · obtain ⟨hparse, -, -⟩ := decode_eq_ok_some_iff.mp h
    obtain ⟨htopic, heq⟩ := Topic.parse_eq_ok_iff.mp hparse
    exact ⟨heq, htopic, (decode_encode e).trans (if_pos htopic)⟩
  · rw [decode_eq_ok_none_iff, isBlank_ofBytes_iff]
    refine and_congr_left fun _ => ⟨?_, ?_⟩
    · rintro ⟨t, ht⟩
      obtain ⟨htopic, heq⟩ := Topic.parse_eq_ok_iff.mp ht
      exact ⟨t.source, t.table, htopic, heq⟩
    · rintro ⟨source, t, htopic, rfl⟩
      exact ⟨⟨source, t⟩, Topic.parse_eq_ok_iff.mpr ⟨htopic, rfl⟩⟩

def hostileEvent : ChangeEvent := ⟨"sh\"op", ⟨"pub\\lic", "cust\x01omers\n"⟩, .update⟩

/-- Marks, controls and backslashes do no harm in a name; a full stop does. -/
theorem decode_exact_hostileEvent :
    ((encode hostileEvent).decode = .ok (some hostileEvent) ∧
      (encode hostileEvent).topic = hostileEvent.topic ∧
      hostileEvent.table.IsTopicOf hostileEvent.source) ∧
    (encode ⟨"shop", ⟨"public", "order.items"⟩, .create⟩).decode =
      .error (.invalidTopic "shop.public.order.items") ∧
    (ofBytes "shop.public.customers" [0x20, 0x0C, 0x0A]).decode = .ok none := by
  obtain ⟨hencode, -, hdecode, hblank⟩ := decode_exact
  have hhostile : (encode hostileEvent).decode = .ok (some hostileEvent) :=
    (hencode hostileEvent).trans (if_pos (by decide))
  obtain ⟨htopic, hparts, -⟩ := hdecode _ _ hhostile
  refine ⟨⟨hhostile, htopic, hparts⟩, ?_, ?_⟩
  · exact (hencode _).trans (if_neg (by decide))
  · exact (hblank _ _).mpr ⟨⟨"shop", ⟨"public", "customers"⟩, by decide, rfl⟩, by simp [asciiBlanks]⟩

end BrokerMessage

end NestedRows
