import NestedRows.Live.Query
import NestedRows.Settings.Basic
import NestedRows.Proofs.Live.Reader
import NestedRows.Proofs.Schema.QualifiedName
/-!
# Changes of the configured source

What settings have to say about changes is the name of a source and a namespace, and with a table they make
a topic. In checked settings neither is empty, and so is no name of a table. Whether the three can be told
apart again in the topic depends on the full stops in them: the name of the source has none
(`LiveSettings.isTopicPart_of_toConfig`), of the others it has to be known.
-/

namespace NestedRows

theorem LiveSettings.isTopicPart_of_toConfig {s : LiveSettings} {changes : ChangeSettings}
    {config : LiveConfig} (h : s.toConfig changes = .ok config) : IsTopicPart config.sourceName := by
  rw [toConfig] at h
  by_cases hroom : s.channelCapacity = 0 ∨ s.subscriberBuffer = 0
  · simp [hroom, bind, Except.bind, throw, throwThe, MonadExceptOf.throw] at h
  by_cases hname : changes.sourceName.toList.isEmpty ∨ changes.sourceName.toList.contains '.'
  · simp only [if_neg hroom, if_pos hname, bind, Except.bind, throw, throwThe, MonadExceptOf.throw] at h
    cases h
  simp only [if_neg hroom, if_neg hname, bind, Except.bind, pure, Except.pure] at h
  cases hbackoff : settingsDuration s.retry.backoff with
  | error e =>
    rw [hbackoff] at h
    cases h
  | ok backoff =>
    rw [hbackoff] at h
    obtain rfl := Except.ok.inj h
    rw [not_or, List.contains_iff_mem] at hname
    exact ⟨mt Topic.isEmpty_toList_iff.mpr hname.1, hname.2⟩

theorem DatabaseSettings.ne_empty_of_resolvedNamespace {s : DatabaseSettings} {namespaceName : String}
    (h : s.resolvedNamespace = .ok namespaceName) : namespaceName ≠ "" := by
  rw [resolvedNamespace] at h
  split at h
  case h_1 => cases h
  case h_2 name hne hname =>
    obtain rfl := Except.ok.inj h
    exact fun hempty => hne hempty
  case h_3 =>
    cases hdriver : s.driver? with
    | error e =>
      rw [hdriver] at h
      cases h
    | ok driver =>
      rw [hdriver] at h
      obtain rfl := Except.ok.inj h
      cases driver <;> decide

/-- In the configured source and namespace, a table has a topic exactly if its name has no full stop. -/
theorem isTopicOf_configured {s : LiveSettings} {changes : ChangeSettings} {database : DatabaseSettings}
    {config : LiveConfig} {namespaceName : String} (hconfig : s.toConfig changes = .ok config)
    (hnamespace : database.resolvedNamespace = .ok namespaceName) (hdot : '.' ∉ namespaceName.toList)
    (n : QualifiedName) :
    TableId.IsTopicOf config.sourceName ⟨namespaceName, n.table⟩ ↔ '.' ∉ n.table.toList := by
  refine ⟨fun h => h.2.2.2, fun h => ⟨LiveSettings.isTopicPart_of_toConfig hconfig, ⟨?_, hdot⟩, ?_, h⟩⟩
  · exact DatabaseSettings.ne_empty_of_resolvedNamespace hnamespace
  · exact (QualifiedName.isNamePart_iff.mp n.isNamePart_table).1

namespace Settings

/-- With checked settings and a namespace without a full stop, a change of a table reaches the live queries on
it if the name of the table has no full stop either. If it has one, no topic can be read for it, and its
message is skipped. -/
theorem changes_arrive {s : Settings} {config : LiveConfig} {namespaceName : String}
    (hconfig : s.live.toConfig s.changes = .ok config)
    (hnamespace : s.database.resolvedNamespace = .ok namespaceName) (hdot : '.' ∉ namespaceName.toList)
    (n : QualifiedName) (kind : ChangeKind) :
    let e : ChangeEvent := ⟨config.sourceName, ⟨namespaceName, n.table⟩, kind⟩
    ('.' ∉ n.table.toList →
      (BrokerMessage.encode e).decode = .ok (some e) ∧
      (∀ tables, e.table ∈ tables → e.topic ∈ (BrokerSource.ofTables config.sourceName tables).topics) ∧
      (∀ (b : BrokerSource) (rest : List Delivery), b.isRead = true → b.subscriptions = [b.topics] →
        e.topic ∈ b.topics → b.inbox = .message (.encode e) :: rest →
          b.step? = some (.publish e, { b with inbox := rest })) ∧
      ∀ q : LiveQuery, q.namespaceName = namespaceName → n.table ∈ q.query.touched →
        q.calledBy (.event e) = true) ∧
    ('.' ∈ n.table.toList →
      (BrokerMessage.encode e).decode = .error (.invalidTopic e.topic) ∧
      ∀ (b : BrokerSource) (rest : List Delivery), b.isRead = true → b.subscriptions = [b.topics] →
        b.inbox = .message (.encode e) :: rest → b.step? = some (.skip, { b with inbox := rest })) := by
  intro e
  have hiff : e.table.IsTopicOf e.source ↔ '.' ∉ n.table.toList :=
    isTopicOf_configured hconfig hnamespace hdot n
  have hdecode := BrokerMessage.decode_encode e
  have haction := Delivery.action_encode e
  have hstep : ∀ {b : BrokerSource} {rest : List Delivery}, b.isRead = true → b.subscriptions = [b.topics] →
      b.inbox = .message (.encode e) :: rest →
      b.step? = some ((Delivery.message (.encode e)).action, { b with inbox := rest }) := by
    intro b rest hread hsubscribed hinbox
    refine BrokerSource.step?_of_inbox hread (by simp [hsubscribed]) hinbox ?_
    rw [haction]
    split <;> simp
  refine ⟨fun hplain => ?_, fun hdotted => ?_⟩
  · have htopic := hiff.mpr hplain
    rw [if_pos htopic] at hdecode haction
    refine ⟨hdecode, fun tables hmem => List.mem_map_of_mem hmem,
      fun b rest hread hsubscribed _ hinbox => ?_, fun q hsame htouched => ?_⟩
    · rw [hstep hread hsubscribed hinbox, haction]
    · rw [LiveQuery.calledBy, LiveQuery.watches, List.contains_iff_mem, LiveQuery.tables, hsame]
      exact List.mem_map_of_mem htouched
  · have htopic := mt hiff.mp (not_not_intro hdotted)
    rw [if_neg htopic] at hdecode haction
    refine ⟨hdecode, fun b rest hread hsubscribed hinbox => ?_⟩
    rw [hstep hread hsubscribed hinbox, haction]

def orders : QualifiedName := ⟨"orders", "id", by decide⟩

def orderItems : QualifiedName := ⟨"order.items", "id", by decide⟩

def ordersUpdated : ChangeEvent := ⟨"rowgraph", ⟨"main", orders.table⟩, .update⟩

def orderItemsUpdated : ChangeEvent := ⟨"rowgraph", ⟨"main", orderItems.table⟩, .update⟩

theorem changes_arrive_default :
    (({} : Settings).live.toConfig ({} : Settings).changes = .ok {} ∧
      ({} : Settings).database.resolvedNamespace = .ok "main" ∧ '.' ∉ "main".toList) ∧
    (BrokerMessage.encode ordersUpdated).decode = .ok (some ordersUpdated) ∧
    ordersUpdated.topic ∈ (BrokerSource.ofTables "rowgraph" [ordersUpdated.table]).topics ∧
    (BrokerMessage.encode orderItemsUpdated).decode = .error (.invalidTopic orderItemsUpdated.topic) := by
  have hconfig : ({} : Settings).live.toConfig ({} : Settings).changes = .ok {} := by decide +kernel
  have hnamespace : ({} : Settings).database.resolvedNamespace = .ok "main" := by decide +kernel
  have hdot : '.' ∉ "main".toList := by decide
  obtain ⟨hdecode, htopic, -⟩ := (changes_arrive hconfig hnamespace hdot orders .update).1 (by decide)
  obtain ⟨hskipped, -⟩ := (changes_arrive hconfig hnamespace hdot orderItems .update).2 (by decide)
  exact ⟨⟨hconfig, hnamespace, hdot⟩, hdecode, htopic _ (List.mem_singleton_self _), hskipped⟩

/-- With the default settings, a change of a table with a full stop in its name is skipped. -/
theorem not_all_changes_arrive :
    ({} : Settings).live.toConfig ({} : Settings).changes = .ok {} ∧
    ({} : Settings).database.resolvedNamespace = .ok "main" ∧
    QualifiedName.new "order.items" "id" = .ok orderItems ∧
    (BrokerMessage.encode ⟨"rowgraph", ⟨"main", "order.items"⟩, .update⟩).decode ≠
      .ok (some ⟨"rowgraph", ⟨"main", "order.items"⟩, .update⟩) ∧
    (Delivery.message (.encode ⟨"rowgraph", ⟨"main", "order.items"⟩, .update⟩)).action = .skip := by
  refine ⟨by decide +kernel, by decide +kernel, rfl, ?_, ?_⟩
  · rw [BrokerMessage.decode_encode, if_neg (by decide)]
    exact nofun
  · rw [Delivery.action_encode, if_neg (by decide)]

end Settings

end NestedRows
