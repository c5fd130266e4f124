import NestedRows.Proofs.Live.Coverage
import NestedRows.Proofs.Live.Separation
/-!
# What the registry holds

The registry holds the live queries that are current by the notes, and nothing else, after any acts in any
order (`LiveHub.registry_exact`). No entry is left behind when a task ends, and a task that goes on without
an entry belongs to a live query that was cancelled. Every turn keeps the registry in agreement with the
notes (`LiveHub.Agrees`), which includes that a cancellation is answered with yes at most once, and every
live query that goes on uncancelled in the registry (`LiveHub.Covers`).
-/

namespace NestedRows

/-- A map has as many entries as keys with a value. -/
theorem SortedMap.encard_contains {κ α : Type} [Ord κ] [Std.TransOrd κ] [Std.LawfulEqOrd κ]
    [DecidableEq κ] (m : SortedMap κ α) : {k | m.contains k = true}.encard = m.size := by
  have hkeys : {k | m.contains k = true} = (m.keys.toFinset : Set κ) := by
    ext k
    rw [Set.mem_ofPred_eq, contains_iff, Finset.mem_coe, List.mem_toFinset, keys,
      List.mem_map]
    constructor
    · rintro ⟨v, hv⟩
      exact ⟨(k, v), get?_eq_some_iff.mp hv, rfl⟩
    · rintro ⟨⟨k, v⟩, hmem, rfl⟩
      exact ⟨v, get?_eq_some_iff.mpr hmem⟩
  rw [hkeys, Set.encard_coe_eq_coe_finsetCard, List.toFinset_card_of_nodup m.nodup_keys, keys,
    List.length_map]
  rfl

namespace LiveHub

variable {σ : Type} {w w' : LiveHub}

/-! ### The registry and the notes -/

/-- The registry agrees with the notes, and of the cancellations of a live query at most one was answered
with yes. After that the live query is not registered any more. -/
structure Agrees (w : LiveHub) : Prop where
  entry : ∀ id e, w.live.registered? id = some e ↔
    ∃ query namespaceName, Current w.notes id query namespaceName ∧
      e = LiveQueries.entryOf query namespaceName
  once : ∀ id, w.notes.countP (·.confirms id) ≤ 1
  spent : ∀ id, 0 < w.notes.countP (·.confirms id) → id < w.live.issued ∧ w.live.isActive id = false

theorem Agrees.register (h : w.Agrees) (hsound : w.Sound) (query : CompiledQuery) (namespaceName : String) :
    ({ w with
      live := (w.live.register query namespaceName).2.2
      underWay := w.underWay.insert w.live.issued (.spawn (w.live.register query namespaceName).2.1)
      }.note (.registered w.live.issued query namespaceName)).Agrees := by
  have hself := w.live.registered?_register_self query namespaceName
  have hothers : ∀ {id}, id ≠ w.live.issued →
      (w.live.register query namespaceName).2.2.registered? id = w.live.registered? id :=
    w.live.registered?_register_of_ne query namespaceName
  constructor
  · intro id e
    by_cases hid : id = w.live.issued
    · subst hid
      refine (iff_of_eq (congrArg (· = some e) hself)).trans ⟨?_, ?_⟩
      · intro he
        exact ⟨query, namespaceName, current_concat.mpr (.inl rfl), (Option.some.inj he).symm⟩
      · rintro ⟨query', namespaceName', hcurrent, rfl⟩
        rcases current_concat.mp hcurrent with heq | ⟨hbefore, -⟩
        · obtain ⟨-, rfl, rfl⟩ := Note.registered.inj heq
          rfl
        · have hactive : w.live.isActive w.live.issued = true := by
            rw [LiveQueries.isActive_eq, (h.entry _ _).mpr ⟨_, _, hbefore, rfl⟩, Option.isSome_some]
          exact absurd (hsound.lt_issued hactive) (Nat.lt_irrefl _)
    · refine (iff_of_eq (congrArg (· = some e) (hothers hid))).trans ((h.entry id e).trans ?_)
      refine exists_congr fun query' => exists_congr fun namespaceName' => and_congr_left fun _ => ?_
      have hregistered : ∀ query' namespaceName', Note.registered w.live.issued query namespaceName
          ≠ .registered id query' namespaceName' :=
        fun _ _ heq => hid (Note.registered.inj heq).1.symm
      exact (current_concat_of_not hregistered not_false).symm
  · intro id
    rw [note, List.countP_append]
    exact h.once id
  · intro id hspent
    rw [note, List.countP_append] at hspent
    obtain ⟨hlt, hgone⟩ := h.spent id hspent
    exact ⟨Nat.lt_succ_of_lt hlt,
      (w.live.isActive_register_of_ne query namespaceName (Nat.ne_of_lt hlt)).trans hgone⟩

theorem Agrees.arm (h : w.Agrees) (id : LiveQueryId) :
    ({ w with live := w.live.arm id, underWay := w.underWay.erase id } : LiveHub).Agrees where
  entry j e := by
    rw [LiveQueries.registered?_arm]
    exact h.entry j e
  once := h.once
  spent j hspent := by
    rw [LiveQueries.isActive_arm, (w.live.arm_eq id).2.1]
    exact h.spent j hspent

theorem Agrees.continues (h : w.Agrees) {id : LiveQueryId} {live : LiveQueries}
    (hlive : w.live.Continues id live) : ({ w with live } : LiveHub).Agrees where
  entry j e := by
    rw [LiveQueries.registered?, hlive.registry]
    exact h.entry j e
  once := h.once
  spent j hspent := by
    rw [LiveQueries.isActive, hlive.registry, hlive.issued]
    exact h.spent j hspent

theorem Agrees.quiet (h : w.Agrees) {n : Note} (hn : n.IsQuiet) : (w.note n).Agrees := by
  have hcount : ∀ id, (w.notes ++ [n]).countP (·.confirms id) = w.notes.countP (·.confirms id) := by
    intro id
    rw [List.countP_append, List.countP_singleton, hn.confirms_eq]
    rfl
  constructor
  · intro id e
    refine (h.entry id e).trans ?_
    refine exists_congr fun query => exists_congr fun namespaceName => and_congr_left fun _ => ?_
    exact (current_concat_of_not hn.ne_registered hn.not_releases).symm
  · intro id
    exact (hcount id).trans_le (h.once id)
  · intro id hspent
    exact h.spent id (hcount id ▸ hspent)

theorem Agrees.release (h : w.Agrees) (hsound : w.Sound) {id : LiveQueryId} {live : LiveQueries}
    (halters : w.live.Alters id live) (hregistry : live.registry = w.live.registry.erase id) {n : Note}
    (hn : n = .cancelled id (w.live.isActive id) ∨ ∃ happenings, n = .worked id happenings true) :
    ({ w with live }.note n).Agrees := by
  have hreleases : n.Releases id ∧ ∀ j, n.Releases j → j = id := by
    rcases hn with rfl | ⟨happenings, rfl⟩
    · exact ⟨rfl, fun j hj => hj.symm⟩
    · exact ⟨⟨rfl, rfl⟩, fun j hj => hj.1.symm⟩
  have hregistered : ∀ j query namespaceName, n ≠ .registered j query namespaceName := by
    rcases hn with rfl | ⟨happenings, rfl⟩ <;> exact fun _ _ _ => nofun
  have hconfirms : ∀ j, n.confirms j = true → j = id ∧ w.live.isActive id = true := by
    rcases hn with rfl | ⟨happenings, rfl⟩
    · intro j hj
      obtain ⟨heq, hactive⟩ := Bool.and_eq_true_iff.mp hj
      exact ⟨(beq_iff_eq.mp heq).symm, hactive⟩
    · exact fun j hj => (Bool.false_ne_true hj).elim
  have herased := LiveQueries.registered?_of_erase hregistry
  have hothers : ∀ {j}, j ≠ id → live.registered? j = w.live.registered? j :=
    LiveQueries.registered?_of_erase_of_ne hregistry
  have hcount : ∀ j, (w.notes ++ [n]).countP (·.confirms j)
      = w.notes.countP (·.confirms j) + if n.confirms j then 1 else 0 := by
    intro j
    rw [List.countP_append, List.countP_singleton]
  constructor
  · intro j e
    by_cases hj : j = id
    · subst hj
      refine iff_of_false (fun he => nomatch herased.symm.trans he) ?_
      rintro ⟨query, namespaceName, hcurrent, -⟩
      rcases current_concat.mp hcurrent with heq | ⟨-, hnot⟩
      · exact hregistered j query namespaceName heq
      · exact hnot hreleases.1
    · refine (iff_of_eq (congrArg (· = some e) (hothers hj))).trans ((h.entry j e).trans ?_)
      refine exists_congr fun query => exists_congr fun namespaceName => and_congr_left fun _ => ?_
      exact (current_concat_of_not (hregistered j) fun hj' => hj (hreleases.2 j hj')).symm
  · intro j
    refine (hcount j).trans_le ?_
    split
    case isTrue hconfirm =>
      obtain ⟨rfl, hactive⟩ := hconfirms j hconfirm
      have hnone : ¬ 0 < w.notes.countP (·.confirms j) :=
        fun hspent => Bool.false_ne_true ((h.spent j hspent).2.symm.trans hactive)
      omega
    case isFalse => exact h.once j
  · intro j hspent
    rw [note, hcount j] at hspent
    have hissued : j < w.live.issued := by
      split at hspent
      case isTrue hconfirm =>
        obtain ⟨rfl, hactive⟩ := hconfirms j hconfirm
        exact hsound.lt_issued hactive
      case isFalse => exact (h.spent j hspent).1
    refine ⟨halters.issued.symm ▸ hissued, ?_⟩
    by_cases hj : j = id
    · rw [hj]
      exact (live.isActive_eq id).trans (congrArg Option.isSome herased)
    · rw [if_neg fun hconfirm => hj (hconfirms j hconfirm).1] at hspent
      refine (live.isActive_eq j).trans ?_
      rw [hothers hj, ← w.live.isActive_eq]
      exact (h.spent j hspent).2

theorem Agrees.turn (h : w.Agrees) (hsound : w.Sound) (hturn : w.Turn w') : w'.Agrees := by
  cases hturn with
  | register query namespaceName => exact h.register hsound query namespaceName
  | spawn => exact ⟨h.entry, h.once, h.spent⟩
  | @arm id => exact h.arm id
  | cancel halters hregistry => exact h.release hsound halters hregistry (.inl rfl)
  | finish halters hregistry _ _ happenings =>
    exact h.release hsound halters hregistry (.inr ⟨happenings, rfl⟩)
  | work hlive hn => exact (h.continues hlive).quiet hn
  | still hlive => exact h.continues hlive

theorem agrees_start (config : LiveConfig) : ({ live := .ofConfig config } : LiveHub).Agrees := by
  refine ⟨fun id e => iff_of_false nofun ?_, fun _ => Nat.zero_le 1, nofun⟩
  rintro ⟨query, namespaceName, hcurrent, -⟩
  exact not_current_nil hcurrent

/-! ### What is going on -/

/-- A live query that is going on is registered, unless it was cancelled. -/
def Covers (w : LiveHub) : Prop :=
  ∀ id, w.IsGoing id → w.live.isActive id = true ∨ .cancelled id true ∈ w.notes

theorem IsGoing.before {id j : LiveQueryId} {live : LiveQueries}
    (h : ({ w with live } : LiveHub).IsGoing j) (halters : w.live.Alters id live) : w.IsGoing j := by
  rcases h with hq | ⟨q', hq', hgoing⟩
  · exact .inl hq
  · by_cases heq : j = id
    · subst heq
      obtain ⟨q, hq, -, hbefore⟩ := halters.own q' hq'
      exact .inr ⟨q, hq, hbefore hgoing⟩
    · exact .inr ⟨q', (halters.others j heq).symm.trans hq', hgoing⟩

theorem Covers.register (h : w.Covers) (query : CompiledQuery) (namespaceName : String) :
    ({ w with
      live := (w.live.register query namespaceName).2.2
      underWay := w.underWay.insert w.live.issued (.spawn (w.live.register query namespaceName).2.1)
      }.note (.registered w.live.issued query namespaceName)).Covers := by
  intro j hgoing
  by_cases hj : j = w.live.issued
  · subst hj
    have hself := w.live.registered?_register_self query namespaceName
    exact .inl ((LiveQueries.isActive_eq _ _).trans (congrArg Option.isSome hself))
  · have hbefore : w.IsGoing j := by
      rcases hgoing with ⟨q, hq⟩ | hq
      · exact .inl ⟨q, (SortedMap.get?_insert_of_ne _ _ hj).symm.trans hq⟩
      · exact .inr hq
    refine (h j hbefore).imp (fun hactive => ?_) (List.mem_append_left _)
    exact (w.live.isActive_register_of_ne query namespaceName hj).trans hactive

/-- The entry is removed if the live query is cancelled or does not go on. -/
theorem Covers.erases (h : w.Covers) {id : LiveQueryId} {live : LiveQueries}
    (halters : w.live.Alters id live) (hregistry : live.registry = w.live.registry.erase id) {n : Note}
    (hn : n = .cancelled id (w.live.isActive id) ∨ ¬ ({ w with live } : LiveHub).IsGoing id) :
    ({ w with live }.note n).Covers := by
  intro j hgoing
  have hbefore : w.IsGoing j := IsGoing.before hgoing halters
  by_cases hj : j = id
  · subst hj
    rcases hn with rfl | hn
    · right
      rcases h j hbefore with hactive | hmem
      · rw [hactive]
        exact List.mem_append_right _ (List.mem_singleton_self _)
      · exact List.mem_append_left _ hmem
    · exact absurd hgoing hn
  · refine (h j hbefore).imp (fun hactive => ?_) (List.mem_append_left _)
    rw [LiveQueries.isActive_eq] at hactive ⊢
    exact (congrArg _ (LiveQueries.registered?_of_erase_of_ne hregistry hj)).trans hactive

theorem Covers.turn (h : w.Covers) (hsound : w.Sound) (hturn : w.Turn w') : w'.Covers := by
  cases hturn with
  | register query namespaceName => exact h.register query namespaceName
  | @spawn id q hq =>
    intro j hgoing
    refine h j ?_
    by_cases hj : j = id
    · exact .inl ⟨q, hj ▸ hq⟩
    · rcases hgoing with ⟨q', hq'⟩ | ⟨q', hq', hgoing⟩
      · exact .inl ⟨q', (SortedMap.get?_insert_of_ne _ _ hj).symm.trans hq'⟩
      · exact .inr ⟨q', (SortedMap.get?_insert_of_ne _ _ hj).symm.trans hq', hgoing⟩
  | @arm id harm =>
    intro j hgoing
    rw [LiveQueries.isActive_arm]
    refine h j ?_
    rcases hgoing with ⟨q, hq⟩ | ⟨q, hq, hgoing⟩
    · refine .inl ⟨q, ?_⟩
      by_cases hj : j = id
      · rw [hj, SortedMap.get?_erase_self] at hq
        cases hq
      · exact (SortedMap.get?_erase_of_ne _ hj).symm.trans hq
    · exact .inr ⟨q, (w.live.arm_eq id).1 ▸ hq, hgoing⟩
  | cancel halters hregistry => exact h.erases halters hregistry (.inl rfl)
  | @finish id live halters hregistry q hq hstopped happenings =>
    refine h.erases halters hregistry (.inr ?_)
    rintro (⟨q', hspawn⟩ | ⟨q', hq', hgoing⟩)
    · obtain ⟨q'', hbefore, -⟩ := halters.own q hq
      obtain ⟨-, -, -, -, hnone⟩ := hsound.spawn id q' hspawn
      exact Option.some_ne_none _ (hbefore.symm.trans hnone)
    · obtain rfl := Option.some.inj (hq.symm.trans hq')
      exact Bool.false_ne_true (hgoing.symm.trans hstopped)
  | work hlive hn =>
    intro j hgoing
    refine (h j (IsGoing.before hgoing hlive.toAlters)).imp (fun hactive => ?_) (List.mem_append_left _)
    rwa [LiveQueries.isActive, note, hlive.registry]
  | still hlive =>
    intro j hgoing
    refine (h j (hgoing.before hlive.toAlters)).imp_left fun hactive => ?_
    rwa [LiveQueries.isActive, hlive.registry]

theorem covers_start (config : LiveConfig) : ({ live := .ofConfig config } : LiveHub).Covers := by
  intro id hgoing
  rcases hgoing with ⟨q, hq⟩ | ⟨q, hq, -⟩ <;> cases hq

/-! ### The registry is exact -/

def IsCurrent (notes : List Note) (id : LiveQueryId) : Prop :=
  ∃ query namespaceName, Current notes id query namespaceName

/-- The registry holds the current live queries, and whatever it is asked it answers for these. -/
structure Exact (w : LiveHub) : Prop where
  isActive : ∀ id, w.live.isActive id = true ↔ IsCurrent w.notes id
  size : {id | IsCurrent w.notes id}.encard = w.live.size
  isEmpty : w.live.isEmpty = true ↔ ∀ id, ¬ IsCurrent w.notes id
  tables : ∀ id tables, w.live.tables? id = some tables ↔
    ∃ query namespaceName, Current w.notes id query namespaceName ∧
      tables = query.touched.toList.map fun table => ⟨namespaceName, table⟩
  cancel : ∀ id, (w.live.cancel id).1 = true ↔ IsCurrent w.notes id
  /-- At most one cancellation was answered with yes. -/
  once : ∀ id, w.notes.countP (·.confirms id) ≤ 1
  /-- The current live queries are those that are going on and were not cancelled. -/
  going : ∀ id, IsCurrent w.notes id ↔ w.IsGoing id ∧ .cancelled id true ∉ w.notes

theorem Agrees.isActive_iff (h : w.Agrees) (id : LiveQueryId) :
    w.live.isActive id = true ↔ IsCurrent w.notes id := by
  rw [LiveQueries.isActive_eq, Option.isSome_iff_exists]
  constructor
  · rintro ⟨e, he⟩
    obtain ⟨query, namespaceName, hcurrent, -⟩ := (h.entry id e).mp he
    exact ⟨query, namespaceName, hcurrent⟩
  · rintro ⟨query, namespaceName, hcurrent⟩
    exact ⟨_, (h.entry id _).mpr ⟨query, namespaceName, hcurrent, rfl⟩⟩

theorem Agrees.not_mem_cancelled (h : w.Agrees) {id : LiveQueryId} (hactive : w.live.isActive id = true) :
    .cancelled id true ∉ w.notes := by
  intro hmem
  have hconfirms : (Note.cancelled id true).confirms id = true := by simp [Note.confirms]
  have hspent := List.countP_pos_iff.mpr ⟨_, hmem, hconfirms⟩
  exact Bool.false_ne_true ((h.spent id hspent).2.symm.trans hactive)

theorem Agrees.isExact (h : w.Agrees) (hsound : w.Sound) (hcovers : w.Covers) : w.Exact where
  isActive := h.isActive_iff
  size := by
    rw [LiveQueries.size, ← SortedMap.encard_contains]
    exact congrArg Set.encard (Set.ext fun id => (h.isActive_iff id).symm)
  isEmpty := by
    have hnone : w.live.isEmpty = true ↔ ∀ id, w.live.isActive id ≠ true := by
      rw [LiveQueries.isEmpty, SortedMap.isEmpty, List.isEmpty_iff, List.eq_nil_iff_forall_not_mem]
      constructor
      · intro hnot id hactive
        obtain ⟨r, hr⟩ := SortedMap.contains_iff.mp hactive
        exact hnot _ (SortedMap.get?_eq_some_iff.mp hr)
      · rintro hnot ⟨id, r⟩ hmem
        exact hnot id (SortedMap.contains_iff.mpr ⟨r, SortedMap.get?_eq_some_iff.mpr hmem⟩)
    exact hnone.trans (forall_congr' fun id => not_congr (h.isActive_iff id))
  tables id tables := by
    rw [LiveQueries.tables?_eq, Option.map_eq_some_iff]
    constructor
    · rintro ⟨e, he, rfl⟩
      obtain ⟨query, namespaceName, hcurrent, rfl⟩ := (h.entry id e).mp he
      exact ⟨query, namespaceName, hcurrent, rfl⟩
    · rintro ⟨query, namespaceName, hcurrent, rfl⟩
      exact ⟨_, (h.entry id _).mpr ⟨query, namespaceName, hcurrent, rfl⟩, rfl⟩
  cancel id := by
    rw [(w.live.cancel_cases id).1]
    exact h.isActive_iff id
  once := h.once
  going id := by
    rw [← h.isActive_iff id]
    constructor
    · exact fun hactive => ⟨hsound.going id hactive, h.not_mem_cancelled hactive⟩
    · rintro ⟨hgoing, hnot⟩
      exact (hcovers id hgoing).resolve_right hnot

theorem isExact_run (source : DeferredSource σ) (d : Dialect) (config : LiveConfig)
    (acts : List (LiveAct σ)) : (run source d config acts).Exact := by
  have hkept : ∀ {w w' : LiveHub}, w.Sound → w.Agrees ∧ w.Covers → w.Turn w' → w'.Agrees ∧ w'.Covers :=
    fun hsound h hturn => ⟨h.1.turn hsound hturn, h.2.turn hsound hturn⟩
  obtain ⟨hagrees, hcovers⟩ :=
    run_of_turn source d config ⟨agrees_start config, covers_start config⟩ hkept acts
  exact hagrees.isExact (sound_run source d config acts) hcovers

/-- **The registry is exact.** After any acts in any order, the live queries in the registry are those that
were subscribed, whose task has not ended and that were not cancelled; they are what `size`, `isEmpty`,
`isActive` and `tables?` tell of, and what can be cancelled, each at most once. Acts on one live query
make no difference to the others: whatever is done to it instead, if the source is in the same states at
their steps, each of them has the same entry and the same task, and is handed the same updates. -/
theorem registry_exact (source : DeferredSource σ) (d : Dialect) (config : LiveConfig)
    (acts : List (LiveAct σ)) :
    (run source d config acts).Exact ∧
    ∀ id acts', LiveAct.apartFrom id acts' = LiveAct.apartFrom id acts → ∀ j ≠ id,
      (run source d config acts').live.registry.get? j = (run source d config acts).live.registry.get? j ∧
      (run source d config acts').live.tasks.get? j = (run source d config acts).live.tasks.get? j ∧
      (run source d config acts').notesOf j = (run source d config acts).notesOf j ∧
      (run source d config acts').updatesOf j = (run source d config acts).updatesOf j := by
  refine ⟨isExact_run source d config acts, ?_⟩
  intro id acts' hacts j hj
  have hwithout : (run source d config acts').without id = (run source d config acts).without id := by
    rw [without_run, hacts, ← without_run]
  have hnotes : (run source d config acts').notesOf j = (run source d config acts).notesOf j := by
    rw [← notesOf_without _ hj, hwithout, notesOf_without _ hj]
  have hregistry : ∀ w : LiveHub, (w.without id).live.registry.get? j = w.live.registry.get? j :=
    fun w => w.live.get?_registry_without hj
  have htasks : ∀ w : LiveHub, (w.without id).live.tasks.get? j = w.live.tasks.get? j :=
    fun w => w.live.get?_tasks_without hj
  refine ⟨?_, ?_, hnotes, congrArg (List.flatMap Note.updates) hnotes⟩
  · rw [← hregistry, hwithout, hregistry]
  · rw [← htasks, hwithout, htasks]

/-- The event that the live query has read by the last note, if it goes on. -/
def lastHeard? (w : LiveHub) (id : LiveQueryId) : Option ChangeEvent :=
  match w.notes.getLast? with
  | some (.worked j [.heard (.event e)] false) => if j = id then some e else none
  | _ => none

/-- Of two live queries on orders the first hears of an order when its subscriber has left. It is still
registered then, is cancelled, and takes another step before it ends. -/
theorem registry_exact_twoOrders :
    let orders : LiveAct (Nat × Untaken) := .register LiveQuery.orderQuery "shop"
    let created : ChangeEvent := ⟨"rowgraph", ⟨"shop", "orders"⟩, .create⟩
    let hub := run LiveQuery.growingSource .sqlite LiveQuery.narrowQueries.config
    let left : List (LiveAct (Nat × Untaken)) := [orders, .proceed 0, .proceed 0, orders,
      .step 0 .feed 0 (0, none), .step 0 .feed 0 (1, none), .publish created, .leave 0,
      .step 0 .feed 1 (1, none)]
    let cancelled := left ++ [.cancel 0, .step 0 .feed 1 (1, none)]
    let ended := cancelled ++ [.abort 0 (1, none)]
    (hub left).lastHeard? 0 = some created ∧ IsCurrent (hub left).notes 0 ∧
    ¬ IsCurrent (hub cancelled).notes 0 ∧ (hub cancelled).live.hasStopped 0 = false ∧
    (hub ended).live.hasStopped 0 = true ∧ ((hub ended).live.cancel 0).1 = false ∧
    IsCurrent (hub ended).notes 1 ∧ ((hub ended).live.cancel 1).1 = true ∧
    (hub ended).live.registry.get? 1 = (hub [orders, orders, .publish created]).live.registry.get? 1 := by
  intro orders created hub left cancelled ended
  have hexact : ∀ acts, (hub acts).Exact := fun acts => (registry_exact _ _ _ acts).1
  obtain ⟨-, hothers⟩ := registry_exact LiveQuery.growingSource .sqlite LiveQuery.narrowQueries.config ended
  have hheard : (hub left).lastHeard? 0 = some created ∧ (hub left).live.isActive 0 = true := by
    decide +kernel
  have hcancelled : (hub cancelled).live.isActive 0 = false ∧ (hub cancelled).live.hasStopped 0 = false := by
    decide +kernel
  have hended : (hub ended).live.hasStopped 0 = true ∧ ((hub ended).live.cancel 0).1 = false ∧
      (hub ended).live.isActive 1 = true := by
    decide +kernel
  have hcurrent : IsCurrent (hub ended).notes 1 := ((hexact ended).isActive 1).mp hended.2.2
  refine ⟨hheard.1, ((hexact left).isActive 0).mp hheard.2, fun h => ?_, hcancelled.2, hended.1, hended.2.1,
    hcurrent, ((hexact ended).cancel 1).mpr hcurrent, ?_⟩
  · exact Bool.false_ne_true (hcancelled.1.symm.trans (((hexact cancelled).isActive 0).mpr h))
  · exact (hothers 0 [orders, orders, .publish created] rfl 1 Nat.one_ne_zero).1.symm

end LiveHub

end NestedRows
