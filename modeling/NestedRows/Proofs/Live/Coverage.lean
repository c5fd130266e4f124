import NestedRows.Proofs.Query.Immediate
import NestedRows.Proofs.Live.Run
/-!
# No change is lost

A live query that waits for changes, with nothing left to read, has told its subscriber the outcome of
a refetch that began after every change that matters to it (`LiveQuery.covers_changes`). Some events it
never reads: it discards them before a refetch, or the feed forgets them. So the invariant is not about
reading. It is about the events published since the last refetch began: of these the live query has
read none that matters, unless another refetch is due (`LiveQuery.Abreast`).
-/

namespace NestedRows

namespace LiveQuery

/-- A refetch is to begin, and it will cover whatever is published before it does. -/
def IsDue (q : LiveQuery) : Prop := q.stage = .discarding ∨ q.stage = .starting 0

/-- What has happened since the last refetch began, by the stage: in the end its outcome has been
handed over. -/
def Tells (after : List Happening) : LiveStage → Prop
  | .listening => ∃ outcome, (outcomesIn after).getLast? = some outcome ∧
      updatesIn after = [.ofOutcome outcome]
  | .delivering u => updatesIn after = [] ∧
      ∃ outcome, (outcomesIn after).getLast? = some outcome ∧ u = .ofOutcome outcome
  | .starting _ | .fetching _ _ | .resting _ _ _ => updatesIn after = []
  | .discarding | .stopped => True

/-- Nothing is published, fetched or handed over. -/
structure Quiet (more : List Happening) : Prop where
  began : .began ∉ more
  events : eventsIn more = []
  outcomes : outcomesIn more = []
  updates : updatesIn more = []

theorem quiet_nil : Quiet [] := ⟨List.not_mem_nil, rfl, rfl, rfl⟩

theorem quiet_map_taken (l : List Update) : Quiet (l.map .taken) := by
  induction l with
  | nil => exact quiet_nil
  | cons u rest ih => exact ⟨by simp, ih.events, ih.outcomes, ih.updates⟩

theorem Tells.append {after more : List Happening} {stage : LiveStage} (h : Tells after stage)
    (houtcomes : outcomesIn more = []) (hupdates : updatesIn more = []) : Tells (after ++ more) stage := by
  revert h
  cases stage <;> simp [Tells, outcomesIn_append, updatesIn_append, houtcomes, hupdates]

/-- The last refetch began between `before` and `after`, and of the events published since then none
that matters was read up to the given place among all events. -/
structure Since (q : LiveQuery) (older : List ChangeEvent) (place : Nat)
    (before after : List Happening) : Prop where
  last : .began ∉ after
  tells : Tells after q.stage
  read : ∀ i e, (older ++ eventsIn before).length ≤ i → i < place →
    (older ++ eventsIn before ++ eventsIn after)[i]? = some e → q.watches e.table = false

/-- The live query has not missed anything, or a refetch is due. The events that are older than the
live query come before those in `h`. -/
structure Abreast (older : List ChangeEvent) (h : List Happening) (q : LiveQuery) (f : Feed) : Prop where
  holds : f.Holds (older ++ eventsIn h)
  issued : q.receiver < f.issued
  place : q.stage ≠ .stopped → ∃ place ≤ (older ++ eventsIn h).length,
    f.receivers.get? q.receiver = some place ∧
    (q.IsDue ∨ ∃ before after, h = before ++ .began :: after ∧ q.Since older place before after)

variable {σ : Type} {config : LiveConfig} {source : DeferredSource σ} {d : Dialect}
  {q q' : LiveQuery} {f f' : Feed} {older : List ChangeEvent} {h more : List Happening}

theorem Since.append {place place' : Nat} {before after : List Happening}
    (hs : q.Since older place before after) (hsame : q.SameAs q') (hbegan : .began ∉ more)
    (hevents : eventsIn more = []) (htells : Tells after q.stage → Tells (after ++ more) q'.stage)
    (hread : ∀ i e, place ≤ i → i < place' →
      (older ++ eventsIn before ++ eventsIn after)[i]? = some e → q.watches e.table = false) :
    q'.Since older place' before (after ++ more) where
  last hmem := (List.mem_append.mp hmem).elim hs.last hbegan
  tells := htells hs.tells
  read i e hi hplace hnext := by
    rw [eventsIn_append, hevents, List.append_nil] at hnext
    rw [hsame.watches]
    by_cases hold : i < place
    · exact hs.read i e hi hold hnext
    · exact hread i e (Nat.le_of_not_lt hold) hplace hnext

theorem Since.publish {place : Nat} {before after : List Happening}
    (hs : q.Since older place before after)
    (hplace : place ≤ (older ++ eventsIn before ++ eventsIn after).length) (e : ChangeEvent) :
    q.Since older place before (after ++ [.published e]) where
  last hmem := by
    rcases List.mem_append.mp hmem with hmem | hmem
    · exact hs.last hmem
    · cases List.mem_singleton.mp hmem
  tells := hs.tells.append rfl rfl
  read i e' hi hbelow hnext := by
    rw [eventsIn_append, ← List.append_assoc, List.getElem?_append_left (hbelow.trans_le hplace)] at hnext
    exact hs.read i e' hi hbelow hnext

theorem tells_follow (after : List Happening) (hnone : updatesIn after = []) (now failures : Nat)
    (outcome : Except QueryError Flight) :
    Tells (after ++ Happening.ofTry outcome) (q.follow config now failures outcome).stage := by
  have hupdates : updatesIn (after ++ Happening.ofTry outcome) = [] := by
    rw [updatesIn_append, hnone, (Happening.silent_ofTry outcome).2.2.1]
    rfl
  obtain ⟨stage, heq, hcases⟩ := follow_cases config now failures q outcome
  rw [heq]
  obtain ⟨-, flight, rfl⟩ | ⟨result, hended, ⟨-, rfl⟩ | ⟨-, rfl⟩⟩ := hcases
  · exact hupdates
  · exact hupdates
  · refine ⟨hupdates, result, ?_, rfl⟩
    rw [hended, outcomesIn_append]
    exact List.getLast?_concat

theorem events_split (older : List ChangeEvent) (before after : List Happening) :
    older ++ eventsIn (before ++ .began :: after) = older ++ eventsIn before ++ eventsIn after := by
  rw [eventsIn_append, List.append_assoc]
  rfl

namespace Abreast

/-- If a refetch is due, it does not matter how far the live query has read. -/
theorem due (ha : q.Abreast older h f) (hsame : q.SameAs q') (hdue : q'.IsDue)
    (hf : f'.Holds (older ++ eventsIn h)) (hissued : f.issued ≤ f'.issued) {place : Nat}
    (hle : place ≤ (older ++ eventsIn h).length) (hget : f'.receivers.get? q.receiver = some place)
    (hevents : eventsIn more = []) : q'.Abreast older (h ++ more) f' := by
  have hall : eventsIn (h ++ more) = eventsIn h := by rw [eventsIn_append, hevents, List.append_nil]
  refine ⟨by rwa [hall], by rw [hsame.receiver]; exact ha.issued.trans_le hissued, fun _ => ?_⟩
  exact ⟨place, by rwa [hall], by rwa [hsame.receiver], .inl hdue⟩

theorem read (ha : q.Abreast older h f) (hsame : q.SameAs q') (hf : f'.Holds (older ++ eventsIn h))
    (hissued : f.issued ≤ f'.issued) {place place' : Nat} (hle : place' ≤ (older ++ eventsIn h).length)
    (hget : f'.receivers.get? q.receiver = some place')
    (hplaces : q.IsDue ∨ ∃ before after, h = before ++ .began :: after ∧
      q.Since older place before after)
    (hread : ∀ i e, place ≤ i → i < place' → (older ++ eventsIn h)[i]? = some e →
      q.watches e.table = false)
    (hbegan : .began ∉ more) (hevents : eventsIn more = []) (hdue : q.IsDue → q'.IsDue)
    (htells : ∀ after, Tells after q.stage → Tells (after ++ more) q'.stage) :
    q'.Abreast older (h ++ more) f' := by
  rcases hplaces with hqdue | ⟨before, after, rfl, hs⟩
  · exact ha.due hsame (hdue hqdue) hf hissued hle hget hevents
  have hall : eventsIn (before ++ .began :: after ++ more) = eventsIn (before ++ .began :: after) := by
    rw [eventsIn_append, hevents, List.append_nil]
  refine ⟨by rwa [hall], by rw [hsame.receiver]; exact ha.issued.trans_le hissued, fun _ => ?_⟩
  refine ⟨place', by rwa [hall], by rwa [hsame.receiver], .inr ⟨before, after ++ more, ?_, ?_⟩⟩
  · rw [List.append_assoc]
    rfl
  · rw [events_split] at hread
    exact hs.append hsame hbegan hevents (htells after) hread

theorem stay (ha : q.Abreast older h f) (hsame : q.SameAs q') (hf : f'.Holds (older ++ eventsIn h))
    (hissued : f.issued ≤ f'.issued)
    (hplace : f'.receivers.get? q.receiver = f.receivers.get? q.receiver)
    (hstopped : q.stage ≠ .stopped) (hbegan : .began ∉ more) (hevents : eventsIn more = [])
    (hdue : q.IsDue → q'.IsDue)
    (htells : ∀ after, Tells after q.stage → Tells (after ++ more) q'.stage) :
    q'.Abreast older (h ++ more) f' := by
  obtain ⟨place, hle, hget, hplaces⟩ := ha.place hstopped
  exact ha.read hsame hf hissued hle (hplace.trans hget) hplaces
    (fun i e hi hlt => absurd hlt (Nat.not_lt.mpr hi)) hbegan hevents hdue htells

theorem stop (ha : q.Abreast older h f) : (q.stop f).1.Abreast older (h ++ []) (q.stop f).2 := by
  rw [List.append_nil]
  exact ⟨⟨ha.holds.published, ha.holds.kept⟩, ha.issued, fun hstopped => absurd rfl hstopped⟩

theorem hear {n : Notice} (ha : q.Abreast older h f) (hstage : q.stage = .listening)
    (hreceive : f.receive q.receiver = .notice n f') :
    (q.hear config n).Abreast older (h ++ [.heard n]) f' := by
  have hdoes : q.Does config f [.heard n] (q.hear config n) f' := .hear hstage hreceive
  have hsame := hdoes.sameAs
  obtain ⟨place, hle, hget, hplaces⟩ := ha.place (by simp [hstage])
  obtain ⟨place', hle', rfl, hevent⟩ := ha.holds.seek_of_receive hget hle hreceive
  cases hcalled : q.calledBy n with
  | true =>
    refine ha.due hsame ?_ (ha.holds.seek _ _) (Nat.le_refl _) hle' (Feed.get?_receivers_seek _ _ _) rfl
    rw [LiveQuery.hear, if_pos hcalled]
    cases config.coalesceEvents with
    | true => exact .inl rfl
    | false => exact .inr rfl
  | false =>
    have hheard : q.hear config n = q := by
      rw [LiveQuery.hear, hcalled]
      rfl
    rw [hheard]
    cases n with
    | lagged lost => cases hcalled
    | event e =>
      obtain ⟨hnext, rfl⟩ := hevent e rfl
      refine ha.read ⟨rfl, rfl, rfl⟩ (ha.holds.seek _ _) (Nat.le_refl _) hle'
        (Feed.get?_receivers_seek _ _ _) hplaces ?_ (by simp) rfl id
        fun after htells => htells.append rfl rfl
      intro i e' hi hlt hnext'
      obtain rfl := Nat.le_antisymm (Nat.le_of_lt_succ hlt) hi
      obtain rfl := Option.some.inj (hnext.symm.trans hnext')
      exact hcalled

theorem does (ha : q.Abreast older h f) (hdoes : q.Does config f more q' f') :
    q'.Abreast older (h ++ more) f' := by
  have hsame := hdoes.sameAs
  cases hdoes with
  | hear hstage hreceive => exact ha.hear hstage hreceive
  | discard hstage hreceive =>
    obtain ⟨place, hle, hget, -⟩ := ha.place (by simp [hstage])
    obtain ⟨place', hle', rfl, -⟩ := ha.holds.seek_of_receive hget hle hreceive
    exact ha.due hsame (.inl hstage) (ha.holds.seek _ _) (Nat.le_refl _) hle'
      (Feed.get?_receivers_seek _ _ _) rfl
  | cleared hstage =>
    obtain ⟨place, hle, hget, -⟩ := ha.place (by simp [hstage])
    exact ha.due hsame (.inr rfl) ha.holds (Nat.le_refl _) hle hget rfl
  | @start failures hstage now outcome =>
    obtain ⟨hbegan, hevents, -, -⟩ := Happening.silent_ofTry outcome
    cases failures with
    | zero =>
      obtain ⟨place, hle, hget, -⟩ := ha.place (by simp [hstage])
      have hall : eventsIn (h ++ .began :: Happening.ofTry outcome) = eventsIn h := by
        rw [eventsIn_append]
        exact (congrArg _ hevents).trans (List.append_nil _)
      refine ⟨by rw [Happening.ofStart, hall]; exact ha.holds, by rw [hsame.receiver]; exact ha.issued,
        fun _ => ⟨place, by rwa [Happening.ofStart, hall], by rwa [hsame.receiver],
          .inr ⟨h, _, rfl, hbegan, ?_, ?_⟩⟩⟩
      · exact tells_follow [] rfl now 0 outcome
      · intro i e hi hlt
        omega
    | succ failures =>
      refine ha.stay hsame ha.holds (Nat.le_refl _) rfl (by simp [hstage]) hbegan hevents
        (by simp [IsDue, hstage]) (fun after htells => ?_)
      rw [hstage] at htells
      exact tells_follow after htells now _ outcome
  | look hstage now outcome =>
    obtain ⟨hbegan, hevents, -, -⟩ := Happening.silent_ofTry outcome
    refine ha.stay hsame ha.holds (Nat.le_refl _) rfl (by simp [hstage]) hbegan hevents
      (by simp [IsDue, hstage]) (fun after htells => ?_)
    rw [hstage] at htells
    exact tells_follow after htells now _ outcome
  | wake hstage =>
    refine ha.stay hsame ha.holds (Nat.le_refl _) rfl (by simp [hstage]) List.not_mem_nil rfl
      (by simp [IsDue, hstage]) (fun after htells => ?_)
    rw [hstage] at htells
    rwa [List.append_nil]
  | deliver hstage =>
    refine ha.stay hsame ha.holds (Nat.le_refl _) rfl (by simp [hstage]) (by simp) rfl
      (by simp [IsDue, hstage]) (fun after htells => ?_)
    rw [hstage] at htells
    obtain ⟨hnone, outcome, hlast, rfl⟩ := htells
    refine ⟨outcome, ?_, ?_⟩
    · rw [outcomesIn_append]
      exact (congrArg _ (List.append_nil _)).trans hlast
    · rw [updatesIn_append, hnone]
      rfl
  | stop => exact ha.stop

theorem idle (ha : q.Abreast older h f) (hsame : q.SameAs q') (hstage : q'.stage = q.stage)
    (hf : f'.Holds (older ++ eventsIn h)) (hissued : f.issued ≤ f'.issued)
    (hplace : f'.receivers.get? q.receiver = f.receivers.get? q.receiver) (hquiet : Quiet more) :
    q'.Abreast older (h ++ more) f' := by
  by_cases hstopped : q.stage = .stopped
  · refine ⟨?_, by rw [hsame.receiver]; exact ha.issued.trans_le hissued,
      fun hgoes => absurd (hstage.trans hstopped) hgoes⟩
    rwa [eventsIn_append, hquiet.events, List.append_nil]
  · refine ha.stay hsame hf hissued hplace hstopped hquiet.began hquiet.events ?_ fun after htells => ?_
    · rw [IsDue, IsDue, hstage]
      exact id
    · rw [hstage]
      exact htells.append hquiet.outcomes hquiet.updates

theorem publish (ha : q.Abreast older h f) (e : ChangeEvent) :
    q.Abreast older (h ++ [.published e]) (f.publish e) := by
  have hall : older ++ eventsIn (h ++ [.published e]) = older ++ eventsIn h ++ [e] := by
    rw [eventsIn_append, ← List.append_assoc]
    rfl
  refine ⟨by rw [hall]; exact ha.holds.publish e, ha.issued, fun hstage => ?_⟩
  obtain ⟨place, hle, hget, hplaces⟩ := ha.place hstage
  refine ⟨place, ?_, hget, hplaces.imp_right ?_⟩
  · rw [hall, List.length_append]
    exact Nat.le_add_right_of_le hle
  · rintro ⟨before, after, rfl, hs⟩
    rw [events_split] at hle
    exact ⟨before, _, List.append_assoc .., hs.publish hle e⟩

theorem moves (ha : q.Abreast older h f) (hmove : q.Moves config source d f more q' f') :
    q'.Abreast older (h ++ more) f' := by
  have hsame := hmove.sameAs
  cases hmove with
  | step _ _ _ hstep => exact ha.does (does_of_step? hstep)
  | requestAbort => exact ha.idle hsame rfl ha.holds (Nat.le_refl _) rfl quiet_nil
  | abort => exact ha.stop
  | publish e => exact ha.publish e
  | act hacts =>
    exact ha.idle hsame rfl (hacts.holds ha.holds) hacts.issued_le
      (hacts.get?_receivers (by simp) ha.issued) quiet_nil
  | take htake =>
    obtain ⟨rest, -, rfl⟩ := take?_eq_some htake
    exact ha.idle hsame rfl ha.holds (Nat.le_refl _) rfl (quiet_map_taken [_])
  | takeAll => exact ha.idle hsame rfl ha.holds (Nat.le_refl _) rfl (quiet_map_taken _)
  | leave => exact ha.idle hsame rfl ha.holds (Nat.le_refl _) rfl quiet_nil

end Abreast

theorem abreast_register {l : LiveQueries} (hl : l.feed.Holds older) (query : CompiledQuery)
    (namespaceName : String) : (l.register query namespaceName).2.1.Abreast older []
      (l.register query namespaceName).2.2.feed where
  holds := by
    rw [eventsIn, List.filterMap_nil, List.append_nil]
    exact ⟨hl.published, hl.kept⟩
  issued := Nat.lt_succ_self _
  place _ := by
    refine ⟨l.feed.published, ?_, SortedMap.get?_insert_self _ _ _, .inl (.inr rfl)⟩
    rw [hl.published, List.length_append]
    exact Nat.le_add_right _ _

/-- A live query stays abreast in every run. -/
theorem Runs.abreast (ha : q.Abreast older [] f) (hrun : q.Runs config source d f h q' f') :
    q'.Abreast older h f' := by
  induction hrun with
  | start => exact ha
  | next _ hmove ih => exact ih.moves hmove

/-- A live query that waits for changes with nothing left to read has handed over the outcome of a
refetch that began after every change of a table that it touches. -/
theorem covers_changes {n : Nat} {l : LiveQueries} (hl : Feed.Reachable n l.feed) {query : CompiledQuery}
    {namespaceName : String}
    (hrun : (l.register query namespaceName).2.1.Runs config source d
      (l.register query namespaceName).2.2.feed h q f)
    (hstage : q.stage = .listening) (hempty : f.receive q.receiver = .empty) :
    ∃ before after outcome, h = before ++ .began :: after ∧ .began ∉ after ∧
      (∀ e, .published e ∈ after →
        ¬ (e.table.namespaceName = namespaceName ∧ e.table.table ∈ query.touched)) ∧
      (outcomesIn after).getLast? = some outcome ∧ updatesIn after = [.ofOutcome outcome] := by
  obtain ⟨older, hholds⟩ := hl.exists_holds
  have ha := Runs.abreast (abreast_register hholds query namespaceName) hrun
  have hsame := hrun.sameAs
  obtain ⟨place, hle, hget, hplaces⟩ := ha.place (by simp [hstage])
  obtain ⟨before, after, rfl, hs⟩ := hplaces.resolve_left (by simp [IsDue, hstage])
  obtain ⟨outcome, hlast, hupdates⟩ : ∃ outcome, (outcomesIn after).getLast? = some outcome ∧
      updatesIn after = [.ofOutcome outcome] := by
    have htells := hs.tells
    rwa [hstage] at htells
  refine ⟨before, after, outcome, rfl, hs.last, fun e he => ?_, hlast, hupdates⟩
  -- There is nothing left to read, so the place of the event has been passed.
  have hend : place = (older ++ eventsIn (before ++ .began :: after)).length := by
    rcases ha.holds.receive_cases hget hle with ⟨e, -, heq⟩ | ⟨-, heq⟩ | ⟨hend, -⟩
    · rw [hempty] at heq
      cases heq
    · rw [hempty] at heq
      cases heq
    · exact hend
  obtain ⟨i, hi, hnext⟩ := List.getElem_of_mem (mem_eventsIn.mpr he)
  have hpassed : (older ++ eventsIn before).length + i < place := by
    rw [hend, events_split]
    simp only [List.length_append]
    omega
  have hwatches := hs.read _ e (Nat.le_add_right _ i) hpassed (by
    rw [List.getElem?_append_right (Nat.le_add_right _ _), Nat.add_sub_cancel_left,
      List.getElem?_eq_getElem hi, hnext])
  rw [hsame.watches] at hwatches
  exact watches_eq_false_iff.mp hwatches

def orderQuery : CompiledQuery where
  root := "orders"
  statement := ⟨⟨some "shop", "orders", "t0", [⟨"t0", "id", .int⟩], [], none, some "id", 0⟩,
    [.row "id" "t0_id"]⟩
  touched := .ofList ["orders"]

/-- A source that answers at once, each time with one more order. -/
def growingSource : DeferredSource (Nat × Untaken) :=
  RowSource.immediate fun _ _ n => (.ok ((List.range n).map fun i => [("t0_id", .int i)]), n + 1)

def narrowQueries : LiveQueries where
  config := { channelCapacity := 1 }
  feed := { capacity := 1 }

theorem ofCapacity_one : Feed.ofCapacity 1 = narrowQueries.feed := by
  have hcapacity : (Feed.ofCapacity 1).capacity = 1 := by decide +kernel
  exact congrArg (fun capacity => ({ capacity } : Feed)) hcapacity

/-- The event of an order is overwritten by that of a customer. The live query is told so, discards
the second event as well and answers both with one refetch. -/
theorem covers_changes_narrowQueries : ∃ h q f before after outcome,
    (narrowQueries.register orderQuery "shop").2.1.Runs narrowQueries.config growingSource .sqlite
      (narrowQueries.register orderQuery "shop").2.2.feed h q f ∧
    .published ⟨"rowgraph", ⟨"shop", "orders"⟩, .create⟩ ∈ h ∧
    h = before ++ .began :: after ∧ .began ∉ after ∧ updatesIn after = [.ofOutcome outcome] := by
  have hanswered : (narrowQueries.register orderQuery "shop").2.1.Runs narrowQueries.config
      growingSource .sqlite (narrowQueries.register orderQuery "shop").2.2.feed _ _ _ :=
    .next (.next .start (.step .feed 0 (0, none) rfl))
      (.step .feed 0 (1, none) rfl)
  have hchanged := Runs.next (Runs.next hanswered (.publish ⟨"rowgraph", ⟨"shop", "orders"⟩, .create⟩))
    (.publish ⟨"rowgraph", ⟨"shop", "customers"⟩, .update⟩)
  have hread := Runs.next (Runs.next (Runs.next hchanged
    (.step .subscriber 1 (1, none) rfl)) (.step .feed 1 (1, none) rfl))
    (.step .feed 1 (1, none) rfl)
  have hrun := Runs.next (Runs.next hread (.step .feed 2 (1, none) rfl))
    (.step .feed 2 (2, none) rfl)
  obtain ⟨before, after, outcome, hsplit, hlast, -, -, hupdates⟩ :=
    covers_changes (ofCapacity_one ▸ Feed.Reachable.start) hrun rfl rfl
  exact ⟨_, _, _, before, after, outcome, hrun, by simp, hsplit, hlast, hupdates⟩

end LiveQuery

end NestedRows
