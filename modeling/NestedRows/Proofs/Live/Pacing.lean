import NestedRows.Proofs.Live.Coverage
import NestedRows.Proofs.Live.Turns
/-!
# One update for each fetch, one fetch for each call

A live query hands over one update for its first fetch and one for each refetch, and it refetches only
after it has read an event of a table that it touches, or that events were lost (`LiveQuery.delivers_on_call`).
What it reads was published, each event at most once (`LiveQuery.Reads`).
-/

namespace NestedRows

namespace LiveQuery

variable {σ : Type} {config : LiveConfig} {source : DeferredSource σ} {d : Dialect}
  {q q' : LiveQuery} {f f' : Feed} {h more : List Happening}

/-! ### What was read -/

/-- The events that were read. -/
def eventsHeardIn (h : List Happening) : List ChangeEvent := (heardIn h).filterMap Notice.event?

theorem eventsHeardIn_append (h more : List Happening) :
    eventsHeardIn (h ++ more) = eventsHeardIn h ++ eventsHeardIn more := by
  rw [eventsHeardIn, heardIn_append, List.filterMap_append]
  rfl

theorem eventsHeardIn_ofTry (outcome : Except QueryError Flight) :
    eventsHeardIn (Happening.ofTry outcome) = [] := by
  cases outcome with
  | error e => rfl
  | ok flight =>
    rw [Happening.ofTry]
    cases flight.rows? <;> rfl

theorem eventsHeardIn_map_taken (l : List Update) : eventsHeardIn (l.map .taken) = [] := by
  induction l with
  | nil => rfl
  | cons u rest ih => exact ih

/-- What the live query has read was published, in this order, before its place among all events. -/
structure Reads (older : List ChangeEvent) (h : List Happening) (q : LiveQuery) (f : Feed) : Prop where
  holds : f.Holds (older ++ eventsIn h)
  issued : q.receiver < f.issued
  heard : (eventsHeardIn h).Sublist (eventsIn h)
  place : q.stage ≠ .stopped → ∃ place ≤ (older ++ eventsIn h).length,
    f.receivers.get? q.receiver = some place ∧
    (older ++ eventsHeardIn h).Sublist ((older ++ eventsIn h).take place)

namespace Reads

variable {older : List ChangeEvent}

theorem receive (hr : q.Reads older h f) (hgoes : q.stage ≠ .stopped) {n : Notice}
    (hreceive : f.receive q.receiver = .notice n f') :
    ∃ place ≤ (older ++ eventsIn h).length, f' = f.seek q.receiver place ∧
      (older ++ (eventsHeardIn h ++ n.event?.toList)).Sublist ((older ++ eventsIn h).take place) := by
  obtain ⟨place, hle, hget, hsublist⟩ := hr.place hgoes
  rcases hr.holds.receive_cases hget hle with ⟨e, hnext, heq⟩ | ⟨hlost, heq⟩ | ⟨-, heq⟩
  · obtain ⟨rfl, rfl⟩ := Reception.notice.inj (hreceive.symm.trans heq)
    refine ⟨place + 1, (List.getElem?_eq_some_iff.mp hnext).1, rfl, ?_⟩
    rw [List.take_add_one, hnext, ← List.append_assoc]
    exact hsublist.append (List.Sublist.refl _)
  · obtain ⟨rfl, rfl⟩ := Reception.notice.inj (hreceive.symm.trans heq)
    refine ⟨f.forgotten, hr.holds.forgotten_le, rfl, ?_⟩
    rw [Notice.event?, Option.toList_none, List.append_nil]
    exact hsublist.trans (List.take_sublist_take_left (Nat.le_of_lt hlost))
  · rw [hreceive] at heq
    split at heq <;> cases heq

theorem read (hr : q.Reads older h f) (hsame : q.SameAs q') (hgoes : q.stage ≠ .stopped) {n : Notice}
    (hreceive : f.receive q.receiver = .notice n f') (hevents : eventsIn more = [])
    (hheard : (eventsHeardIn more).Sublist n.event?.toList) : q'.Reads older (h ++ more) f' := by
  obtain ⟨place, hle, rfl, hsublist⟩ := hr.receive hgoes hreceive
  have hall : eventsIn (h ++ more) = eventsIn h := by rw [eventsIn_append, hevents, List.append_nil]
  have hread : (older ++ eventsHeardIn (h ++ more)).Sublist ((older ++ eventsIn h).take place) := by
    rw [eventsHeardIn_append]
    exact ((hheard.append_left _).append_left _).trans hsublist
  refine ⟨by rw [hall]; exact hr.holds.seek _ _, by rw [hsame.receiver]; exact hr.issued, ?_, fun _ => ?_⟩
  · rw [hall]
    exact (List.append_sublist_append_left older).mp (hread.trans (List.take_sublist _ _))
  · rw [hall, hsame.receiver]
    exact ⟨place, hle, Feed.get?_receivers_seek _ _ _, hread⟩

theorem idle (hr : q.Reads older h f) (hsame : q.SameAs q') (hf : f'.Holds (older ++ eventsIn h))
    (hissued : f.issued ≤ f'.issued)
    (hplace : q'.stage ≠ .stopped → q.stage ≠ .stopped ∧
      f'.receivers.get? q.receiver = f.receivers.get? q.receiver)
    (hevents : eventsIn more = []) (hheard : eventsHeardIn more = []) :
    q'.Reads older (h ++ more) f' := by
  have hall : eventsIn (h ++ more) = eventsIn h := by rw [eventsIn_append, hevents, List.append_nil]
  have hread : eventsHeardIn (h ++ more) = eventsHeardIn h := by
    rw [eventsHeardIn_append, hheard, List.append_nil]
  refine ⟨by rwa [hall], by rw [hsame.receiver]; exact hr.issued.trans_le hissued, ?_, fun hgoes => ?_⟩
  · rw [hall, hread]
    exact hr.heard
  · obtain ⟨hgoes, hget⟩ := hplace hgoes
    rw [hall, hread, hsame.receiver, hget]
    exact hr.place hgoes

theorem does (hr : q.Reads older h f) (hdoes : q.Does config f more q' f') :
    q'.Reads older (h ++ more) f' := by
  have hsame := hdoes.sameAs
  have hstay : q.stage ≠ .stopped → eventsIn more = [] → eventsHeardIn more = [] →
      q'.Reads older (h ++ more) f :=
    fun hgoes => hr.idle hsame hr.holds (Nat.le_refl _) fun _ => ⟨hgoes, rfl⟩
  cases hdoes with
  | @hear hstage n f' hreceive =>
    refine hr.read hsame (by simp [hstage]) hreceive rfl ?_
    cases n <;> exact List.Sublist.refl _
  | discard hstage hreceive =>
    exact hr.read hsame (by simp [hstage]) hreceive rfl (List.nil_sublist _)
  | @start failures hstage now outcome =>
    obtain ⟨-, hevents, -, -⟩ := Happening.silent_ofTry outcome
    have hheard := eventsHeardIn_ofTry outcome
    refine hstay (by simp [hstage]) ?_ ?_
    · cases failures <;> exact hevents
    · cases failures <;> exact hheard
  | look hstage now outcome =>
    exact hstay (by simp [hstage]) (Happening.silent_ofTry outcome).2.1 (eventsHeardIn_ofTry outcome)
  | cleared hstage | wake hstage | deliver hstage => exact hstay (by simp [hstage]) rfl rfl
  | stop =>
    exact hr.idle hsame ⟨hr.holds.published, hr.holds.kept⟩ (Nat.le_refl _)
      (fun hgoes => absurd rfl hgoes) rfl rfl

theorem publish (hr : q.Reads older h f) (e : ChangeEvent) :
    q.Reads older (h ++ [.published e]) (f.publish e) := by
  have hall : eventsIn (h ++ [.published e]) = eventsIn h ++ [e] := eventsIn_append _ _
  have hread : eventsHeardIn (h ++ [.published e]) = eventsHeardIn h := by
    rw [eventsHeardIn_append]
    exact List.append_nil _
  refine ⟨?_, hr.issued, ?_, fun hgoes => ?_⟩
  · rw [hall, ← List.append_assoc]
    exact hr.holds.publish e
  · rw [hall, hread]
    exact hr.heard.trans (List.sublist_append_left _ _)
  · obtain ⟨place, hle, hget, hsublist⟩ := hr.place hgoes
    refine ⟨place, ?_, hget, ?_⟩
    · rw [hall, ← List.append_assoc, List.length_append]
      exact Nat.le_add_right_of_le hle
    · rwa [hall, hread, ← List.append_assoc, List.take_append_of_le_length hle]

theorem moves (hr : q.Reads older h f) (hmove : q.Moves config source d f more q' f') :
    q'.Reads older (h ++ more) f' := by
  have hsame := hmove.sameAs
  have hstay : q'.stage = q.stage → f' = f → eventsIn more = [] → eventsHeardIn more = [] →
      q'.Reads older (h ++ more) f' := by
    rintro hstage rfl
    exact hr.idle hsame hr.holds (Nat.le_refl _) fun hgoes => ⟨hstage ▸ hgoes, rfl⟩
  cases hmove with
  | step _ _ _ hstep => exact hr.does (does_of_step? hstep)
  | requestAbort => exact hstay rfl rfl rfl rfl
  | abort =>
    exact hr.idle hsame ⟨hr.holds.published, hr.holds.kept⟩ (Nat.le_refl _)
      (fun hgoes => absurd rfl hgoes) rfl rfl
  | publish e => exact hr.publish e
  | act hacts =>
    exact hr.idle hsame (hacts.holds hr.holds) hacts.issued_le
      (fun hgoes => ⟨hgoes, hacts.get?_receivers (by simp) hr.issued⟩) rfl rfl
  | take htake =>
    obtain ⟨rest, -, rfl⟩ := take?_eq_some htake
    exact hstay rfl rfl rfl rfl
  | takeAll => exact hstay rfl rfl (quiet_map_taken _).events (eventsHeardIn_map_taken _)
  | leave => exact hstay rfl rfl rfl rfl

end Reads

theorem Runs.reads {older : List ChangeEvent} (hr : q.Reads older [] f)
    (hrun : q.Runs config source d f h q' f') : q'.Reads older h f' := by
  induction hrun with
  | start => exact hr
  | next _ hmove ih => exact ih.moves hmove

theorem reads_register {older : List ChangeEvent} {l : LiveQueries} (hl : l.feed.Holds older)
    (query : CompiledQuery) (namespaceName : String) :
    (l.register query namespaceName).2.1.Reads older [] (l.register query namespaceName).2.2.feed where
  holds := by
    rw [eventsIn, List.filterMap_nil, List.append_nil]
    exact ⟨hl.published, hl.kept⟩
  issued := Nat.lt_succ_self _
  heard := List.Sublist.refl _
  place _ := by
    refine ⟨l.feed.published, ?_, SortedMap.get?_insert_self _ _ _, ?_⟩
    · rw [hl.published]
      exact Nat.le_of_eq (congrArg List.length (List.append_nil older).symm)
    · simp [hl.published, eventsHeardIn, heardIn, eventsIn]

/-! ### Pacing -/

/-- What was read, discarded or not. -/
def receivedIn (h : List Happening) : List Notice :=
  h.filterMap fun | .heard n => some n | .discarded n => some n | _ => none

/-- The update tells how the last try of the fetch ended that was begun last. The tries before it
failed, and it was not one to be followed by another. -/
def Concludes (config : LiveConfig) (h : List Happening) (u : Update) : Prop :=
  (Turn.delivery u).Tried config h

/-- How the updates that were handed over go with the fetches, and the fetches with what was read.
The result depends on the given tables. -/
structure Paced (config : LiveConfig) (tables : List TableId) (h : List Happening) (q : LiveQuery) :
    Prop where
  /-- There is one update for each fetch but the one that is under way. -/
  updates_le : (updatesIn h).length ≤ fetchesIn h
  fetches_le : fetchesIn h ≤ (updatesIn h).length + 1
  concludes : ∀ before u after, h = before ++ .delivered u :: after → Concludes config before u
  /-- A fetch is the first one, or it is called for by something read since the one before it began. -/
  fetch_called : ∀ before after, h = before ++ .began :: after → .began ∈ before →
    Called tables (fun second => .began ∉ second) before
  update_called : ∀ before u after, h = before ++ .delivered u :: after → updatesIn before ≠ [] →
    Called tables (fun second => updatesIn second = []) before
  /-- Events are read in the order of their publication, each at most once. -/
  heard : (eventsHeardIn h).Sublist (eventsIn h)
  of_no_lag : (∀ lost, .lagged lost ∉ heardIn h) →
    (updatesIn h).length ≤ 1 + (eventsIn h).countP fun e => tables.contains e.table
  /-- Whoever waits for changes has handed over one update for each call, and one before. -/
  listening : q.stage = .listening →
    (updatesIn h).length = fetchesIn h ∧ fetchesIn h = 1 + (heardIn h).countP (Notice.calls tables)
  uncoalesced : config.coalesceEvents = false → q.stage = .listening →
    (∀ lost, .lagged lost ∉ receivedIn h) →
    (updatesIn h).length
      = 1 + ((receivedIn h).filterMap Notice.event?).countP fun e => tables.contains e.table

section Paced

variable {tables : List TableId} {t t' : Turn}

theorem receivedIn_append (h more : List Happening) :
    receivedIn (h ++ more) = receivedIn h ++ receivedIn more :=
  List.filterMap_append

theorem Passes.receivedIn_eq (hcoalesce : config.coalesceEvents = false)
    (hpasses : Passes config tables t h t') : receivedIn h = heardIn h := by
  induction h generalizing t with
  | nil => rfl
  | cons x rest ih =>
    obtain ⟨m, hturn, hrest⟩ := hpasses
    have hfirst : receivedIn [x] = heardIn [x] := by
      cases hturn with
      | discarded h =>
        rw [hcoalesce] at h
        cases h
      | _ => rfl
    rw [← List.singleton_append, receivedIn_append, heardIn_append, hfirst, ih hrest]

theorem countP_calls (tables : List TableId) {l : List Notice} (hlag : ∀ lost, .lagged lost ∉ l) :
    l.countP (Notice.calls tables) = (l.filterMap Notice.event?).countP fun e => tables.contains e.table := by
  induction l with
  | nil => rfl
  | cons n rest ih =>
    have hrest := ih fun lost hmem => hlag lost (List.mem_cons_of_mem _ hmem)
    cases n with
    | lagged lost => exact absurd List.mem_cons_self (hlag lost)
    | event e =>
      have hevents : (.event e :: rest).filterMap Notice.event? = e :: rest.filterMap Notice.event? := rfl
      rw [hevents, List.countP_cons, List.countP_cons, hrest]
      rfl

theorem Called.mono {quiet quiet' : List Happening → Prop} (hcalled : Called tables quiet h)
    (hquiet : ∀ second, quiet second → quiet' second) : Called tables quiet' h := by
  obtain ⟨first, n, second, rfl, hcalls, hsecond⟩ := hcalled
  exact ⟨first, n, second, rfl, hcalls, hquiet second hsecond⟩

/-- A history in turns is paced. -/
theorem Passes.paced (hpasses : Passes config tables .fetch h t) (hawaits : Awaits config q.stage t)
    (hheard : (eventsHeardIn h).Sublist (eventsIn h)) : Paced config tables h q := by
  have howed : fetchesIn h = (updatesIn h).length + t.owed := hpasses.balance.1
  have hdue : fetchesIn h + t.due = (heardIn h).countP (Notice.calls tables) + 1 := hpasses.balance.2
  have hone := t.owed_le_one
  have hlistening : q.stage = .listening →
      (updatesIn h).length = fetchesIn h ∧ fetchesIn h = 1 + (heardIn h).countP (Notice.calls tables) := by
    intro hstage
    rw [hstage] at hawaits
    cases hawaits with
    | listening =>
      simp only [Turn.owed, Turn.due] at howed hdue
      omega
  refine ⟨by omega, by omega, ?_, ?_, ?_, hheard, ?_, hlistening, ?_⟩
  · rintro before u after rfl
    obtain ⟨m, hbefore, m', hturn, -⟩ := passes_append.mp hpasses
    cases hturn with
    | delivered => exact hbefore.caused_tried.2
  · rintro before after rfl hbegan
    obtain ⟨m, hbefore, m', hturn, -⟩ := passes_append.mp hpasses
    cases hturn with
    | began =>
      rcases hbefore.caused_tried.1 with ⟨hfirst, -⟩ | hcalled
      · exact absurd hbegan hfirst
      · exact hcalled.mono fun _ hsecond => hsecond.1
  · rintro before u after rfl hsome
    obtain ⟨m, hbefore, m', hturn, -⟩ := passes_append.mp hpasses
    cases hturn with
    | delivered => exact hbefore.caused_tried.1.resolve_left hsome
  · intro hlag
    have hcalls := countP_calls tables hlag
    have hread := hheard.countP_le (p := fun e => tables.contains e.table)
    rw [eventsHeardIn] at hread
    omega
  · intro hcoalesce hstage hlag
    rw [hpasses.receivedIn_eq hcoalesce] at hlag ⊢
    rw [← countP_calls tables hlag]
    exact (hlistening hstage).1.trans (hlistening hstage).2

end Paced

/-- It does not stop on its own while there is somebody to tell and something to hear of, and it goes on
listening when it has handed an update over, whatever the update tells. -/
structure GoesOn (config : LiveConfig) (source : DeferredSource σ) (d : Dialect) (q : LiveQuery)
    (f : Feed) : Prop where
  stops_only : ∀ first now state q' f' state',
    q.step? config source d first now f state = some ((q', f'), state') →
    q'.stage = .stopped → q.hasSubscriber = false ∨ f.receive q.receiver = .closed
  delivers : ∀ u, q.stage = .delivering u → q.hasSubscriber = true →
    q.updates.length < max config.subscriberBuffer 1 → ∀ first now state,
    q.step? config source d first now f state
      = some (({ q with updates := q.updates ++ [u], stage := .listening }, f), state)

theorem goesOn (config : LiveConfig) (source : DeferredSource σ) (d : Dialect) (q : LiveQuery)
    (f : Feed) : q.GoesOn config source d f where
  stops_only first now state q' f' state' hstep hstopped := by
    have hdoes := does_of_step? hstep
    generalize q.doings source d first f state = happenings at hdoes
    have hfollow : ∀ now failures outcome, (q.follow config now failures outcome).stage ≠ .stopped := by
      intro now failures outcome
      obtain ⟨stage, heq, hcases⟩ := follow_cases config now failures q outcome
      rw [heq]
      obtain ⟨-, flight, rfl⟩ | ⟨result, -, ⟨-, rfl⟩ | ⟨-, rfl⟩⟩ := hcases <;> simp
    cases hdoes with
    | stop _ hover => exact hover
    | hear hstage =>
      rw [LiveQuery.hear] at hstopped
      split at hstopped
      · cases hcoalesce : config.coalesceEvents <;> simp [hcoalesce] at hstopped
      · rw [hstage] at hstopped
        cases hstopped
    | discard hstage =>
      rw [hstage] at hstopped
      cases hstopped
    | start | look => exact absurd hstopped (hfollow _ _ _)
    | cleared | wake | deliver => cases hstopped
  delivers u hstage hsubscriber hroom first now state := by
    rw [step?, hstage]
    simp only [hsubscriber, if_true, if_pos hroom]

/-- **No update without a call, and one for each fetch.** In every run a live query hands over one update
for its first fetch and one for each refetch, and it refetches only after it has read an event of a table
that it touches or that it has lost events. -/
theorem delivers_on_call {n : Nat} {l : LiveQueries} (hl : Feed.Reachable n l.feed)
    {query : CompiledQuery} {namespaceName : String}
    (hrun : (l.register query namespaceName).2.1.Runs config source d
      (l.register query namespaceName).2.2.feed h q f) :
    Paced config (query.touched.toList.map fun table => ⟨namespaceName, table⟩) h q ∧
      q.GoesOn config source d f := by
  obtain ⟨older, hholds⟩ := hl.exists_holds
  obtain ⟨t, hpasses, hawaits⟩ := hrun.passes rfl
  exact ⟨hpasses.paced hawaits (hrun.reads (reads_register hholds query namespaceName)).heard,
    goesOn config source d q f⟩

/-- A source that answers once and has no connection to spare from then on. -/
def exhaustedSource : DeferredSource (Nat × Untaken) :=
  RowSource.immediate fun _ _ n => (if n = 0 then .ok [] else .error .poolTimeout, n + 1)

/-- Every event is answered, and a fetch that fails is tried once more without a rest. -/
def eagerConfig : LiveConfig where
  coalesceEvents := false
  retry := { maxRetries := 1, backoff := 0 }

def customerUpdate : ChangeEvent := ⟨"rowgraph", ⟨"shop", "customers"⟩, .update⟩

def orderCreate : ChangeEvent := ⟨"rowgraph", ⟨"shop", "orders"⟩, .create⟩

/-- An event of a table that does not matter, and one of a table that does: one refetch, which fails
twice, and one update that says so. -/
theorem delivers_on_call_narrowQueries : ∃ h q f,
    (narrowQueries.register orderQuery "shop").2.1.Runs eagerConfig exhaustedSource .sqlite
      (narrowQueries.register orderQuery "shop").2.2.feed h q f ∧
    q.stage = .listening ∧ (eventsIn h).length = 2 ∧ (outcomesIn h).length = 3 ∧
    (updatesIn h).length = 2 ∧ (updatesIn h).getLast? = some (.failure (.of .poolTimeout)) := by
  have hanswered : (narrowQueries.register orderQuery "shop").2.1.Runs eagerConfig
      exhaustedSource .sqlite (narrowQueries.register orderQuery "shop").2.2.feed _ _ _ :=
    .next (.next .start (.step .feed 0 (0, none) rfl)) (.step .feed 0 (1, none) rfl)
  have hignored := Runs.next (Runs.next hanswered
    (.publish customerUpdate)) (.step .subscriber 1 (1, none) rfl)
  have hcalled := Runs.next (Runs.next hignored
    (.publish orderCreate)) (.step .feed 2 (1, none) rfl)
  have hfailed := Runs.next (Runs.next (Runs.next hcalled (.step .feed 3 (1, none) rfl))
    (.step .feed 3 (2, none) rfl)) (.step .feed 3 (2, none) rfl)
  have hrun := Runs.next hfailed (.step .feed 4 (3, none) rfl)
  have hpaced := (delivers_on_call (ofCapacity_one ▸ Feed.Reachable.start) hrun).1
  have hcount := hpaced.uncoalesced rfl rfl fun lost hmem => by
    have hevents : Notice.lagged lost ∈ [.event customerUpdate, .event orderCreate] := hmem
    simp at hevents
  exact ⟨_, _, _, hrun, rfl, rfl, rfl, hcount, rfl⟩

end LiveQuery

end NestedRows
