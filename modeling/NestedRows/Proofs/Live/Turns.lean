import NestedRows.Proofs.Live.Run
/-!
# The turns of a live query

What happens in a run of a live query takes turns. A fetch begins, its tries end, an update is handed over,
and then the live query reads until something calls for the next fetch (`LiveQuery.Turns`). The stage of the
live query says whose turn it is (`LiveQuery.Awaits`). So the counts are kept by each turn
(`LiveQuery.Turns.balance`), and what led to a fetch or an update is found by going back from it
(`LiveQuery.Passes.caused_tried`).
-/

namespace NestedRows

/-- The number of fetches that were begun, without the tries that follow a failed one. -/
def fetchesIn (h : List Happening) : Nat :=
  h.countP fun | .began => true | _ => false

/-- What was read, without what was discarded. -/
def heardIn (h : List Happening) : List Notice :=
  h.filterMap fun | .heard n => some n | _ => none

def Notice.event? : Notice → Option ChangeEvent
  | event e => some e
  | lagged _ => none

/-- Whether a fetch follows when the result depends on the given tables. -/
def Notice.calls (tables : List TableId) : Notice → Bool
  | event e => tables.contains e.table
  | lagged _ => true

theorem fetchesIn_append (h more : List Happening) :
    fetchesIn (h ++ more) = fetchesIn h + fetchesIn more :=
  List.countP_append

theorem heardIn_append (h more : List Happening) : heardIn (h ++ more) = heardIn h ++ heardIn more :=
  List.filterMap_append

namespace LiveQuery

/-! ### Turns -/

/-- What a live query has to do next. -/
inductive Turn where
  /-- To begin a fetch. -/
  | fetch
  /-- To see the end of a try, after so many failed ones. -/
  | outcome (failures : Nat)
  | delivery (update : Update)
  /-- To read from the feed. -/
  | notice

/-- The rules by which turns follow each other. -/
inductive Turns (config : LiveConfig) (tables : List TableId) : Turn → Happening → Turn → Prop
  | published {t : Turn} {e : ChangeEvent} : Turns config tables t (.published e) t
  | taken {t : Turn} {u : Update} : Turns config tables t (.taken u) t
  | discarded {n : Notice} (hcoalesce : config.coalesceEvents = true) :
      Turns config tables .fetch (.discarded n) .fetch
  | began : Turns config tables .fetch .began (.outcome 0)
  | failed {failures : Nat} {result : Except QueryError (List Json)}
      (hretries : config.retry.retries failures result = true) :
      Turns config tables (.outcome failures) (.ended result) (.outcome (failures + 1))
  | ended {failures : Nat} {result : Except QueryError (List Json)}
      (hretries : config.retry.retries failures result = false) :
      Turns config tables (.outcome failures) (.ended result) (.delivery (.ofOutcome result))
  | delivered {u : Update} : Turns config tables (.delivery u) (.delivered u) .notice
  | called {n : Notice} (hcalls : n.calls tables = true) : Turns config tables .notice (.heard n) .fetch
  | ignored {n : Notice} (hcalls : n.calls tables = false) :
      Turns config tables .notice (.heard n) .notice

/-- What happened takes one turn to another. -/
def Passes (config : LiveConfig) (tables : List TableId) : Turn → List Happening → Turn → Prop
  | t, [], t' => t = t'
  | t, x :: rest, t' => ∃ m, Turns config tables t x m ∧ Passes config tables m rest t'

/-- The stage of a live query whose turn it is. -/
inductive Awaits (config : LiveConfig) : LiveStage → Turn → Prop
  | discarding (hcoalesce : config.coalesceEvents = true) : Awaits config .discarding .fetch
  | starting : Awaits config (.starting 0) .fetch
  | again {failures : Nat} : Awaits config (.starting (failures + 1)) (.outcome (failures + 1))
  | fetching {failures : Nat} {flight : Flight} : Awaits config (.fetching failures flight) (.outcome failures)
  | resting {failures delay due : Nat} :
      Awaits config (.resting (failures + 1) delay due) (.outcome (failures + 1))
  | delivering {u : Update} : Awaits config (.delivering u) (.delivery u)
  | listening : Awaits config .listening .notice
  | stopped {t : Turn} : Awaits config .stopped t

section Turns

variable {config : LiveConfig} {tables : List TableId} {t t' : Turn} {h more : List Happening}

theorem passes_append : Passes config tables t (h ++ more) t' ↔
    ∃ m, Passes config tables t h m ∧ Passes config tables m more t' := by
  induction h generalizing t with
  | nil => simp [Passes]
  | cons x rest ih =>
    simp only [List.cons_append, Passes, ih]
    constructor
    · rintro ⟨m, hx, m', hrest, hmore⟩
      exact ⟨m', ⟨m, hx, hrest⟩, hmore⟩
    · rintro ⟨m', ⟨m, hx, hrest⟩, hmore⟩
      exact ⟨m, hx, m', hrest, hmore⟩

theorem passes_singleton {x : Happening} :
    Passes config tables t [x] t' ↔ Turns config tables t x t' := by
  simp [Passes]

theorem passes_map_taken (l : List Update) : Passes config tables t (l.map .taken) t := by
  induction l with
  | nil => rfl
  | cons u rest ih => exact ⟨t, .taken, ih⟩

theorem passes_ofTry (now failures : Nat) (q : LiveQuery) (outcome : Except QueryError Flight) :
    ∃ t, Passes config tables (.outcome failures) (Happening.ofTry outcome) t ∧
      Awaits config (q.follow config now failures outcome).stage t := by
  obtain ⟨stage, heq, hcases⟩ := follow_cases config now failures q outcome
  rw [heq]
  obtain ⟨hnone, flight, rfl⟩ | ⟨result, hended, ⟨hretries, rfl⟩ | ⟨hretries, rfl⟩⟩ := hcases
  · rw [hnone]
    exact ⟨_, rfl, .fetching⟩
  · rw [hended]
    exact ⟨_, passes_singleton.mpr (.failed hretries), .resting⟩
  · rw [hended]
    exact ⟨_, passes_singleton.mpr (.ended hretries), .delivering⟩

end Turns

variable {σ : Type} {config : LiveConfig} {source : DeferredSource σ} {d : Dialect}
  {q q' : LiveQuery} {f f' : Feed} {h more : List Happening}

theorem calledBy_eq (q : LiveQuery) (n : Notice) : q.calledBy n = n.calls q.tables := by
  cases n <;> rfl

theorem Does.passes (hdoes : q.Does config f more q' f') {t : Turn} (ht : Awaits config q.stage t) :
    ∃ t', Passes config q.tables t more t' ∧ Awaits config q'.stage t' := by
  cases hdoes with
  | @hear hstage n f' hreceive =>
    rw [hstage] at ht
    cases ht with
    | listening =>
      rw [LiveQuery.hear, calledBy_eq]
      cases hcalls : n.calls q.tables with
      | false =>
        refine ⟨_, passes_singleton.mpr (.ignored hcalls), ?_⟩
        rw [if_neg Bool.false_ne_true, hstage]
        exact .listening
      | true =>
        refine ⟨_, passes_singleton.mpr (.called hcalls), ?_⟩
        rw [if_pos rfl]
        cases hcoalesce : config.coalesceEvents with
        | true => exact .discarding hcoalesce
        | false => exact .starting
  | discard hstage hreceive =>
    rw [hstage] at ht ⊢
    cases ht with
    | discarding hcoalesce => exact ⟨_, passes_singleton.mpr (.discarded hcoalesce), .discarding hcoalesce⟩
  | cleared hstage =>
    rw [hstage] at ht
    cases ht with
    | discarding => exact ⟨_, rfl, .starting⟩
  | start hstage now outcome =>
    rw [hstage] at ht
    cases ht with
    | starting =>
      obtain ⟨t', hpasses, hawaits⟩ := passes_ofTry now 0 q outcome
      exact ⟨t', ⟨_, .began, hpasses⟩, hawaits⟩
    | again => exact passes_ofTry now _ q outcome
  | look hstage now outcome =>
    rw [hstage] at ht
    cases ht with
    | fetching => exact passes_ofTry now _ q outcome
  | wake hstage =>
    rw [hstage] at ht
    cases ht with
    | resting => exact ⟨_, rfl, .again⟩
  | deliver hstage =>
    rw [hstage] at ht
    cases ht with
    | delivering => exact ⟨_, passes_singleton.mpr .delivered, .listening⟩
  | stop => exact ⟨t, rfl, .stopped⟩

theorem Moves.passes (hmove : q.Moves config source d f more q' f') {t : Turn}
    (ht : Awaits config q.stage t) :
    ∃ t', Passes config q.tables t more t' ∧ Awaits config q'.stage t' := by
  cases hmove with
  | step _ _ _ hstep => exact (does_of_step? hstep).passes ht
  | requestAbort => exact ⟨t, rfl, ht⟩
  | abort => exact ⟨t, rfl, .stopped⟩
  | publish e => exact ⟨t, passes_singleton.mpr .published, ht⟩
  | act => exact ⟨t, rfl, ht⟩
  | take htake =>
    obtain ⟨rest, -, rfl⟩ := take?_eq_some htake
    exact ⟨t, passes_singleton.mpr .taken, ht⟩
  | takeAll => exact ⟨t, passes_map_taken _, ht⟩
  | leave => exact ⟨t, rfl, ht⟩

theorem SameAs.tables (hsame : q.SameAs q') : q'.tables = q.tables := by
  rw [LiveQuery.tables, hsame.query, hsame.namespaceName, LiveQuery.tables]

/-- Whatever happens in a run takes turns. -/
theorem Runs.passes (hrun : q.Runs config source d f h q' f') (hfirst : q.stage = .starting 0) :
    ∃ t, Passes config q.tables .fetch h t ∧ Awaits config q'.stage t := by
  induction hrun with
  | start =>
    rw [hfirst]
    exact ⟨_, rfl, .starting⟩
  | next hrun hmove ih =>
    obtain ⟨t, hpasses, hawaits⟩ := ih
    obtain ⟨t', hmore, hawaits'⟩ := hmove.passes hawaits
    rw [hrun.sameAs.tables] at hmore
    exact ⟨t', passes_append.mpr ⟨t, hpasses, hmore⟩, hawaits'⟩

/-! ### Counts -/

/-- The fetches for which no update has been handed over. -/
def Turn.owed : Turn → Nat
  | outcome _ | delivery _ => 1
  | fetch | notice => 0

/-- The fetches that have been called for but not begun. -/
def Turn.due : Turn → Nat
  | fetch => 1
  | outcome _ | delivery _ | notice => 0

section Counts

variable {tables : List TableId} {t t' : Turn}

theorem Turns.balance {x : Happening} (hturn : Turns config tables t x t') :
    fetchesIn [x] + t.owed = (updatesIn [x]).length + t'.owed ∧
      fetchesIn [x] + t'.due = (heardIn [x]).countP (Notice.calls tables) + t.due := by
  cases hturn with
  | published | taken => exact ⟨(Nat.zero_add _).trans (Nat.zero_add _).symm, rfl⟩
  | called hcalls | ignored hcalls => simp [fetchesIn, updatesIn, heardIn, hcalls, Turn.owed, Turn.due]
  | discarded | began | failed | ended | delivered => exact ⟨rfl, rfl⟩

theorem Passes.balance (hpasses : Passes config tables t h t') :
    fetchesIn h + t.owed = (updatesIn h).length + t'.owed ∧
      fetchesIn h + t'.due = (heardIn h).countP (Notice.calls tables) + t.due := by
  induction h generalizing t with
  | nil =>
    obtain rfl : t = t' := hpasses
    exact ⟨rfl, rfl⟩
  | cons x rest ih =>
    obtain ⟨m, hturn, hrest⟩ := hpasses
    obtain ⟨howed, hdue⟩ := hturn.balance
    obtain ⟨howed', hdue'⟩ := ih hrest
    rw [← List.singleton_append, fetchesIn_append, updatesIn_append, heardIn_append,
      List.length_append, List.countP_append]
    omega

theorem Turn.owed_le_one (t : Turn) : t.owed ≤ 1 := by
  cases t <;> simp [owed]

end Counts

/-! ### What led to a fetch or an update -/

/-- A fetch was called for, and nothing but what is quiet has happened since. -/
def Called (tables : List TableId) (quiet : List Happening → Prop) (h : List Happening) : Prop :=
  ∃ first n second, h = first ++ .heard n :: second ∧ n.calls tables = true ∧ quiet second

/-- Why it is a turn of this kind. The first fetch is not called for. -/
def Turn.Caused (tables : List TableId) (h : List Happening) : Turn → Prop
  | fetch => .began ∉ h ∧ updatesIn h = [] ∨
      Called tables (fun second => .began ∉ second ∧ updatesIn second = []) h
  | outcome _ | delivery _ => updatesIn h = [] ∨ Called tables (fun second => updatesIn second = []) h
  | notice => True

/-- Tries that failed, each of which was followed by another one. -/
def Retried (config : LiveConfig) (failed : List (Except QueryError (List Json))) : Prop :=
  ∀ i outcome, failed[i]? = some outcome → config.retry.retries i outcome = true

/-- How the tries since the last fetch began have ended. -/
def Turn.Tried (config : LiveConfig) (h : List Happening) : Turn → Prop
  | outcome failures => ∃ before after, h = before ++ .began :: after ∧ .began ∉ after ∧
      updatesIn after = [] ∧ (outcomesIn after).length = failures ∧ Retried config (outcomesIn after)
  | delivery u => ∃ before after failed outcome, h = before ++ .began :: after ∧ .began ∉ after ∧
      updatesIn after = [] ∧ outcomesIn after = failed ++ [outcome] ∧ Retried config failed ∧
      config.retry.retries failed.length outcome = false ∧ u = .ofOutcome outcome
  | fetch | notice => True

section Caused

variable {tables : List TableId} {t t' : Turn} {x : Happening}

theorem Called.append {quiet quiet' : List Happening → Prop} (hcalled : Called tables quiet h)
    (hquiet : ∀ second, quiet second → quiet' (second ++ more)) : Called tables quiet' (h ++ more) := by
  obtain ⟨first, n, second, rfl, hcalls, hsecond⟩ := hcalled
  exact ⟨first, n, second ++ more, by simp, hcalls, hquiet second hsecond⟩

theorem updatesIn_append_eq_nil (hh : updatesIn h = []) (hmore : updatesIn more = []) :
    updatesIn (h ++ more) = [] := by
  rw [updatesIn_append, hh, hmore, List.append_nil]

theorem Retried.concat {failed : List (Except QueryError (List Json))}
    {outcome : Except QueryError (List Json)} (hfailed : Retried config failed)
    (hretries : config.retry.retries failed.length outcome = true) :
    Retried config (failed ++ [outcome]) := by
  intro i outcome' hi
  rcases lt_or_ge i failed.length with hlt | hge
  · rw [List.getElem?_append_left hlt] at hi
    exact hfailed i outcome' hi
  · obtain ⟨hbound, hlast⟩ := List.getElem?_eq_some_iff.mp hi
    rw [List.length_append, List.length_singleton] at hbound
    obtain rfl : i = failed.length := by omega
    rw [List.getElem?_concat_length] at hi
    rwa [← Option.some.inj hi]

theorem Turn.Caused.append (hcaused : t.Caused tables h) (hbegan : .began ∉ more)
    (hupdates : updatesIn more = []) : t.Caused tables (h ++ more) := by
  have hbegins : ∀ {l}, .began ∉ l → .began ∉ l ++ more :=
    fun hl hmem => (List.mem_append.mp hmem).elim hl hbegan
  cases t with
  | fetch =>
    exact hcaused.imp (fun hfirst => ⟨hbegins hfirst.1, updatesIn_append_eq_nil hfirst.2 hupdates⟩)
      fun hcalled => hcalled.append fun second hsecond =>
        ⟨hbegins hsecond.1, updatesIn_append_eq_nil hsecond.2 hupdates⟩
  | outcome | delivery =>
    exact hcaused.imp (fun hfirst => updatesIn_append_eq_nil hfirst hupdates)
      fun hcalled => hcalled.append fun second hsecond => updatesIn_append_eq_nil hsecond hupdates
  | notice => trivial

theorem Turns.caused (hturn : Turns config tables t x t') (hcaused : t.Caused tables h) :
    t'.Caused tables (h ++ [x]) := by
  cases hturn with
  | published | taken | discarded => exact hcaused.append (by simp) rfl
  | began =>
    exact hcaused.imp (fun hfirst => updatesIn_append_eq_nil hfirst.2 rfl)
      fun hcalled => hcalled.append fun second hsecond => updatesIn_append_eq_nil hsecond.2 rfl
  | failed | ended =>
    exact Turn.Caused.append (t := .outcome 0) hcaused (by simp) rfl
  | delivered | ignored => trivial
  | called hcalls => exact .inr ⟨h, _, [], rfl, hcalls, List.not_mem_nil, rfl⟩

theorem Turn.Tried.append (htried : t.Tried config h) (hbegan : .began ∉ more)
    (hupdates : updatesIn more = []) (houtcomes : outcomesIn more = []) : t.Tried config (h ++ more) := by
  have hbegins : ∀ {l}, .began ∉ l → .began ∉ l ++ more :=
    fun hl hmem => (List.mem_append.mp hmem).elim hl hbegan
  have hsame : ∀ l, outcomesIn (l ++ more) = outcomesIn l := fun l => by
    rw [outcomesIn_append, houtcomes, List.append_nil]
  cases t with
  | outcome failures =>
    obtain ⟨before, after, rfl, hlast, hnone, htries⟩ := htried
    refine ⟨before, after ++ more, by simp, hbegins hlast, updatesIn_append_eq_nil hnone hupdates, ?_⟩
    rwa [hsame]
  | delivery u =>
    obtain ⟨before, after, failed, outcome, rfl, hlast, hnone, htries⟩ := htried
    refine ⟨before, after ++ more, failed, outcome, by simp, hbegins hlast,
      updatesIn_append_eq_nil hnone hupdates, ?_⟩
    rwa [hsame]
  | fetch | notice => trivial

theorem Turns.tried (hturn : Turns config tables t x t') (htried : t.Tried config h) :
    t'.Tried config (h ++ [x]) := by
  cases hturn with
  | published | taken => exact htried.append (by simp) rfl rfl
  | discarded | delivered | called | ignored => trivial
  | began => exact ⟨h, [], rfl, List.not_mem_nil, rfl, rfl, by simp [Retried, outcomesIn]⟩
  | @failed failures result hretries =>
    obtain ⟨before, after, rfl, hlast, hnone, rfl, htries⟩ := htried
    have houtcomes : outcomesIn (after ++ [.ended result]) = outcomesIn after ++ [result] :=
      outcomesIn_append _ _
    refine ⟨before, after ++ [.ended result], by simp, by simpa using hlast,
      updatesIn_append_eq_nil hnone rfl, ?_, ?_⟩
    · rw [houtcomes, List.length_append, List.length_singleton]
    · rw [houtcomes]
      exact htries.concat hretries
  | @ended failures result hretries =>
    obtain ⟨before, after, rfl, hlast, hnone, rfl, htries⟩ := htried
    refine ⟨before, after ++ [.ended result], outcomesIn after, result, by simp, by simpa using hlast,
      updatesIn_append_eq_nil hnone rfl, outcomesIn_append _ _, htries, hretries, rfl⟩

theorem Passes.caused_tried (hpasses : Passes config tables .fetch h t) :
    t.Caused tables h ∧ t.Tried config h := by
  induction h using List.reverseRecOn generalizing t with
  | nil =>
    obtain rfl : .fetch = t := hpasses
    exact ⟨.inl ⟨List.not_mem_nil, rfl⟩, trivial⟩
  | append_singleton h x ih =>
    obtain ⟨m, hh, hx⟩ := passes_append.mp hpasses
    have hturn := passes_singleton.mp hx
    exact ⟨hturn.caused (ih hh).1, hturn.tried (ih hh).2⟩

end Caused

end LiveQuery

end NestedRows
