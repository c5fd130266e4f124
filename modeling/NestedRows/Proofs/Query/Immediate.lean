import NestedRows.Query.Flight
/-!
# Sources that never wait

A source that answers at once can be used where answers may come later. Then a run has landed as
soon as it is launched, and it has the result of a run in one go, with the same fetches in the same
order (`CompiledQuery.launch_immediate`).
-/

namespace NestedRows

variable {σ α β γ δ : Type}

/-- The answer that a source has given but that has not been taken. -/
abbrev Untaken := Option (Except QueryError (List Row))

/-- A row source that answers at once, as one whose answers may come later. -/
def RowSource.immediate (source : RowSource σ) : DeferredSource (σ × Untaken) where
  start sql columns state :=
    let (answer, state) := source sql columns state.1
    (0, (state, some answer))
  arrived state := if state.2.isSome then [0] else []
  take? _ state := state.2.map fun answer => (answer, (state.1, none))
  abandon _ state := state

/-- Two runs agree: they end in the same state with the same error, or with related results. -/
inductive Run.Agrees (R : α → β → Prop) : Run σ α → Run (σ × Untaken) β → Prop
  | ok {a : α} {b : β} (h : R a b) (state : σ) : Agrees R (.ok a, state) (.ok b, (state, none))
  | error (e : QueryError) (state : σ) : Agrees R (.error e, state) (.error e, (state, none))

/-- Runs that agree and go on in agreement agree. -/
theorem Run.Agrees.next {R : α → β → Prop} {S : γ → δ → Prop} {r : Run σ α}
    {l : Run (σ × Untaken) β} {f : α → σ → Run σ γ} {g : β → σ × Untaken → Run (σ × Untaken) δ}
    (h : Agrees R r l) (hfg : ∀ a b state, R a b → Agrees S (f a state) (g b (state, none))) :
    Agrees S (r.next f) (l.next g) := by
  cases h with
  | ok h state => exact hfg _ _ state h
  | error e state => exact .error e state

/-- A flight has landed with the given objects. -/
def HasLanded (objects : List (Option String × Json)) (f : Flight) : Prop := f = .landed objects

/-- Flights have landed, each with the objects of its group. -/
def HaveLanded (groups : List Groups) (flights : List Flight) : Prop :=
  ∃ objects : List (List (Option String × Json)),
    groups = objects.map group ∧ flights = objects.map .landed

/-- A flight has landed if all flights below have. -/
theorem Flight.ofRows_landed (s : Statement) (rows : List Row)
    (objects : List (List (Option String × Json))) :
    Flight.ofRows s rows (objects.map .landed)
      = .landed (s.assembleAll rows (objects.map group)) := by
  have h : (objects.map Flight.landed).mapM Flight.objects? = some objects := by
    induction objects with
    | nil => rfl
    | cons o rest ih => simp [Flight.objects?, ih]
  rw [Flight.ofRows, h]

/-- Nothing has to be given up. -/
theorem Flight.abandonAll_immediate (source : RowSource σ) (flights : List Flight)
    (state : σ × Untaken) : Flight.abandonAll source.immediate flights state = state := by
  rw [Flight.abandonAll]
  induction Flight.ticketsOf flights with
  | nil => rfl
  | cons t rest ih => exact ih

theorem Run.onError_immediate (source : RowSource σ) (l : Run (σ × Untaken) α)
    (flights : List Flight) :
    l.onError (Flight.abandonAll source.immediate flights) = l := by
  obtain ⟨⟨⟩, state⟩ := l
  · rw [Run.onError, Flight.abandonAll_immediate]
  · rfl

/-- Flights that have landed hide no error, and show that of the next one. -/
theorem Flight.errorInFront?_append {begun : List Flight} {f : Flight}
    (h : ∀ g ∈ begun, ∃ objects, g = .landed objects) :
    Flight.errorInFront? (begun ++ [f]) = Flight.errorInFront? [f] := by
  induction begun with
  | nil => rfl
  | cons g rest ih =>
    obtain ⟨objects, rfl⟩ := h g List.mem_cons_self
    rw [List.cons_append, Flight.errorInFront?]
    exact ih fun g hg => h g (List.mem_cons_of_mem _ hg)

/-- A run that is over: it has landed or ended with an error, and nothing is left untaken. -/
inductive IsOver : Run (σ × Untaken) Flight → Prop
  | landed (objects : List (Option String × Json)) (state : σ) :
    IsOver (.ok (.landed objects), (state, none))
  | failed (e : QueryError) (state : σ) : IsOver (.error e, (state, none))

/-- A flight that has landed is over. -/
theorem Run.Agrees.isOver {r : Run σ (List (Option String × Json))} {l : Run (σ × Untaken) Flight}
    (h : Agrees HasLanded r l) : IsOver l := by
  cases h with
  | ok h state => obtain rfl := h; exact .landed _ state
  | error e state => exact .failed e state

/-- Flights that are over as soon as they begin are begun in turn as they are together. -/
theorem launchInTurn_immediate (source : RowSource σ) (rows : List Row)
    {ls : List (Launcher (σ × Untaken))}
    (h : ∀ launch ∈ ls, ∀ rows state, IsOver (launch rows (state, none))) {begun : List Flight}
    (hb : ∀ g ∈ begun, ∃ objects, g = .landed objects) (state : σ) :
    launchInTurn source.immediate rows ls begun (state, none)
      = (launchTogether source.immediate ls rows (state, none)).next
          fun flights state => (.ok (begun ++ flights), state) := by
  induction ls generalizing begun state with
  | nil => rw [launchInTurn, launchTogether, Run.next, List.append_nil]
  | cons launch rest ih =>
    rw [launchInTurn, launchTogether]
    have hl := h launch List.mem_cons_self rows state
    generalize launch rows (state, none) = l at hl
    cases hl with
    | failed e state =>
      simp only [Flight.ofOutcome, Flight.errorInFront?_append hb, Flight.errorInFront?,
        Flight.abandonAll_immediate, Run.next]
    | landed objects state =>
      simp only [Flight.ofOutcome, Flight.errorInFront?_append hb, Flight.errorInFront?,
        Run.onError_immediate, Run.next]
      rw [ih (fun l hl => h l (List.mem_cons_of_mem _ hl)) fun g hg => by
        rcases List.mem_append.1 hg with hg | hg
        · exact hb g hg
        · exact ⟨objects, List.mem_singleton.1 hg⟩]
      match launchTogether source.immediate rest rows (state, none) with
      | (.ok flights, state) => simp [Run.next]
      | (.error e, state) => rfl

/-- Launchers follow a run: each is over as soon as it begins, and together they end as the run
does. -/
structure Follows (source : RowSource σ) (run : List Row → σ → Run σ (List Groups))
    (ls : List (Launcher (σ × Untaken))) : Prop where
  isOver : ∀ launch ∈ ls, ∀ rows state, IsOver (launch rows (state, none))
  agrees : ∀ rows state,
    Run.Agrees HaveLanded (run rows state) (launchTogether source.immediate ls rows (state, none))

/-- Whether launchers are joined together or in turn makes no difference. -/
theorem Follows.agrees_all {source : RowSource σ} {run : List Row → σ → Run σ (List Groups)}
    {ls : List (Launcher (σ × Untaken))} (h : Follows source run ls) (rows : List Row)
    (state : σ) :
    Run.Agrees HaveLanded (run rows state) (launchAll source.immediate ls rows (state, none)) := by
  have ha := h.agrees rows state
  rw [launchAll]
  split
  · exact ha
  · rw [launchInTurn_immediate source rows h.isOver (by simp) state]
    generalize launchTogether source.immediate ls rows (state, none) = l at ha
    generalize run rows state = r at ha
    cases ha with
    | ok hl state => exact .ok hl state
    | error e state => exact .error e state

/-- No launchers follow a run with nothing to do. -/
theorem Follows.nil (source : RowSource σ) : Follows source (fun _ state => (.ok [], state)) [] :=
  ⟨by simp, fun _ state => .ok ⟨[], rfl, rfl⟩ state⟩

/-- Flights that are joined together begin one after the other. -/
theorem launchTogether_append (source : RowSource σ) (ls ls' : List (Launcher (σ × Untaken)))
    (rows : List Row) (state : σ × Untaken) :
    launchTogether source.immediate (ls ++ ls') rows state
      = (launchTogether source.immediate ls rows state).next fun flights state =>
          (launchTogether source.immediate ls' rows state).next
            fun more state => (.ok (flights ++ more), state) := by
  induction ls generalizing state with
  | nil =>
    match h : launchTogether source.immediate ls' rows state with
    | (.ok _, _) | (.error _, _) => simp [launchTogether, Run.next, h]
  | cons launch rest ih =>
    simp only [List.cons_append, launchTogether, Run.onError_immediate]
    match launch rows state with
    | (.error e, state) => rfl
    | (.ok f, state) =>
      simp only [Run.next, ih]
      match launchTogether source.immediate rest rows state with
      | (.error e, state) => rfl
      | (.ok flights, state) =>
        match h : launchTogether source.immediate ls' rows state with
        | (.ok _, _) | (.error _, _) => simp [h]

/-- Launchers of two runs, one behind the other. -/
theorem Follows.append {source : RowSource σ} {run run' : List Row → σ → Run σ (List Groups)}
    {ls ls' : List (Launcher (σ × Untaken))} (h : Follows source run ls)
    (h' : Follows source run' ls') :
    Follows source (fun rows state => (run rows state).next fun groups state =>
      (run' rows state).next fun more state => (.ok (groups ++ more), state)) (ls ++ ls') where
  isOver launch hl := (List.mem_append.1 hl).elim (h.isOver launch) (h'.isOver launch)
  agrees rows state := by
    rw [launchTogether_append]
    refine (h.agrees rows state).next fun groups flights state hl => ?_
    refine (h'.agrees rows state).next fun more others state hr => ?_
    obtain ⟨objects, rfl, rfl⟩ := hl
    obtain ⟨objects', rfl, rfl⟩ := hr
    exact .ok ⟨objects ++ objects', by simp, by simp⟩ state

/-- A statement is run as in one go, if what is below it is. -/
theorem Statement.launchWith_immediate {source : RowSource σ} (d : Dialect) (s : Statement)
    (keys : List Sql.Literal) (state : σ) {below : List Row → σ → Run σ (List Groups)}
    {ls : List (Launcher (σ × Untaken))} (h : Follows source below ls) :
    Run.Agrees HasLanded (s.runWith source d keys below state)
      (s.launchWith source.immediate d keys ls (state, none)) := by
  rw [Statement.runWith, Statement.launchWith]
  split
  · exact .ok (show HasLanded [] _ from rfl) state
  · simp only [RowSource.immediate, Statement.resume, Option.map_some]
    match source (s.fetch.render d keys) s.fetch.columns state with
    | (.error e, state) => exact .error e state
    | (.ok rows, state) =>
      refine (h.agrees_all rows state).next fun groups flights state hl => ?_
      obtain ⟨objects, rfl, rfl⟩ := hl
      exact .ok (show HasLanded (s.assembleAll rows (objects.map group)) _ from
        Flight.ofRows_landed s rows objects) state

mutual

/-- The statements right below a component are run as in one go. -/
theorem Component.launchers_immediate (source : RowSource σ) (d : Dialect) :
    ∀ c : Component,
      Follows source (c.runBelow source d) (c.launchers source.immediate d)
  | .row _ _ => by
    rw [Component.launchers]
    exact .nil source
  | .one _ _ children => by
    rw [Component.launchers]
    exact launchers_immediate source d children
  | .many _ parentKey _ fetch components => by
    have h (rows : List Row) (state : σ) :=
      Statement.launchWith_immediate d ⟨fetch, components⟩ (distinctKeys rows parentKey) state
        (launchers_immediate source d components)
    rw [Component.launchers]
    refine ⟨fun launch hl rows state => ?_, fun rows state => ?_⟩
    · obtain rfl := List.mem_singleton.1 hl
      exact (h rows state).isOver
    · rw [Component.runBelow]
      simp only [launchTogether, Run.onError_immediate]
      refine (h rows state).next fun objects flight state hl => ?_
      exact .ok ⟨[objects], rfl, congrArg (fun f => [f]) hl⟩ state

/-- The statements right below the components are run as in one go. -/
theorem launchers_immediate (source : RowSource σ) (d : Dialect) :
    ∀ cs : List Component, Follows source (runBelow source d cs) (launchers source.immediate d cs)
  | [] => by
    rw [launchers]
    exact .nil source
  | c :: rest => by
    rw [launchers]
    exact (Component.launchers_immediate source d c).append (launchers_immediate source d rest)

end

/-- **A source that never waits.** A run has landed as soon as it is launched, with the result and
in the state of `CompiledQuery.run`. -/
theorem CompiledQuery.launch_immediate (source : RowSource σ) (d : Dialect) (q : CompiledQuery)
    (state : σ) :
    Run.Agrees (fun rows flight => flight.rows? = some rows) (q.run source d state)
      (q.launch source.immediate d (state, none)) := by
  have h := Statement.launchWith_immediate d q.statement [] state
    (launchers_immediate source d q.statement.components)
  rw [CompiledQuery.run, CompiledQuery.launch, Statement.run]
  generalize Statement.launchWith _ _ _ _ _ _ = l at h ⊢
  generalize Statement.runWith _ _ _ _ _ _ = r at h ⊢
  cases h with
  | ok h state => exact .ok (by rw [HasLanded] at h; subst h; rfl) state
  | error e state => exact .error e state

end NestedRows
