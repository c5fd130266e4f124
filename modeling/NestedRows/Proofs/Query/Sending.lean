import NestedRows.Query.Flight
import NestedRows.Proofs.Query.Places
/-!
# What a run sends

A run under way sends statements each time it is looked at. A source can keep a log of what it is sent
without anything else becoming different, and a query sends its own statements only: its root, and those
below for keys that were found (`CompiledQuery.launch_sends`, `Flight.advance_sends`). Both are said at once,
of a run over the source with the log beside the run over the source itself (`Run.Sends`).
-/

namespace NestedRows

variable {σ α β : Type}

/-- What a source is sent. -/
structure Sent where
  sql : String
  columns : List OutputColumn

/-- The statement as it is sent for given keys. -/
def Statement.sent (d : Dialect) (s : Statement) (keys : List Sql.Literal) : Sent :=
  ⟨s.fetch.render d keys, s.fetch.columns⟩

/-- The source that also keeps a log of what it is sent. -/
def DeferredSource.logged (source : DeferredSource σ) : DeferredSource (σ × List Sent) where
  start sql columns state :=
    let (ticket, next) := source.start sql columns state.1
    (ticket, (next, state.2 ++ [⟨sql, columns⟩]))
  arrived state := source.arrived state.1
  take? ticket state :=
    (source.take? ticket state.1).map fun (answer, next) => (answer, (next, state.2))
  abandon ticket state := (source.abandon ticket state.1, state.2)

theorem DeferredSource.take?_logged (source : DeferredSource σ) (ticket : Ticket) (state : σ × List Sent) :
    source.logged.take? ticket state
      = (source.take? ticket state.1).map fun (answer, next) => (answer, (next, state.2)) :=
  rfl

/-- One of the given statements is sent, for some key if it is restricted. -/
def SentFrom (d : Dialect) (S : Statement → Prop) (x : Sent) : Prop :=
  ∃ s keys, S s ∧ (s.fetch.filter.isSome → keys ≠ []) ∧ x = s.sent d keys

/-- What is below one of the given statements is given too. -/
def ClosedBelow (S : Statement → Prop) : Prop :=
  ∀ s, S s → ∀ sub ∈ subFetchesOf s.components, S sub.statement

/-- The statements whose rows are awaited are among those given. -/
inductive Flight.Within (S : Statement → Prop) : Flight → Prop
  | fetching (ticket : Ticket) {s : Statement} (h : S s) : Within S (.fetching ticket s)
  | joining (rows : List Row) (s : Statement) {below : List Flight} (h : ∀ f ∈ below, Within S f) :
    Within S (.joining rows s below)
  | landed (objects : List (Option String × Json)) : Within S (.landed objects)
  | failed (e : QueryError) : Within S (.failed e)

/-- Two runs end alike, and behind the log so far the first has noted what it sent: some of the given
statements. A result has the given property. -/
inductive Run.Sends (d : Dialect) (S : Statement → Prop) (P : α → Prop) (log : List Sent) :
    Run (σ × List Sent) α → Run σ α → Prop
  | intro {result : Except QueryError α} {state : σ} {more : List Sent}
      (hmore : ∀ x ∈ more, SentFrom d S x) (hresult : ∀ a, result = .ok a → P a) :
      Sends d S P log (result, (state, log ++ more)) (result, state)

variable {d : Dialect} {S : Statement → Prop} {P : α → Prop} {Q : β → Prop} {log more : List Sent}
  {source : DeferredSource σ}

namespace Run.Sends

theorem nothing {result : Except QueryError α} (hresult : ∀ a, result = .ok a → P a)
    (state : σ × List Sent) : Sends d S P state.2 (result, state) (result, state.1) := by
  have hsends : Sends d S P state.2 (result, (state.1, state.2 ++ [])) (result, state.1) :=
    .intro (by simp) hresult
  rwa [List.append_nil] at hsends

theorem ok {a : α} (h : P a) (state : σ × List Sent) :
    Sends d S P state.2 (.ok a, state) (.ok a, state.1) :=
  nothing (by rintro _ ⟨⟩; exact h) state

theorem error (e : QueryError) (state : σ × List Sent) :
    Sends d S P state.2 (.error e, state) (.error e, state.1) :=
  nothing (by rintro _ ⟨⟩) state

/-- What was sent before comes first. -/
theorem after {r : Run (σ × List Sent) α} {r' : Run σ α} (h : Sends d S P (log ++ more) r r')
    (hmore : ∀ x ∈ more, SentFrom d S x) : Sends d S P log r r' := by
  cases h with
  | intro hlater hresult =>
    rw [List.append_assoc]
    exact .intro (fun x hx => (List.mem_append.mp hx).elim (hmore x) (hlater x)) hresult

theorem next {r : Run (σ × List Sent) α} {r' : Run σ α} {f : α → σ × List Sent → Run (σ × List Sent) β}
    {g : α → σ → Run σ β} (h : Sends d S P log r r')
    (hf : ∀ a state, P a → Sends d S Q state.2 (f a state) (g a state.1)) :
    Sends d S Q log (r.next f) (r'.next g) := by
  cases h with
  | @intro result state more hmore hresult =>
    cases result with
    | ok a => exact (hf a (state, log ++ more) (hresult a rfl)).after hmore
    | error e => exact (error e (state, log ++ more)).after hmore

end Run.Sends

theorem Flight.abandonAll_logged (flights : List Flight) (state : σ × List Sent) :
    abandonAll source.logged flights state = (abandonAll source flights state.1, state.2) := by
  rw [abandonAll, abandonAll]
  induction ticketsOf flights generalizing state with
  | nil => rfl
  | cons ticket rest ih => exact ih (source.logged.abandon ticket state)

/-- Nothing is sent when fetches are given up. -/
theorem Run.Sends.onError {r : Run (σ × List Sent) α} {r' : Run σ α} (h : Sends d S P log r r')
    (flights : List Flight) :
    Sends d S P log (r.onError (Flight.abandonAll source.logged flights))
      (r'.onError (Flight.abandonAll source flights)) := by
  cases h with
  | @intro result state more hmore hresult =>
    cases result with
    | ok a => exact .intro hmore hresult
    | error e =>
      rw [Run.onError, Flight.abandonAll_logged]
      exact .intro hmore hresult

theorem Flight.Within.ofOutcome {result : Except QueryError Flight}
    (h : ∀ f, result = .ok f → f.Within S) : (Flight.ofOutcome result).Within S := by
  cases result with
  | ok f => exact h f rfl
  | error e => exact .failed e

theorem Flight.Within.ofRows (s : Statement) (rows : List Row) {below : List Flight}
    (h : ∀ f ∈ below, f.Within S) : (Flight.ofRows s rows below).Within S := by
  rw [Flight.ofRows]
  split
  · exact .landed _
  · exact .joining rows s h

/-! ### Beginning -/

section Launching

variable {ι : Type} {F : ι → Launcher (σ × List Sent)} {G : ι → Launcher σ} {l : List ι}
  (h : ∀ i ∈ l, ∀ rows state, Run.Sends d S (Flight.Within S) state.2 (F i rows state) (G i rows state.1))

include h

theorem launchTogether_sends (rows : List Row) (state : σ × List Sent) :
    Run.Sends d S (fun flights => ∀ f ∈ flights, f.Within S) state.2
      (launchTogether source.logged (l.map F) rows state)
      (launchTogether source (l.map G) rows state.1) := by
  induction l generalizing state with
  | nil => exact .ok (by simp) state
  | cons i rest ih =>
    rw [List.map_cons, List.map_cons, launchTogether, launchTogether]
    refine (h i List.mem_cons_self rows state).next fun f state hf => ?_
    have hrest := ih (fun j hj => h j (List.mem_cons_of_mem i hj)) state
    refine (hrest.onError [f]).next fun flights state hflights => ?_
    exact .ok (List.forall_mem_cons.mpr ⟨hf, hflights⟩) state

theorem launchInTurn_sends (rows : List Row) {begun : List Flight} (hbegun : ∀ f ∈ begun, f.Within S)
    (state : σ × List Sent) :
    Run.Sends d S (fun flights => ∀ f ∈ flights, f.Within S) state.2
      (launchInTurn source.logged rows (l.map F) begun state)
      (launchInTurn source rows (l.map G) begun state.1) := by
  induction l generalizing begun state with
  | nil => exact .ok hbegun state
  | cons i rest ih =>
    rw [List.map_cons, List.map_cons, launchInTurn, launchInTurn]
    have hfirst := h i List.mem_cons_self rows state
    generalize F i rows state = r, G i rows state.1 = r' at hfirst
    cases hfirst with
    | @intro result next more hmore hresult =>
      -- A flight that has failed stays among those begun, so the outcome is not looked at yet.
      have hbegun' : ∀ f ∈ begun ++ [Flight.ofOutcome result], f.Within S := by
        intro f hf
        rcases List.mem_append.mp hf with hf | hf
        · exact hbegun f hf
        · obtain rfl := List.mem_singleton.mp hf
          exact .ofOutcome hresult
      dsimp only
      split
      · rw [Flight.abandonAll_logged]
        exact .intro hmore (by rintro _ ⟨⟩)
      · have hrest := ih (fun j hj => h j (List.mem_cons_of_mem i hj)) hbegun' (next, state.2 ++ more)
        exact hrest.after hmore

theorem launchAll_sends (rows : List Row) (state : σ × List Sent) :
    Run.Sends d S (fun flights => ∀ f ∈ flights, f.Within S) state.2
      (launchAll source.logged (l.map F) rows state) (launchAll source (l.map G) rows state.1) := by
  rw [launchAll, launchAll, List.length_map, List.length_map]
  split
  · exact launchTogether_sends h rows state
  · exact launchInTurn_sends h rows (by simp) state

theorem Statement.resume_sends (ticket : Ticket) {s : Statement} (hs : S s) (state : σ × List Sent) :
    Run.Sends d S (Flight.Within S) state.2 (s.resume source.logged ticket (l.map F) state)
      (s.resume source ticket (l.map G) state.1) := by
  rw [Statement.resume, Statement.resume, DeferredSource.take?_logged]
  cases source.take? ticket state.1 with
  | none => exact .ok (Flight.Within.fetching ticket hs) state
  | some taken =>
    obtain ⟨answer, next⟩ := taken
    cases answer with
    | error e => exact .error e (next, state.2)
    | ok rows =>
      refine (launchAll_sends h rows (next, state.2)).next fun flights state hflights => ?_
      exact .ok (.ofRows s rows hflights) state

theorem Statement.launchWith_sends {s : Statement} (hs : S s) (keys : List Sql.Literal)
    (state : σ × List Sent) :
    Run.Sends d S (Flight.Within S) state.2 (s.launchWith source.logged d keys (l.map F) state)
      (s.launchWith source d keys (l.map G) state.1) := by
  rw [Statement.launchWith, Statement.launchWith]
  split
  · exact .ok (.landed []) state
  case isFalse hkeys =>
    have hsent : ∀ x ∈ [s.sent d keys], SentFrom d S x := by
      intro x hx
      refine ⟨s, keys, hs, fun hfilter hnone => hkeys ?_, List.mem_singleton.mp hx⟩
      rw [hfilter, hnone]
      rfl
    exact (Statement.resume_sends h _ hs (_, state.2 ++ [s.sent d keys])).after hsent

end Launching

def SubFetch.launcher (source : DeferredSource σ) (d : Dialect) (sub : SubFetch) : Launcher σ :=
  fun rows state => sub.statement.launchWith source d (distinctKeys rows sub.parentKey)
    (launchers source d sub.statement.components) state

mutual

theorem Component.launchers_eq (source : DeferredSource σ) (d : Dialect) :
    (c : Component) → c.launchers source d = c.subFetches.map (SubFetch.launcher source d)
  | .row _ _ => by rw [Component.launchers, Component.subFetches, List.map_nil]
  | .one _ _ children => by rw [Component.launchers, Component.subFetches, launchers_eq]
  | .many _ _ _ _ _ => by
    rw [Component.launchers, Component.subFetches, List.map_cons, List.map_nil]
    rfl

theorem launchers_eq (source : DeferredSource σ) (d : Dialect) :
    (l : List Component) → launchers source d l = (subFetchesOf l).map (SubFetch.launcher source d)
  | [] => by rw [launchers, subFetchesOf, List.map_nil]
  | c :: rest => by
    rw [launchers, subFetchesOf, List.map_append, Component.launchers_eq, launchers_eq]

end

mutual

theorem Component.launcher_sends (hS : ClosedBelow S) : (c : Component) →
    (∀ sub ∈ c.subFetches, S sub.statement) → ∀ sub ∈ c.subFetches, ∀ rows state,
      Run.Sends d S (Flight.Within S) state.2 (sub.launcher source.logged d rows state)
        (sub.launcher source d rows state.1)
  | .row _ _, _ => by simp [Component.subFetches]
  | .one _ _ children, h => launcher_sends hS children h
  | .many field parentKey slot fetch components, h => by
    intro sub hsub rows state
    have hs : S ⟨fetch, components⟩ := h _ (List.mem_singleton_self _)
    obtain rfl := List.mem_singleton.mp hsub
    rw [SubFetch.launcher, SubFetch.launcher, launchers_eq, launchers_eq]
    exact Statement.launchWith_sends (launcher_sends hS components (hS _ hs)) hs _ state

theorem launcher_sends (hS : ClosedBelow S) : (l : List Component) →
    (∀ sub ∈ subFetchesOf l, S sub.statement) → ∀ sub ∈ subFetchesOf l, ∀ rows state,
      Run.Sends d S (Flight.Within S) state.2 (sub.launcher source.logged d rows state)
        (sub.launcher source d rows state.1)
  | [], _ => by simp [subFetchesOf]
  | c :: rest, h => by
    intro sub hsub
    rcases List.mem_append.mp hsub with hsub | hsub
    · exact c.launcher_sends hS (fun sub hsub => h sub (List.mem_append_left _ hsub)) sub hsub
    · exact launcher_sends hS rest (fun sub hsub => h sub (List.mem_append_right _ hsub)) sub hsub

end

theorem CompiledQuery.launch_sends (q : CompiledQuery) (hS : ClosedBelow S) (hq : S q.statement)
    (state : σ × List Sent) :
    Run.Sends d S (Flight.Within S) state.2 (q.launch source.logged d state)
      (q.launch source d state.1) := by
  rw [CompiledQuery.launch, CompiledQuery.launch, launchers_eq, launchers_eq]
  exact Statement.launchWith_sends (launcher_sends hS _ (hS _ hq)) hq [] state

/-! ### Going on -/

namespace Flight

section Looking

variable {F : Flight → Look (σ × List Sent)} {G : Flight → Look σ} {l : List Flight}
  (h : ∀ f ∈ l, ∀ state, Run.Sends d S (Within S) state.2 (F f state) (G f state.1))

include h

theorem lookTogether_sends (state : σ × List Sent) :
    Run.Sends d S (fun flights => ∀ f ∈ flights, f.Within S) state.2
      (lookTogether source.logged (l.map fun f => (f, F f)) state)
      (lookTogether source (l.map fun f => (f, G f)) state.1) := by
  induction l generalizing state with
  | nil => exact .ok (by simp) state
  | cons f rest ih =>
    simp only [List.map_cons, lookTogether, List.map_map, Function.comp_def, List.map_id']
    refine ((h f List.mem_cons_self state).onError rest).next fun f' state hf => ?_
    have hrest := ih (fun g hg => h g (List.mem_cons_of_mem f hg)) state
    refine (hrest.onError [f']).next fun flights state hflights => ?_
    exact .ok (List.forall_mem_cons.mpr ⟨hf, hflights⟩) state

theorem lookInTurn_sends (order : List Nat) {flights : List Flight} (hflights : ∀ f ∈ flights, f.Within S)
    (state : σ × List Sent) :
    Run.Sends d S (fun flights => ∀ f ∈ flights, f.Within S) state.2
      (lookInTurn source.logged (l.map F) order flights state)
      (lookInTurn source (l.map G) order flights state.1) := by
  induction order generalizing flights state with
  | nil => exact .ok hflights state
  | cons i rest ih =>
    rw [lookInTurn, lookInTurn, List.getElem?_map, List.getElem?_map]
    cases hi : l[i]? with
    | none => exact ih hflights state
    | some f =>
      have hlook := h f (List.mem_of_getElem? hi) state
      simp only [Option.map_some]
      generalize F f state = r, G f state.1 = r' at hlook
      cases hlook with
      | @intro result next more hmore hresult =>
        have hset : ∀ g ∈ flights.set i (.ofOutcome result), g.Within S := by
          intro g hg
          rcases List.mem_or_eq_of_mem_set hg with hg | rfl
          · exact hflights g hg
          · exact .ofOutcome hresult
        dsimp only
        split
        · rw [abandonAll_logged]
          exact .intro hmore (by rintro _ ⟨⟩)
        · exact (ih hset (next, state.2 ++ more)).after hmore

theorem lookAll_sends (hl : ∀ f ∈ l, f.Within S) (state : σ × List Sent) :
    Run.Sends d S (fun flights => ∀ f ∈ flights, f.Within S) state.2
      (lookAll source.logged (l.map fun f => (f, F f)) state)
      (lookAll source (l.map fun f => (f, G f)) state.1) := by
  simp only [lookAll, List.length_map, List.map_map, Function.comp_def, List.map_id']
  split
  · exact lookTogether_sends h state
  · exact lookInTurn_sends h _ hl state

end Looking

theorem looks_eq (source : DeferredSource σ) (d : Dialect) :
    (l : List Flight) → looks source d l = l.map fun f => (f, fun state => f.advance source d state)
  | [] => by rw [looks, List.map_nil]
  | f :: rest => by rw [looks, List.map_cons, looks_eq source d rest]

mutual

theorem advance_sends (hS : ClosedBelow S) : (f : Flight) → f.Within S → ∀ state : σ × List Sent,
    Run.Sends d S (Within S) state.2 (f.advance source.logged d state) (f.advance source d state.1)
  | .fetching ticket s, h, state => by
    obtain ⟨-, hs⟩ := h
    rw [advance, advance, launchers_eq, launchers_eq]
    exact Statement.resume_sends (launcher_sends hS _ (hS s hs)) ticket hs state
  | .joining rows s below, h, state => by
    cases h with
    | joining _ _ hbelow =>
      rw [advance, advance, looks_eq, looks_eq]
      refine (lookAll_sends (advance_sends_of_mem hS below hbelow) hbelow state).next ?_
      exact fun flights state hflights => .ok (.ofRows s rows hflights) state
  | .landed objects, h, state => by
    rw [advance, advance]
    exact .ok h state
  | .failed e, h, state => by
    rw [advance, advance]
    exact .ok h state

theorem advance_sends_of_mem (hS : ClosedBelow S) : (l : List Flight) → (∀ f ∈ l, f.Within S) →
    ∀ f ∈ l, ∀ state : σ × List Sent,
      Run.Sends d S (Within S) state.2 (f.advance source.logged d state) (f.advance source d state.1)
  | [], _ => by simp
  | f :: rest, h => by
    obtain ⟨hf, hrest⟩ := List.forall_mem_cons.mp h
    exact List.forall_mem_cons.mpr ⟨f.advance_sends hS hf, advance_sends_of_mem hS rest hrest⟩

end

mutual

theorem within_any : (f : Flight) → f.Within fun _ => True
  | .fetching ticket _ => .fetching ticket trivial
  | .joining rows s below => .joining rows s (within_any_of_mem below)
  | .landed objects => .landed objects
  | .failed e => .failed e

theorem within_any_of_mem : (l : List Flight) → ∀ f ∈ l, f.Within fun _ => True
  | [] => by simp
  | f :: rest => List.forall_mem_cons.mpr ⟨f.within_any, within_any_of_mem rest⟩

end

end Flight

/-! ### Without the log -/

theorem closedBelow_any : ClosedBelow fun _ => True := fun _ _ _ _ => trivial

theorem Run.Sends.unlogged {r : Run (σ × List Sent) α} {r' : Run σ α} (h : Sends d S P log r r') :
    r' = (r.1, r.2.1) := by
  cases h
  rfl

theorem CompiledQuery.unlogged_launch (source : DeferredSource σ) (d : Dialect) (q : CompiledQuery)
    (state : σ × List Sent) : q.launch source d state.1
      = ((q.launch source.logged d state).1, (q.launch source.logged d state).2.1) :=
  (q.launch_sends closedBelow_any trivial state).unlogged

theorem Flight.canAdvance_logged (source : DeferredSource σ) (f : Flight) (state : σ × List Sent) :
    f.canAdvance source.logged state = f.canAdvance source state.1 :=
  rfl

theorem Flight.unlogged_advance (source : DeferredSource σ) (d : Dialect) (f : Flight)
    (state : σ × List Sent) : f.advance source d state.1
      = ((f.advance source.logged d state).1, (f.advance source.logged d state).2.1) :=
  (f.advance_sends closedBelow_any f.within_any state).unlogged

/-! ### The statements of a query -/

namespace CompiledQuery

def Has (q : CompiledQuery) (s : Statement) : Prop := ∃ p ∈ q.places, p.statement = s

theorem has_root (q : CompiledQuery) : q.Has q.statement := ⟨q.top, List.mem_cons_self, rfl⟩

theorem closedBelow_has (q : CompiledQuery) : ClosedBelow q.Has := by
  rintro _ ⟨p, hp, rfl⟩ sub hsub
  exact ⟨p.below sub, below_mem_places hp hsub, rfl⟩

/-- What is sent is the root, or a statement below it for some keys. -/
def Sends (q : CompiledQuery) (d : Dialect) (x : Sent) : Prop :=
  ∃ p ∈ q.places, ∃ keys, (keys = [] ↔ p = q.top) ∧ x = p.statement.sent d keys

theorem sends_of_sentFrom {g : TypeGraph} {sel : Selection} {namespaceName : Option String}
    {q : CompiledQuery} (hq : CompiledQuery.of g sel namespaceName = .ok q) {x : Sent}
    (hx : SentFrom d q.Has x) : q.Sends d x := by
  obtain ⟨s, keys, ⟨p, hp, rfl⟩, hkeys, rfl⟩ := hx
  refine ⟨p, hp, ?_⟩
  rcases List.mem_cons.mp hp with rfl | hbelow
  · refine ⟨[], by simp, ?_⟩
    -- The root is restricted to nothing, whatever the keys are.
    have hfilter := filter_top hq
    rw [Statement.sent, Statement.sent, Fetch.render, Fetch.render, Fetch.restricted, Fetch.restricted,
      hfilter]
  · obtain ⟨c, hfilter⟩ := exists_filter_of_mem hq hbelow
    have hne : p ≠ q.top := by
      rintro rfl
      obtain ⟨sub, -, tail, hpath⟩ := exists_path_of_mem _ hbelow
      cases hpath
    have hsome := hkeys (by rw [hfilter]; rfl)
    exact ⟨keys, ⟨fun hnone => absurd hnone hsome, fun heq => absurd heq hne⟩, rfl⟩

end CompiledQuery

end NestedRows
