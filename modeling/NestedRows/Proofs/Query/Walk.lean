import NestedRows.Query.Execute
import NestedRows.Proofs.Query.Places
/-!
# Runs as walks

A run goes down the tree of its statements. It can be followed in the list of their places as well: a walk
passes by the places that are not due, visits the others and ends with the first error (`Walk`). What holds
of the fetches of a run is read off the rules of the walk.

A place is due when the visits so far have brought rows of the statement right above with a key. So when
a statement is passed by for want of keys, all those below it are passed by as well: what stands above
them has not been visited, because the paths of the visits all lie before.
-/

namespace NestedRows

variable {σ α β : Type}

/-! ### Places that are due -/

/-- A fetch of the statement at a place. -/
structure Visit where
  place : Place
  keys : List Sql.Literal
  answer : Except QueryError (List Row)

/-- After the given visits, the statement at the place is to be fetched with the given keys. -/
inductive Place.Due (visits : List Visit) (p : Place) (keys : List Sql.Literal) : Prop
  | top (hpath : p.path = []) (hparent : p.parentKey = none) (hkeys : keys = [])
  | below {u : Visit} {rows : List Row} {sub : SubFetch} (hu : u ∈ visits) (hrows : u.answer = .ok rows)
      (hsub : sub ∈ subFetchesOf u.place.statement.components) (hp : p = u.place.below sub)
      (hkeys : keys = distinctKeys rows sub.parentKey) (hne : keys ≠ [])

theorem Place.Due.mono {visits visits' : List Visit} {p : Place} {keys : List Sql.Literal}
    (h : p.Due visits keys) (hsub : visits ⊆ visits') : p.Due visits' keys := by
  cases h with
  | top hpath hparent hkeys => exact .top hpath hparent hkeys
  | below hu hrows hmem hp hkeys hne => exact .below (hsub hu) hrows hmem hp hkeys hne

/-- A walk along `places` after the visits `before`: each place that is due is visited, until there is an
error. `more` are the visits made. -/
inductive Walk (source : RowSource σ) (d : Dialect) :
    List Visit → List Place → σ → List Visit → Option QueryError → σ → Prop
  | done (before : List Visit) (state : σ) : Walk source d before [] state [] none state
  | skip {before more : List Visit} {p : Place} {rest : List Place} {state final : σ}
      {failure : Option QueryError} (hnot : ∀ keys, ¬ p.Due before keys)
      (hrest : Walk source d before rest state more failure final) :
      Walk source d before (p :: rest) state more failure final
  | fetch {before more : List Visit} {p : Place} {rest : List Place} {keys : List Sql.Literal}
      {rows : List Row} {state next final : σ} {failure : Option QueryError} (hdue : p.Due before keys)
      (hanswer : source (p.statement.fetch.render d keys) p.statement.fetch.columns state
        = (.ok rows, next))
      (hrest : Walk source d (before ++ [⟨p, keys, .ok rows⟩]) rest next more failure final) :
      Walk source d before (p :: rest) state (⟨p, keys, .ok rows⟩ :: more) failure final
  | fail {before : List Visit} {p : Place} {rest : List Place} {keys : List Sql.Literal} {e : QueryError}
      {state next : σ} (hdue : p.Due before keys)
      (hanswer : source (p.statement.fetch.render d keys) p.statement.fetch.columns state
        = (.error e, next)) :
      Walk source d before (p :: rest) state [⟨p, keys, .error e⟩] (some e) next

section Walk

variable {source : RowSource σ} {d : Dialect} {before more : List Visit} {places places' : List Place}
  {state final : σ} {failure : Option QueryError}

theorem Walk.append (h : Walk source d before places state more failure final)
    (hnone : failure = none) {places' : List Place} {more' : List Visit} {failure' : Option QueryError}
    {final' : σ} (h' : Walk source d (before ++ more) places' final more' failure' final') :
    Walk source d before (places ++ places') state (more ++ more') failure' final' := by
  induction h with
  | done before state =>
    rwa [List.append_nil] at h'
  | skip hnot _ ih => exact .skip hnot (ih hnone h')
  | fetch hdue hanswer _ ih =>
    apply Walk.fetch hdue hanswer
    apply ih hnone
    rwa [List.append_assoc, List.singleton_append]
  | fail => cases hnone

/-- Nothing is visited after an error. -/
theorem Walk.append_of_failure (h : Walk source d before places state more failure final)
    {e : QueryError} (hsome : failure = some e) (places' : List Place) :
    Walk source d before (places ++ places') state more failure final := by
  induction h with
  | done => cases hsome
  | skip hnot _ ih => exact .skip hnot (ih hsome)
  | fetch hdue hanswer _ ih => exact .fetch hdue hanswer (ih hsome)
  | fail hdue hanswer => exact .fail hdue hanswer

theorem Walk.of_not_due (h : ∀ p ∈ places, ∀ keys, ¬ p.Due before keys) (state : σ) :
    Walk source d before places state [] none state := by
  induction places with
  | nil => exact .done before state
  | cons p rest ih =>
    apply Walk.skip (h p List.mem_cons_self)
    exact ih fun p' hp' => h p' (List.mem_cons_of_mem p hp')

theorem Walk.sublist (h : Walk source d before places state more failure final) :
    (more.map Visit.place).Sublist places := by
  induction h with
  | done => exact .slnil
  | skip _ _ ih => exact ih.cons _
  | fetch _ _ _ ih => exact ih.cons_cons _
  | fail => exact (List.nil_sublist _).cons_cons _

theorem Walk.due (h : Walk source d before places state more failure final) :
    ∀ v ∈ more, v.place.Due (before ++ more) v.keys := by
  induction h with
  | done => simp
  | skip _ _ ih => exact ih
  | fetch hdue _ _ ih =>
    intro v hv
    rcases List.mem_cons.mp hv with rfl | hv
    · exact hdue.mono (List.subset_append_left _ _)
    · have hlater := ih v hv
      rwa [List.append_assoc, List.singleton_append] at hlater
  | fail hdue _ =>
    intro v hv
    obtain rfl := List.mem_singleton.mp hv
    exact hdue.mono (List.subset_append_left _ _)

/-- A visit that fails is the last one, and its error is that of the walk. -/
theorem Walk.failure_eq (h : Walk source d before places state more failure final)
    {first after : List Visit} {v : Visit} {e : QueryError} (hmore : more = first ++ v :: after)
    (hv : v.answer = .error e) : after = [] ∧ failure = some e := by
  induction h generalizing first with
  | done => simp at hmore
  | skip _ _ ih => exact ih hmore
  | fetch _ _ _ ih =>
    cases first with
    | nil =>
      obtain ⟨rfl, -⟩ := List.cons.inj hmore
      cases hv
    | cons w first => exact ih (List.cons.inj hmore).2
  | fail =>
    cases first with
    | nil =>
      obtain ⟨rfl, rfl⟩ := List.cons.inj hmore
      exact ⟨rfl, congrArg some (Except.error.inj hv)⟩
    | cons w first => simp at hmore

theorem Walk.exists_failed (h : Walk source d before places state more failure final) {e : QueryError}
    (hsome : failure = some e) : ∃ v ∈ more, v.answer = .error e := by
  induction h with
  | done => cases hsome
  | skip _ _ ih => exact ih hsome
  | fetch _ _ _ ih =>
    obtain ⟨v, hv, herror⟩ := ih hsome
    exact ⟨v, List.mem_cons_of_mem _ hv, herror⟩
  | fail =>
    obtain rfl := Option.some.inj hsome
    exact ⟨_, List.mem_singleton_self _, rfl⟩

/-- The places are in order, and those visited before lie before those ahead. -/
def InOrder (before : List Visit) (places : List Place) : Prop :=
  (before.map Visit.place ++ places).Pairwise fun p p' => p.path < p'.path

theorem InOrder.lt (h : InOrder before places) {u : Visit} (hu : u ∈ before) {p : Place}
    (hp : p ∈ places) : u.place.path < p.path :=
  (List.pairwise_append.mp h).2.2 _ (List.mem_map_of_mem hu) _ hp

theorem nodup_of_ascending {l : List α} {path : α → List Nat}
    (h : l.Pairwise fun a b => path a < path b) : (l.map path).Nodup := by
  apply List.pairwise_map.mpr
  apply h.imp
  intro a b hlt heq
  rw [heq] at hlt
  exact List.lt_irrefl _ hlt

theorem InOrder.eq_of_path_eq (h : InOrder before places) {u w : Visit} (hu : u ∈ before)
    (hw : w ∈ before) (hpath : u.place.path = w.place.path) : u = w := by
  have hvisits := (List.pairwise_append.mp h).1
  rw [List.pairwise_map] at hvisits
  exact List.inj_on_of_nodup_map (nodup_of_ascending hvisits) hu hw hpath

theorem InOrder.after (h : InOrder before (places ++ places'))
    (hmore : (more.map Visit.place).Sublist places) : InOrder (before ++ more) places' := by
  rw [InOrder, List.map_append, List.append_assoc]
  exact h.sublist ((List.Sublist.refl _).append (hmore.append (List.Sublist.refl _)))

theorem InOrder.rest {p : Place} (h : InOrder before (p :: places)) : InOrder before places :=
  h.sublist ((List.Sublist.refl _).append (List.sublist_cons_self _ _))

theorem InOrder.visited {p : Place} (h : InOrder before (p :: places)) (keys : List Sql.Literal)
    (answer : Except QueryError (List Row)) : InOrder (before ++ [⟨p, keys, answer⟩]) places := by
  have hsplit : InOrder before ([p] ++ places) := h
  exact hsplit.after (List.Sublist.refl _)

theorem InOrder.lt_rest {p p' : Place} (h : InOrder before (p :: places)) (hp : p' ∈ places) :
    p.path < p'.path :=
  (List.pairwise_cons.mp (List.pairwise_append.mp h).2.1).1 p' hp

theorem Place.path_lt_below (p : Place) (sub : SubFetch) : p.path < (p.below sub).path :=
  path_lt_append p.path sub.slot []

/-- Visits behind a place do not make it due: the statement right above stands before it. -/
theorem Place.Due.of_behind {p : Place} {keys : List Sql.Literal} (h : p.Due (before ++ more) keys)
    (hbehind : ∀ u ∈ more, p.path < u.place.path) : p.Due before keys := by
  cases h with
  | top hpath hparent hkeys => exact .top hpath hparent hkeys
  | @below u rows sub hu hrows hsub hp hkeys hne =>
    rcases List.mem_append.mp hu with hu | hu
    · exact .below hu hrows hsub hp hkeys hne
    · have habove := u.place.path_lt_below sub
      rw [← hp] at habove
      exact absurd (List.lt_trans (hbehind u hu) habove) (List.lt_irrefl _)

/-- A place that is due in the end, with no error before it, has been visited. -/
theorem Walk.exists_visit (h : Walk source d before places state more failure final)
    (horder : InOrder before places) {p : Place} {keys : List Sql.Literal} (hp : p ∈ places)
    (hdue : p.Due (before ++ more) keys)
    (hok : ∀ w ∈ more, w.place.path < p.path → ∃ rows, w.answer = .ok rows) :
    ∃ v ∈ more, v.place = p := by
  induction h with
  | done => cases hp
  | @skip before more q rest _ _ _ hnot hrest ih =>
    rcases List.mem_cons.mp hp with rfl | hp
    · have hbehind : ∀ u ∈ more, p.path < u.place.path := fun u hu =>
        horder.lt_rest (hrest.sublist.subset (List.mem_map_of_mem hu))
      exact absurd (hdue.of_behind hbehind) (hnot keys)
    · exact ih horder.rest hp hdue hok
  | fetch _ _ _ ih =>
    rcases List.mem_cons.mp hp with rfl | hp
    · exact ⟨_, List.mem_cons_self, rfl⟩
    · rw [← List.singleton_append, ← List.append_assoc] at hdue
      obtain ⟨v, hv, hplace⟩ :=
        ih (horder.visited _ _) hp hdue fun w hw => hok w (List.mem_cons_of_mem _ hw)
      exact ⟨v, List.mem_cons_of_mem _ hv, hplace⟩
  | fail =>
    rcases List.mem_cons.mp hp with rfl | hp
    · exact ⟨_, List.mem_singleton_self _, rfl⟩
    · obtain ⟨rows, hrows⟩ := hok _ (List.mem_singleton_self _) (horder.lt_rest hp)
      cases hrows

/-- Without keys nothing is due at a statement, nor below it. -/
theorem not_due_of_no_keys {u : Visit} {rows : List Row} {field parentKey : String} {slot : Nat}
    {fetch : Fetch} {components : List Component} (hu : u ∈ before) (hrows : u.answer = .ok rows)
    (hkeys : distinctKeys rows parentKey = [])
    (horder : InOrder before
      ((Component.many field parentKey slot fetch components).places u.place.path)) :
    ∀ p ∈ (Component.many field parentKey slot fetch components).places u.place.path,
      ∀ keys, ¬ p.Due before keys := by
  intro p hp keys hdue
  cases hdue with
  | top hpath _ _ =>
    obtain ⟨sub, -, tail, heq⟩ := Component.exists_path_of_mem _ hp
    simp [hpath] at heq
  | @below w rows' sub hw hrows' hsub hbelow hkeys' hne =>
    rcases List.mem_cons.mp hp with rfl | hp
    · obtain ⟨hpath, hparent, -⟩ := Place.mk.inj hbelow
      obtain rfl := horder.eq_of_path_eq hu hw (List.append_inj' hpath rfl).1
      obtain rfl := Except.ok.inj (hrows.symm.trans hrows')
      obtain rfl := Option.some.inj hparent
      exact hne (hkeys'.trans hkeys)
    · -- the visit would be one of the statement itself or of one below it
      obtain ⟨sub', -, tail, hpath⟩ := exists_path_of_mem _ hp
      have hinit : w.place.path = u.place.path ++ [slot] ++ (sub'.slot :: tail).dropLast := by
        rw [← List.dropLast_append_of_ne_nil (List.cons_ne_nil _ _), ← hpath, hbelow, Place.below,
          List.dropLast_concat]
      have hlt := horder.lt hw List.mem_cons_self
      rw [hinit] at hlt
      exact List.le_append_left hlt

end Walk

end NestedRows
