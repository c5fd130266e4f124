import NestedRows.Proofs.Front.Publication
/-!
# Publications at the same time

Publishing takes a version number and then replaces the current snapshot, and calls can be made at the same
time, so that steps of one come between those of another. Each step is one of those that make up the call
(`Stage.iterate_step_called`), and a call may take all of its steps at once while others wait
(`Crowd.runs_call`).

Rebuilds are kept apart by a lock, which a rebuild holds from before its introspection until it has replaced
the snapshot (`Crowd.Runs.lock`). Nothing keeps a direct publication apart from others. If another one comes
between its two steps, the current snapshot may be replaced by an older one; if none does, the version that is
served never decreases.
-/

namespace NestedRows

namespace Front

inductive Stage where
  | called (c : Call)
  /-- A rebuild has the lock. -/
  | locked (p : Catalog.Provider)
  | drafted (s : Schema)
  /-- There is a snapshot to publish, in a rebuild or directly. -/
  | offering (isRebuild : Bool) (s : Snapshot)
  /-- The snapshot has its version. -/
  | numbered (isRebuild : Bool) (s : Snapshot)
  | returned (answer : Answer)

inductive Publishing where
  | numbered (i : Nat) (version : Nat)
  | replaced (i : Nat) (s : Snapshot)

namespace Stage

def ofBuild (isRebuild : Bool) : Except FrontError Snapshot → Stage
  | .ok s => offering isRebuild s
  | .error e => returned (.error e)

def step (f : Front) : Stage → Stage × Front
  | called (.publish s _) => (offering false s, f)
  | called (.publishSchema s) => (ofBuild false (Snapshot.ofSchema s f.namespaceName), f)
  | called (.rebuild p) => (locked p, f)
  | locked p =>
    match p.introspect f.namespaceName with
    | .error e => (returned (.error (.introspection e)), f)
    | .ok tables =>
      match Schema.ofTables tables with
      | .error e => (returned (.error (.schema e)), f)
      | .ok s => (drafted s, f)
  | drafted s =>
    if f.serves s then (returned (.ok none), f)
    else (ofBuild true (Snapshot.ofSchema s f.namespaceName), f)
  | offering isRebuild s =>
    let (version, f) := f.takeVersion
    (numbered isRebuild { s with version }, f)
  | numbered _ s => (returned (.ok (some s)), f.replace s)
  | returned answer => (returned answer, f)

/-- What the next step of a call does to the front. -/
def publishings (f : Front) (i : Nat) : Stage → List Publishing
  | .offering _ _ => [.numbered i (f.versions + 1)]
  | .numbered _ s => [.replaced i s]
  | .called _ | .locked _ | .drafted _ | .returned _ => []

/-- Whether the call has to wait for the lock of rebuilds. -/
def wantsLock : Stage → Bool
  | called (.rebuild _) => true
  | _ => false

def holdsLock : Stage → Bool
  | locked _ | drafted _ => true
  | offering isRebuild _ | numbered isRebuild _ => isRebuild
  | called _ | returned _ => false

def isBetween : Stage → Bool
  | numbered _ _ => true
  | _ => false

def hasReturned : Stage → Bool
  | returned _ => true
  | _ => false

/-- The steps of a call that is alone are the call. -/
theorem iterate_step_called (c : Call) (f : Front) :
    (fun c : Stage × Front => c.1.step c.2)^[5] (called c, f) = (returned (f.call c).1, (f.call c).2) := by
  cases c with
  | publish s built => rfl
  | publishSchema s =>
    rw [Front.call, publishSchema, Function.iterate_succ_apply]
    simp only [step]
    cases Snapshot.ofSchema s f.namespaceName <;> rfl
  | rebuild p =>
    rw [Front.call, rebuild, Function.iterate_succ_apply, Function.iterate_succ_apply]
    simp only [step]
    cases p.introspect f.namespaceName with
    | error e => rfl
    | ok tables =>
      simp only []
      cases Schema.ofTables tables with
      | error e => rfl
      | ok s =>
        simp only []
        rw [Function.iterate_succ_apply]
        simp only []
        cases f.serves s with
        | true => rfl
        | false =>
          rw [publishSchema]
          cases Snapshot.ofSchema s f.namespaceName <;> rfl

theorem holdsLock_step {f : Front} {stage : Stage} (h : (stage.step f).1.holdsLock = true) :
    stage.holdsLock = true ∨ stage.wantsLock = true := by
  cases stage with
  | called c =>
    cases c with
    | publish s built => cases h
    | publishSchema s =>
      rw [step] at h
      cases hs : Snapshot.ofSchema s f.namespaceName <;> simp [hs, ofBuild, holdsLock] at h
    | rebuild p => exact .inr rfl
  | locked p | drafted s => exact .inl rfl
  | offering isRebuild s => exact .inl h
  | numbered isRebuild s | returned answer => cases h

/-- A step takes a version, or replaces the snapshot with one that has taken its version before, or leaves
the front as it is. -/
theorem step_cases (f : Front) (stage : Stage) :
    (∃ isRebuild s, stage = offering isRebuild s ∧ stage.step f =
      (numbered isRebuild { s with version := f.versions + 1 }, { f with versions := f.versions + 1 })) ∨
    (∃ isRebuild s, stage = numbered isRebuild s ∧
      stage.step f = (returned (.ok (some s)), f.replace s)) ∨
    (stage.isBetween = false ∧ (∀ i, stage.publishings f i = []) ∧
      (stage.step f).1.isBetween = false ∧ (stage.step f).1.wantsLock = false ∧ (stage.step f).2 = f) := by
  have hbetween : ∀ isRebuild r, (ofBuild isRebuild r).isBetween = false := fun _ r => by cases r <;> rfl
  have hwants : ∀ isRebuild r, (ofBuild isRebuild r).wantsLock = false := fun _ r => by cases r <;> rfl
  cases stage with
  | offering isRebuild s => exact .inl ⟨isRebuild, s, rfl, rfl⟩
  | numbered isRebuild s => exact .inr (.inl ⟨isRebuild, s, rfl, rfl⟩)
  | called c =>
    refine .inr (.inr ⟨rfl, fun _ => rfl, ?_⟩)
    cases c with
    | publish s built => exact ⟨rfl, rfl, rfl⟩
    | publishSchema s => exact ⟨hbetween _ _, hwants _ _, rfl⟩
    | rebuild p => exact ⟨rfl, rfl, rfl⟩
  | locked p =>
    refine .inr (.inr ⟨rfl, fun _ => rfl, ?_⟩)
    rw [step]
    cases p.introspect f.namespaceName with
    | error e => exact ⟨rfl, rfl, rfl⟩
    | ok tables =>
      simp only []
      cases Schema.ofTables tables <;> exact ⟨rfl, rfl, rfl⟩
  | drafted s =>
    refine .inr (.inr ⟨rfl, fun _ => rfl, ?_⟩)
    rw [step]
    by_cases hserves : f.serves s = true
    · rw [if_pos hserves]
      exact ⟨rfl, rfl, rfl⟩
    · rw [if_neg hserves]
      exact ⟨hbetween _ _, hwants _ _, rfl⟩
  | returned answer => exact .inr (.inr ⟨rfl, fun _ => rfl, rfl, rfl, rfl⟩)

/-- Only a call that has not begun waits for the lock. -/
theorem wantsLock_step (f : Front) (stage : Stage) : (stage.step f).1.wantsLock = false := by
  rcases stage.step_cases f with ⟨isRebuild, s, rfl, -⟩ | ⟨isRebuild, s, rfl, -⟩ | ⟨-, -, -, hwants, -⟩
  · rfl
  · rfl
  · exact hwants

end Stage

/-! ### Runs -/

def versionsIn (h : List Publishing) : List Nat :=
  h.filterMap fun | .numbered _ version => some version | .replaced _ _ => none

def shownIn (h : List Publishing) : List Snapshot :=
  h.filterMap fun | .numbered _ _ => none | .replaced _ s => some s

/-- The version that is served; zero if there is none. -/
def shown (f : Front) : Nat := (f.current.map Snapshot.version).getD 0

/-- A front and the calls made to it, however far they have come. -/
structure Crowd where
  front : Front
  stages : List Stage := []

namespace Crowd

/-- Any number of calls and of their steps, with what they did to the front. A rebuild waits until no other
has the lock. -/
inductive Runs (allowed : List Stage → Stage → Prop) (w : Crowd) : List Publishing → Crowd → Prop
  | start : Runs allowed w [] w
  | call {h : List Publishing} {w' : Crowd} (hrun : Runs allowed w h w') (c : Call) :
      Runs allowed w h { w' with stages := w'.stages ++ [.called c] }
  | step {h : List Publishing} {w' : Crowd} (hrun : Runs allowed w h w') (i : Nat) (stage : Stage)
      (hstage : w'.stages[i]? = some stage)
      (hlock : stage.wantsLock = true → ∀ other ∈ w'.stages, other.holdsLock = false)
      (hallowed : allowed w'.stages stage) :
      Runs allowed w (h ++ stage.publishings w'.front i)
        ⟨(stage.step w'.front).2, w'.stages.set i (stage.step w'.front).1⟩

/-- A version is only taken while no other call is between its two steps, except that rebuilds need not care
about each other. -/
def KeepsApart (stages : List Stage) : Stage → Prop
  | .offering isRebuild _ => ∀ other s, .numbered other s ∈ stages → isRebuild = true ∧ other = true
  | .called _ | .locked _ | .drafted _ | .numbered _ _ | .returned _ => True

def AtMostOne (p : Stage → Bool) (stages : List Stage) : Prop :=
  ∀ (i j : Nat) (a b : Stage), stages[i]? = some a → stages[j]? = some b → p a = true → p b = true → i = j

variable {allowed : List Stage → Stage → Prop} {p : Stage → Bool} {stages : List Stage} {i : Nat}
  {stage stage' : Stage}

theorem AtMostOne.nil : AtMostOne p [] := fun _ _ _ _ ha => by cases ha

theorem AtMostOne.append (h : AtMostOne p stages) (hp : p stage = false) :
    AtMostOne p (stages ++ [stage]) := by
  have hold : ∀ {i : Nat} {a : Stage}, (stages ++ [stage])[i]? = some a → p a = true → stages[i]? = some a := by
    intro i a ha hpa
    rw [List.getElem?_append] at ha
    split at ha
    · exact ha
    · rw [List.mem_singleton.mp (List.mem_of_getElem? ha), hp] at hpa
      cases hpa
  exact fun i j a b ha hb hpa hpb => h i j a b (hold ha hpa) (hold hb hpb) hpa hpb

theorem AtMostOne.set (h : AtMostOne p stages) (hstage : stages[i]? = some stage)
    (hp : p stage' = true → p stage = true ∨ ∀ other ∈ stages, p other = false) :
    AtMostOne p (stages.set i stage') := by
  have hcases : ∀ {j : Nat} {a : Stage}, (stages.set i stage')[j]? = some a →
      (i = j ∧ a = stage') ∨ (i ≠ j ∧ stages[j]? = some a) := by
    intro j a ha
    rw [List.getElem?_set] at ha
    split at ha
    case isTrue hij =>
      split at ha
      · exact .inl ⟨hij, (Option.some.inj ha).symm⟩
      · cases ha
    case isFalse hij => exact .inr ⟨hij, ha⟩
  -- whoever was in such a stage before was the one that took the step
  have hother : ∀ {j : Nat} {a : Stage}, i ≠ j → stages[j]? = some a → p a = true → p stage' = true →
      False := by
    intro j a hij ha hpa hnew
    rcases hp hnew with hpi | hnone
    · exact hij (h _ _ _ _ hstage ha hpi hpa)
    · rw [hnone a (List.mem_of_getElem? ha)] at hpa
      cases hpa
  intro j k a b ha hb hpa hpb
  rcases hcases ha with ⟨rfl, heq⟩ | ⟨hj, ha⟩ <;> rcases hcases hb with ⟨rfl, heq'⟩ | ⟨hk, hb⟩
  · rfl
  · exact (hother hk hb hpb (heq ▸ hpa)).elim
  · exact (hother hj ha hpa (heq' ▸ hpb)).elim
  · exact h j k a b ha hb hpa hpb

theorem AtMostOne.none_after (h : AtMostOne p stages) (hstage : stages[i]? = some stage) (hp : p stage = true)
    (hp' : p stage' = false) : ∀ other ∈ stages.set i stage', p other = false := by
  intro other hmem
  obtain ⟨j, hj⟩ := List.mem_iff_getElem?.mp hmem
  rw [List.getElem?_set] at hj
  split at hj
  case isTrue =>
    split at hj
    · rw [← Option.some.inj hj, hp']
    · cases hj
  case isFalse hij => exact Bool.eq_false_iff.mpr fun hother => hij (h _ _ _ _ hstage hj hp hother)

theorem Runs.trans {w w' w'' : Crowd} {h more : List Publishing} (hrun : Runs allowed w h w')
    (hmore : Runs allowed w' more w'') : Runs allowed w (h ++ more) w'' := by
  induction hmore with
  | start => exact (List.append_nil h).symm ▸ hrun
  | call _ c ih => exact ih.call c
  | step _ i stage hstage hlock hallowed ih =>
    rw [← List.append_assoc]
    exact ih.step i stage hstage hlock hallowed

/-- At any time at most one rebuild has the lock. -/
theorem Runs.lock {w w' : Crowd} {h : List Publishing} (hrun : Runs allowed w h w')
    (hw : AtMostOne Stage.holdsLock w.stages) : AtMostOne Stage.holdsLock w'.stages := by
  induction hrun with
  | start => exact hw
  | call _ c ih => exact ih.append rfl
  | step _ i stage hstage hlock _ ih =>
    exact ih.set hstage fun hnext => (Stage.holdsLock_step hnext).imp_right hlock

/-- The versions taken are the numbers from one on, and the snapshot in place is that put there last. -/
theorem Runs.counts {namespaceName : String} {w : Crowd} {h : List Publishing}
    (hrun : Runs allowed ⟨{ namespaceName }, []⟩ h w) :
    versionsIn h = List.range' 1 w.front.versions ∧ w.front.current = (shownIn h).getLast? := by
  induction hrun with
  | start => exact ⟨rfl, rfl⟩
  | call _ c ih => exact ih
  | @step h w _ i stage _ _ _ ih =>
    obtain ⟨hversions, hcurrent⟩ := ih
    rcases stage.step_cases w.front with ⟨isRebuild, s, rfl, hstep⟩ | ⟨isRebuild, s, rfl, hstep⟩ |
      ⟨-, hnothing, -, -, hstep⟩
    · rw [hstep, versionsIn, shownIn, List.filterMap_append, List.filterMap_append]
      refine ⟨?_, ?_⟩
      · rw [List.range'_1_concat, ← hversions, Nat.add_comm 1]
        rfl
      · exact hcurrent.trans (congrArg List.getLast? (List.append_nil _).symm)
    · rw [hstep, versionsIn, shownIn, List.filterMap_append, List.filterMap_append]
      refine ⟨?_, ?_⟩
      · exact (List.append_nil _).trans hversions
      · exact List.getLast?_concat.symm
    · rw [hstep, hnothing, List.append_nil]
      exact ⟨hversions, hcurrent⟩

/-! ### One after the other -/

/-- At most one call is between its steps. It has the last version, and an older one is served; if there is
none, the last version is served. -/
structure Orderly (w : Crowd) : Prop where
  lock : AtMostOne Stage.holdsLock w.stages
  between : AtMostOne Stage.isBetween w.stages
  numbered : ∀ isRebuild s, .numbered isRebuild s ∈ w.stages →
    s.version = w.front.versions ∧ w.front.shown < w.front.versions
  settled : (∀ stage ∈ w.stages, stage.isBetween = false) → w.front.shown = w.front.versions

theorem orderly_start (namespaceName : String) : Orderly ⟨{ namespaceName }, []⟩ where
  lock := .nil
  between := .nil
  numbered := fun _ _ hmem => by cases hmem
  settled := fun _ => rfl

theorem Orderly.call {w : Crowd} (h : w.Orderly) (c : Call) :
    Orderly { w with stages := w.stages ++ [.called c] } where
  lock := h.lock.append rfl
  between := h.between.append rfl
  numbered := fun isRebuild s hmem => by
    rcases List.mem_append.mp hmem with hmem | hmem
    · exact h.numbered isRebuild s hmem
    · cases List.mem_singleton.mp hmem
  settled := fun hnone => h.settled fun other hmem => hnone other (List.mem_append_left _ hmem)

/-- A call takes its version only when no other is between its steps: a direct publication since it is kept
apart, and a rebuild since the other would have the lock. -/
theorem Orderly.none_between {w : Crowd} (h : w.Orderly) {isRebuild : Bool} {s : Snapshot}
    (hstage : w.stages[i]? = some (.offering isRebuild s))
    (hapart : KeepsApart w.stages (.offering isRebuild s)) : ∀ other ∈ w.stages, other.isBetween = false := by
  intro other hmem
  cases other with
  | numbered otherIsRebuild s' =>
    obtain ⟨rfl, rfl⟩ := hapart otherIsRebuild s' hmem
    obtain ⟨j, hj⟩ := List.mem_iff_getElem?.mp hmem
    obtain rfl := h.lock i j _ _ hstage hj rfl rfl
    rw [hstage] at hj
    cases hj
  | called | locked | drafted | offering | returned => rfl

theorem Orderly.step {w : Crowd} (h : w.Orderly) (hstage : w.stages[i]? = some stage)
    (hlock : stage.wantsLock = true → ∀ other ∈ w.stages, other.holdsLock = false)
    (hapart : KeepsApart w.stages stage) :
    Orderly ⟨(stage.step w.front).2, w.stages.set i (stage.step w.front).1⟩ ∧
      w.front.shown ≤ (stage.step w.front).2.shown := by
  have hlocks : AtMostOne Stage.holdsLock (w.stages.set i (stage.step w.front).1) :=
    h.lock.set hstage fun hnext => (Stage.holdsLock_step hnext).imp_right hlock
  rcases stage.step_cases w.front with ⟨isRebuild, s, rfl, hstep⟩ | ⟨isRebuild, s, rfl, hstep⟩ |
    ⟨hquiet, -, hnext, -, hsame⟩
  · -- a version is taken: the last one is served, and this call is between its steps from now on
    have hnone := h.none_between hstage hapart
    have hshown := h.settled hnone
    rw [hstep] at hlocks ⊢
    refine ⟨⟨hlocks, h.between.set hstage fun _ => .inr hnone, fun isRebuild' s' hmem => ?_, fun hall => ?_⟩,
      Nat.le_refl _⟩
    · rcases List.mem_or_eq_of_mem_set hmem with hmem | heq
      · cases hnone _ hmem
      · cases heq
        exact ⟨rfl, Nat.lt_succ_of_le (Nat.le_of_eq hshown)⟩
    · have hthere := (List.getElem?_eq_some_iff.mp hstage).1
      cases hall _ (List.mem_set hthere _)
  · -- the snapshot is replaced: this call was the only one between its steps, and its version is the last
    obtain ⟨hversion, hlt⟩ := h.numbered isRebuild s (List.mem_of_getElem? hstage)
    have hnone : ∀ other ∈ w.stages.set i (.returned (.ok (some s))), other.isBetween = false :=
      h.between.none_after hstage rfl rfl
    have hshown : (w.front.replace s).shown = w.front.versions := hversion
    rw [hstep] at hlocks ⊢
    refine ⟨⟨hlocks, h.between.set hstage nofun, fun isRebuild' s' hmem => ?_, fun _ => hshown⟩, ?_⟩
    · cases hnone _ hmem
    · rw [hshown]
      exact Nat.le_of_lt hlt
  · rw [hsame]
    refine ⟨⟨hlocks, h.between.set hstage fun hbetween => ?_, fun isRebuild' s' hmem => ?_, fun hall => ?_⟩,
      Nat.le_refl _⟩
    · rw [hnext] at hbetween
      cases hbetween
    · rcases List.mem_or_eq_of_mem_set hmem with hmem | heq
      · exact h.numbered isRebuild' s' hmem
      · rw [← heq] at hnext
        cases hnext
    · refine h.settled fun other hmem => ?_
      obtain ⟨j, hj⟩ := List.mem_iff_getElem?.mp hmem
      by_cases hij : i = j
      · rw [← hij, hstage] at hj
        rw [← Option.some.inj hj, hquiet]
      · exact hall other (List.mem_of_getElem? ((List.getElem?_set_ne hij).trans hj))

theorem Runs.orderly {w w' : Crowd} {h : List Publishing} (hrun : Runs KeepsApart w h w') (hw : w.Orderly) :
    w'.Orderly ∧ w.front.shown ≤ w'.front.shown := by
  induction hrun with
  | start => exact ⟨hw, Nat.le_refl _⟩
  | call _ c ih => exact ⟨ih.1.call c, ih.2⟩
  | step _ i stage hstage hlock hallowed ih =>
    obtain ⟨horderly, hle⟩ := ih.1.step hstage hlock hallowed
    exact ⟨horderly, ih.2.trans hle⟩

/-- The version that is served never decreases, and when all calls have returned it is the highest of those
taken, as long as no other call comes between the two steps of a direct publication. Rebuilds need no such care.
Whatever comes between, versions are taken in order, and what is served was put in place last. -/
theorem never_goes_back (namespaceName : String) :
    (∀ {h w}, Runs KeepsApart ⟨{ namespaceName }, []⟩ h w →
      (∀ {more w'}, Runs KeepsApart w more w' → w.front.shown ≤ w'.front.shown) ∧
      ((∀ stage ∈ w.stages, stage.hasReturned = true) →
        w.front.shown = w.front.versions ∧ ∀ version ∈ versionsIn h, version ≤ w.front.shown)) ∧
    ∀ {h w}, Runs (fun _ _ => True) ⟨{ namespaceName }, []⟩ h w →
      AtMostOne Stage.holdsLock w.stages ∧ versionsIn h = List.range' 1 w.front.versions ∧
        w.front.current = (shownIn h).getLast? := by
  refine ⟨fun {h w} hrun => ?_, fun {h w} hrun => ⟨hrun.lock .nil, hrun.counts⟩⟩
  have horderly := (hrun.orderly (orderly_start namespaceName)).1
  refine ⟨fun hmore => (hmore.orderly horderly).2, fun hreturned => ?_⟩
  have hshown : w.front.shown = w.front.versions := by
    refine horderly.settled fun stage hmem => ?_
    have hstage := hreturned stage hmem
    cases stage with
    | returned => rfl
    | called | locked | drafted | offering | numbered => cases hstage
  refine ⟨hshown, fun version hmem => ?_⟩
  rw [hrun.counts.1, List.mem_range'_1] at hmem
  omega

/-! ### Calls as a whole -/

theorem runs_step_last {w w' : Crowd} {h : List Publishing} {rest : List Stage} (hrun : Runs KeepsApart w h w')
    (hstages : w'.stages = rest ++ [stage])
    (hlock : stage.wantsLock = true → ∀ other ∈ rest, other.holdsLock = false)
    (hquiet : ∀ other ∈ rest, other.isBetween = false) :
    ∃ more, Runs KeepsApart w (h ++ more) ⟨(stage.step w'.front).2, rest ++ [(stage.step w'.front).1]⟩ := by
  have hrest : ∀ {other}, other ∈ w'.stages → other ∈ rest ∨ other = stage := by
    intro other hmem
    rw [hstages] at hmem
    exact (List.mem_append.mp hmem).imp_right List.mem_singleton.mp
  have hstage : w'.stages[rest.length]? = some stage := by simp [hstages]
  have hnext := hrun.step _ _ hstage (fun hwants other hmem => ?_) ?_
  · rw [hstages, List.set_append_right _ _ (Nat.le_refl _), Nat.sub_self] at hnext
    exact ⟨_, hnext⟩
  · rcases hrest hmem with hmem | rfl
    · exact hlock hwants other hmem
    · cases other with
      | called => rfl
      | locked | drafted | offering | numbered | returned => cases hwants
  · cases stage with
    | offering isRebuild s =>
      intro other s' hmem
      rcases hrest hmem with hmem | heq
      · cases hquiet _ hmem
      · cases heq
    | called | locked | drafted | numbered | returned => trivial

/-- A call can take all of its steps while no other is between its two, and a rebuild if no other has the
lock. -/
theorem runs_call {w w' : Crowd} {h : List Publishing} (hrun : Runs KeepsApart w h w') (c : Call)
    (hlock : (Stage.called c).wantsLock = true → ∀ other ∈ w'.stages, other.holdsLock = false)
    (hquiet : ∀ other ∈ w'.stages, other.isBetween = false) :
    ∃ more, Runs KeepsApart w (h ++ more)
      ⟨(w'.front.call c).2, w'.stages ++ [.returned (w'.front.call c).1]⟩ := by
  let after : Nat → Stage × Front := fun n => (fun c : Stage × Front => c.1.step c.2)^[n] (.called c, w'.front)
  have hafter : ∀ n, after (n + 1) = (after n).1.step (after n).2 := fun n =>
    Function.iterate_succ_apply' (fun c : Stage × Front => c.1.step c.2) n _
  have hwants : ∀ n, (after n).1.wantsLock = true → (Stage.called c).wantsLock = true := by
    intro n h
    cases n with
    | zero => exact h
    | succ n =>
      rw [hafter, Stage.wantsLock_step] at h
      cases h
  have hsteps : ∀ n, ∃ more, Runs KeepsApart w (h ++ more) ⟨(after n).2, w'.stages ++ [(after n).1]⟩ := by
    intro n
    induction n with
    | zero => exact ⟨[], (List.append_nil h).symm ▸ hrun.call c⟩
    | succ n ih =>
      obtain ⟨more, hmore⟩ := ih
      obtain ⟨last, hlast⟩ := runs_step_last hmore rfl (fun hn => hlock (hwants n hn)) hquiet
      rw [List.append_assoc, ← hafter] at hlast
      exact ⟨_, hlast⟩
  obtain ⟨more, hmore⟩ := hsteps 5
  have hreturned : after 5 = (.returned (w'.front.call c).1, (w'.front.call c).2) :=
    Stage.iterate_step_called c w'.front
  rw [hreturned] at hmore
  exact ⟨more, hmore⟩

def blank : Snapshot where
  version := 0
  schema := ⟨∅⟩
  graph := ⟨∅, []⟩
  namespaceName := "main"

theorem isBuilt_blank : blank.IsBuilt := rfl

def blankAs (version : Nat) : Snapshot := { blank with version }

def noTables : Catalog.Provider := .ofTables []

/-- A direct publication while one rebuild has the lock and another waits for it: the first rebuild publishes
behind it, and the second finds its schema served already. -/
theorem never_goes_back_blank :
    let start : Crowd := ⟨{ namespaceName := "main" }, []⟩
    let amid : Crowd := ⟨{ namespaceName := "main", versions := 1 },
      [.offering true blank, .called (.rebuild noTables), .numbered false (blankAs 1)]⟩
    let done : Crowd := ⟨{ namespaceName := "main", versions := 2, current := some (blankAs 2) },
      [.returned (.ok (some (blankAs 2))), .returned (.ok none), .returned (.ok (some (blankAs 1)))]⟩
    Runs KeepsApart start [.numbered 2 1] amid ∧
      Runs KeepsApart amid [.replaced 2 (blankAs 1), .numbered 0 2, .replaced 0 (blankAs 2)] done ∧
      amid.front.shown ≤ done.front.shown ∧ (∀ stage ∈ done.stages, stage.hasReturned = true) ∧
      done.front.shown = done.front.versions ∧ done.front.shown = 2 := by
  intro start amid done
  have hcalled : Runs KeepsApart start [] ⟨start.front, [.called (.rebuild noTables)]⟩ := Runs.start.call _
  have hlocked : Runs KeepsApart start [] ⟨start.front, [.locked noTables]⟩ :=
    hcalled.step 0 _ rfl (by simp [Stage.holdsLock]) trivial
  have hoffering : Runs KeepsApart start [] ⟨start.front, [.offering true blank]⟩ :=
    (hlocked.step 0 _ rfl nofun trivial).step 0 _ rfl nofun trivial
  have hwaiting : Runs KeepsApart start []
      ⟨start.front, [.offering true blank, .called (.rebuild noTables), .offering false blank]⟩ :=
    ((hoffering.call (.rebuild noTables)).call (.publish blank isBuilt_blank)).step 2 _ rfl nofun trivial
  have hamid : Runs KeepsApart start [.numbered 2 1] amid :=
    hwaiting.step 2 _ rfl nofun (by simp [KeepsApart])
  have hreplaced : Runs KeepsApart amid [.replaced 2 (blankAs 1)]
      ⟨{ namespaceName := "main", versions := 1, current := some (blankAs 1) },
        [.offering true blank, .called (.rebuild noTables), .returned (.ok (some (blankAs 1)))]⟩ :=
    Runs.start.step 2 (.numbered false (blankAs 1)) rfl nofun trivial
  have hpublished : Runs KeepsApart amid [.replaced 2 (blankAs 1), .numbered 0 2, .replaced 0 (blankAs 2)]
      ⟨done.front, [.returned (.ok (some (blankAs 2))), .called (.rebuild noTables),
        .returned (.ok (some (blankAs 1)))]⟩ :=
    (hreplaced.step 0 _ rfl nofun (by simp [KeepsApart])).step 0 _ rfl nofun trivial
  have hdrafted : Runs KeepsApart amid [.replaced 2 (blankAs 1), .numbered 0 2, .replaced 0 (blankAs 2)]
      ⟨done.front, [.returned (.ok (some (blankAs 2))), .drafted blank.schema,
        .returned (.ok (some (blankAs 1)))]⟩ :=
    (hpublished.step 1 _ rfl (by simp [Stage.holdsLock]) trivial).step 1 _ rfl nofun trivial
  have hserved : done.front.serves blank.schema = true := decide_eq_true rfl
  have hlast : (Stage.drafted blank.schema).step done.front = (.returned (.ok none), done.front) :=
    if_pos hserved
  have hdone := hdrafted.step 1 _ rfl nofun trivial
  rw [hlast] at hdone
  have hall : ∀ stage ∈ done.stages, stage.hasReturned = true := by simp [done, Stage.hasReturned]
  obtain ⟨hmore, -⟩ := (never_goes_back "main").1 hamid
  obtain ⟨-, hreturned⟩ := (never_goes_back "main").1 (hamid.trans hdone)
  exact ⟨hamid, hdone, hmore hdone, hall, (hreturned hall).1, rfl⟩

/-- Two publications of which one takes its steps between those of the other: the version that is served goes
back from two to one, and so it stays. -/
theorem goes_back_overlapping :
    let newer : Crowd := ⟨{ namespaceName := "main", versions := 2, current := some (blankAs 2) },
      [.numbered false (blankAs 1), .returned (.ok (some (blankAs 2)))]⟩
    let older : Crowd := ⟨{ namespaceName := "main", versions := 2, current := some (blankAs 1) },
      [.returned (.ok (some (blankAs 1))), .returned (.ok (some (blankAs 2)))]⟩
    Runs (fun _ _ => True) ⟨{ namespaceName := "main" }, []⟩
        [.numbered 0 1, .numbered 1 2, .replaced 1 (blankAs 2)] newer ∧
      Runs (fun _ _ => True) newer [.replaced 0 (blankAs 1)] older ∧
      newer.front.shown = 2 ∧ older.front.shown = 1 := by
  intro newer older
  have hstart : Runs (fun _ _ => True) ⟨{ namespaceName := "main" }, []⟩ [] _ := .start
  have hcalled := (hstart.call (.publish blank isBuilt_blank)).call (.publish blank isBuilt_blank)
  have hoffering := (hcalled.step 0 _ rfl nofun trivial).step 1 _ rfl nofun trivial
  have hnumbered := (hoffering.step 0 _ rfl nofun trivial).step 1 _ rfl nofun trivial
  have hnewer := hnumbered.step 1 _ rfl nofun trivial
  have holder : Runs (fun _ _ => True) newer [.replaced 0 (blankAs 1)] older :=
    Runs.start.step 0 (.numbered false (blankAs 1)) rfl nofun trivial
  exact ⟨hnewer, holder, rfl, rfl⟩

end Crowd

end Front

end NestedRows
