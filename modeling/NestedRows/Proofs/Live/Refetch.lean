import Mathlib.Algebra.Group.Nat.Defs
import Mathlib.Data.Nat.Find
import Mathlib.Order.Bounds.Basic
import Mathlib.Order.WellFounded
import NestedRows.Proofs.Live.Coverage
/-!
# The tries of a refetch

A refetch runs the query, and again after a rest as long as the source was short of connections and another
try is allowed. So the outcomes of the runs decide how it goes: which run is the last, how long each rest is,
and what the subscriber is told (`LiveQuery.refetch_tries`).
-/

namespace NestedRows

namespace RetryPolicy

variable {p : RetryPolicy} {outcomes : Nat → Except QueryError (List Json)} {k n : Nat}

theorem delay_succ (p : RetryPolicy) (n : Nat) :
    p.delay (n + 1) = min (p.backoff * 2 ^ (n + 1)) longestDelay := by
  induction n with
  | zero => rw [delay, delay, Nat.mul_comm, Nat.zero_add, Nat.pow_one]
  | succ n ih =>
    have hdoubled : p.backoff * 2 ^ (n + 1 + 1) = 2 * (p.backoff * 2 ^ (n + 1)) := by
      rw [Nat.pow_succ 2 (n + 1), ← Nat.mul_assoc, Nat.mul_comm]
    rw [delay, ih, hdoubled]
    omega

theorem retries_eq_true_iff {outcome : Except QueryError (List Json)} : p.retries n outcome = true ↔
    n < p.maxRetries ∧ (outcome = .error .poolTimeout ∨ outcome = .error (.database .poolTimedOut)) := by
  cases outcome with
  | ok rows => simp [retries]
  | error e =>
    cases e with
    | database cause => cases cause <;> simp [retries, QueryError.isExhaustion]
    | _ => simp [retries, QueryError.isExhaustion]

/-- The runs that a refetch does not go beyond: the last one that is allowed, and all that end otherwise
than for want of a connection. -/
def lasts (p : RetryPolicy) (outcomes : Nat → Except QueryError (List Json)) : Set Nat :=
  {i | i = p.maxRetries ∨ outcomes i ≠ .error .poolTimeout ∧ outcomes i ≠ .error (.database .poolTimedOut)}

theorem exists_isLeast_lasts (p : RetryPolicy) (outcomes : Nat → Except QueryError (List Json)) :
    ∃ k, IsLeast (p.lasts outcomes) k := by
  have hsome : ∃ i, i ∈ p.lasts outcomes := ⟨p.maxRetries, .inl rfl⟩
  classical
  exact ⟨Nat.find hsome, Nat.find_spec hsome, fun i hi => Nat.find_min' hsome hi⟩

theorem retries_of_isLeast (hk : IsLeast (p.lasts outcomes) k) :
    (∀ i < k, p.retries i (outcomes i) = true) ∧ p.retries k (outcomes k) = false := by
  have hmax : k ≤ p.maxRetries := hk.2 (.inl rfl)
  constructor
  · intro i hi
    have hearlier : i ∉ p.lasts outcomes := fun hmem => Nat.not_lt.mpr (hk.2 hmem) hi
    rw [retries_eq_true_iff]
    refine ⟨Nat.lt_of_lt_of_le hi hmax, ?_⟩
    by_contra hother
    exact hearlier (.inr (not_or.mp hother))
  · rw [← Bool.not_eq_true, retries_eq_true_iff]
    rintro ⟨hlt, hshort⟩
    rcases hk.1 with hlast | hother
    · exact absurd hlast (Nat.ne_of_lt hlt)
    · exact hshort.elim hother.1 hother.2

end RetryPolicy

/-- What a live query does for a refetch. -/
inductive Effort where
  /-- It begins to run the query. -/
  | ran
  | ended (outcome : Except QueryError (List Json))
  /-- It has rested for the given delay. -/
  | slept (delay : Nat)

/-- What is done in a refetch up to the given number of rests, if its runs have the given outcomes. -/
def RetryPolicy.rounds (p : RetryPolicy) (outcomes : Nat → Except QueryError (List Json)) (n : Nat) :
    List Effort :=
  (List.range n).flatMap fun i => [.ran, .ended (outcomes i), .slept (p.delay i)]

/-- What is done in a refetch whose last run is that with the given number. -/
def RetryPolicy.course (p : RetryPolicy) (outcomes : Nat → Except QueryError (List Json)) (k : Nat) :
    List Effort :=
  p.rounds outcomes k ++ [.ran, .ended (outcomes k)]

def endingsIn (log : List Effort) : List (Except QueryError (List Json)) :=
  log.filterMap fun | .ended outcome => some outcome | _ => none

/-- The runs have ended as given. -/
def EndsAs (outcomes : Nat → Except QueryError (List Json)) (log : List Effort) : Prop :=
  ∀ i outcome, (endingsIn log)[i]? = some outcome → outcome = outcomes i

section Course

variable {p : RetryPolicy} {outcomes : Nat → Except QueryError (List Json)} {k n : Nat}
  {log more : List Effort}

theorem endingsIn_append (log more : List Effort) :
    endingsIn (log ++ more) = endingsIn log ++ endingsIn more :=
  List.filterMap_append

theorem EndsAs.of_append (h : EndsAs outcomes (log ++ more)) : EndsAs outcomes log := by
  intro i outcome hi
  apply h
  rw [endingsIn_append, List.getElem?_append_left (List.getElem?_eq_some_iff.mp hi).1]
  exact hi

namespace RetryPolicy

theorem rounds_succ (p : RetryPolicy) (outcomes : Nat → Except QueryError (List Json)) (n : Nat) :
    p.rounds outcomes (n + 1) = p.course outcomes n ++ [.slept (p.delay n)] := by
  rw [rounds, List.range_succ, List.flatMap_append, course, List.append_assoc]
  rfl

theorem endingsIn_rounds (p : RetryPolicy) (outcomes : Nat → Except QueryError (List Json)) (n : Nat) :
    endingsIn (p.rounds outcomes n) = (List.range n).map outcomes := by
  induction n with
  | zero => rfl
  | succ n ih =>
    rw [rounds_succ, course, endingsIn_append, endingsIn_append, ih, List.range_succ, List.map_append,
      List.append_assoc]
    rfl

theorem course_prefix_rounds (h : n < k) : p.course outcomes n <+: p.rounds outcomes k := by
  induction k with
  | zero => cases h
  | succ k ih =>
    rw [rounds_succ]
    rcases Nat.lt_succ_iff_lt_or_eq.mp h with hlt | rfl
    · exact ((ih hlt).trans (List.prefix_append _ _)).trans (List.prefix_append _ _)
    · exact List.prefix_append _ _

theorem course_prefix (h : n ≤ k) : p.course outcomes n <+: p.course outcomes k := by
  rcases Nat.lt_or_eq_of_le h with hlt | rfl
  · exact (course_prefix_rounds hlt).trans (List.prefix_append _ _)
  · exact List.prefix_rfl

end RetryPolicy

/-- The run that has ended now is the next one. -/
theorem EndsAs.eq_of_rounds {outcome : Except QueryError (List Json)}
    (h : EndsAs outcomes (p.rounds outcomes n ++ [.ran, .ended outcome])) : outcome = outcomes n := by
  apply h n
  rw [endingsIn_append, p.endingsIn_rounds]
  have hlength : ((List.range n).map outcomes).length = n := by rw [List.length_map, List.length_range]
  rw [List.getElem?_append_right (Nat.le_of_eq hlength), hlength, Nat.sub_self]
  rfl

end Course

/-- Whether an update is still to come out of a refetch. -/
def LiveStage.isRefetching : LiveStage → Bool
  | starting _ | fetching _ _ | resting _ _ _ => true
  | listening | discarding | delivering _ | stopped => false

/-- More than the number of steps that are left of a refetch, without those that look at a run in vain. -/
def LiveStage.budget (p : RetryPolicy) : LiveStage → Nat
  | starting n => 3 * (p.maxRetries - n) + 3
  | fetching n _ => 3 * (p.maxRetries - n) + 2
  | resting n _ _ => 3 * (p.maxRetries - n) + 4
  | listening | discarding | delivering _ | stopped => 0

namespace LiveQuery

variable {σ : Type} {config : LiveConfig} {source : DeferredSource σ} {d : Dialect}
  {q q' : LiveQuery} {f f' : Feed} {state state' : σ} {first : Glance} {now : Nat}
  {outcomes : Nat → Except QueryError (List Json)} {k : Nat} {log more : List Effort}

/-- What is done for a refetch with the next step. -/
def efforts (source : DeferredSource σ) (d : Dialect) (first : Glance) (q : LiveQuery) (f : Feed)
    (state : σ) : List Effort :=
  let endings := (outcomesIn (q.doings source d first f state)).map .ended
  match q.stage with
  | .starting _ => .ran :: endings
  | .fetching _ _ => endings
  | .resting _ delay _ => [.slept delay]
  | _ => []

/-- A refetch up to some point, with what was done for it. The feed, the source and the time may have
changed in any way between two steps, and the subscriber may have taken updates or left. -/
inductive Refetches (config : LiveConfig) (source : DeferredSource σ) (d : Dialect) (q : LiveQuery) :
    List Effort → LiveQuery → Prop
  | start : Refetches config source d q [] q
  | step {log : List Effort} {q' q'' : LiveQuery} (hrun : Refetches config source d q log q')
      (hgoes : q'.stage.isRefetching = true) (first : Glance) (now : Nat) (f : Feed) (state : σ)
      {f' : Feed} {state' : σ} (h : q'.step? config source d first now f state = some ((q'', f'), state')) :
      Refetches config source d q (log ++ q'.efforts source d first f state) q''
  | meanwhile {log : List Effort} {q' q'' : LiveQuery} (hrun : Refetches config source d q log q')
      (hsame : q'.SameAs q'') (hstage : q''.stage = q'.stage) : Refetches config source d q log q''

/-- How far a refetch has come. -/
inductive Reaches (p : RetryPolicy) (outcomes : Nat → Except QueryError (List Json)) :
    LiveStage → List Effort → Prop
  | starting {n : Nat} (h : ∀ i < n, p.retries i (outcomes i) = true) :
      Reaches p outcomes (.starting n) (p.rounds outcomes n)
  | fetching {n : Nat} {flight : Flight} (h : ∀ i < n, p.retries i (outcomes i) = true) :
      Reaches p outcomes (.fetching n flight) (p.rounds outcomes n ++ [.ran])
  | resting {n due : Nat} (h : ∀ i < n + 1, p.retries i (outcomes i) = true) :
      Reaches p outcomes (.resting (n + 1) (p.delay n) due) (p.course outcomes n)
  | delivering {n : Nat} (h : ∀ i < n, p.retries i (outcomes i) = true)
      (hlast : p.retries n (outcomes n) = false) :
      Reaches p outcomes (.delivering (.ofOutcome (outcomes n))) (p.course outcomes n)

/-- How a try has ended, if it has. -/
def endingOf (outcome : Except QueryError Flight) : List Effort :=
  (outcomesIn (Happening.ofTry outcome)).map .ended

/-- What a step of a refetch can do, and what is done with it. -/
inductive Advances (config : LiveConfig) (now : Nat) (q : LiveQuery) : List Effort → LiveQuery → Prop
  | start {n : Nat} (hstage : q.stage = .starting n) (outcome : Except QueryError Flight) :
      Advances config now q (.ran :: endingOf outcome) (q.follow config now n outcome)
  | look {n : Nat} {flight : Flight} (hstage : q.stage = .fetching n flight)
      (outcome : Except QueryError Flight) :
      Advances config now q (endingOf outcome) (q.follow config now n outcome)
  | wake {n delay due : Nat} (hstage : q.stage = .resting n delay due) (hdue : due ≤ now) :
      Advances config now q [.slept delay] { q with stage := .starting n }

theorem advances_of_step? (hgoes : q.stage.isRefetching = true)
    (hstep : q.step? config source d first now f state = some ((q', f'), state')) :
    q.Advances config now (q.efforts source d first f state) q' := by
  rw [step?] at hstep
  rw [efforts, doings]
  cases hstage : q.stage with
  | starting n =>
    simp only [hstage] at hstep ⊢
    cases hstep
    have houtcomes : ∀ outcome, outcomesIn (Happening.ofStart n outcome)
        = outcomesIn (Happening.ofTry outcome) := by
      intro outcome
      cases n <;> rfl
    rw [houtcomes]
    exact .start hstage _
  | fetching n flight =>
    simp only [hstage] at hstep ⊢
    split at hstep
    case isTrue =>
      cases hstep
      exact .look hstage _
    case isFalse => cases hstep
  | resting n delay due =>
    simp only [hstage] at hstep ⊢
    split at hstep
    case isTrue hdue =>
      cases hstep
      exact .wake hstage hdue
    case isFalse => cases hstep
  | listening | discarding | delivering | stopped =>
    rw [hstage] at hgoes
    cases hgoes

/-- A look at a run brings the refetch further. -/
theorem reaches_follow {n : Nat} (hretried : ∀ i < n, config.retry.retries i (outcomes i) = true)
    {outcome : Except QueryError Flight}
    (hends : EndsAs outcomes (config.retry.rounds outcomes n ++ (.ran :: endingOf outcome))) :
    Reaches config.retry outcomes (q.follow config now n outcome).stage
      (config.retry.rounds outcomes n ++ (.ran :: endingOf outcome)) := by
  rw [endingOf] at hends ⊢
  obtain ⟨stage, heq, hcases⟩ := follow_cases config now n q outcome
  rw [heq]
  obtain ⟨hnone, flight, rfl⟩ | ⟨result, hended, hcases⟩ := hcases
  · rw [hnone]
    exact .fetching hretried
  · rw [hended] at hends ⊢
    obtain rfl : result = outcomes n := hends.eq_of_rounds
    rcases hcases with ⟨hretries, rfl⟩ | ⟨hretries, rfl⟩
    · refine .resting fun i hi => ?_
      rcases Nat.lt_succ_iff_lt_or_eq.mp hi with hlt | rfl
      · exact hretried i hlt
      · exact hretries
    · exact .delivering hretried hretries

theorem Reaches.advance (hreaches : Reaches config.retry outcomes q.stage log)
    (hadvances : q.Advances config now more q') (hends : EndsAs outcomes (log ++ more)) :
    Reaches config.retry outcomes q'.stage (log ++ more) := by
  cases hadvances with
  | start hstage outcome =>
    rw [hstage] at hreaches
    cases hreaches with
    | starting hretried => exact reaches_follow hretried hends
  | look hstage outcome =>
    rw [hstage] at hreaches
    cases hreaches with
    | fetching hretried =>
      rw [List.append_assoc] at hends ⊢
      exact reaches_follow hretried hends
  | wake hstage =>
    rw [hstage] at hreaches
    cases hreaches with
    | resting hretried => exact RetryPolicy.rounds_succ .. ▸ .starting hretried

theorem Refetches.reaches (hq : q.stage = .starting 0) (hrun : q.Refetches config source d log q')
    (hends : EndsAs outcomes log) : Reaches config.retry outcomes q'.stage log := by
  induction hrun with
  | start => exact hq ▸ .starting fun i hi => absurd hi (Nat.not_lt_zero i)
  | step _ hgoes _ _ _ _ hstep ih =>
    exact (ih hends.of_append).advance (advances_of_step? hgoes hstep) hends
  | meanwhile _ _ hstage ih => exact hstage ▸ ih hends

/-- How a refetch goes whose last run is that with the given number, from a point that it has come to. -/
structure Tries (config : LiveConfig) (source : DeferredSource σ) (d : Dialect)
    (outcomes : Nat → Except QueryError (List Json)) (k : Nat) (log : List Effort) (q : LiveQuery) :
    Prop where
  so_far : log <+: config.retry.course outcomes k
  finished : q.stage.isRefetching = false →
    log = config.retry.course outcomes k ∧ q.stage = .delivering (.ofOutcome (outcomes k))
  /-- It waits for nothing but the end of a run or of a rest. -/
  goes_on : q.stage.isRefetching = true → ∀ first now f state,
    (q.step? config source d first now f state).isSome = true ∨
      (∃ n flight, q.stage = .fetching n flight ∧ flight.canAdvance source state = false) ∨
      ∃ n delay due, q.stage = .resting n delay due ∧ now < due
  /-- A rest lasts as long as the delay, but no longer than thirty years. -/
  rests : q.stage.isRefetching = true → ∀ first now f state q' f' state' n delay due,
    q.step? config source d first now f state = some ((q', f'), state') →
    q'.stage = .resting n delay due → due = now + min delay longestRest

theorem Reaches.so_far {stage : LiveStage} (h : Reaches config.retry outcomes stage log)
    (hlast : config.retry.retries k (outcomes k) = false) : log <+: config.retry.course outcomes k := by
  have hle : ∀ n, (∀ i < n, config.retry.retries i (outcomes i) = true) → n ≤ k := by
    intro n hretried
    by_contra hlt
    rw [hretried k (Nat.lt_of_not_le hlt)] at hlast
    cases hlast
  have hcourse : ∀ n, (∀ i < n, config.retry.retries i (outcomes i) = true) →
      config.retry.course outcomes n <+: config.retry.course outcomes k :=
    fun n hretried => RetryPolicy.course_prefix (hle n hretried)
  cases h with
  | starting hretried => exact (List.prefix_append _ _).trans (hcourse _ hretried)
  | fetching hretried =>
    refine List.IsPrefix.trans ?_ (hcourse _ hretried)
    exact (List.prefix_append_right_inj _).mpr (List.prefix_append [Effort.ran] _)
  | resting hretried => exact hcourse _ fun i hi => hretried i (Nat.lt_succ_of_lt hi)
  | delivering hretried => exact hcourse _ hretried

theorem Reaches.finished {stage : LiveStage} (h : Reaches config.retry outcomes stage log)
    (hretried : ∀ i < k, config.retry.retries i (outcomes i) = true)
    (hlast : config.retry.retries k (outcomes k) = false) (hover : stage.isRefetching = false) :
    log = config.retry.course outcomes k ∧ stage = .delivering (.ofOutcome (outcomes k)) := by
  cases h with
  | starting | fetching | resting => cases hover
  | @delivering n hretried' hlast' =>
    have heq : n = k := by
      rcases Nat.lt_trichotomy n k with hlt | heq | hlt
      · rw [hretried n hlt] at hlast'
        cases hlast'
      · exact heq
      · rw [hretried' k hlt] at hlast
        cases hlast
    exact heq ▸ ⟨rfl, rfl⟩

theorem step?_goes_on (hgoes : q.stage.isRefetching = true) (first : Glance) (now : Nat) (f : Feed)
    (state : σ) : (q.step? config source d first now f state).isSome = true ∨
      (∃ n flight, q.stage = .fetching n flight ∧ flight.canAdvance source state = false) ∨
      ∃ n delay due, q.stage = .resting n delay due ∧ now < due := by
  rw [step?]
  cases hstage : q.stage with
  | starting n => exact .inl rfl
  | fetching n flight =>
    cases hcan : flight.canAdvance source state with
    | true => exact .inl (by simp [hcan])
    | false => exact .inr (.inl ⟨n, flight, rfl, hcan⟩)
  | resting n delay due =>
    rcases Nat.lt_or_ge now due with hearly | hdue
    · exact .inr (.inr ⟨n, delay, due, rfl, hearly⟩)
    · exact .inl (by simp [hdue])
  | listening | discarding | delivering | stopped =>
    rw [hstage] at hgoes
    cases hgoes

theorem due_eq_of_follow {failures n delay due : Nat} {outcome : Except QueryError Flight}
    (h : (q.follow config now failures outcome).stage = .resting n delay due) :
    due = now + min delay longestRest := by
  obtain ⟨stage, heq, hcases⟩ := follow_cases config now failures q outcome
  rw [heq] at h
  obtain rfl : stage = .resting n delay due := h
  obtain ⟨-, flight, hstage⟩ | ⟨result, -, ⟨-, hstage⟩ | ⟨-, hstage⟩⟩ := hcases
  · cases hstage
  · cases hstage
    rfl
  · cases hstage

theorem Advances.due_eq (hadvances : q.Advances config now more q') {n delay due : Nat}
    (hstage : q'.stage = .resting n delay due) : due = now + min delay longestRest := by
  cases hadvances with
  | start | look => exact due_eq_of_follow hstage
  | wake => cases hstage

/-! ### The end of a refetch -/

theorem budget_follow (n : Nat) (outcome : Except QueryError Flight) :
    (∃ flight, (q.follow config now n outcome).stage = .fetching n flight) ∨
      (q.follow config now n outcome).stage.budget config.retry
        < 3 * (config.retry.maxRetries - n) + 2 := by
  obtain ⟨stage, heq, hcases⟩ := follow_cases config now n q outcome
  rw [heq]
  obtain ⟨-, flight, rfl⟩ | ⟨result, -, ⟨hretries, rfl⟩ | ⟨-, rfl⟩⟩ := hcases
  · exact .inl ⟨flight, rfl⟩
  · have hallowed := (RetryPolicy.retries_eq_true_iff.mp hretries).1
    exact .inr (by simp only [LiveStage.budget]; omega)
  · exact .inr (by simp only [LiveStage.budget]; omega)

theorem Advances.budget_lt (hadvances : q.Advances config now more q') :
    (∃ n flight flight', q.stage = .fetching n flight ∧ q'.stage = .fetching n flight') ∨
      q'.stage.budget config.retry < q.stage.budget config.retry := by
  cases hadvances with
  | @start n hstage outcome =>
    rcases budget_follow n outcome with ⟨flight, hfetching⟩ | hless
    · exact .inr (by rw [hfetching, hstage]; exact Nat.lt_succ_self _)
    · exact .inr (by rw [hstage]; exact Nat.lt_succ_of_lt hless)
  | @look n flight hstage outcome =>
    rcases budget_follow n outcome with ⟨flight', hfetching⟩ | hless
    · exact .inl ⟨n, flight, flight', hstage, hfetching⟩
    · exact .inr (by rw [hstage]; exact hless)
  | wake hstage => exact .inr (by rw [hstage]; exact Nat.lt_succ_self _)

/-- A refetch stops, unless one of its runs goes on for ever. -/
theorem stops_of_steps (config : LiveConfig) (source : DeferredSource σ) (d : Dialect)
    (steps : Nat → LiveQuery) (hsteps : ∀ i, (steps i).stage.isRefetching = true ∧
      ∃ first now f state f' state', (steps i).step? config source d first now f state
        = some ((steps (i + 1), f'), state')) :
    ∃ i n, ∀ j ≥ i, ∃ flight, (steps j).stage = .fetching n flight := by
  have hturn : ∀ i, (∃ n flight flight', (steps i).stage = .fetching n flight ∧
        (steps (i + 1)).stage = .fetching n flight') ∨
      (steps (i + 1)).stage.budget config.retry < (steps i).stage.budget config.retry := by
    intro i
    obtain ⟨hgoes, first, now, f, state, f', state', hstep⟩ := hsteps i
    exact (advances_of_step? hgoes hstep).budget_lt
  -- from where the budget is smallest on it cannot become smaller, so all steps look at one run
  obtain ⟨i, hleast⟩ : ∃ i, ∀ j, (steps i).stage.budget config.retry ≤ (steps j).stage.budget config.retry :=
    ⟨_, fun j => Function.argmin_le (fun j => (steps j).stage.budget config.retry) j⟩
  obtain ⟨n, flight, -, hi, -⟩ := (hturn i).resolve_right (Nat.not_lt.mpr (hleast _))
  refine ⟨i, n, fun j hj => ?_⟩
  induction j, hj using Nat.le_induction with
  | base => exact ⟨flight, hi⟩
  | succ j _ ih =>
    obtain ⟨flight, hj⟩ := ih
    have hbudget : (steps i).stage.budget config.retry = (steps j).stage.budget config.retry := by
      rw [hi, hj]
      rfl
    obtain ⟨n', _, flight', hj', hnext⟩ :=
      (hturn j).resolve_right (Nat.not_lt.mpr (hbudget ▸ hleast _))
    obtain ⟨rfl, -⟩ := LiveStage.fetching.inj (hj.symm.trans hj')
    exact ⟨flight', hnext⟩

/-- **The tries of a refetch.** The outcomes of the runs decide which of them is the last: the first one that
does not end for want of a connection, or the last one that is allowed. Up to there each run is followed by a
rest, the first for the delay of the policy and each next one for twice as long, up to the longest duration.
Then the outcome of the last run is handed over. A refetch stops, unless one of its runs goes on for ever. -/
theorem refetch_tries (hq : q.stage = .starting 0) (outcomes : Nat → Except QueryError (List Json)) :
    ∃ k, IsLeast {i | i = config.retry.maxRetries ∨
        outcomes i ≠ .error .poolTimeout ∧ outcomes i ≠ .error (.database .poolTimedOut)} k ∧
      (∀ log q', q.Refetches config source d log q' → EndsAs outcomes log →
        Tries config source d outcomes k log q') ∧
      config.retry.delay 0 = config.retry.backoff ∧
      (∀ n, config.retry.delay (n + 1) = min (config.retry.backoff * 2 ^ (n + 1)) longestDelay) ∧
      ∀ steps : Nat → LiveQuery, (∀ i, (steps i).stage.isRefetching = true ∧
          ∃ first now f state f' state', (steps i).step? config source d first now f state
            = some ((steps (i + 1), f'), state')) →
        ∃ i n, ∀ j ≥ i, ∃ flight, (steps j).stage = .fetching n flight := by
  obtain ⟨k, hk⟩ := config.retry.exists_isLeast_lasts outcomes
  obtain ⟨hretried, hlast⟩ := RetryPolicy.retries_of_isLeast hk
  refine ⟨k, hk, ?_, rfl, config.retry.delay_succ, stops_of_steps config source d⟩
  intro log q' hrun hends
  have hreaches := hrun.reaches hq hends
  exact {
    so_far := hreaches.so_far hlast
    finished := hreaches.finished hretried hlast
    goes_on := step?_goes_on
    rests := fun hgoes _ _ _ _ _ _ _ _ _ _ hstep hstage =>
      (advances_of_step? hgoes hstep).due_eq hstage }

/-- A source that has no connection to spare for the first run and for the second. -/
def shortSource : DeferredSource (Nat × Untaken) :=
  RowSource.immediate fun _ _ n =>
    (match n with
      | 0 => .error .poolTimeout
      | 1 => .error (.database .poolTimedOut)
      | _ => .ok [], n + 1)

def shortOutcomes : Nat → Except QueryError (List Json)
  | 0 => .error .poolTimeout
  | 1 => .error (.database .poolTimedOut)
  | _ => .ok []

/-- A rest of a quarter of a second, one of half a second, and then the rows. -/
theorem refetch_tries_shortSource : ∃ log q',
    (narrowQueries.register orderQuery "shop").2.1.Refetches {} shortSource .sqlite log q' ∧
    EndsAs shortOutcomes log ∧
    log = [.ran, .ended (shortOutcomes 0), .slept 250, .ran, .ended (shortOutcomes 1), .slept 500,
      .ran, .ended (shortOutcomes 2)] ∧
    q'.stage = .delivering (.ofOutcome (shortOutcomes 2)) := by
  obtain ⟨k, hk, htries, -⟩ := @refetch_tries _ {} shortSource .sqlite
    (narrowQueries.register orderQuery "shop").2.1 rfl shortOutcomes
  have hlast : IsLeast {i | i = 3 ∨ shortOutcomes i ≠ .error .poolTimeout ∧
      shortOutcomes i ≠ .error (.database .poolTimedOut)} 2 := by
    refine ⟨.inr ⟨nofun, nofun⟩, ?_⟩
    rintro (_ | _ | i) hi
    · exact absurd rfl (hi.resolve_left (by decide)).1
    · exact absurd rfl (hi.resolve_left (by decide)).2
    · exact Nat.le_add_left 2 i
  obtain rfl : k = 2 := hk.unique hlast
  have hfailed : (narrowQueries.register orderQuery "shop").2.1.Refetches {} shortSource .sqlite _ _ :=
    .step .start rfl .feed 0 narrowQueries.feed (0, none) rfl
  have hagain := (hfailed.step rfl .feed 250 narrowQueries.feed (1, none) rfl).step
    rfl .feed 250 narrowQueries.feed (1, none) rfl
  have hrun := (hagain.step rfl .feed 750 narrowQueries.feed (2, none) rfl).step
    rfl .feed 750 narrowQueries.feed (2, none) rfl
  have hends : ∀ log, endingsIn log = [shortOutcomes 0, shortOutcomes 1, shortOutcomes 2] →
      EndsAs shortOutcomes log := by
    intro log hlog i outcome hi
    rw [hlog] at hi
    rcases i with _ | _ | _ | i
    · exact (Option.some.inj hi).symm
    · exact (Option.some.inj hi).symm
    · exact (Option.some.inj hi).symm
    · cases hi
  obtain ⟨hlog, hstage⟩ := (htries _ _ hrun (hends _ rfl)).finished rfl
  exact ⟨_, _, hrun, hends _ rfl, hlog, hstage⟩

end LiveQuery

end NestedRows
