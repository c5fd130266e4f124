import NestedRows.Front.Request
import NestedRows.Proofs.Front.Publication
import NestedRows.Proofs.Live.Sending
/-!
# A front in service

Clients ask a front for answers and for updates while others publish. Everything that somebody else may come
between is a move of its own: a publication is built, numbered and put in place, and a call loads the current
snapshot and compiles its selection against it, and later begins its fetch or is registered. The history of a
run tells which snapshots were put in place, and what each call has loaded and sent.

Publications and requests as a whole are runs of such moves (`Service.runs_call`, `Service.runs_request`).
Nothing keeps two rebuilds apart here.
-/

namespace NestedRows

variable {σ : Type}

/-- What a client asks for. -/
inductive Aim where
  | answer
  | updates

/-- A call of a client, as far as it has come. -/
inductive ClientCall where
  /-- No snapshot has been loaded yet. -/
  | waiting (aim : Aim) (selection : Selection)
  /-- The selection was compiled against a snapshot with the given namespace. -/
  | prepared (aim : Aim) (root : String) (q : CompiledQuery) (namespaceName : String)
  | handled (r : Request)
  | subscribed (id : LiveQueryId)
  | refused (e : QueryError)

namespace ClientCall

/-- The call after it has loaded a snapshot. -/
def load (aim : Aim) (selection : Selection) (s : Snapshot) : ClientCall :=
  match s.prepare selection with
  | .ok q => prepared aim selection.name q s.namespaceName
  | .error e =>
    match aim with
    | .answer => handled (.answered (.ofError e))
    | .updates => refused e

end ClientCall

/-- A front with its live queries, the publications that are not in place yet, and all calls so far. -/
structure Service where
  front : Front
  live : LiveQueries
  /-- What is to be published. -/
  built : List Snapshot := []
  /-- What has taken a version number. -/
  numbered : List Snapshot := []
  calls : List ClientCall := []

namespace Service

inductive Happening where
  /-- The snapshot was put in place. -/
  | replaced (s : Snapshot)
  | called (i : Nat) (selection : Selection)
  | loaded (i : Nat) (s : Snapshot)
  | sent (i : Nat) (x : Sent)

/-- The call that a happening is about. -/
def Happening.call? : Happening → Option Nat
  | replaced _ => none
  | called i _ => some i
  | loaded i _ => some i
  | sent i _ => some i

/-- The snapshots that were put in place, the first first. -/
def replacedIn (h : List Happening) : List Snapshot :=
  h.filterMap fun | .replaced s => some s | _ => none

/-- What may happen next. The source may be in any state, since others use it as well. -/
inductive Moves (source : DeferredSource σ) (d : Dialect) (w : Service) :
    List Happening → Service → Prop
  | build (c : Front.Call) {s : Snapshot} (h : c.Offers w.front s) :
    Moves source d w [] { w with built := w.built ++ [s] }
  | number {before after : List Snapshot} {s : Snapshot} (h : w.built = before ++ s :: after) :
    Moves source d w [] { w with
      front := w.front.takeVersion.2
      built := before ++ after
      numbered := w.numbered ++ [{ s with version := w.front.takeVersion.1 }] }
  | replace {before after : List Snapshot} {s : Snapshot} (h : w.numbered = before ++ s :: after) :
    Moves source d w [.replaced s] { w with front := w.front.replace s, numbered := before ++ after }
  | call (aim : Aim) (selection : Selection) :
    Moves source d w [.called w.calls.length selection]
      { w with calls := w.calls ++ [.waiting aim selection] }
  | load {i : Nat} {aim : Aim} {selection : Selection} {s : Snapshot}
      (hcall : w.calls[i]? = some (.waiting aim selection)) (hcurrent : w.front.current = some s) :
    Moves source d w [.loaded i s] { w with calls := w.calls.set i (.load aim selection s) }
  | launch {i : Nat} {root : String} {q : CompiledQuery} {namespaceName : String}
      (hcall : w.calls[i]? = some (.prepared .answer root q namespaceName)) (state : σ)
      {outcome : Except QueryError Flight} {state' : σ} {sent : List Sent}
      (hlaunch : q.launch source.logged d (state, []) = (outcome, (state', sent))) :
    Moves source d w (sent.map (.sent i))
      { w with calls := w.calls.set i (.handled (.follow root outcome)) }
  | step {i : Nat} {r r' : Request} (hcall : w.calls[i]? = some (.handled r)) (state : σ) {state' : σ}
      {sent : List Sent} (hstep : r.step? source.logged d w.front (state, []) = some (r', (state', sent))) :
    Moves source d w (sent.map (.sent i)) { w with calls := w.calls.set i (.handled r') }
  | register {i : Nat} {root : String} {q : CompiledQuery} {namespaceName : String}
      (hcall : w.calls[i]? = some (.prepared .updates root q namespaceName)) :
    Moves source d w [] { w with
      live := (w.live.subscribe q namespaceName).2
      calls := w.calls.set i (.subscribed (w.live.subscribe q namespaceName).1) }
  | live {i : Nat} {id : LiveQueryId} (hcall : w.calls[i]? = some (.subscribed id)) (first : Glance)
      (now : Nat) (state : σ) {live : LiveQueries} {state' : σ} {sent : List Sent}
      (hstep : w.live.step? source.logged d first now id (state, []) = some (live, (state', sent))) :
    Moves source d w (sent.map (.sent i)) { w with live }
  | act {live : LiveQueries} (h : w.live.Acts source live) : Moves source d w [] { w with live }

/-- Any number of moves, with what happened in them. -/
inductive Runs (source : DeferredSource σ) (d : Dialect) (w : Service) : List Happening → Service → Prop
  | start : Runs source d w [] w
  | next {h more : List Happening} {w' w'' : Service} (hrun : Runs source d w h w')
      (hmove : w'.Moves source d more w'') : Runs source d w (h ++ more) w''

theorem Runs.trans {source : DeferredSource σ} {d : Dialect} {w w' w'' : Service} {h more : List Happening}
    (hrun : w.Runs source d h w') (hmore : w'.Runs source d more w'') :
    w.Runs source d (h ++ more) w'' := by
  induction hmore with
  | start =>
    rw [List.append_nil]
    exact hrun
  | next _ hmove ih =>
    rw [← List.append_assoc]
    exact ih.next hmove

/-- Nothing is published, and there are no clients. -/
def opened (namespaceName : String) (config : LiveConfig) : Service where
  front := { namespaceName }
  live := .ofConfig config

theorem replacedIn_append (h more : List Happening) :
    replacedIn (h ++ more) = replacedIn h ++ replacedIn more :=
  List.filterMap_append

theorem replacedIn_map_sent (i : Nat) (sent : List Sent) : replacedIn (sent.map (.sent i)) = [] := by
  induction sent with
  | nil => rfl
  | cons x rest ih => exact ih

/-! ### Publications and requests as a whole -/

section Whole

variable {source : DeferredSource σ} {d : Dialect} {w : Service}

theorem runs_of_offers {c : Front.Call} {s : Snapshot} (hs : c.Offers w.front s) :
    w.Runs source d [.replaced { s with version := w.front.versions + 1 }]
      { w with front := w.front.after s } := by
  have hbuilt : w.Runs source d [] { w with built := w.built ++ [s] } := .next .start (.build c hs)
  have hnumbered := hbuilt.next (.number rfl)
  have hreplaced := hnumbered.next (.replace rfl)
  simp only [List.append_nil] at hreplaced
  exact hreplaced

/-- A call that publishes is a run that puts what it has published in place, and any other call is a run
in which nothing happens. -/
theorem runs_call (w : Service) (c : Front.Call) :
    w.Runs source d ((Front.publishedBy (w.front.call c).1).toList.map .replaced)
      { w with front := (w.front.call c).2 } := by
  rcases w.front.call_cases c with ⟨s, hs, heq⟩ | ⟨-, hnone, hsame⟩
  · rw [heq]
    exact runs_of_offers hs
  · rw [hnone, hsame]
    exact .start

/-- The first step of a request is a run that loads the current snapshot. -/
theorem runs_request {i : Nat} {selection : Selection}
    (hcall : w.calls[i]? = some (.waiting .answer selection)) {state state' : σ} {r : Request}
    {sent : List Sent} (hstep : (Request.ofSelection selection).step? source.logged d w.front (state, [])
      = some (r, (state', sent))) :
    ∃ s, w.front.current = some s ∧
      w.Runs source d (.loaded i s :: sent.map (.sent i))
        { w with calls := w.calls.set i (.handled r) } := by
  rw [Request.ofSelection, Request.step?] at hstep
  cases hcurrent : w.front.current with
  | none =>
    rw [hcurrent] at hstep
    cases hstep
  | some s =>
    simp only [hcurrent] at hstep
    refine ⟨s, rfl, ?_⟩
    have hload : w.Runs source d [.loaded i s] { w with calls := w.calls.set i (.load .answer selection s) } :=
      .next .start (.load hcall hcurrent)
    rw [ClientCall.load] at hload
    cases hprepare : s.prepare selection with
    | error e =>
      rw [hprepare] at hstep hload
      cases hstep
      exact hload
    | ok q =>
      simp only [hprepare] at hstep hload
      obtain ⟨rfl, hlaunch⟩ := Prod.mk.inj (Option.some.inj hstep)
      have hthere : i < w.calls.length := (List.getElem?_eq_some_iff.mp hcall).1
      have heq : q.launch source.logged d (state, [])
          = ((q.launch source.logged d (state, [])).1, (state', sent)) :=
        congrArg (Prod.mk _) hlaunch
      have hlaunched := hload.next (.launch (List.getElem?_set_self hthere) state heq)
      simpa only [List.set_set, List.singleton_append] using hlaunched

end Whole

end Service

end NestedRows
