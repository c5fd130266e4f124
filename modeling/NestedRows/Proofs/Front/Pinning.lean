import NestedRows.Proofs.Front.Service
/-!
# Calls are pinned

A call loads one snapshot, the one that is in place at that moment, and whatever it sends afterwards is sent
for its selection compiled against this snapshot, however many others are put in place meanwhile
(`Service.pinned`). The history of a run is split around the moments at which a call was made and at which it
loaded its snapshot (`Service.Pinned`), and a call that has loaded it holds a query, or a live query, that was
compiled against it (`ClientCall.Follows`).
-/

namespace NestedRows

variable {σ : Type} {source : DeferredSource σ} {d : Dialect}

/-- What is sent is a statement of the selection compiled against the snapshot. -/
def Snapshot.Sends (s : Snapshot) (d : Dialect) (selection : Selection) (x : Sent) : Prop :=
  ∃ q, CompiledQuery.of s.graph selection (some s.namespaceName) = .ok q ∧ q.Sends d x

/-! ### What a request sends -/

namespace Request

/-- What is fetched is of the query. -/
inductive Within (q : CompiledQuery) : Request → Prop
  | running (root : String) {flight : Flight} (h : flight.Within q.Has) : Within q (.running root flight)
  | answered (response : Response) : Within q (.answered response)

variable {q : CompiledQuery} {r r' : Request} {sent : List Sent}

theorem within_follow (root : String) {outcome : Except QueryError Flight}
    (h : ∀ flight, outcome = .ok flight → flight.Within q.Has) : (follow root outcome).Within q := by
  cases outcome with
  | error e => exact .answered _
  | ok flight =>
    rw [follow]
    split
    · exact .answered _
    · exact .running root (h flight rfl)

theorem within_of_sends (root : String) {r : Run (σ × List Sent) Flight} {r' : Run σ Flight}
    (h : Run.Sends d q.Has (Flight.Within q.Has) [] r r') :
    (follow root r.1).Within q ∧ ∀ x ∈ r.2.2, SentFrom d q.Has x := by
  cases h with
  | intro hmore hresult => exact ⟨within_follow root hresult, hmore⟩

theorem within_of_launch (root : String) {outcome : Except QueryError Flight} {state state' : σ}
    (h : q.launch source.logged d (state, []) = (outcome, (state', sent))) :
    (follow root outcome).Within q ∧ ∀ x ∈ sent, SentFrom d q.Has x := by
  have hwithin : (follow root (q.launch source.logged d (state, [])).1).Within q ∧
      ∀ x ∈ (q.launch source.logged d (state, [])).2.2, SentFrom d q.Has x :=
    within_of_sends root (q.launch_sends q.closedBelow_has q.has_root (state, []))
  rwa [h] at hwithin

theorem within_of_step? (hr : r.Within q) {f : Front} {state state' : σ}
    (h : r.step? source.logged d f (state, []) = some (r', (state', sent))) :
    r'.Within q ∧ ∀ x ∈ sent, SentFrom d q.Has x := by
  cases hr with
  | answered => cases h
  | @running root flight hflight =>
    rw [step?] at h
    split at h
    case isFalse => cases h
    case isTrue =>
      obtain ⟨rfl, hlog⟩ := Prod.mk.inj (Option.some.inj h)
      obtain rfl : _ = sent := congrArg Prod.snd hlog
      exact within_of_sends root (flight.advance_sends q.closedBelow_has hflight (state, []))

/-- The log makes no difference to a step. -/
theorem unlogged_step? (r : Request) (f : Front) (state : σ × List Sent) :
    (r.step? source.logged d f state).map (fun p => (p.1, p.2.1)) = r.step? source d f state.1 := by
  cases r with
  | answered => rfl
  | running root flight =>
    rw [step?, step?, flight.unlogged_advance source d state, flight.canAdvance_logged]
    split <;> rfl
  | waiting selection =>
    rw [step?, step?]
    cases f.current with
    | none => rfl
    | some s =>
      dsimp only
      cases s.prepare selection with
      | error e => rfl
      | ok q =>
        dsimp only
        rw [q.unlogged_launch source d state]
        rfl

end Request

/-! ### What a call holds -/

namespace ClientCall

variable {live live' : LiveQueries} {s : Snapshot} {selection : Selection} {c : ClientCall}

/-- The call has loaded the snapshot: what it holds was compiled against it. -/
inductive Follows (live : LiveQueries) (s : Snapshot) (selection : Selection) : ClientCall → Prop
  | prepared (aim : Aim) (root : String) {q : CompiledQuery} (hq : s.prepare selection = .ok q) :
    Follows live s selection (.prepared aim root q s.namespaceName)
  | handled {q : CompiledQuery} (hq : s.prepare selection = .ok q) {r : Request} (hr : r.Within q) :
    Follows live s selection (.handled r)
  | answered (response : Response) : Follows live s selection (.handled (.answered response))
  | subscribed {q : CompiledQuery} (hq : s.prepare selection = .ok q) {id : LiveQueryId} {lq : LiveQuery}
    (hlive : live.tasks.get? id = some lq) (hquery : lq.query = q) :
    Follows live s selection (.subscribed id)
  | refused (e : QueryError) : Follows live s selection (.refused e)

theorem follows_load (live : LiveQueries) (s : Snapshot) (selection : Selection) (aim : Aim) :
    (load aim selection s).Follows live s selection := by
  rw [load]
  cases hq : s.prepare selection with
  | ok q => exact .prepared aim _ hq
  | error e =>
    cases aim with
    | answer => exact .answered _
    | updates => exact .refused e

theorem Follows.keeps (h : c.Follows live s selection) (hkeeps : live.Keeps live') :
    c.Follows live' s selection := by
  cases h with
  | prepared aim root hq => exact .prepared aim root hq
  | handled hq hr => exact .handled hq hr
  | answered response => exact .answered response
  | refused e => exact .refused e
  | subscribed hq hlive hquery =>
    obtain ⟨lq', hlive', hsame⟩ := hkeeps _ _ hlive
    exact .subscribed hq hlive' (hsame.trans hquery)

end ClientCall

namespace Service

variable {w w' : Service} {h more first second third rest : List Happening} {i : Nat}
  {selection : Selection} {s : Snapshot} {live live' : LiveQueries} {c c' : ClientCall}

/-! ### Publications -/

/-- The snapshot in place is the last one in the history. No version number was taken twice. -/
structure Published (h : List Happening) (w : Service) : Prop where
  current : w.front.current = (replacedIn h).getLast?
  nodup : ((replacedIn h ++ w.numbered).map Snapshot.version).Nodup
  taken : ∀ s ∈ replacedIn h ++ w.numbered, s.version ≤ w.front.versions

namespace Published

theorem frame (hp : Published h w) (hfront : w'.front = w.front) (hnumbered : w'.numbered = w.numbered)
    (hmore : replacedIn more = []) : Published (h ++ more) w' := by
  have hsame : replacedIn (h ++ more) = replacedIn h := by rw [replacedIn_append, hmore, List.append_nil]
  refine ⟨?_, ?_, ?_⟩
  · rw [hfront, hsame]
    exact hp.current
  · rw [hsame, hnumbered]
    exact hp.nodup
  · rw [hsame, hnumbered, hfront]
    exact hp.taken

theorem moves (hp : Published h w) (hmove : w.Moves source d more w') : Published (h ++ more) w' := by
  cases hmove with
  | number hbuilt =>
    rw [List.append_nil]
    refine ⟨hp.current, ?_, ?_⟩
    · rw [← List.append_assoc, List.map_append, List.nodup_append]
      refine ⟨hp.nodup, List.nodup_singleton _, ?_⟩
      rintro _ hold _ hnew rfl
      obtain ⟨s', hs', hversion⟩ := List.mem_map.mp hold
      have hle := hp.taken s' hs'
      rw [hversion, List.mem_singleton.mp hnew] at hle
      exact Nat.not_succ_le_self _ hle
    · intro s' hs'
      rw [← List.append_assoc] at hs'
      rcases List.mem_append.mp hs' with hs' | hs'
      · exact Nat.le_succ_of_le (hp.taken s' hs')
      · rw [List.mem_singleton.mp hs']
        exact Nat.le_refl _
  | @replace before after s hnumbered =>
    -- The snapshot goes from those that have a number to those in the history.
    have hperm : (replacedIn (h ++ [.replaced s]) ++ (before ++ after)).Perm
        (replacedIn h ++ w.numbered) := by
      rw [replacedIn_append, hnumbered, List.append_assoc]
      have hmiddle : (s :: (before ++ after)).Perm (before ++ s :: after) := List.perm_middle.symm
      exact hmiddle.append_left _
    refine ⟨?_, ?_, fun s' hs' => hp.taken s' (hperm.mem_iff.mp hs')⟩
    · rw [replacedIn_append]
      exact List.getLast?_concat.symm
    · exact (hperm.map Snapshot.version).nodup_iff.mpr hp.nodup
  | build | call | load | register | act => exact hp.frame rfl rfl rfl
  | launch | step | live => exact hp.frame rfl rfl (replacedIn_map_sent _ _)

end Published

/-! ### Calls -/

/-- Nothing happens that is about the call. -/
def Quiet (i : Nat) (h : List Happening) : Prop := ∀ happening ∈ h, happening.call? ≠ some i

/-- A call was made after `first` and has loaded a snapshot after `second`. -/
structure Pinned (d : Dialect) (i : Nat) (selection : Selection) (first second : List Happening)
    (s : Snapshot) (third : List Happening) : Prop where
  /-- Until then it sends nothing. -/
  before : Quiet i second
  /-- The snapshot is the one in place. -/
  current : (replacedIn (first ++ second)).getLast? = some s
  /-- From then on it loads nothing, and sends what its selection is compiled to against the snapshot. -/
  after : ∀ happening ∈ third, happening.call? = some i →
    ∃ x, happening = .sent i x ∧ s.Sends d selection x

theorem Pinned.append (hp : Pinned d i selection first second s third)
    (hmore : ∀ happening ∈ more, happening.call? = some i →
      ∃ x, happening = .sent i x ∧ s.Sends d selection x) :
    Pinned d i selection first second s (third ++ more) :=
  ⟨hp.before, hp.current, fun happening hmem =>
    (List.mem_append.mp hmem).elim (hp.after happening) (hmore happening)⟩

/-- How far a call has come that was made between `first` and `rest`. -/
inductive Stands (d : Dialect) (live : LiveQueries) (i : Nat) (selection : Selection)
    (first rest : List Happening) : ClientCall → Prop
  | waiting (aim : Aim) (hquiet : Quiet i rest) : Stands d live i selection first rest (.waiting aim selection)
  | loaded {second third : List Happening} {s : Snapshot} {c : ClientCall}
      (hrest : rest = second ++ .loaded i s :: third) (hpinned : Pinned d i selection first second s third)
      (hfollows : c.Follows live s selection) : Stands d live i selection first rest c

/-- Other calls make no difference. -/
theorem Stands.later (hs : Stands d live i selection first rest c) (hkeeps : live.Keeps live')
    (hquiet : Quiet i more) : Stands d live' i selection first (rest ++ more) c := by
  cases hs with
  | waiting aim hbefore =>
    exact .waiting aim fun happening hmem =>
      (List.mem_append.mp hmem).elim (hbefore happening) (hquiet happening)
  | loaded hrest hpinned hfollows =>
    refine .loaded (by rw [hrest, List.append_assoc]; rfl) (hpinned.append ?_) (hfollows.keeps hkeeps)
    exact fun happening hmem heq => absurd heq (hquiet happening hmem)

/-- A call that has loaded its snapshot goes on with it. -/
theorem Stands.goOn (hs : Stands d live i selection first rest c)
    (hloaded : ∀ aim, c ≠ .waiting aim selection)
    (hgoes : ∀ s, c.Follows live s selection → c'.Follows live' s selection ∧
      ∀ happening ∈ more, ∃ x, happening = .sent i x ∧ s.Sends d selection x) :
    Stands d live' i selection first (rest ++ more) c' := by
  cases hs with
  | waiting aim => exact absurd rfl (hloaded aim)
  | @loaded second third s _ hrest hpinned hfollows =>
    obtain ⟨hfollows', hmore⟩ := hgoes s hfollows
    exact .loaded (by rw [hrest, List.append_assoc]; rfl)
      (hpinned.append fun happening hmem _ => hmore happening hmem) hfollows'

/-- A call is not made again. -/
theorem Stands.not_called (hs : Stands d live i selection first rest c) (selection' : Selection) :
    .called i selection' ∉ rest := by
  intro hmem
  cases hs with
  | waiting aim hquiet => exact hquiet _ hmem rfl
  | loaded hrest hpinned =>
    rw [hrest] at hmem
    rcases List.mem_append.mp hmem with hmem | hmem
    · exact hpinned.before _ hmem rfl
    · rcases List.mem_cons.mp hmem with heq | hmem
      · cases heq
      · obtain ⟨x, heq, -⟩ := hpinned.after _ hmem rfl
        cases heq

theorem sends_of_mem_sent {q : CompiledQuery} (hq : s.prepare selection = .ok q) {sent : List Sent}
    (hsent : ∀ x ∈ sent, SentFrom d q.Has x) :
    ∀ happening ∈ sent.map (Happening.sent i), ∃ x, happening = .sent i x ∧ s.Sends d selection x :=
  List.forall_mem_map.mpr fun x hx => ⟨x, rfl, q, hq, CompiledQuery.sends_of_sentFrom hq (hsent x hx)⟩

/-- Every call was made once, and stands where the history says. -/
structure Answers (d : Dialect) (h : List Happening) (w : Service) : Prop where
  sound : w.live.Sound
  known : ∀ happening ∈ h, ∀ i, happening.call? = some i → i < w.calls.length
  stands : ∀ i c, w.calls[i]? = some c → ∃ first selection rest,
    h = first ++ .called i selection :: rest ∧ Quiet i first ∧ Stands d w.live i selection first rest c

namespace Answers

/-- A call that nothing happens to stands where it did. -/
theorem unchanged (ha : Answers d h w) (hcall : w.calls[i]? = some c) (hkeeps : w.live.Keeps live)
    (hquiet : Quiet i more) : ∃ first selection rest, h ++ more = first ++ .called i selection :: rest ∧
      Quiet i first ∧ Stands d live i selection first rest c := by
  obtain ⟨first, selection, rest, rfl, hfirst, hc⟩ := ha.stands i c hcall
  exact ⟨first, selection, rest ++ more, List.append_assoc .., hfirst, hc.later hkeeps hquiet⟩

/-- One call changes. -/
theorem set (ha : Answers d h w) (hcall : w.calls[i]? = some c) (hcalls : w'.calls = w.calls.set i c')
    (hlive : w'.live.Sound ∧ w.live.Keeps w'.live) (hmore : ∀ happening ∈ more, happening.call? = some i)
    (hstands : ∀ first selection rest, h = first ++ .called i selection :: rest →
      Stands d w.live i selection first rest c → Stands d w'.live i selection first (rest ++ more) c') :
    Answers d (h ++ more) w' := by
  have hi : i < w.calls.length := (List.getElem?_eq_some_iff.mp hcall).1
  refine ⟨hlive.1, ?_, ?_⟩
  · intro happening hmem j hj
    rw [hcalls, List.length_set]
    rcases List.mem_append.mp hmem with hmem | hmem
    · exact ha.known happening hmem j hj
    · obtain rfl := Option.some.inj ((hmore happening hmem).symm.trans hj)
      exact hi
  · intro j cj hj
    rw [hcalls] at hj
    by_cases heq : i = j
    · subst heq
      rw [List.getElem?_set_self hi] at hj
      cases hj
      obtain ⟨first, selection, rest, rfl, hquiet, hc⟩ := ha.stands i c hcall
      exact ⟨first, selection, rest ++ more, List.append_assoc .., hquiet, hstands _ _ _ rfl hc⟩
    · rw [List.getElem?_set_ne heq] at hj
      refine ha.unchanged hj hlive.2 fun happening hmem hother => ?_
      exact heq (Option.some.inj ((hmore happening hmem).symm.trans hother))

/-- No call changes. -/
theorem frame (ha : Answers d h w) (hcalls : w'.calls = w.calls)
    (hlive : w'.live.Sound ∧ w.live.Keeps w'.live) (hmore : ∀ happening ∈ more, happening.call? = none) :
    Answers d (h ++ more) w' := by
  refine ⟨hlive.1, ?_, ?_⟩
  · intro happening hmem j hj
    rw [hcalls]
    rcases List.mem_append.mp hmem with hmem | hmem
    · exact ha.known happening hmem j hj
    · rw [hmore happening hmem] at hj
      cases hj
  · intro j cj hj
    rw [hcalls] at hj
    refine ha.unchanged hj hlive.2 fun happening hmem hother => ?_
    rw [hmore happening hmem] at hother
    cases hother

theorem call (ha : Answers d h w) (aim : Aim) (selection : Selection) :
    Answers d (h ++ [.called w.calls.length selection])
      { w with calls := w.calls ++ [.waiting aim selection] } := by
  refine ⟨ha.sound, ?_, ?_⟩
  · intro happening hmem j hj
    rw [List.length_append]
    rcases List.mem_append.mp hmem with hmem | hmem
    · exact Nat.lt_succ_of_lt (ha.known happening hmem j hj)
    · rw [List.mem_singleton.mp hmem] at hj
      cases hj
      exact Nat.lt_succ_self _
  · intro j cj hj
    rcases Nat.lt_or_ge j w.calls.length with hlt | hge
    · rw [List.getElem?_append_left hlt] at hj
      refine ha.unchanged hj (.refl _) fun happening hmem hother => ?_
      rw [List.mem_singleton.mp hmem] at hother
      exact Nat.ne_of_gt hlt (Option.some.inj hother)
    · obtain rfl : j = w.calls.length := by
        have hlast := (List.getElem?_eq_some_iff.mp hj).1
        rw [List.length_append] at hlast
        exact Nat.le_antisymm (Nat.le_of_lt_succ hlast) hge
      rw [List.getElem?_concat_length] at hj
      cases hj
      refine ⟨h, selection, [], rfl, ?_, .waiting aim (by simp [Quiet])⟩
      exact fun happening hmem heq => Nat.lt_irrefl _ (ha.known happening hmem _ heq)

theorem call?_of_mem_sent {sent : List Sent} :
    ∀ happening ∈ sent.map (Happening.sent i), happening.call? = some i :=
  List.forall_mem_map.mpr fun _ _ => rfl

theorem load (ha : Answers d h w) (hp : Published h w) {aim : Aim}
    (hcall : w.calls[i]? = some (.waiting aim selection)) (hcurrent : w.front.current = some s) :
    Answers d (h ++ [.loaded i s]) { w with calls := w.calls.set i (.load aim selection s) } := by
  refine ha.set hcall rfl ⟨ha.sound, .refl _⟩ (by simp [Happening.call?]) ?_
  intro first selection' rest hsplit hstands
  cases hstands with
  | loaded _ _ hfollows => cases hfollows
  | waiting _ hquiet =>
    have hlast : (replacedIn (first ++ rest)).getLast? = some s := by
      rw [← hcurrent, hp.current, hsplit, replacedIn_append, replacedIn_append]
      rfl
    exact .loaded rfl ⟨hquiet, hlast, by simp⟩ (ClientCall.follows_load _ _ _ _)

theorem moves (ha : Answers d h w) (hp : Published h w) (hmove : w.Moves source d more w') :
    Answers d (h ++ more) w' := by
  have hsame : w.live.Sound ∧ w.live.Keeps w.live := ⟨ha.sound, .refl _⟩
  cases hmove with
  | build | number => exact ha.frame rfl hsame (by simp)
  | replace => exact ha.frame rfl hsame (by simp [Happening.call?])
  | act hacts => exact ha.frame rfl (ha.sound.acts hacts) (by simp)
  | call aim selection => exact ha.call aim selection
  | load hcall hcurrent => exact ha.load hp hcall hcurrent
  | @launch _ root _ _ hcall _ _ _ _ hlaunch =>
    refine ha.set hcall rfl hsame call?_of_mem_sent fun first selection rest _ hstands => ?_
    refine hstands.goOn (by simp) fun s hfollows => ?_
    cases hfollows with
    | prepared _ _ hq =>
      obtain ⟨hr, hsent⟩ := Request.within_of_launch root hlaunch
      exact ⟨.handled hq hr, sends_of_mem_sent hq hsent⟩
  | step hcall state hstep =>
    refine ha.set hcall rfl hsame call?_of_mem_sent fun first selection rest _ hstands => ?_
    refine hstands.goOn (by simp) fun s hfollows => ?_
    cases hfollows with
    | answered => cases hstep
    | @handled q hq _ hr =>
      obtain ⟨hr', hsent⟩ := Request.within_of_step? hr hstep
      exact ⟨.handled hq hr', sends_of_mem_sent hq hsent⟩
  | @register i root q namespaceName hcall =>
    obtain ⟨hsound, hkeeps, lq, hget, hquery⟩ := ha.sound.subscribe q namespaceName
    refine ha.set hcall rfl ⟨hsound, hkeeps⟩ (by simp) fun first selection rest _ hstands => ?_
    refine hstands.goOn (by simp) fun s hfollows => ?_
    cases hfollows with
    | prepared _ _ hq => exact ⟨.subscribed hq hget hquery, by simp⟩
  | @live i id hcall _ _ _ _ _ _ hstep =>
    obtain ⟨hlive, lq, hget, hsent⟩ := ha.sound.step hstep
    -- The call itself stays as it is. What goes on is its live query.
    have hcalls : w.calls = w.calls.set i (.subscribed id) := by
      obtain ⟨hi, heq⟩ := List.getElem?_eq_some_iff.mp hcall
      rw [← heq, List.set_getElem_self]
    refine ha.set hcall hcalls hlive call?_of_mem_sent fun first selection rest _ hstands => ?_
    refine hstands.goOn (by simp) fun s hfollows => ⟨hfollows.keeps hlive.2, ?_⟩
    cases hfollows with
    | subscribed hq hget' hquery =>
      obtain rfl := Option.some.inj (hget.symm.trans hget')
      subst hquery
      exact sends_of_mem_sent hq hsent

end Answers

theorem Runs.published_answers {namespaceName : String} {config : LiveConfig}
    (hrun : (opened namespaceName config).Runs source d h w) : Published h w ∧ Answers d h w := by
  induction hrun with
  | start =>
    refine ⟨⟨rfl, by simp [replacedIn, opened], by simp [replacedIn, opened]⟩, ?_, by simp, ?_⟩
    · exact LiveQueries.sound_ofConfig config
    · simp [opened]
  | next _ hmove ih => exact ⟨ih.1.moves hmove, ih.2.moves ih.1 hmove⟩

/-- A call is made at one moment. -/
theorem called_once {first' rest' : List Happening} {selection' : Selection}
    (hsplit : first ++ .called i selection :: rest = first' ++ .called i selection' :: rest')
    (hquiet : Quiet i first') (honce : ∀ selection, .called i selection ∉ rest') :
    first = first' ∧ selection = selection' ∧ rest = rest' := by
  rcases List.append_eq_append_iff.mp hsplit with ⟨l, rfl, htail⟩ | ⟨l, rfl, htail⟩
  · cases l with
    | nil =>
      obtain ⟨hhead, rfl⟩ := List.cons.inj htail
      cases hhead
      exact ⟨(List.append_nil _).symm, rfl, rfl⟩
    | cons happening l =>
      obtain ⟨rfl, -⟩ := List.cons.inj htail
      exact absurd rfl (hquiet (.called i selection) (by simp))
  · cases l with
    | nil =>
      obtain ⟨hhead, rfl⟩ := List.cons.inj htail
      cases hhead
      exact ⟨List.append_nil _, rfl, rfl⟩
    | cons happening l =>
      obtain ⟨rfl, rfl⟩ := List.cons.inj htail
      exact absurd (by simp) (honce selection)

/-- The snapshot that a call loads is no older than what was in place when the call was made. -/
theorem Published.fresh (hp : Published h w) (hpinned : Pinned d i selection first second s third)
    (hsplit : h = first ++ .called i selection :: (second ++ .loaded i s :: third))
    {earlier later : List Happening} {p : Snapshot} (hfirst : first = earlier ++ .replaced p :: later) :
    s ∈ p :: replacedIn (later ++ second) ∧ s ∉ replacedIn earlier := by
  have hbefore : replacedIn (first ++ second) = replacedIn earlier ++ p :: replacedIn (later ++ second) := by
    rw [hfirst, replacedIn_append, replacedIn_append, replacedIn_append, List.append_assoc]
    rfl
  have hmem : s ∈ p :: replacedIn (later ++ second) := by
    have hcurrent := hpinned.current
    rw [hbefore, List.getLast?_append_of_ne_nil _ (List.cons_ne_nil _ _)] at hcurrent
    exact List.mem_of_getLast? hcurrent
  refine ⟨hmem, fun hold => ?_⟩
  -- A snapshot is told from the older ones by its version number.
  have hall : replacedIn h = replacedIn (first ++ second) ++ replacedIn third := by
    simp [hsplit, replacedIn]
  have hnodup := hp.nodup
  rw [hall, List.append_assoc, List.map_append, List.nodup_append] at hnodup
  have hdistinct := hnodup.1
  rw [hbefore, List.map_append, List.nodup_append] at hdistinct
  exact hdistinct.2.2 _ (List.mem_map_of_mem hold) _ (List.mem_map_of_mem hmem) rfl

/-- **Calls are pinned.** Whatever is published meanwhile, a call sends statements of its selection compiled
against one snapshot, the one that was in place when the call loaded it, and this is one that was in place
when the call was made or was put in place later. -/
theorem pinned (namespaceName : String) (config : LiveConfig)
    (hrun : (opened namespaceName config).Runs source d h w) :
    (∀ happening ∈ h, ∀ i, happening.call? = some i → ∃ selection, .called i selection ∈ h) ∧
    ∀ first i selection rest, h = first ++ .called i selection :: rest →
      Quiet i first ∧
      (Quiet i rest ∨ ∃ second s third, rest = second ++ .loaded i s :: third ∧
        Pinned d i selection first second s third ∧
        ∀ earlier p later, first = earlier ++ .replaced p :: later →
          s ∈ p :: replacedIn (later ++ second) ∧ s ∉ replacedIn earlier) := by
  obtain ⟨hp, ha⟩ := hrun.published_answers
  have hcall : ∀ happening ∈ h, ∀ i, happening.call? = some i → ∃ first selection rest c,
      h = first ++ .called i selection :: rest ∧ Quiet i first ∧
        Stands d w.live i selection first rest c := by
    intro happening hmem i hi
    have hlt := ha.known happening hmem i hi
    obtain ⟨first, selection, rest, hstands⟩ := ha.stands i _ (List.getElem?_eq_getElem hlt)
    exact ⟨first, selection, rest, _, hstands⟩
  refine ⟨fun happening hmem i hi => ?_, fun first i selection rest hsplit => ?_⟩
  · obtain ⟨first, selection, rest, c, rfl, -⟩ := hcall happening hmem i hi
    exact ⟨selection, by simp⟩
  · obtain ⟨first', selection', rest', c, hsplit', hquiet, hstands⟩ :=
      hcall (.called i selection) (by simp [hsplit]) i rfl
    obtain ⟨rfl, rfl, rfl⟩ := called_once (hsplit.symm.trans hsplit') hquiet hstands.not_called
    refine ⟨hquiet, ?_⟩
    cases hstands with
    | waiting _ hrest => exact .inl hrest
    | @loaded second third s _ hrest hpinned _ =>
      subst hrest
      exact .inr ⟨second, s, third, rfl, hpinned, fun earlier p later => hp.fresh hpinned hsplit⟩

/-- A call loads one snapshot, and what it sends is sent for this one. -/
theorem Pinned.sends (hp : Pinned d i selection first second s third) {s' : Snapshot}
    (hloaded : .loaded i s' ∈ second ++ .loaded i s :: third) {x : Sent}
    (hsent : .sent i x ∈ second ++ .loaded i s :: third) : s'.Sends d selection x := by
  have hsame : s' = s := by
    rcases List.mem_append.mp hloaded with hmem | hmem
    · exact absurd rfl (hp.before _ hmem)
    · rcases List.mem_cons.mp hmem with heq | hmem
      · exact (Happening.loaded.inj heq).2
      · obtain ⟨y, heq, -⟩ := hp.after _ hmem rfl
        cases heq
  rcases List.mem_append.mp hsent with hmem | hmem
  · exact absurd rfl (hp.before _ hmem)
  · rcases List.mem_cons.mp hmem with heq | hmem
    · cases heq
    · obtain ⟨y, heq, hsends⟩ := hp.after _ hmem rfl
      cases heq
      exact hsame ▸ hsends

/-- A source whose answer comes when it is put there. -/
def promptedSource : DeferredSource (Option (List Row)) where
  start _ _ _ := (0, none)
  arrived state := if state.isSome then [0] else []
  take? _ state := state.map fun rows => (.ok rows, none)
  abandon _ state := state

def buyersSelection : Selection :=
  .node "customers" [.node "id" [], .node "orders_on_customer_id" [.node "id" []]]

/-- A request and a live query have loaded a snapshot with orders. The orders are dropped before the rows of
the request come and before the live query begins its first fetch. -/
theorem runs_buyersSelection : ∃ (s t : Snapshot) (sent : List Sent) (x y : Sent) (w : Service),
    (opened "shop" {}).Runs promptedSource .sqlite
      ([.replaced s, .called 0 buyersSelection, .called 1 buyersSelection] ++
        (.loaded 0 s :: sent.map (.sent 0) ++ [.loaded 1 s]) ++ [.replaced t, .sent 0 x, .sent 1 y]) w ∧
    (t.prepare buyersSelection).isOk = false := by
  have htest : ((Schema.ofTables Schema.shopTables).toOption.any fun schema =>
      (Schema.ofTables (Schema.shopTables.drop 1)).toOption.any fun schema' =>
        (Snapshot.ofSchema schema "shop").toOption.any fun s =>
          (Snapshot.ofSchema schema' "shop").toOption.any fun t =>
            !(t.prepare buyersSelection).isOk &&
            (((Request.ofSelection buyersSelection).step? promptedSource.logged .sqlite
              (Front.after { namespaceName := "shop" } s) (none, [])).any fun p =>
                (p.1.step? promptedSource.logged .sqlite
                  ((Front.after { namespaceName := "shop" } s).after t)
                  (some [[("t0_id", .int 1)]], [])).any fun p' => p'.2.2.length = 1) &&
            (s.prepare buyersSelection).toOption.any fun q =>
              (((LiveQueries.ofConfig {}).subscribe q s.namespaceName).2.step? promptedSource.logged
                .sqlite .feed 0 0 (none, [])).any fun p => p.2.2.length = 1) = true := by
    decide +kernel
  obtain ⟨schema, hschema, htest⟩ := exists_ok_of_any htest
  obtain ⟨schema', hschema', htest⟩ := exists_ok_of_any htest
  obtain ⟨s, hs, htest⟩ := exists_ok_of_any htest
  obtain ⟨t, ht, htest⟩ := exists_ok_of_any htest
  obtain ⟨hboth, hlive⟩ := Bool.and_eq_true_iff.mp htest
  obtain ⟨hgone, hrequest⟩ := Bool.and_eq_true_iff.mp hboth
  obtain ⟨⟨r, state, sent⟩, hlaunch, hstep⟩ := (Option.any_eq_true _ _).mp hrequest
  obtain ⟨⟨r', state', sent'⟩, hstep, hone⟩ := (Option.any_eq_true _ _).mp hstep
  obtain ⟨x, rfl⟩ := List.length_eq_one_iff.mp (of_decide_eq_true hone)
  obtain ⟨q, hq, hlive⟩ := exists_ok_of_any hlive
  obtain ⟨⟨live, state'', sent''⟩, hfetch, hone'⟩ := (Option.any_eq_true _ _).mp hlive
  obtain ⟨y, rfl⟩ := List.length_eq_one_iff.mp (of_decide_eq_true hone')
  let s₁ : Snapshot := { s with version := 1 }
  let front : Front := Front.after { namespaceName := "shop" } s
  let called : Service := { opened "shop" {} with
    front
    calls := [.waiting .answer buyersSelection, .waiting .updates buyersSelection] }
  have hcalled : (opened "shop" {}).Runs promptedSource .sqlite
      [.replaced s₁, .called 0 buyersSelection, .called 1 buyersSelection] called := by
    have hoffers : (Front.Call.publishSchema schema).Offers (opened "shop" {}).front s := hs
    exact ((runs_of_offers hoffers).next (.call .answer buyersSelection)).next
      (.call .updates buyersSelection)
  have hprepared : ClientCall.load .updates buyersSelection s₁
      = .prepared .updates "customers" q s.namespaceName := by
    have hq₁ : s₁.prepare buyersSelection = .ok q := hq
    rw [ClientCall.load, hq₁]
    rfl
  have hwaiting : called.calls[0]? = some (.waiting .answer buyersSelection) := rfl
  obtain ⟨_, ⟨⟩, hrequested⟩ := runs_request hwaiting hlaunch
  have hsubscribed := (hrequested.next (.load (i := 1) rfl rfl)).next
    (.register (i := 1) (congrArg some hprepared))
  have hdropped : (Front.Call.publishSchema schema').Offers front t := ht
  have hsent := ((hsubscribed.trans (runs_of_offers hdropped)).next (.step (i := 0) rfl _ hstep)).next
    (.live (i := 1) rfl .feed 0 none hfetch)
  obtain ⟨w, hrun⟩ := Exists.intro _ (hcalled.trans hsent)
  refine ⟨s₁, { t with version := 2 }, sent, x, y, w, ?_, by rwa [Bool.not_eq_true'] at hgone⟩
  simp only [List.append_nil, List.append_assoc, List.cons_append, List.nil_append, List.map_cons,
    List.map_nil] at hrun ⊢
  exact hrun

theorem pinned_buyersSelection : ∃ before s t after x y w,
    (opened "shop" {}).Runs promptedSource .sqlite (before ++ .replaced t :: after) w ∧
    .loaded 0 s ∈ before ∧ .sent 0 x ∈ after ∧ s.Sends .sqlite buyersSelection x ∧
    .loaded 1 s ∈ before ∧ .sent 1 y ∈ after ∧ s.Sends .sqlite buyersSelection y ∧
    (t.prepare buyersSelection).isOk = false := by
  obtain ⟨s, t, sent, x, y, w, hrun, hgone⟩ := runs_buyersSelection
  obtain ⟨-, hpins⟩ := pinned "shop" {} hrun
  obtain ⟨-, hquiet | ⟨_, _, _, hrest, hpinned, -⟩⟩ := hpins [.replaced s] 0 _ _ rfl
  · exact absurd rfl (hquiet (.loaded 0 s) (by simp))
  have hanswer : s.Sends .sqlite buyersSelection x :=
    hpinned.sends (by simp [← hrest]) (by simp [← hrest])
  obtain ⟨-, hquiet' | ⟨_, _, _, hrest', hpinned', -⟩⟩ :=
    hpins [.replaced s, .called 0 buyersSelection] 1 _ _ rfl
  · exact absurd rfl (hquiet' (.loaded 1 s) (by simp))
  have hupdates : s.Sends .sqlite buyersSelection y :=
    hpinned'.sends (by simp [← hrest']) (by simp [← hrest'])
  exact ⟨_, s, t, _, x, y, w, hrun, by simp, by simp, hanswer, by simp, by simp, hupdates, hgone⟩

end Service

end NestedRows
