import NestedRows.Live.Feed
import NestedRows.Proofs.SortedMap
import Mathlib.Data.List.Infix
/-!
# What a receiver reads

A feed holds the end of the list of all events that were published (`Feed.Holds`), and what a receiver
has seen is a place in this list. So a receiver reads the events in their order, each once, unless it
is told to have lost some (`Feed.Holds.receive_cases`). What other receivers do is of no concern to it
(`Feed.Acts.get?_receivers`).
-/

namespace NestedRows

namespace Feed

def seek (f : Feed) (r : ReceiverId) (place : Nat) : Feed :=
  { f with receivers := f.receivers.insert r place }

@[simp] theorem get?_receivers_seek (f : Feed) (r : ReceiverId) (place : Nat) :
    (f.seek r place).receivers.get? r = some place :=
  SortedMap.get?_insert_self _ _ _

/-- The events that were published are those given, and the last of them are kept. -/
structure Holds (f : Feed) (all : List ChangeEvent) : Prop where
  published : f.published = all.length
  kept : f.kept <:+ all

variable {f : Feed} {all : List ChangeEvent}

theorem holds_ofCapacity (n : Nat) : (ofCapacity n).Holds [] := ⟨rfl, List.suffix_rfl⟩

theorem Holds.publish (h : f.Holds all) (e : ChangeEvent) : (f.publish e).Holds (all ++ [e]) where
  published := by
    rw [List.length_append]
    exact congrArg (· + 1) h.published
  kept := by
    obtain ⟨older, hkept⟩ := h.kept
    refine (List.drop_suffix _ _).trans ⟨older, ?_⟩
    rw [← List.append_assoc, hkept]

theorem Holds.seek (h : f.Holds all) (r : ReceiverId) (place : Nat) : (f.seek r place).Holds all :=
  ⟨h.published, h.kept⟩

theorem Holds.getElem?_kept (h : f.Holds all) {place : Nat} (hle : f.forgotten ≤ place) :
    f.kept[place - f.forgotten]? = all[place]? := by
  obtain ⟨older, hkept⟩ := h.kept
  have hforgotten : f.forgotten = older.length := by
    rw [forgotten, h.published, ← hkept, List.length_append, Nat.add_sub_cancel]
  rw [hforgotten] at hle ⊢
  rw [← hkept, List.getElem?_append_right hle]

theorem Holds.forgotten_le (h : f.Holds all) : f.forgotten ≤ all.length := by
  rw [forgotten, h.published]
  exact Nat.sub_le _ _

/-- A receiver reads the next event or is told that it was lost, unless it has seen all events. -/
theorem Holds.receive_cases (h : f.Holds all) {r : ReceiverId} {place : Nat}
    (hplace : f.receivers.get? r = some place) (hle : place ≤ all.length) :
    (∃ e, all[place]? = some e ∧ f.receive r = .notice (.event e) (f.seek r (place + 1))) ∨
    (place < f.forgotten ∧
      f.receive r = .notice (.lagged (f.forgotten - place)) (f.seek r f.forgotten)) ∨
    (place = all.length ∧ f.receive r = if f.isOpen then .empty else .closed) := by
  rw [receive, hplace]
  by_cases hlost : place < f.forgotten
  · exact .inr (.inl ⟨hlost, if_pos hlost⟩)
  simp only [if_neg hlost, h.getElem?_kept (Nat.le_of_not_lt hlost)]
  cases hnext : all[place]? with
  | some e => exact .inl ⟨e, rfl, rfl⟩
  | none => exact .inr (.inr ⟨Nat.le_antisymm hle (List.getElem?_eq_none_iff.mp hnext), rfl⟩)

/-- A receiver that reads moves on, past the event if it reads one. -/
theorem Holds.seek_of_receive (h : f.Holds all) {r : ReceiverId} {place : Nat}
    (hplace : f.receivers.get? r = some place) (hle : place ≤ all.length) {n : Notice} {f' : Feed}
    (hreceive : f.receive r = .notice n f') :
    ∃ place' ≤ all.length, f' = f.seek r place' ∧
      ∀ e, n = .event e → all[place]? = some e ∧ place' = place + 1 := by
  rcases h.receive_cases hplace hle with ⟨e, hnext, heq⟩ | ⟨-, heq⟩ | ⟨-, heq⟩
  · obtain ⟨rfl, rfl⟩ := Reception.notice.inj (hreceive.symm.trans heq)
    refine ⟨place + 1, (List.getElem?_eq_some_iff.mp hnext).1, rfl, ?_⟩
    rintro _ ⟨⟩
    exact ⟨hnext, rfl⟩
  · obtain ⟨rfl, rfl⟩ := Reception.notice.inj (hreceive.symm.trans heq)
    exact ⟨f.forgotten, h.forgotten_le, rfl, fun e heq => by cases heq⟩
  · rw [hreceive] at heq
    split at heq <;> cases heq

/-! ### Without an event -/

theorem exists_seek_of_receive {f f' : Feed} {r : ReceiverId} {n : Notice}
    (h : f.receive r = .notice n f') : ∃ place, f' = f.seek r place := by
  rw [receive] at h
  split at h
  case h_1 => cases h
  case h_2 =>
    split at h
    case isTrue =>
      cases h
      exact ⟨_, rfl⟩
    case isFalse =>
      split at h
      case h_1 =>
        cases h
        exact ⟨_, rfl⟩
      case h_2 => split at h <;> cases h

/-- What may happen to a feed besides an event: receivers come, those of a given kind read and go, and
the feed ends. -/
inductive Acts (who : ReceiverId → Prop) : Feed → Feed → Prop
  | subscribe {f : Feed} : Acts who f f.subscribe.2
  | receive {f f' : Feed} {r : ReceiverId} (hr : who r) {n : Notice} (h : f.receive r = .notice n f') :
      Acts who f f'
  | unsubscribe {f : Feed} {r : ReceiverId} (hr : who r) : Acts who f (f.unsubscribe r)
  | close {f : Feed} : Acts who f f.close

variable {who : ReceiverId → Prop} {f' : Feed}

theorem Acts.holds (h : Acts who f f') (hf : f.Holds all) : f'.Holds all := by
  cases h with
  | receive _ hreceive =>
    obtain ⟨place, rfl⟩ := exists_seek_of_receive hreceive
    exact hf.seek _ _
  | subscribe => exact ⟨hf.published, hf.kept⟩
  | unsubscribe => exact ⟨hf.published, hf.kept⟩
  | close => exact ⟨hf.published, hf.kept⟩

theorem Acts.issued_le (h : Acts who f f') : f.issued ≤ f'.issued := by
  cases h with
  | receive _ hreceive =>
    obtain ⟨place, rfl⟩ := exists_seek_of_receive hreceive
    exact Nat.le_refl _
  | subscribe => exact Nat.le_succ _
  | unsubscribe => exact Nat.le_refl _
  | close => exact Nat.le_refl _

theorem Acts.get?_receivers (h : Acts who f f') {r : ReceiverId} (hr : ¬ who r) (hissued : r < f.issued) :
    f'.receivers.get? r = f.receivers.get? r := by
  have hne : ∀ {other}, who other → r ≠ other := fun hother heq => hr (heq ▸ hother)
  cases h with
  | receive hother hreceive =>
    obtain ⟨place, rfl⟩ := exists_seek_of_receive hreceive
    exact SortedMap.get?_insert_of_ne _ _ (hne hother)
  | subscribe => exact SortedMap.get?_insert_of_ne _ _ (Nat.ne_of_lt hissued)
  | unsubscribe hother => exact SortedMap.get?_erase_of_ne _ (hne hother)
  | close => rfl

/-- A feed that was made to keep `n` events, after anything that may have happened to it. -/
inductive Reachable (n : Nat) : Feed → Prop
  | start : Reachable n (.ofCapacity n)
  | publish {f : Feed} (hf : Reachable n f) (e : ChangeEvent) : Reachable n (f.publish e)
  | act {f f' : Feed} (hf : Reachable n f) (h : f.Acts (fun _ => True) f') : Reachable n f'

theorem Reachable.exists_holds {n : Nat} {f : Feed} (h : Reachable n f) : ∃ all, f.Holds all := by
  induction h with
  | start => exact ⟨[], holds_ofCapacity n⟩
  | publish _ e ih =>
    obtain ⟨all, hall⟩ := ih
    exact ⟨all ++ [e], hall.publish e⟩
  | act _ hacts ih =>
    obtain ⟨all, hall⟩ := ih
    exact ⟨all, hacts.holds hall⟩

end Feed

end NestedRows
