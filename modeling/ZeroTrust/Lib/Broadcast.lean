/-
# `ZeroTrust.Lib.Broadcast` — a broadcast channel that drops the oldest

A sender appends to a queue that keeps the last `capacity` messages.  Each
receiver has a position of its own in the sequence of everything ever sent; it
starts at the end of that sequence and reads in order.  A receiver that is more
than `capacity` behind gets no message at its next read: it is told that it
lagged, and goes on at the oldest message that is still there.

    `recv_value`     a read hands out the message at the position
    `recv_lagged`    a lagging receiver is moved forward, never to the end
    `getLast?_of_recv_value`
                     the read that reaches the end hands out the last message

Nothing here names a particular program.
-/
import Mathlib.Tactic.Common
import Mathlib.Data.List.Basic

namespace ZeroTrust.Lib.Broadcast

variable {α : Type}

/-- What a receiver gets, with its position afterwards. -/
inductive Recv (α : Type) where
  | value (a : α) (pos : Nat)
  | lagged (pos : Nat)
  | empty

/-- One read at position `pos` of a channel on which `sent` was sent so far. -/
def recv (capacity : Nat) (sent : List α) (pos : Nat) : Recv α :=
  match sent[pos]? with
  | none => .empty
  | some a =>
      if pos + capacity < sent.length then .lagged (sent.length - capacity)
      else .value a (pos + 1)

variable {capacity pos next : Nat} {sent : List α} {a : α}

theorem recv_value (h : recv capacity sent pos = .value a next) :
    sent[pos]? = some a ∧ next = pos + 1 := by
  unfold recv at h
  split at h
  · cases h
  next b hb =>
    split at h
    · cases h
    · cases h
      exact ⟨hb, rfl⟩

theorem recv_lagged (hcap : 0 < capacity) (h : recv capacity sent pos = .lagged next) :
    pos < next ∧ next < sent.length := by
  unfold recv at h
  split at h
  · cases h
  · split at h
    · cases h
      omega
    · cases h

/-- A receiver that is not at the end is handed a message or moved forward. -/
theorem recv_of_lt (capacity : Nat) (h : pos < sent.length) :
    (∃ a, recv capacity sent pos = .value a (pos + 1)) ∨
      ∃ next, recv capacity sent pos = .lagged next := by
  unfold recv
  rw [List.getElem?_eq_getElem h]
  by_cases hlag : pos + capacity < sent.length
  · exact Or.inr ⟨_, if_pos hlag⟩
  · exact Or.inl ⟨_, if_neg hlag⟩

theorem getLast?_of_recv_value (h : recv capacity sent pos = .value a next)
    (hend : next = sent.length) : sent.getLast? = some a := by
  obtain ⟨ha, rfl⟩ := recv_value h
  rw [List.getLast?_eq_getElem?, ← hend]
  exact ha

end ZeroTrust.Lib.Broadcast
