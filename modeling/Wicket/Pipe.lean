/-
**A stream that is copied in pieces.**

What has been sent is in flight, has arrived, is in the buffer of the copier or has been written,
and these four parts make up the stream.
-/

import Mathlib.Data.List.Basic

/-- One direction of a copied connection. -/
structure Pipe (α : Type) where
  sent : List α := []
  closed : Bool := false
  inFlight : List α := []
  unread : List α := []
  ended : Bool := false
  buffer : List α := []
  readDone : Bool := false
  written : List α := []
  shutdown : Bool := false
  whole : written ++ (buffer ++ (unread ++ inFlight)) = sent := by rfl
  closed_of_ended : ended = true → closed = true ∧ inFlight = [] := by simp
  ended_of_readDone : readDone = true → ended = true ∧ unread = [] := by simp
  readDone_of_shutdown : shutdown = true → readDone = true ∧ buffer = [] := by simp

namespace Pipe

variable {α : Type}

inductive Op (α : Type)
  | send (items : List α)
  | close
  | arrive (n : ℕ)
  | arriveEnd
  | read (n : ℕ)
  | readEnd
  | write (n : ℕ)
  | shut
  deriving DecidableEq

def Op.isCopy : Op α → Bool
  | .send _ | .close | .arrive _ | .arriveEnd => false
  | .read _ | .readEnd | .write _ | .shut => true

def send (p : Pipe α) (items : List α) : Pipe α :=
  if h : p.closed then p
  else
    { p with
      sent := p.sent ++ items
      inFlight := p.inFlight ++ items
      whole := by rw [← p.whole]; simp
      closed_of_ended := fun hended => absurd (p.closed_of_ended hended).1 h }

def close (p : Pipe α) : Pipe α :=
  { p with
    closed := true
    closed_of_ended := fun hended => ⟨rfl, (p.closed_of_ended hended).2⟩ }

def arrive (p : Pipe α) (n : ℕ) : Pipe α :=
  { p with
    inFlight := p.inFlight.drop n
    unread := p.unread ++ p.inFlight.take n
    whole := by rw [List.append_assoc, List.take_append_drop, p.whole]
    closed_of_ended := by
      intro hended
      obtain ⟨hclosed, hflight⟩ := p.closed_of_ended hended
      exact ⟨hclosed, by rw [hflight, List.drop_nil]⟩
    ended_of_readDone := by
      intro hdone
      obtain ⟨hended, hunread⟩ := p.ended_of_readDone hdone
      obtain ⟨-, hflight⟩ := p.closed_of_ended hended
      exact ⟨hended, by rw [hunread, hflight, List.take_nil, List.append_nil]⟩ }

def arriveEnd (p : Pipe α) : Pipe α :=
  { p with
    ended := p.closed && p.inFlight.isEmpty
    closed_of_ended := by simp
    ended_of_readDone := by
      intro hdone
      obtain ⟨hended, hunread⟩ := p.ended_of_readDone hdone
      obtain ⟨hclosed, hflight⟩ := p.closed_of_ended hended
      exact ⟨by simp [hclosed, hflight], hunread⟩ }

def read (p : Pipe α) (n : ℕ) : Pipe α :=
  { p with
    unread := p.unread.drop n
    buffer := p.buffer ++ p.unread.take n
    whole := by
      rw [List.append_assoc, ← List.append_assoc (p.unread.take n), List.take_append_drop, p.whole]
    ended_of_readDone := by
      intro hdone
      obtain ⟨hended, hunread⟩ := p.ended_of_readDone hdone
      exact ⟨hended, by rw [hunread, List.drop_nil]⟩
    readDone_of_shutdown := by
      intro hshut
      obtain ⟨hdone, hbuffer⟩ := p.readDone_of_shutdown hshut
      obtain ⟨-, hunread⟩ := p.ended_of_readDone hdone
      exact ⟨hdone, by rw [hbuffer, hunread, List.take_nil, List.append_nil]⟩ }

/-- The copier reads the end, when nothing else is left to read. -/
def readEnd (p : Pipe α) : Pipe α :=
  { p with
    readDone := p.ended && p.unread.isEmpty
    ended_of_readDone := by simp
    readDone_of_shutdown := by
      intro hshut
      obtain ⟨hdone, hbuffer⟩ := p.readDone_of_shutdown hshut
      obtain ⟨hended, hunread⟩ := p.ended_of_readDone hdone
      exact ⟨by simp [hended, hunread], hbuffer⟩ }

def write (p : Pipe α) (n : ℕ) : Pipe α :=
  { p with
    buffer := p.buffer.drop n
    written := p.written ++ p.buffer.take n
    whole := by
      rw [List.append_assoc, ← List.append_assoc (p.buffer.take n), List.take_append_drop, p.whole]
    readDone_of_shutdown := by
      intro hshut
      obtain ⟨hdone, hbuffer⟩ := p.readDone_of_shutdown hshut
      exact ⟨hdone, by rw [hbuffer, List.drop_nil]⟩ }

/-- The copier shuts the receiver down, when everything has been written. -/
def shut (p : Pipe α) : Pipe α :=
  { p with
    shutdown := p.readDone && p.buffer.isEmpty
    readDone_of_shutdown := by simp }

def apply (p : Pipe α) : Op α → Pipe α
  | .send items => p.send items
  | .close => p.close
  | .arrive n => p.arrive n
  | .arriveEnd => p.arriveEnd
  | .read n => p.read n
  | .readEnd => p.readEnd
  | .write n => p.write n
  | .shut => p.shut

def readable (p : Pipe α) : Bool := !p.unread.isEmpty || p.ended

variable (p : Pipe α)

/-- **What has been written is the beginning of the stream.** -/
theorem written_isPrefix : p.written <+: p.sent := ⟨_, p.whole⟩

theorem written_eq_sent (h : p.shutdown = true) : p.written = p.sent := by
  obtain ⟨hdone, hbuffer⟩ := p.readDone_of_shutdown h
  obtain ⟨hended, hunread⟩ := p.ended_of_readDone hdone
  obtain ⟨-, hflight⟩ := p.closed_of_ended hended
  have hwhole := p.whole
  rwa [hbuffer, hunread, hflight, List.append_nil, List.append_nil, List.append_nil] at hwhole

theorem written_eq_sent_iff : p.written = p.sent ↔ ¬ p.written.length < p.sent.length := by
  constructor
  · intro heq
    rw [heq]
    exact Nat.lt_irrefl _
  · intro hlength
    exact p.written_isPrefix.eq_of_length_le (Nat.not_lt.1 hlength)

theorem written_apply_of_not_isCopy {op : Op α} (h : op.isCopy = false) :
    (p.apply op).written = p.written := by
  cases op with
  | send items =>
    simp only [apply, send]
    split <;> rfl
  | close | arrive | arriveEnd => rfl
  | read | readEnd | write | shut => cases h

end Pipe
