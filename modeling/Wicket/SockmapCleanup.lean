/-
**What registrations leave in the socket hash.**

Nothing: the hash refuses the descriptors that `register_pair` writes, so it stays empty and every
failed registration and every removal leaves it without an entry of the pair.  In a hash that took
them, a first insertion would not be undone when the second fails, nothing would be deleted when a
socket cannot be asked for its addresses, and a deletion that fails would not be reported.

* `unregisterPair`, `SockCall`, `hashAfter` — the removal, and runs of both calls;
* `SockCall.leavesNothing_iff` — which calls leave nothing, in a hash with values of any length.

The main result: no call leaves an entry of its pair, in any run.
-/

import Wicket.Sockmap

namespace Wicket

open KeyMap

/-! ### Calls and runs -/

/-- What happens while a pair is taken out. -/
structure UnregisterCalls where
  client : NameCalls := {}
  backend : NameCalls := {}
  deleteClient : Option String := none
  deleteBackend : Option String := none

/-- A deletion; what it answers is not looked at. -/
def deleteKey (hash : SockHash) (key : SockKey) (error : Option String) : SockHash :=
  if error.isSome then hash else { hash with entries := hash.entries.erase key }

def unregisterPair (hash : SockHash) (pair : SocketPair) (calls : UnregisterCalls) :
    SockHash × Except SockMapError Unit :=
  match sockKeyFromFd pair.client calls.client with
  | .error _ => (hash, .ok ())
  | .ok clientKey =>
    match sockKeyFromFd pair.backend calls.backend with
    | .error _ => (hash, .ok ())
    | .ok backendKey =>
      (deleteKey (deleteKey hash clientKey calls.deleteClient) backendKey calls.deleteBackend,
        .ok ())

inductive SockCall
  | register (pair : SocketPair) (calls : RegisterCalls)
  | unregister (pair : SocketPair) (calls : UnregisterCalls)

namespace SockCall

def pair : SockCall → SocketPair
  | register pair _ | unregister pair _ => pair

def apply (hash : SockHash) : SockCall → SockHash × Except SockMapError Unit
  | register pair calls => registerPair hash pair calls
  | unregister pair calls => unregisterPair hash pair calls

end SockCall

/-- The hash after the calls, from the one that is loaded. -/
def hashAfter (calls : List SockCall) : SockHash :=
  calls.foldl (fun hash call => (call.apply hash).1) sockHash

def SocketPair.sockets (pair : SocketPair) : List Socket := [pair.client, pair.backend]

/-! ### What the calls do -/

def NameCalls.succeed (calls : NameCalls) : Bool :=
  calls.getsockname.isNone && calls.getpeername.isNone

variable {hash : SockHash} {pair : SocketPair} {s : Socket}

theorem sockKeyFromFd_cases (s : Socket) (calls : NameCalls) :
    (calls.succeed = true ∧ sockKeyFromFd s calls = .ok s.key) ∨
      (calls.succeed = false ∧ ∃ e, sockKeyFromFd s calls = .error e) := by
  obtain ⟨_ | _, _ | _⟩ := calls
  · exact .inl ⟨rfl, rfl⟩
  all_goals exact .inr ⟨rfl, _, rfl⟩

/-- The first insertion succeeds and the second fails. -/
def RegisterCalls.stopsHalfway (calls : RegisterCalls) : Bool :=
  calls.client.succeed && calls.backend.succeed && calls.insertClient.isNone &&
    calls.insertBackend.isSome

/-- A hash with values of another length stays as it is. -/
theorem registerPair_of_ne (h : hash.valueSize ≠ 4) (pair : SocketPair) (calls : RegisterCalls) :
    ∃ e, registerPair hash pair calls = (hash, .error e) := by
  rw [registerPair]
  rcases sockKeyFromFd_cases pair.client calls.client with ⟨-, hkey⟩ | ⟨-, e, hkey⟩
  · rcases sockKeyFromFd_cases pair.backend calls.backend with ⟨-, hkey'⟩ | ⟨-, e, hkey'⟩
    · simp only [hkey, hkey', SockHash.update_of_ne h]
      exact ⟨_, rfl⟩
    · exact ⟨e, by simp [hkey, hkey']⟩
  · exact ⟨e, by simp [hkey]⟩

theorem registerPair_cases (h : hash.valueSize = 4) (pair : SocketPair) (calls : RegisterCalls) :
    ((∃ e, (registerPair hash pair calls).2 = .error e) ∧ calls.stopsHalfway = false ∧
        (registerPair hash pair calls).1 = hash) ∨
      ((∃ e, (registerPair hash pair calls).2 = .error e) ∧ calls.stopsHalfway = true ∧
        (registerPair hash pair calls).1.entries =
          hash.entries.insert pair.client.key pair.client) ∨
      ((registerPair hash pair calls).2 = .ok () ∧ calls.stopsHalfway = false) := by
  rw [registerPair, RegisterCalls.stopsHalfway]
  rcases sockKeyFromFd_cases pair.client calls.client with ⟨hc, hkey⟩ | ⟨hc, e, hkey⟩
  · rcases sockKeyFromFd_cases pair.backend calls.backend with ⟨hb, hkey'⟩ | ⟨hb, e, hkey'⟩
    · cases calls.insertClient <;> cases calls.insertBackend <;>
        simp [hc, hkey, hb, hkey', SockHash.update, Socket.fdBytes, h]
    · simp [hkey, hkey', hb]
  · simp [hkey, hc]

/-- The keys that are deleted. -/
def UnregisterCalls.deleted (calls : UnregisterCalls) (pair : SocketPair) : List SockKey :=
  if calls.client.succeed && calls.backend.succeed then
    (if calls.deleteClient.isSome then [] else [pair.client.key]) ++
      (if calls.deleteBackend.isSome then [] else [pair.backend.key])
  else []

theorem lookup_deleteKey (hash : SockHash) (key key' : SockKey) (error : Option String) :
    (deleteKey hash key error).entries.lookup key' =
      if key' ∈ (if error.isSome then [] else [key]) then none else hash.entries.lookup key' := by
  rw [deleteKey]
  split
  · simp
  · by_cases hkey : key' = key
    · subst hkey
      simp
    · simp [hkey, AList.lookup_erase_ne hkey]

theorem lookup_unregisterPair (hash : SockHash) (pair : SocketPair) (calls : UnregisterCalls)
    (key : SockKey) : (unregisterPair hash pair calls).1.entries.lookup key =
      if key ∈ calls.deleted pair then none else hash.entries.lookup key := by
  rw [unregisterPair, UnregisterCalls.deleted]
  rcases sockKeyFromFd_cases pair.client calls.client with ⟨hc, hkey⟩ | ⟨hc, e, hkey⟩
  · rcases sockKeyFromFd_cases pair.backend calls.backend with ⟨hb, hkey'⟩ | ⟨hb, e, hkey'⟩
    · simp only [hkey, hkey', hc, hb, Bool.and_self, if_true, lookup_deleteKey, List.mem_append]
      split_ifs <;> first | rfl | simp_all
    · simp [hkey, hkey', hb]
  · simp [hkey, hc]

/-! ### Leftovers -/

def SocketPair.Alone (pair : SocketPair) (calls : List SockCall) : Prop :=
  ∀ other rc, .register other rc ∈ calls → other ≠ pair → ∀ s ∈ pair.sockets, s ∉ other.sockets

/-- After a registration that fails, the hash has no entry that it has put in; after a pair was
taken out, it has no entry of the pair. -/
def SockCall.LeavesNothing (hash : SockHash) : SockCall → Prop
  | .register pair calls => (registerPair hash pair calls).2 ≠ .ok () → ∀ s ∈ pair.sockets,
      (registerPair hash pair calls).1.entries.lookup s.key = some s →
        hash.entries.lookup s.key = some s
  | .unregister pair calls => (unregisterPair hash pair calls).2 = .ok () → ∀ s ∈ pair.sockets,
      (unregisterPair hash pair calls).1.entries.lookup s.key ≠ some s

/-- A registration that is accepted does not stop halfway, and each socket that is there is deleted
when its pair is taken out. -/
def SockCall.Completes (hash : SockHash) : SockCall → Prop
  | .register pair calls => hash.valueSize = 4 → calls.stopsHalfway = true →
      hash.entries.lookup pair.client.key = some pair.client
  | .unregister pair calls => ∀ s ∈ pair.sockets, hash.entries.lookup s.key = some s →
      s.key ∈ calls.deleted pair

/-- **The calls that leave nothing**, in a hash with values of any length. -/
theorem SockCall.leavesNothing_iff (hash : SockHash) (call : SockCall) :
    call.LeavesNothing hash ↔ call.Completes hash := by
  cases call with
  | register pair calls =>
    simp only [LeavesNothing, Completes]
    by_cases hsize : hash.valueSize = 4
    case neg =>
      obtain ⟨e, heq⟩ := registerPair_of_ne hsize pair calls
      simp [heq, hsize]
    rcases registerPair_cases hsize pair calls with
      ⟨-, hstop, heq⟩ | ⟨⟨e, he⟩, hstop, heq⟩ | ⟨hok, hstop⟩
    · simp [heq, hstop]
    · simp only [heq, he, hsize, hstop, forall_const, ne_eq, reduceCtorEq, not_false_eq_true]
      constructor
      · intro h
        exact h pair.client (by simp [SocketPair.sockets]) (AList.lookup_insert _)
      · intro h s _ hs
        rcases lookup_insert_cases hs with ⟨-, rfl⟩ | hs
        · exact h
        · exact hs
    · simp [hok, hstop]
  | unregister pair calls =>
    have hok : (unregisterPair hash pair calls).2 = .ok () := by
      rw [unregisterPair]
      split
      · rfl
      · split <;> rfl
    simp only [LeavesNothing, Completes, hok, forall_const, lookup_unregisterPair]
    refine forall₂_congr fun s _ => ?_
    by_cases hs : s.key ∈ calls.deleted pair <;> simp [hs]

/-! ### The hash that is loaded -/

/-- The hash refuses every insertion, so there is never anything to delete. -/
theorem SockCall.apply_sockHash (call : SockCall) : (call.apply sockHash).1 = sockHash := by
  cases call with
  | register pair calls =>
    obtain ⟨e, heq⟩ := @registerPair_of_ne sockHash (by decide) pair calls
    rw [apply, heq]
  | unregister pair calls =>
    have hdelete : ∀ key error, deleteKey sockHash key error = sockHash := by
      intro key error
      rw [deleteKey]
      split <;> rfl
    rw [apply, unregisterPair]
    split
    · rfl
    · split
      · rfl
      · simp only [hdelete]

theorem hashAfter_eq (calls : List SockCall) : hashAfter calls = sockHash := by
  induction calls using List.reverseRecOn with
  | nil => rfl
  | append_singleton calls call ih =>
    rw [hashAfter, List.foldl_append, ← hashAfter, ih]
    exact call.apply_sockHash

def NoLeftovers (calls : List SockCall) : Prop :=
  ∀ before call, before ++ [call] <+: calls → call.pair.Alone before →
    call.LeavesNothing (hashAfter before)

/-- **Nothing of a pair is left in the hash** after a registration that fails or a removal, whatever
calls were made before and whichever of them failed. -/
theorem noLeftovers (calls : List SockCall) : NoLeftovers calls := by
  intro before call _ _
  rw [hashAfter_eq, SockCall.leavesNothing_iff]
  cases call with
  | register pair calls =>
    intro hsize
    cases hsize
  | unregister pair calls =>
    intro s _ hs
    cases hs

end Wicket
