/-
**The socket hash of the kernel, and where data is redirected.**

`register_pair` writes a descriptor, which has four bytes, into a hash whose values have eight, and
is refused.  Were it accepted, the program would still not find the partner: it swaps the two ends
of the sending socket and looks the result up, and that is the other end of the *same* connection.

* `SockHash.update`, `registerPair` — the registration, with the calls that may fail;
* `sockmapRedir` — the program that runs for data sent on a socket of the hash.

The main result says when data goes to the partner, for values of any length.
-/

import Wicket.KeyMap

namespace Wicket

open KeyMap List

/-! ### The registration -/

inductive SockMapError
  | Load (error : String)
  | Attach (error : String)
  | Register (error : String)
  | Unregister (error : String)
  deriving DecidableEq

structure SockAddrIn where
  sAddr : UInt32
  sinPort : UInt16
  deriving DecidableEq

structure Socket where
  fd : ℕ
  localAddr : SockAddrIn
  remoteAddr : SockAddrIn
  deriving DecidableEq

structure SockKey where
  localIp : UInt32
  remoteIp : UInt32
  localPort : UInt16
  remotePort : UInt16
  family : UInt8
  pad : UInt8 × UInt8 × UInt8 := (0, 0, 0)
  deriving DecidableEq

/-- The hash as the kernel holds it: the length of its values, as they are declared, and the socket
under each key. -/
structure SockHash where
  valueSize : ℕ
  entries : HashMap SockKey Socket := ∅

/-- `sock_hash` as it is loaded: its values are declared as `__u64`. -/
def sockHash : SockHash where
  valueSize := 8

/-- The value that is written for a socket, `RawFd::to_ne_bytes`. -/
def Socket.fdBytes (s : Socket) : List UInt8 :=
  (List.range 4).map fun i => UInt8.ofNat (s.fd / 256 ^ i)

/-- A value of another length than that of the hash is refused, and then the kernel may fail with
`error`.  The kernel stores the socket that the descriptor stands for. -/
def SockHash.update (hash : SockHash) (key : SockKey) (s : Socket) (error : Option String) :
    Except String SockHash :=
  if s.fdBytes.length = hash.valueSize then
    match error with
    | some error => .error error
    | none => .ok { hash with entries := hash.entries.insert key s }
  else
    .error ("value_size " ++ toString s.fdBytes.length ++ " != " ++ toString hash.valueSize)

def afInet : UInt8 := 2

def Socket.key (s : Socket) : SockKey where
  localIp := s.localAddr.sAddr
  remoteIp := s.remoteAddr.sAddr
  localPort := s.localAddr.sinPort
  remotePort := s.remoteAddr.sinPort
  family := afInet

/-- The errors of the calls that ask a socket for its addresses, if they fail. -/
structure NameCalls where
  getsockname : Option String := none
  getpeername : Option String := none

def sockKeyFromFd (s : Socket) (calls : NameCalls) : Except SockMapError SockKey :=
  match calls.getsockname with
  | some error => .error (.Register ("getsockname failed: " ++ error))
  | none =>
    match calls.getpeername with
    | some error => .error (.Register ("getpeername failed: " ++ error))
    | none => .ok s.key

structure SocketPair where
  client : Socket
  backend : Socket
  deriving DecidableEq

structure RegisterCalls where
  client : NameCalls := {}
  backend : NameCalls := {}
  /-- The error of putting the client socket into the hash. -/
  insertClient : Option String := none
  insertBackend : Option String := none

def registerPair (hash : SockHash) (pair : SocketPair) (calls : RegisterCalls) :
    SockHash × Except SockMapError Unit :=
  match sockKeyFromFd pair.client calls.client with
  | .error error => (hash, .error error)
  | .ok clientKey =>
    match sockKeyFromFd pair.backend calls.backend with
    | .error error => (hash, .error error)
    | .ok backendKey =>
      match hash.update clientKey pair.client calls.insertClient with
      | .error error => (hash, .error (.Register ("insert client: " ++ error)))
      | .ok hash =>
        match hash.update backendKey pair.backend calls.insertBackend with
        | .error error => (hash, .error (.Register ("insert backend: " ++ error)))
        | .ok hash => (hash, .ok ())

/-- The hash after a call for each of the pairs in which no system call fails. -/
def registerAll (hash : SockHash) (pairs : List SocketPair) : SockHash :=
  pairs.foldl (fun hash pair => (registerPair hash pair {}).1) hash

def sockets (pairs : List SocketPair) : List Socket :=
  pairs.flatMap fun pair => [pair.client, pair.backend]

def DistinctTuples (pairs : List SocketPair) : Prop :=
  ((sockets pairs).map fun s => (s.localAddr, s.remoteAddr)).Nodup

instance (pairs : List SocketPair) : Decidable (DistinctTuples pairs) :=
  inferInstanceAs (Decidable (List.Nodup _))

/-! ### The program in the kernel -/

structure Kernel where
  littleEndian : Bool
  remotePort : UInt16 → UInt32

/-- A port in the order of the network, from the order of the machine or back. -/
def Kernel.htons (kernel : Kernel) (port : UInt16) : UInt16 :=
  if kernel.littleEndian then UInt16.ofNat (port.toNat % 256 * 256 + port.toNat / 256) else port

/-- What the program gets to see of a message. -/
structure SkMsg where
  remoteIp4 : UInt32
  localIp4 : UInt32
  remotePort : UInt32
  localPort : UInt32
  size : UInt32

def Kernel.skMsg (kernel : Kernel) (s : Socket) (size : UInt32) : SkMsg where
  remoteIp4 := s.remoteAddr.sAddr
  localIp4 := s.localAddr.sAddr
  remotePort := kernel.remotePort s.remoteAddr.sinPort
  localPort := (kernel.htons s.localAddr.sinPort).toUInt32
  size := size

structure SockmapStats where
  msgsReceived : UInt64 := 0
  msgsRedirected : UInt64 := 0
  msgsDropped : UInt64 := 0
  bytesForwarded : UInt64 := 0
  lookupFailures : UInt64 := 0

def makePeerKey (key : SockKey) : SockKey where
  localIp := key.remoteIp
  remoteIp := key.localIp
  localPort := key.remotePort
  remotePort := key.localPort
  family := key.family

inductive SkAction
  | SK_DROP
  | SK_PASS
  deriving DecidableEq

structure Redirect where
  stats : Option SockmapStats
  target : Option Socket
  verdict : SkAction

def SkMsg.key (kernel : Kernel) (msg : SkMsg) : SockKey where
  localIp := msg.localIp4
  remoteIp := msg.remoteIp4
  localPort := kernel.htons msg.localPort.toUInt16
  remotePort := msg.remotePort.toUInt16
  family := 2

def sockmapRedir (kernel : Kernel) (hash : SockHash) (stats : Option SockmapStats) (msg : SkMsg) :
    Redirect :=
  let received := stats.map fun st =>
    { st with
      msgsReceived := st.msgsReceived + 1
      bytesForwarded := st.bytesForwarded + msg.size.toUInt64 }
  match hash.entries.lookup (makePeerKey (msg.key kernel)) with
  | some target =>
    { stats := received.map fun st => { st with msgsRedirected := st.msgsRedirected + 1 }
      target := some target
      verdict := .SK_PASS }
  | none =>
    -- the message goes where it was sent
    { stats := received.map fun st => { st with lookupFailures := st.lookupFailures + 1 }
      target := none
      verdict := .SK_PASS }

/-! ### What is found -/

def socketEntries (pairs : List SocketPair) : List (SockKey × Socket) :=
  (sockets pairs).map fun s => (s.key, s)

variable {hash : SockHash}

/-- Values of four bytes are accepted. -/
theorem SockHash.update_of_eq (h : hash.valueSize = 4) (key : SockKey) (s : Socket) :
    hash.update key s none = .ok { hash with entries := hash.entries.insert key s } := by
  simp [update, Socket.fdBytes, h]

/-- Values of another length are refused, whatever the kernel would have answered. -/
theorem SockHash.update_of_ne (h : hash.valueSize ≠ 4) (key : SockKey) (s : Socket)
    (error : Option String) :
    hash.update key s error = .error ("value_size 4 != " ++ toString hash.valueSize) := by
  have hlength : s.fdBytes.length = 4 := by simp [Socket.fdBytes]
  simp only [update, hlength, if_neg (Ne.symm h)]
  rfl

theorem registerPair_none (hash : SockHash) (pair : SocketPair) :
    (registerPair hash pair {}).1 = if hash.valueSize = 4 then
      { hash with entries :=
          (hash.entries.insert pair.client.key pair.client).insert pair.backend.key pair.backend }
    else hash := by
  rw [registerPair]
  by_cases hsize : hash.valueSize = 4
  · simp [sockKeyFromFd, SockHash.update_of_eq, hsize]
  · simp [sockKeyFromFd, SockHash.update_of_ne, hsize]

theorem registerAll_entries (valueSize : ℕ) (pairs : List SocketPair) :
    (registerAll ⟨valueSize, ∅⟩ pairs).entries =
      if valueSize = 4 then collect (socketEntries pairs) else ∅ := by
  have hfold : ∀ entries : HashMap SockKey Socket, registerAll ⟨valueSize, entries⟩ pairs =
      ⟨valueSize, if valueSize = 4 then
        (socketEntries pairs).foldl (fun m e => m.insert e.1 e.2) entries else entries⟩ := by
    induction pairs with
    | nil => simp [registerAll, socketEntries, sockets]
    | cons pair pairs ih =>
      intro entries
      rw [registerAll, List.foldl_cons, ← registerAll, registerPair_none]
      split
      case isTrue hsize =>
        rw [ih, if_pos hsize]
        rfl
      case isFalse hsize => rw [ih, if_neg hsize]
  rw [hfold]
  rfl

variable {s t : Socket} {pair : SocketPair}

theorem Socket.key_inj (h : s.key = t.key) :
    s.localAddr = t.localAddr ∧ s.remoteAddr = t.remoteAddr := by
  obtain ⟨_, ⟨_, _⟩, ⟨_, _⟩⟩ := s
  simp only [Socket.key, SockKey.mk.injEq] at h
  simp [h]

variable {pairs : List SocketPair}

theorem eq_of_key_eq (h : DistinctTuples pairs) (hs : s ∈ sockets pairs) (ht : t ∈ sockets pairs)
    (hkey : s.key = t.key) : s = t := by
  obtain ⟨hlocal, hremote⟩ := Socket.key_inj hkey
  exact inj_on_of_nodup_map h hs ht (by simp [hlocal, hremote])

theorem lookup_registerAll (h : DistinctTuples pairs) (valueSize : ℕ) (key : SockKey) (s : Socket) :
    (registerAll ⟨valueSize, ∅⟩ pairs).entries.lookup key = some s ↔
      valueSize = 4 ∧ s ∈ sockets pairs ∧ s.key = key := by
  rw [registerAll_entries]
  split
  case isFalse hsize => simp [hsize]
  rename_i hsize
  rw [and_iff_right hsize, lookup_collect]
  -- what is written under the key are the registered sockets with that key
  have hmem : ∀ t, (key, t) ∈ socketEntries pairs ↔ t ∈ sockets pairs ∧ t.key = key := by
    intro t
    simp only [socketEntries, mem_map, Prod.mk.injEq]
    constructor
    · rintro ⟨t', ht', hkey, rfl⟩
      exact ⟨ht', hkey⟩
    · rintro ⟨ht, hkey⟩
      exact ⟨t, ht, hkey, rfl⟩
  constructor
  · intro hlast
    exact (hmem s).1 (mem_of_lastWrite hlast)
  · intro hs
    refine lastWrite_of_forall ((hmem s).2 hs) ?_
    intro t ht
    obtain ⟨ht, hkey⟩ := (hmem t).1 ht
    exact eq_of_key_eq h ht hs.1 (hkey.trans hs.2.symm)

variable (kernel : Kernel)

theorem Kernel.htons_htons (port : UInt16) : kernel.htons (kernel.htons port) = port := by
  unfold Kernel.htons
  split
  · have hport : port.toNat < 65536 := port.toNat_lt
    have hswap : port.toNat % 256 * 256 + port.toNat / 256 < 65536 := by omega
    rw [UInt16.toNat_ofNat_of_lt' hswap]
    have hback : (port.toNat % 256 * 256 + port.toNat / 256) % 256 * 256 +
        (port.toNat % 256 * 256 + port.toNat / 256) / 256 = port.toNat := by omega
    rw [hback, UInt16.ofNat_toNat]
  · rfl

def Kernel.KeepsPort (kernel : Kernel) (port : UInt16) : Prop :=
  (kernel.remotePort port).toUInt16 = port

def Socket.IsOtherEnd (s t : Socket) : Prop :=
  t.localAddr = s.remoteAddr ∧ t.remoteAddr = s.localAddr

theorem makePeerKey_skMsg (s : Socket) (size : UInt32) :
    makePeerKey ((kernel.skMsg s size).key kernel) =
      { localIp := s.remoteAddr.sAddr
        remoteIp := s.localAddr.sAddr
        localPort := (kernel.remotePort s.remoteAddr.sinPort).toUInt16
        remotePort := s.localAddr.sinPort
        family := afInet } := by
  simp [makePeerKey, SkMsg.key, Kernel.skMsg, Kernel.htons_htons, afInet]

theorem target_eq_lookup (hash : SockHash) (stats : Option SockmapStats) (msg : SkMsg) :
    (sockmapRedir kernel hash stats msg).target =
      hash.entries.lookup (makePeerKey (msg.key kernel)) := by
  unfold sockmapRedir
  cases hash.entries.lookup (makePeerKey (msg.key kernel)) <;> rfl

/-- **The program finds the other end of the connection on which data is sent**, if there are
entries and its port is kept. -/
theorem target_sockmapRedir (h : DistinctTuples pairs) (kernel : Kernel) (valueSize : ℕ)
    (stats : Option SockmapStats) (s t : Socket) (size : UInt32) :
    (sockmapRedir kernel (registerAll ⟨valueSize, ∅⟩ pairs) stats (kernel.skMsg s size)).target =
        some t ↔
      valueSize = 4 ∧ t ∈ sockets pairs ∧ t.localAddr.sAddr = s.remoteAddr.sAddr ∧
        t.localAddr.sinPort = (kernel.remotePort s.remoteAddr.sinPort).toUInt16 ∧
        t.remoteAddr = s.localAddr := by
  rw [target_eq_lookup, lookup_registerAll h, makePeerKey_skMsg]
  obtain ⟨_, ⟨_, _⟩, ⟨_, _⟩⟩ := s
  obtain ⟨_, ⟨_, _⟩, ⟨_, _⟩⟩ := t
  simp [Socket.key, and_comm, and_left_comm, and_assoc]

/-! ### The partner -/

/-- After the calls for the pairs, data sent on a socket of a pair goes to the other one. -/
def RedirectsToPartner (kernel : Kernel) (valueSize : ℕ) (pairs : List SocketPair) : Prop :=
  ∀ pair ∈ pairs, ∀ (stats : Option SockmapStats) (size : UInt32),
    (sockmapRedir kernel (registerAll ⟨valueSize, ∅⟩ pairs) stats
      (kernel.skMsg pair.client size)).target = some pair.backend ∧
    (sockmapRedir kernel (registerAll ⟨valueSize, ∅⟩ pairs) stats
      (kernel.skMsg pair.backend size)).target = some pair.client

theorem client_mem_sockets (h : pair ∈ pairs) : pair.client ∈ sockets pairs :=
  mem_flatMap.2 ⟨pair, h, mem_cons_self⟩

theorem backend_mem_sockets (h : pair ∈ pairs) : pair.backend ∈ sockets pairs :=
  mem_flatMap.2 ⟨pair, h, mem_cons_of_mem _ mem_cons_self⟩

/-- A big-endian machine: the port is in the low half of the 32 bits. -/
def bigEndian : Kernel := ⟨false, UInt16.toUInt32⟩

/-- A little-endian machine: the kernel shifts the port into the high half. -/
def littleEndian : Kernel := ⟨true, fun port => port.toUInt32 <<< 16⟩

def clientToProxy : Socket := ⟨5, ⟨0x7f000001, 443⟩, ⟨0x7f000001, 50000⟩⟩

def proxyToBackend : Socket := ⟨6, ⟨0x7f000001, 40000⟩, ⟨0x0a000014, 8443⟩⟩

def clientEnd : Socket := ⟨7, ⟨0x7f000001, 50000⟩, ⟨0x7f000001, 443⟩⟩

def proxyToItself : Socket := ⟨8, ⟨0x7f000001, 40001⟩, ⟨0x7f000001, 444⟩⟩

def itselfToProxy : Socket := ⟨9, ⟨0x7f000001, 444⟩, ⟨0x7f000001, 40001⟩⟩

end Wicket
