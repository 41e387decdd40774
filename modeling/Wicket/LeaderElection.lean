/-
**Leader election over one Lease.**

A replica reads the Lease, decides, and writes with a merge patch that does not say which version
was read.  It may be held up between any two steps, and any request may fail, before or after it has
been applied.
-/

import Mathlib.Data.Bool.Basic
import Mathlib.Logic.Embedding.Basic

namespace Wicket.LeaderElection

open Function

/-! ### The Lease -/

def seconds (n : ℤ) : ℤ := n * 1000000000

def microTime (t : ℤ) : ℤ := t / 1000 * 1000

theorem lt_microTime_add (t : ℤ) : t < microTime t + 1000 := by
  unfold microTime
  omega

/-- A Lease: the fields of its spec that an attempt reads or writes, and its version. -/
structure Lease where
  holderIdentity : Option String
  leaseDurationSeconds : Option ℤ
  renewTime : Option ℤ
  leaseTransitions : Option ℤ
  resourceVersion : ℕ
deriving DecidableEq, Repr

structure LeaseState where
  isLeader : Bool
  holder : Option String
  expireTime : Option ℤ
deriving DecidableEq, Repr

def leaseDuration : ℤ := 15

def retryPause : ℤ := 5

def Lease.isHeldBy (lease : Lease) (id : String) : Bool :=
  lease.holderIdentity == some id

def Lease.expireTime (lease : Lease) : Option ℤ :=
  lease.renewTime.map (· + seconds (lease.leaseDurationSeconds.getD 15))

def Lease.isExpired (lease : Lease) (now : ℤ) : Bool :=
  (lease.expireTime.map fun t => decide (t < now)).getD true

variable {lease : Lease}

theorem Lease.isExpired_of_lt {now t : ℤ} (ht : lease.expireTime = some t)
    (h : lease.isExpired now = true) : t < now := by
  simpa [Lease.isExpired, ht] using h

theorem Lease.exists_isExpired (lease : Lease) :
    ∃ t, ∀ now, t < now → lease.isExpired now = true := by
  cases ht : lease.expireTime with
  | none => exact ⟨0, fun now _ => by simp [Lease.isExpired, ht]⟩
  | some t => exact ⟨t, fun now h => by simpa [Lease.isExpired, ht] using h⟩

/-! ### One attempt, cut at its requests -/

/-- How far an attempt has come.  A replica that is in a request carries what the rest of the
attempt reads. -/
inductive Attempt
  /-- The pause between two attempts. -/
  | sleeping (wake : ℤ)
  | getting (now : ℤ)
  | got (now : ℤ) (lease : Option Lease)
  | creating (base : ℤ)
  | patching (now base : ℤ) (lease : Lease)
  /-- The answer is on its way; `none` is an error. -/
  | returning (result : Option LeaseState)
deriving DecidableEq, Repr

/-- The API server's answers to a write. -/
inductive Response
  | ok
  | conflict
  | notFound
deriving DecidableEq, Repr

/-- The result of a replica that wrote the Lease with the time `base`. -/
def LeaseState.leader (id : String) (base : ℤ) : LeaseState :=
  ⟨true, some id, some (base + seconds leaseDuration)⟩

/-- The result of a replica whose write met another one. -/
def LeaseState.lost : LeaseState := ⟨false, none, none⟩

/-- Writes the Lease when the replica holds it or finds it expired.  The clock is read again for the
write. -/
def afterGet (id : String) (now clock : ℤ) : Option Lease → Attempt
  | none => .creating clock
  | some lease =>
    if lease.isHeldBy id || lease.isExpired now then .patching now clock lease
    else .returning (some ⟨false, lease.holderIdentity, lease.expireTime⟩)

def newLease (id : String) (base : ℤ) (version : ℕ) : Lease where
  holderIdentity := some id
  leaseDurationSeconds := some leaseDuration
  renewTime := some (microTime base)
  leaseTransitions := some 0
  resourceVersion := version

structure LeasePatch where
  holderIdentity : String
  leaseDurationSeconds : ℤ
  renewTime : ℤ
  leaseTransitions : ℤ
  resourceVersion : Option ℕ
deriving DecidableEq, Repr

def updatePatch (id : String) (base : ℤ) (lease : Lease) : LeasePatch where
  holderIdentity := id
  leaseDurationSeconds := leaseDuration
  renewTime := microTime base
  leaseTransitions :=
    if lease.isHeldBy id then lease.leaseTransitions.getD 0
    else lease.leaseTransitions.getD 0 + 1
  resourceVersion := none

/-- The end of `create_lease` and of `update_lease`, which treat the answer alike. -/
def writeResult (id : String) (base : ℤ) : Response → Option LeaseState
  | .ok => some (.leader id base)
  | .conflict => some .lost
  | .notFound => none

/-! ### The API server -/

/-- The API server, as far as the election sees it: the time, the Lease, and the version the last
write was given. -/
structure ApiServer where
  clock : ℤ
  lease : Option Lease
  revision : ℕ
deriving DecidableEq, Repr

def ApiServer.write (s : ApiServer) (lease : Lease) : ApiServer :=
  { s with lease := some lease, revision := s.revision + 1 }

def ApiServer.create (s : ApiServer) (id : String) (base : ℤ) : ApiServer × Response :=
  match s.lease with
  | some _ => (s, .conflict)
  | none => (s.write (newLease id base (s.revision + 1)), .ok)

def Lease.merge (patch : LeasePatch) (version : ℕ) : Lease where
  holderIdentity := some patch.holderIdentity
  leaseDurationSeconds := some patch.leaseDurationSeconds
  renewTime := some patch.renewTime
  leaseTransitions := some patch.leaseTransitions
  resourceVersion := version

/-- A patch is applied unless it names another version. -/
def ApiServer.patch (s : ApiServer) (patch : LeasePatch) : ApiServer × Response :=
  match s.lease with
  | none => (s, .notFound)
  | some current =>
    if patch.resourceVersion.all (· == current.resourceVersion) then
      (s.write (.merge patch (s.revision + 1)), .ok)
    else (s, .conflict)

theorem ApiServer.create_cases (s : ApiServer) (id : String) (base : ℤ) :
    (s.lease = none ∧ s.create id base = (s.write (newLease id base (s.revision + 1)), .ok)) ∨
    s.create id base = (s, .conflict) := by
  unfold ApiServer.create
  cases s.lease with
  | none => exact .inl ⟨rfl, rfl⟩
  | some current => exact .inr rfl

/-! ### The replicas -/

structure Replica where
  attempt : Attempt
  isLeader : Bool
  expireTime : Option ℤ
deriving DecidableEq, Repr

/-- The end of an attempt: the result is stored, an error as "not the leader", and the replica goes
to sleep. -/
def Replica.finish (clock : ℤ) (result : Option LeaseState) : Replica where
  attempt := .sleeping (clock + seconds retryPause)
  isLeader := result.any (·.isLeader)
  expireTime := result.bind (·.expireTime)

/-- A step of the replica called `id`, which may change the API server.  The patch is built by
`body`. -/
inductive Move (body : String → ℤ → Lease → LeasePatch) (id : String) (s : ApiServer)
    (rep : Replica) : ApiServer → Replica → Prop
  | wake (wake : ℤ) (h : rep.attempt = .sleeping wake) (due : wake ≤ s.clock) :
      Move body id s rep s { rep with attempt := .getting s.clock }
  | get (now : ℤ) (h : rep.attempt = .getting now) :
      Move body id s rep s { rep with attempt := .got now s.lease }
  | proceed (now : ℤ) (lease : Option Lease) (h : rep.attempt = .got now lease) :
      Move body id s rep s { rep with attempt := afterGet id now s.clock lease }
  | create (base : ℤ) (h : rep.attempt = .creating base) :
      Move body id s rep (s.create id base).1
        { rep with attempt := .returning (writeResult id base (s.create id base).2) }
  | patch (now base : ℤ) (lease : Lease) (h : rep.attempt = .patching now base lease) :
      Move body id s rep (s.patch (body id base lease)).1
        { rep with
          attempt := .returning (writeResult id base (s.patch (body id base lease)).2) }
  | finish (result : Option LeaseState) (h : rep.attempt = .returning result) :
      Move body id s rep s (.finish s.clock result)
  /-- An error of the request the replica is in, whether it was applied or not. -/
  | fail (h : ∀ wake, rep.attempt ≠ .sleeping wake) :
      Move body id s rep s (.finish s.clock none)

variable {ι : Type}

structure Election (ι : Type) where
  server : ApiServer
  replica : ι → Replica

inductive Step [DecidableEq ι] (body : String → ℤ → Lease → LeasePatch) (identity : ι ↪ String)
    (e : Election ι) : Election ι → Prop
  | tick (d : ℤ) (h : 0 ≤ d) :
      Step body identity e ⟨{ e.server with clock := e.server.clock + d }, e.replica⟩
  | move (r : ι) (s : ApiServer) (rep : Replica)
      (h : Move body (identity r) e.server (e.replica r) s rep) :
      Step body identity e ⟨s, Function.update e.replica r rep⟩

def Election.Reaches [DecidableEq ι] (body : String → ℤ → Lease → LeasePatch)
    (identity : ι ↪ String) : Election ι → Election ι → Prop :=
  Relation.ReflTransGen (Step body identity)

def Election.start (ι : Type) (clock : ℤ) (lease : Option Lease) : Election ι where
  server := ⟨clock, lease, (lease.map (·.resourceVersion)).getD 0⟩
  replica := fun _ => ⟨.sleeping clock, false, none⟩

/-- The replica takes itself for the leader on a result that expires no earlier than `margin` from
now. -/
def Election.InForce (e : Election ι) (margin : ℤ) (r : ι) : Prop :=
  (e.replica r).isLeader = true ∧
    ∃ t, (e.replica r).expireTime = some t ∧ e.server.clock + margin ≤ t

/-- At most one replica is the leader on a result that has not expired. -/
def Election.Exclusive (e : Election ι) (margin : ℤ) : Prop :=
  ∀ r r', e.InForce margin r → e.InForce margin r' → r = r'

/-! ### What ties the replicas to the Lease

The statement is about one replica and the server, so that a move has to be looked at for the
replica that moves and for one that does not. -/

def Replica.Granted (rep : Replica) (t : ℤ) : Prop :=
  (rep.isLeader = true ∧ rep.expireTime = some t) ∨
    ∃ result, rep.attempt = .returning (some result) ∧ result.isLeader = true ∧
      result.expireTime = some t

/-- The Lease on the server is the replica's, and runs until `t`, up to the microsecond. -/
def ApiServer.Grants (s : ApiServer) (id : String) (t : ℤ) : Prop :=
  ∃ lease until', s.lease = some lease ∧ lease.isHeldBy id = true ∧
    lease.expireTime = some until' ∧ t < until' + 1000

def Attempt.Sound (clock : ℤ) (id : String) : Attempt → Prop
  | .getting now | .got now _ | .creating now => now ≤ clock
  | .patching now base lease =>
    now ≤ clock ∧ base ≤ clock ∧ (lease.isHeldBy id = true ∨ lease.isExpired now = true)
  | .sleeping _ | .returning _ => True

structure Replica.Sound (s : ApiServer) (id : String) (rep : Replica) : Prop where
  attempt : rep.attempt.Sound s.clock id
  bounded : ∀ t, rep.Granted t → t ≤ s.clock + seconds leaseDuration
  renews : ∀ now base lease, rep.attempt = .patching now base lease →
    ∀ t, rep.Granted t → t ≤ base + seconds leaseDuration
  granted : ∀ t, rep.Granted t → s.Grants id t ∨ t < s.clock + 1000

/-- The replica called `id` may replace the Lease: it is its own, or it has expired. -/
def ApiServer.FreeFor (s : ApiServer) (id : String) : Prop :=
  ∀ lease, s.lease = some lease →
    lease.isHeldBy id = true ∨ ∀ t, lease.expireTime = some t → t < s.clock

theorem Lease.isHeldBy_unique {id id' : String} (h : lease.isHeldBy id = true)
    (h' : lease.isHeldBy id' = true) : id = id' := by
  rw [Lease.isHeldBy, beq_iff_eq] at h h'
  exact Option.some.inj (h.symm.trans h')

section Replica

variable {s : ApiServer} {id : String} {rep : Replica}

theorem Attempt.Sound.mono {a : Attempt} {clock clock' : ℤ} (h : a.Sound clock id)
    (hle : clock ≤ clock') : a.Sound clock' id := by
  cases a with
  | sleeping _ | returning _ => trivial
  | getting _ | got _ _ | creating _ => exact Int.le_trans h hle
  | patching now base lease => exact ⟨Int.le_trans h.1 hle, Int.le_trans h.2.1 hle, h.2.2⟩

theorem Replica.Sound.tick (h : rep.Sound s id) {d : ℤ} (hd : 0 ≤ d) :
    rep.Sound { s with clock := s.clock + d } id where
  attempt := h.attempt.mono (Int.le_add_of_nonneg_right hd)
  bounded := by
    intro t ht
    have := h.bounded t ht
    simp only
    omega
  renews := h.renews
  granted := by
    intro t ht
    refine (h.granted t ht).imp_right ?_
    simp only
    omega

theorem Replica.Sound.write {id' : String} (h : rep.Sound s id) (hne : id ≠ id')
    (hfree : s.FreeFor id') (new : Lease) : rep.Sound (s.write new) id where
  attempt := h.attempt
  bounded := h.bounded
  renews := h.renews
  granted := by
    intro t ht
    right
    obtain ⟨lease, until', hlease, hheld, huntil, hlt⟩ | hlt := h.granted t ht
    · rcases hfree lease hlease with hheld' | hexpired
      · exact absurd (Lease.isHeldBy_unique hheld hheld') hne
      · have := hexpired until' huntil
        simp only [ApiServer.write]
        omega
    · exact hlt

/-! ### What a move does to the replica that moves -/

def Attempt.Quiet (a : Attempt) : Prop :=
  ∀ result, a = .returning (some result) → result.isLeader = false

theorem Replica.Granted.of_quiet {a : Attempt} (ha : a.Quiet) {t : ℤ}
    (h : Replica.Granted { rep with attempt := a } t) : rep.Granted t := by
  rcases h with hstands | ⟨result, hreturning, hleader, -⟩
  · exact .inl hstands
  · rw [ha result hreturning] at hleader
    exact absurd hleader (by decide)

theorem Replica.Sound.quiet (h : rep.Sound s id) {a : Attempt} (ha : a.Sound s.clock id)
    (hq : a.Quiet) (hbase : ∀ now base lease, a = .patching now base lease → base = s.clock) :
    Replica.Sound s id { rep with attempt := a } where
  attempt := ha
  bounded := fun t ht => h.bounded t (ht.of_quiet hq)
  renews := by
    intro now base lease hpatching t ht
    rw [hbase now base lease hpatching]
    exact h.bounded t (ht.of_quiet hq)
  granted := fun t ht => h.granted t (ht.of_quiet hq)

theorem Replica.Sound.afterGet {now : ℤ} {lease : Option Lease} (h : rep.Sound s id)
    (hgot : rep.attempt = .got now lease) :
    Replica.Sound s id { rep with attempt := afterGet id now s.clock lease } := by
  have hnow : (Attempt.got now lease).Sound s.clock id := hgot ▸ h.attempt
  cases lease with
  | none =>
    exact h.quiet (Int.le_refl s.clock) (by rintro _ ⟨⟩) (by rintro _ _ _ ⟨⟩)
  | some lease =>
    rw [LeaderElection.afterGet]
    split
    case isTrue hmay =>
      refine h.quiet ⟨hnow, Int.le_refl _, by simpa using hmay⟩ (by rintro _ ⟨⟩) ?_
      rintro _ _ _ ⟨⟩
      rfl
    case isFalse =>
      refine h.quiet trivial ?_ (by rintro _ _ _ ⟨⟩)
      rintro _ ⟨⟩
      rfl

theorem Replica.Granted.of_finish {clock : ℤ} {result : Option LeaseState}
    (h : rep.attempt = .returning result) {t : ℤ}
    (ht : (Replica.finish clock result).Granted t) : rep.Granted t := by
  rcases ht with ⟨hleader, hexpire⟩ | ⟨result', hreturning, -⟩
  · cases result with
    | none => cases hleader
    | some state => exact .inr ⟨state, h, hleader, hexpire⟩
  · cases hreturning

theorem Replica.Sound.finish (h : rep.Sound s id) {result : Option LeaseState}
    (hreturning : rep.attempt = .returning result) :
    (Replica.finish s.clock result).Sound s id where
  attempt := trivial
  bounded := fun t ht => h.bounded t (ht.of_finish hreturning)
  renews := by rintro _ _ _ ⟨⟩
  granted := fun t ht => h.granted t (ht.of_finish hreturning)

/-- A replica that is not the leader and waits for no answer. -/
theorem Replica.sound_of_idle (hidle : rep.isLeader = false) {wake : ℤ}
    (hattempt : rep.attempt = .sleeping wake) : rep.Sound s id := by
  have hnone : ∀ t, ¬ rep.Granted t := by
    rintro t (⟨hleader, -⟩ | ⟨result, hreturning, -⟩)
    · rw [hidle] at hleader
      cases hleader
    · rw [hattempt] at hreturning
      cases hreturning
  refine ⟨hattempt ▸ trivial, fun t ht => absurd ht (hnone t), ?_, fun t ht => absurd ht (hnone t)⟩
  exact fun _ _ _ _ t ht => absurd ht (hnone t)

theorem Replica.Sound.wrote {base : ℤ} {new : Lease} (h : rep.Sound s id) (hbase : base ≤ s.clock)
    (hheld : new.isHeldBy id = true)
    (hexpire : new.expireTime = some (microTime base + seconds leaseDuration))
    (hstands : ∀ t, rep.Granted t → t ≤ base + seconds leaseDuration ∨ t < s.clock + 1000) :
    Replica.Sound (s.write new) id { rep with attempt := .returning (some (.leader id base)) } where
  attempt := trivial
  bounded := by
    rintro t (hstands | ⟨result, hreturning, -, ht⟩)
    · exact h.bounded t (.inl hstands)
    · cases hreturning
      cases ht
      simp only [ApiServer.write]
      omega
  renews := by rintro _ _ _ ⟨⟩
  granted := by
    have hgrants : ∀ t, t ≤ base + seconds leaseDuration → (s.write new).Grants id t := by
      intro t ht
      refine ⟨new, _, rfl, hheld, hexpire, ?_⟩
      have := lt_microTime_add base
      omega
    rintro t (hleader | ⟨result, hreturning, -, ht⟩)
    · exact (hstands t (.inl hleader)).imp_left (hgrants t)
    · cases hreturning
      cases ht
      exact .inl (hgrants _ (Int.le_refl _))

theorem Replica.Sound.refused (h : rep.Sound s id) {base : ℤ} {answer : Response}
    (hanswer : answer ≠ .ok) :
    Replica.Sound s id { rep with attempt := .returning (writeResult id base answer) } := by
  refine h.quiet trivial ?_ (by rintro _ _ _ ⟨⟩)
  intro result hresult
  cases answer with
  | ok => exact absurd rfl hanswer
  | conflict =>
    cases hresult
    rfl
  | notFound => cases hresult

/-- What a move does to the server: nothing, or a write that the replica may do. -/
def ApiServer.Follows (s : ApiServer) (id : String) (s' : ApiServer) : Prop :=
  s' = s ∨ ∃ new, s.FreeFor id ∧ s' = s.write new

theorem Replica.Sound.create (h : rep.Sound s id) {base : ℤ}
    (hcreating : rep.attempt = .creating base) :
    Replica.Sound (s.create id base).1 id
      { rep with attempt := .returning (writeResult id base (s.create id base).2) } ∧
    s.Follows id (s.create id base).1 := by
  have hbase : (Attempt.creating base).Sound s.clock id := hcreating ▸ h.attempt
  rcases s.create_cases id base with ⟨hnone, hcreate⟩ | hcreate
  · rw [hcreate]
    refine ⟨h.wrote hbase (by simp [Lease.isHeldBy, newLease]) rfl ?_, .inr ⟨_, ?_, rfl⟩⟩
    · -- without a Lease, everything that was ever granted has expired
      intro t ht
      rcases h.granted t ht with ⟨lease, _, hlease, -⟩ | hlt
      · rw [hnone] at hlease
        cases hlease
      · exact .inr hlt
    · intro lease hlease
      rw [hnone] at hlease
      cases hlease
  · rw [hcreate]
    exact ⟨h.refused Response.noConfusion, .inl rfl⟩

/-- A patch of the Lease that was read. -/
theorem Replica.Sound.patch (h : rep.Sound s id) {now base : ℤ} {lease : Lease}
    (hpatching : rep.attempt = .patching now base lease) (hread : s.lease = some lease) :
    Replica.Sound (s.patch (updatePatch id base lease)).1 id
      { rep with
        attempt := .returning (writeResult id base (s.patch (updatePatch id base lease)).2) } ∧
    s.Follows id (s.patch (updatePatch id base lease)).1 := by
  have hattempt : (Attempt.patching now base lease).Sound s.clock id := hpatching ▸ h.attempt
  obtain ⟨hnow, hbase, hmay⟩ := hattempt
  have hpatch : s.patch (updatePatch id base lease) =
      (s.write (.merge (updatePatch id base lease) (s.revision + 1)), .ok) := by
    simp [ApiServer.patch, hread, updatePatch]
  rw [hpatch]
  refine ⟨h.wrote hbase (by simp [Lease.isHeldBy, Lease.merge, updatePatch]) rfl
    fun t ht => .inl (h.renews now base lease hpatching t ht), .inr ⟨_, ?_, rfl⟩⟩
  intro lease' hlease'
  obtain rfl : lease = lease' := Option.some.inj (hread.symm.trans hlease')
  refine hmay.imp_right ?_
  intro hexpired t ht
  have := Lease.isExpired_of_lt ht hexpired
  omega

/-- The replica has replaced another Lease than the one it had read. -/
def ApiServer.Overwritten (s : ApiServer) (rep : Replica) (s' : ApiServer) (rep' : Replica) :
    Prop :=
  ∃ now base lease, rep.attempt = .patching now base lease ∧ rep'.attempt ≠ rep.attempt ∧
    s.lease ≠ some lease ∧ s'.revision ≠ s.revision

theorem Replica.Sound.move {s' : ApiServer} {rep' : Replica} (h : rep.Sound s id)
    (hmove : Move updatePatch id s rep s' rep') :
    s.Overwritten rep s' rep' ∨ rep'.Sound s' id ∧ s.Follows id s' := by
  cases hmove with
  | wake wake hattempt due =>
    exact .inr ⟨h.quiet (Int.le_refl s.clock) (by rintro _ ⟨⟩) (by rintro _ _ _ ⟨⟩), .inl rfl⟩
  | get now hattempt =>
    have hnow : (Attempt.getting now).Sound s.clock id := hattempt ▸ h.attempt
    exact .inr ⟨h.quiet hnow (by rintro _ ⟨⟩) (by rintro _ _ _ ⟨⟩), .inl rfl⟩
  | proceed now lease hattempt => exact .inr ⟨h.afterGet hattempt, .inl rfl⟩
  | create base hattempt => exact .inr (h.create hattempt)
  | patch now base lease hattempt =>
    by_cases hread : s.lease = some lease
    · exact .inr (h.patch hattempt hread)
    · cases hlease : s.lease with
      | none =>
        have hpatch : s.patch (updatePatch id base lease) = (s, .notFound) := by
          rw [ApiServer.patch, hlease]
        rw [hpatch]
        exact .inr ⟨h.refused Response.noConfusion, .inl rfl⟩
      | some current =>
        refine .inl ⟨now, base, lease, hattempt, by simp [hattempt], hread, ?_⟩
        simp [ApiServer.patch, hlease, updatePatch, ApiServer.write]
  | finish result hattempt => exact .inr ⟨h.finish hattempt, .inl rfl⟩
  | fail hattempt => exact .inr ⟨Replica.sound_of_idle rfl rfl, .inl rfl⟩

end Replica

/-! ### All replicas -/

section Replicas

variable {identity : ι ↪ String}

def Election.Sound (identity : ι ↪ String) (e : Election ι) : Prop :=
  ∀ r, (e.replica r).Sound e.server (identity r)

theorem Election.Sound.exclusive {e : Election ι} (h : e.Sound identity) : e.Exclusive 1000 := by
  have hholds : ∀ r, e.InForce 1000 r →
      ∃ lease, e.server.lease = some lease ∧ lease.isHeldBy (identity r) = true := by
    rintro r ⟨hleader, t, ht, hlate⟩
    rcases (h r).granted t (.inl ⟨hleader, ht⟩) with ⟨lease, _, hlease, hheld, -⟩ | hlt
    · exact ⟨lease, hlease, hheld⟩
    · omega
  intro r r' hr hr'
  obtain ⟨lease, hlease, hheld⟩ := hholds r hr
  obtain ⟨lease', hlease', hheld'⟩ := hholds r' hr'
  obtain rfl : lease = lease' := Option.some.inj (hlease.symm.trans hlease')
  exact identity.injective (Lease.isHeldBy_unique hheld hheld')

/-- In the step, a replica replaces a Lease that it has not read. -/
def Election.Overwrites (e e' : Election ι) : Prop :=
  ∃ r, e.server.Overwritten (e.replica r) e'.server (e'.replica r)

variable [DecidableEq ι]

theorem Election.Sound.step {e e' : Election ι} (h : e.Sound identity)
    (hstep : Step updatePatch identity e e') : e.Overwrites e' ∨ e'.Sound identity := by
  cases hstep with
  | tick d hd => exact .inr fun r => (h r).tick hd
  | move r s rep hmove =>
    refine ((h r).move hmove).imp (fun hover => ⟨r, by simpa using hover⟩) ?_
    rintro ⟨hrep, hserver⟩ r'
    by_cases hr : r' = r
    · subst hr
      simpa using hrep
    · simp only [update_of_ne hr]
      rcases hserver with rfl | ⟨new, hfree, rfl⟩
      · exact h r'
      · exact (h r').write (identity.injective.ne hr) hfree new

/-- There is a run from `e` to `e'` in which no replica replaces a Lease that it has not read. -/
def Election.ReachesUnlost (identity : ι ↪ String) : Election ι → Election ι → Prop :=
  Relation.ReflTransGen fun e e' => Step updatePatch identity e e' ∧ ¬e.Overwrites e'

/-- A step of the replica `r` prolongs the run if it writes nothing, or if the Lease on the server
is the one it has read. -/
theorem Election.ReachesUnlost.move {e : Election ι} {s s' : ApiServer} {r : ι} {rep rep' : Replica}
    {others : ι → Replica} (h : e.ReachesUnlost identity ⟨s, update others r rep⟩)
    (hmove : Move updatePatch (identity r) s rep s' rep')
    (hkept : s' = s ∨ ∃ now base lease, rep.attempt = .patching now base lease ∧
      s.lease = some lease) :
    e.ReachesUnlost identity ⟨s', update others r rep'⟩ := by
  have hstep : Step updatePatch identity ⟨s, update others r rep⟩
      ⟨s', update (update others r rep) r rep'⟩ := .move r s' rep' (by simpa using hmove)
  rw [update_idem] at hstep
  refine h.tail ⟨hstep, ?_⟩
  rintro ⟨r', now, base, lease, hpatching, hmoved, hunread, hwrites⟩
  by_cases hr : r' = r
  · subst hr
    rcases hkept with rfl | ⟨now', base', lease', hattempt, hread⟩
    · exact hwrites rfl
    · simp only [update_self, hattempt, Attempt.patching.injEq] at hpatching
      exact hunread (hpatching.2.2 ▸ hread)
  · simp [update_of_ne hr] at hmoved

/-- **Two replicas lead at once only after a lost update**: a run in which no replica replaces a
Lease that it has not read ends with at most one leader, but for the microsecond that the renew time
loses when it is written down. -/
theorem exclusive_of_reachesUnlost {clock : ℤ} {lease : Option Lease} {e : Election ι}
    (h : (Election.start ι clock lease).ReachesUnlost identity e) : e.Exclusive 1000 := by
  have hsound : e.Sound identity := by
    induction h with
    | refl => exact fun r => Replica.sound_of_idle rfl rfl
    | tail _ hstep ih => exact (ih.step hstep.1).resolve_left hstep.2
  exact hsound.exclusive

/-! ### The patches of the code -/

def Solo (id : String) : ApiServer × Replica → ApiServer × Replica → Prop :=
  Relation.ReflTransGen fun p q => Move updatePatch id p.1 p.2 q.1 q.2

theorem Election.exists_of_solo (identity : ι ↪ String) {e : Election ι} {r : ι} {s : ApiServer}
    {rep : Replica}
    (h : Solo (identity r) (e.server, e.replica r) (s, rep)) :
    ∃ e', e.Reaches updatePatch identity e' ∧ e'.server = s ∧ e'.replica r = rep ∧
      ∀ r', r' ≠ r → e'.replica r' = e.replica r' := by
  have hrun : ∀ q, Solo (identity r) (e.server, e.replica r) q →
      e.Reaches updatePatch identity ⟨q.1, update e.replica r q.2⟩ := by
    intro q hq
    induction hq with
    | refl =>
      rw [update_eq_self]
      exact .refl
    | @tail p q _ hmove ih =>
      refine ih.tail ?_
      have hstep : Step updatePatch identity ⟨p.1, update e.replica r p.2⟩
          ⟨q.1, update (update e.replica r p.2) r q.2⟩ :=
        .move r q.1 q.2 (by simpa using hmove)
      rwa [update_idem] at hstep
  refine ⟨_, hrun (s, rep) h, rfl, update_self .., ?_⟩
  exact fun r' hr' => update_of_ne hr' ..

end Replicas

variable {id : String} {s : ApiServer} {rep : Replica}

theorem Solo.step {p : ApiServer × Replica} {s' : ApiServer} {rep' : Replica}
    (h : Solo id p (s, rep)) (hmove : Move updatePatch id s rep s' rep') : Solo id p (s', rep') :=
  Relation.ReflTransGen.tail h hmove

theorem solo_got {wake : ℤ} (hsleeping : rep.attempt = .sleeping wake) (hdue : wake ≤ s.clock) :
    Solo id (s, rep) (s, { rep with attempt := afterGet id s.clock s.clock s.lease }) := by
  have hasks : Solo id (s, rep) (s, { rep with attempt := .getting s.clock }) :=
    Solo.step .refl (.wake wake hsleeping hdue)
  have hgot : Solo id (s, rep) (s, { rep with attempt := .got s.clock s.lease }) :=
    hasks.step (.get s.clock rfl)
  exact hgot.step (.proceed s.clock s.lease rfl)

theorem solo_patching {wake : ℤ} (hlease : s.lease = some lease)
    (hexpired : lease.isExpired s.clock = true) (hsleeping : rep.attempt = .sleeping wake)
    (hdue : wake ≤ s.clock) :
    Solo id (s, rep) (s, { rep with attempt := .patching s.clock s.clock lease }) := by
  have hafter : afterGet id s.clock s.clock s.lease = .patching s.clock s.clock lease := by
    rw [hlease, afterGet, hexpired, Bool.or_true, if_pos rfl]
  rw [← hafter]
  exact solo_got hsleeping hdue

theorem solo_created {wake : ℤ} (hlease : s.lease = none)
    (hsleeping : rep.attempt = .sleeping wake) (hdue : wake ≤ s.clock) :
    Solo id (s, rep) (s.write (newLease id s.clock (s.revision + 1)),
      .finish s.clock (some (.leader id s.clock))) := by
  have hcreating : Solo id (s, rep) (s, { rep with attempt := .creating s.clock }) := by
    have hgot : Solo id (s, rep) (s, { rep with attempt := afterGet id s.clock s.clock s.lease }) :=
      solo_got hsleeping hdue
    rwa [hlease] at hgot
  have hcreate : s.create id s.clock = (s.write (newLease id s.clock (s.revision + 1)), .ok) := by
    rw [ApiServer.create, hlease]
  have hcreated := hcreating.step (.create s.clock rfl)
  rw [hcreate] at hcreated
  exact hcreated.step (.finish _ rfl)

theorem solo_leader {now base : ℤ} {lease current : Lease}
    (hpatching : rep.attempt = .patching now base lease) (hlease : s.lease = some current) :
    Solo id (s, rep) (s.write (.merge (updatePatch id base lease) (s.revision + 1)),
      .finish s.clock (some (.leader id base))) := by
  have hpatch : s.patch (updatePatch id base lease) =
      (s.write (.merge (updatePatch id base lease) (s.revision + 1)), .ok) := by
    simp [ApiServer.patch, hlease, updatePatch]
  have hrefl : Solo id (s, rep) (s, rep) := .refl
  have hpatched := hrefl.step (.patch now base lease hpatching)
  rw [hpatch] at hpatched
  exact hpatched.step (.finish _ rfl)

section Race

variable [DecidableEq ι] (identity : ι ↪ String)

theorem Election.both_lead {e : Election ι} {r r' : ι} (hne : r ≠ r')
    {lease : Lease} {wake wake' : ℤ} (hlease : e.server.lease = some lease)
    (hexpired : lease.isExpired e.server.clock = true)
    (hr : (e.replica r).attempt = .sleeping wake) (hr' : (e.replica r').attempt = .sleeping wake')
    (hdue : wake ≤ e.server.clock) (hdue' : wake' ≤ e.server.clock) :
    ∃ e', e.Reaches updatePatch identity e' ∧ e'.server.clock = e.server.clock ∧
      e'.InForce 0 r ∧ e'.InForce 0 r' := by
  -- both read the Lease before either of them writes it
  obtain ⟨e₁, h₁, hs₁, hr₁, ho₁⟩ :=
    Election.exists_of_solo identity (e := e) (r := r) (solo_patching hlease hexpired hr hdue)
  rw [← hs₁] at hlease hexpired hdue'
  rw [← ho₁ r' hne.symm] at hr'
  obtain ⟨e₂, h₂, hs₂, hr₂, ho₂⟩ :=
    Election.exists_of_solo identity (e := e₁) (r := r') (solo_patching hlease hexpired hr' hdue')
  -- then both patches are applied
  rw [← hs₂] at hlease
  have hpatching : (e₂.replica r).attempt = .patching e.server.clock e.server.clock lease := by
    rw [ho₂ r hne, hr₁]
  obtain ⟨e₃, h₃, hs₃, hr₃, ho₃⟩ :=
    Election.exists_of_solo identity (e := e₂) (r := r) (solo_leader hpatching hlease)
  have hpatching' : (e₃.replica r').attempt = .patching e₁.server.clock e₁.server.clock lease := by
    rw [ho₃ r' hne.symm, hr₂]
  obtain ⟨e₄, h₄, hs₄, hr₄, ho₄⟩ :=
    Election.exists_of_solo identity (e := e₃) (r := r')
      (solo_leader hpatching' (by rw [hs₃]; rfl))
  have hclock : e₄.server.clock = e.server.clock := by
    rw [hs₄]
    rw [hs₃]
    change e₂.server.clock = _
    rw [hs₂, hs₁]
  refine ⟨e₄, ((h₁.trans h₂).trans h₃).trans h₄, hclock, ?_, ?_⟩
  · refine ⟨by rw [ho₄ r hne, hr₃]; rfl, e.server.clock + seconds leaseDuration, ?_, ?_⟩
    · rw [ho₄ r hne, hr₃]
      rfl
    · rw [hclock, seconds, leaseDuration]
      omega
  · refine ⟨by rw [hr₄]; rfl, e₁.server.clock + seconds leaseDuration, by rw [hr₄]; rfl, ?_⟩
    rw [hclock, hs₁, seconds, leaseDuration]
    omega

theorem Election.exists_lease (clock : ℤ) (lease : Option Lease) (r : ι) :
    ∃ e l, (Election.start ι clock lease).Reaches updatePatch identity e ∧
      e.server.lease = some l ∧ ∀ r', ∃ wake, (e.replica r').attempt = .sleeping wake := by
  cases lease with
  | some l => exact ⟨_, l, .refl, rfl, fun r' => ⟨clock, rfl⟩⟩
  | none =>
    obtain ⟨e, h, hs, hr, ho⟩ := Election.exists_of_solo identity
      (e := Election.start ι clock none) (r := r)
      (solo_created rfl rfl (Int.le_refl clock))
    refine ⟨e, _, h, by rw [hs]; rfl, ?_⟩
    intro r'
    by_cases hr' : r' = r
    · rw [hr', hr]
      exact ⟨_, rfl⟩
    · rw [ho r' hr']
      exact ⟨clock, rfl⟩

theorem Election.exists_both_lead {r r' : ι} (hne : r ≠ r') (clock : ℤ) (lease : Option Lease) :
    ∃ e, (Election.start ι clock lease).Reaches updatePatch identity e ∧
      e.InForce 0 r ∧ e.InForce 0 r' := by
  obtain ⟨e, l, he, hl, hsleeping⟩ := Election.exists_lease identity clock lease r
  obtain ⟨t, ht⟩ := l.exists_isExpired
  obtain ⟨wake, hr⟩ := hsleeping r
  obtain ⟨wake', hr'⟩ := hsleeping r'
  -- time passes until the Lease has expired and both are awake
  obtain ⟨d, hd, hexpired, hdue, hdue'⟩ : ∃ d, 0 ≤ d ∧ t < e.server.clock + d ∧
      wake ≤ e.server.clock + d ∧ wake' ≤ e.server.clock + d := by
    refine ⟨max 0 (max (t + 1 - e.server.clock)
      (max (wake - e.server.clock) (wake' - e.server.clock))), ?_, ?_, ?_, ?_⟩ <;> omega
  obtain ⟨e', he', -, hlead, hlead'⟩ := Election.both_lead identity hne
    (e := ⟨{ e.server with clock := e.server.clock + d }, e.replica⟩) hl (ht _ hexpired) hr hr'
    hdue hdue'
  exact ⟨e', (he.tail (.tick d hd)).trans he', hlead, hlead'⟩

/-- **The election of the code is exclusive exactly when there is at most one replica**, whatever
the Lease was at the start. -/
theorem exclusive_iff (clock : ℤ) (lease : Option Lease) :
    (∀ e, (Election.start ι clock lease).Reaches updatePatch identity e → e.Exclusive 0) ↔
      Subsingleton ι := by
  constructor
  · intro h
    refine ⟨fun r r' => ?_⟩
    by_contra hne
    obtain ⟨e, he, hlead, hlead'⟩ :=
      Election.exists_both_lead identity hne clock lease
    exact hne (h e he r r' hlead hlead')
  · intro h e _ r r' _ _
    exact Subsingleton.elim r r'

def controllers : Bool ↪ String :=
  ⟨fun b => if b then "wicket-controller-1" else "wicket-controller-0",
    Bool.injective_iff.mpr (by decide)⟩

def orphanedLease : Lease :=
  ⟨some "wicket-controller-2", some 15, some 0, some 3, 7⟩

/-- Twenty seconds later both replicas find it expired, and both become the leader for the fifteen
seconds that follow. -/
theorem orphanedLease_two_leaders :
    ∃ e, (Election.start Bool (seconds 20) (some orphanedLease)).Reaches updatePatch controllers e ∧
      e.server.clock = seconds 20 ∧ e.InForce 0 false ∧ e.InForce 0 true :=
  Election.both_lead controllers Bool.false_ne_true rfl (by decide) rfl rfl (by decide) (by decide)

/-- The first replica takes the expired Lease over while the second one sleeps. -/
theorem orphanedLease_taken :
    ∃ e, (Election.start Bool (seconds 20) (some orphanedLease)).ReachesUnlost controllers e ∧
      e.InForce 1000 false ∧ e.Exclusive 1000 := by
  have hstart : (Election.start Bool (seconds 20) (some orphanedLease)).ReachesUnlost controllers
      ⟨⟨seconds 20, some orphanedLease, 7⟩, update (fun _ => ⟨.sleeping (seconds 20), false, none⟩)
        false ⟨.sleeping (seconds 20), false, none⟩⟩ := by
    rw [update_eq_self_iff.mpr rfl]
    exact .refl
  have hwoken := hstart.move (.wake (seconds 20) rfl (Int.le_refl _)) (.inl rfl)
  have hread := hwoken.move (.get (seconds 20) rfl) (.inl rfl)
  have hdecided := hread.move (.proceed (seconds 20) (some orphanedLease) rfl) (.inl rfl)
  have hpatched := hdecided.move (.patch (seconds 20) (seconds 20) orphanedLease rfl)
    (.inr ⟨_, _, _, rfl, rfl⟩)
  have hdone := hpatched.move (.finish _ rfl) (.inl rfl)
  refine ⟨_, hdone, ?_, exclusive_of_reachesUnlost hdone⟩
  exact ⟨by decide, seconds 35, by decide, by decide⟩

end Race

end Wicket.LeaderElection
