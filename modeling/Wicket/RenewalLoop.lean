/-
**The renewal loop never lets a stored certificate lapse unless it fails for weeks.**

A round visits all groups, and the next one starts a day and at most an hour after its end.  The
theorem counts the rounds that may fail after one that did not, in whatever way, before the
certificate that is stored can expire.
-/

import Wicket.AcmeServing

namespace Wicket

open List CertFiles

open Text (CaseMapping)

/-! ### Rounds -/

/-- One round of the loop, and the jitter of the pause that follows it. -/
structure RenewalRound where
  start : Int
  finish : Int
  jitter : Fin 3600
  env : ℕ → GroupEnv

/-- When the pause after the round ends. -/
def RenewalRound.next (r : RenewalRound) : Int := r.finish + (24 * 60 * 60 + (r.jitter : ℕ))

/-- A stored certificate that is valid until then. -/
def CertFiles.Lasts (files : CertFiles) (t : Int) : Prop :=
  ∃ cert, files.stored = some cert ∧ t ≤ cert.expiry

namespace AcmeProvider

variable {κ : Type} (provider : AcmeProvider) (parse : KeyParser κ) (cm : CaseMapping)

/-- The time before its expiry at which a certificate is renewed, in seconds. -/
def margin : Int := provider.renewBeforeDays.toNat * 86400

/-- The round takes no longer than `limit`, and what is issued during it lasts for the margin. -/
structure Timely (limit : Int) (r : RenewalRound) : Prop where
  started : ∀ v ∈ provider.visits r.env, r.start ≤ v.2.now
  took : r.start ≤ r.finish ∧ r.finish ≤ r.start + limit
  issued : ∀ v ∈ provider.visits r.env, ∀ issued, v.2.issue = .ok issued →
    v.2.now + provider.margin ≤ issued.expiry

/-- The round gets to its end, and the group could have got a certificate in it. -/
structure Succeeds (storage : AcmeStorage) (manager : CertManager κ) (group : AcmeCertConfig)
    (r : RenewalRound) : Prop where
  outcome : (provider.checkAndRenew parse cm r.env storage manager).outcome = .ok ()
  visit : ∀ v ∈ provider.visits r.env, v.1 = group →
    v.2.renewalRead = .found ∧ v.2.save = .saved ∧ ∃ issued, v.2.issue = .ok issued

variable {provider parse cm}
variable {storage : AcmeStorage} {manager : CertManager κ} {group : AcmeCertConfig}
  {limit t : Int} {r next : RenewalRound} {later : List RenewalRound}

/-! ### One visit, and one round -/

theorem lasts_write {files : CertFiles} (h : files.Lasts t) {cert : StoredCert}
    (ht : t ≤ cert.expiry) (n : ℕ) : (files.write cert n).Lasts t := by
  obtain ⟨old, hold, hexpiry⟩ := h
  obtain ⟨_ | certPem, _ | keyPem, _ | m⟩ := files <;> cases hold
  match n with
  | 0 | 1 | 2 => exact ⟨_, rfl, hexpiry⟩
  | n + 3 => exact ⟨cert, by simp [write, StoredCert.writes, stored], ht⟩

theorem lasts_checkFiles {files : CertFiles} {env : GroupEnv} (hread : env.renewalRead = .found)
    (hsave : env.save = .saved) {issued : Issued} (hissue : env.issue = .ok issued)
    (hexpiry : env.now + provider.margin ≤ issued.expiry) :
    (provider.checkFiles parse files env group).1.Lasts (env.now + provider.margin) := by
  have hobtain : obtainCert files env group =
      (files.write (storedOf group issued) 3, .ok (storedOf group issued)) := by
    simp [obtainCert, hissue, hsave, saveCert, Except.mapError, Except.map]
  unfold checkFiles
  split
  · rename_i hdue
    obtain ⟨due, hok⟩ := exists_needsRenewal_found files env.now provider.renewBeforeDays.toNat
    rw [hread, hok] at hdue
    cases hdue
  · rw [hobtain]
    exact ⟨_, stored_write_three _ _, hexpiry⟩
  · -- a certificate that is not due is there, and has the time left
    rename_i hdue
    rw [hread, needsRenewal, loadCert_found] at hdue
    cases hstored : files.stored with
    | none => simp [hstored, Except.map] at hdue
    | some cert =>
      have hlasts : files.Lasts (env.now + provider.margin) := by
        refine ⟨cert, hstored, ?_⟩
        simpa [hstored, Except.map, margin] using hdue
      split <;> exact hlasts

theorem checkAndRenew_pass {env : ℕ → GroupEnv} :
    (provider.checkAndRenew parse cm env storage manager).storage =
      (provider.wholePass (provider.checkFiles parse) env storage).storage ∧
    (provider.checkAndRenew parse cm env storage manager).outcome =
      (provider.wholePass (provider.checkFiles parse) env storage).outcome := by
  unfold checkAndRenew
  dsimp only
  split
  · rename_i h
    exact ⟨rfl, h.symm⟩
  · rename_i h
    split <;> exact ⟨rfl, h.symm⟩

theorem lasts_next {pass : Pass κ} {v : AcmeCertConfig × GroupEnv} {dir : String}
    (hissued : ∀ issued, v.2.issue = .ok issued → t ≤ issued.expiry)
    (h : (pass.storage dir).Lasts t) :
    ((provider.next (provider.checkFiles parse) pass v).storage dir).Lasts t := by
  have hadv : Advances provider parse v pass (provider.next (provider.checkFiles parse) pass v) :=
    next_advances checkFiles_handled pass v
  by_cases hdir : dir = provider.dir v.1
  · subst hdir
    rcases hadv.written with hsame | ⟨issued, n, hissue, hwritten⟩
    · rwa [hsame]
    · rw [hwritten]
      exact lasts_write h (hissued issued hissue) n
  · rwa [hadv.frame dir hdir]

theorem Timely.le_expiry (hr : provider.Timely limit r) {v : AcmeCertConfig × GroupEnv}
    (hv : v ∈ provider.visits r.env) (ht : t ≤ r.start + provider.margin) (issued : Issued)
    (hissue : v.2.issue = .ok issued) : t ≤ issued.expiry := by
  have hstarted := hr.started v hv
  have hexpiry := hr.issued v hv issued hissue
  omega

/-- **No round shortens what is stored** to less than the margin from its own start. -/
theorem lasts_checkAndRenew (hr : provider.Timely limit r) {dir : String}
    (ht : t ≤ r.start + provider.margin) (h : (storage dir).Lasts t) :
    ((provider.checkAndRenew parse cm r.env storage manager).storage dir).Lasts t := by
  rw [checkAndRenew_pass.1]
  obtain ⟨-, hpass, -⟩ := pass_rule provider (provider.checkFiles parse) r.env storage
    (fun _ pass => (pass.storage dir).Lasts t) h
    (by
      rintro done v rest pass hall - hlasts -
      exact lasts_next (hr.le_expiry (by simp [hall]) ht) hlasts)
  exact hpass

/-- **After a round that succeeded** the group has a certificate for the margin. -/
theorem lasts_of_succeeds (hgroup : group ∈ provider.allCerts) (hr : provider.Timely limit r)
    (h : provider.Succeeds parse cm storage manager group r) :
    ((provider.checkAndRenew parse cm r.env storage manager).storage (provider.dir group)).Lasts
      (r.start + provider.margin) := by
  have hok := h.outcome
  rw [checkAndRenew_pass.2] at hok
  rw [checkAndRenew_pass.1]
  obtain ⟨done, hpass, hdone⟩ := pass_rule provider (provider.checkFiles parse) r.env storage
    (fun done pass => pass.outcome = .ok () → (∃ v ∈ done, v.1 = group) →
      (pass.storage (provider.dir group)).Lasts (r.start + provider.margin)) (by simp)
    (by
      rintro done v rest pass hall - hlasts hbefore hnow hvisited
      have hv : v ∈ provider.visits r.env := by simp [hall]
      by_cases hthis : v.1 = group
      · -- the visit of the group itself
        subst hthis
        obtain ⟨hread, hsave, issued, hissue⟩ := h.visit v hv rfl
        obtain ⟨cert, hstored, hexpiry⟩ := @lasts_checkFiles κ provider parse v.1 (pass.storage
          (provider.dir v.1)) v.2 hread hsave issued hissue (hr.issued v hv issued hissue)
        obtain ⟨result, hresult, -⟩ := exists_of_next_ok hnow
        have hne := (next_advances checkFiles_handled pass v).domains hnow
        have hstarted := hr.started v hv
        rw [next_of_ok hne hresult]
        exact ⟨cert, by simpa using hstored, by omega⟩
      · refine lasts_next (hr.le_expiry hv le_rfl) (hlasts hbefore ?_)
        simpa [or_and_right, exists_or, hthis] using hvisited)
  obtain rfl := hdone hok
  rw [← map_fst_visits provider r.env] at hgroup
  exact hpass hok (mem_map.1 hgroup)

/-! ### A run of the loop -/

/-- The rounds follow one another, each after the pause of the one before. -/
def Consecutive (rounds : List RenewalRound) : Prop :=
  rounds.IsChain fun r r' => r'.start = r.next

theorem lasts_cycles (h : Consecutive (r :: later)) (htimely : ∀ x ∈ r :: later,
    provider.Timely limit x) {dir : String} (ht : t ≤ r.start + provider.margin)
    (hlasts : (storage dir).Lasts t) :
    ((provider.cycles cm parse (later.map RenewalRound.env) (storage, manager)).1 dir).Lasts t := by
  induction later generalizing r storage manager with
  | nil => exact hlasts
  | cons x later ih =>
    obtain ⟨hnext, hchain⟩ := isChain_cons_cons.1 h
    have hx := htimely x (by simp)
    have hle : t ≤ x.start + provider.margin := by
      have htook := (htimely r (by simp)).took.1
      have hjitter := Int.natCast_nonneg (r.jitter : ℕ)
      rw [hnext, RenewalRound.next]
      omega
    exact ih hchain (fun y hy => htimely y (mem_cons_of_mem _ hy)) hle
      (lasts_checkAndRenew hx hle hlasts)

theorem next_le (h : provider.Timely limit r) : r.next ≤ r.start + (limit + 90000) := by
  have htook := h.took.2
  have hjitter := r.jitter.isLt
  rw [RenewalRound.next]
  omega

theorem start_le (h : Consecutive (r :: (later ++ [next]))) (htimely : ∀ x ∈ r :: later,
    provider.Timely limit x) :
    next.start ≤ r.start + (later.length + 1) * (limit + 90000) := by
  have hnext := next_le (htimely r mem_cons_self)
  induction later generalizing r with
  | nil =>
    obtain ⟨hstart, -⟩ := isChain_cons_cons.1 h
    simpa [hstart] using hnext
  | cons x later ih =>
    obtain ⟨hstart, hchain⟩ := isChain_cons_cons.1 h
    have hlater : ∀ y ∈ x :: later, provider.Timely limit y :=
      fun y hy => htimely y (mem_cons_of_mem r hy)
    have hle := ih hchain hlater (next_le (hlater x mem_cons_self))
    rw [hstart] at hle
    rw [length_cons, Int.natCast_succ, Int.add_mul]
    omega

/-- **The certificate of a group lapses only after many failures.**  After a round that succeeded
for it, any number of rounds may fail, in every way, as long as they and their pauses take no more
than the margin: until the next round starts the certificate stored has not expired. -/
theorem unexpired_until_next (hgroup : group ∈ provider.allCerts)
    (hrounds : Consecutive (r :: (later ++ [next])))
    (htimely : ∀ x ∈ r :: later, provider.Timely limit x)
    (hr : provider.Succeeds parse cm storage manager group r)
    (hfew : (later.length + 1) * (limit + 90000) ≤ provider.margin) :
    ((provider.cycles cm parse ((r :: later).map RenewalRound.env) (storage, manager)).1
      (provider.dir group)).Lasts next.start := by
  have hchain : Consecutive (r :: later) := List.IsChain.left_of_append hrounds
  obtain ⟨cert, hcert, hexpiry⟩ := lasts_cycles hchain htimely le_rfl
    (lasts_of_succeeds hgroup (htimely r mem_cons_self) hr)
  exact ⟨cert, hcert, (start_le hrounds htimely).trans (by omega)⟩

end AcmeProvider

/-- In the second round the second group cannot be read. -/
theorem twoGroups_unexpired :
    ((twoGroups.cycles CaseMapping.ascii textParser [issuingEnv 0, failingEnv 86460]
      (fun _ => {}, {})).1 "certs/production/b.com").Lasts 172940 := by
  refine @AcmeProvider.unexpired_until_next _ twoGroups textParser CaseMapping.ascii (fun _ => {})
    {} { domains := ["b.com"], dns := { provider := "cloudflare" } } 60 ⟨0, 60, 0, issuingEnv 0⟩
    ⟨172940, 172940, 0, issuingEnv 0⟩ [⟨86460, 86520, 20, failingEnv 86460⟩] (by decide)
    (by simp [AcmeProvider.Consecutive, RenewalRound.next]) ?_ ⟨by decide +kernel, ?_⟩ (by decide)
  · intro x hx
    simp only [mem_cons, not_mem_nil, or_false] at hx
    rcases hx with rfl | rfl
    all_goals
      refine ⟨?_, by decide, ?_⟩
      · intro v hv
        obtain ⟨e, -, rfl⟩ := mem_map.1 hv
        exact le_rfl
      · intro v hv issued hissue
        obtain ⟨e, -, rfl⟩ := mem_map.1 hv
        cases hissue
        simp [AcmeProvider.margin, failingEnv, issuingEnv, twoGroups]
  · intro v hv _
    obtain ⟨e, -, rfl⟩ := mem_map.1 hv
    exact ⟨rfl, rfl, _, rfl⟩

end Wicket
