/-
**The names an ACME certificate is served for.**

A stored certificate is found by the first domain of its group alone, and served for all domains of
the group as it is configured now.
-/

import Wicket.AcmeProvider

namespace Wicket

open List CertFiles List.Subset

open Text (CaseMapping)

namespace AcmeProvider

def ServesOwnNames (κ : Type) (cm : CaseMapping) (provider : AcmeProvider) (storage : AcmeStorage) :
    Prop :=
  ∀ (parse : KeyParser κ) (env : ℕ → GroupEnv) (manager : CertManager κ),
    ∀ i ∈ (provider.initializeCerts parse cm env storage manager).inserted ++
        (provider.checkAndRenew parse cm env storage manager).inserted,
      i.domains ⊆ i.stored.domains

/-- The domains of every group are among those described in its directory, and those of an earlier
group that uses it. -/
def NamesStored (provider : AcmeProvider) (storage : AcmeStorage) : Prop :=
  ∀ before group after, provider.allCerts = before ++ group :: after →
    (∀ g ∈ before, g.domains ≠ []) →
      (∀ m, (storage (provider.dir group)).certMeta = some m → group.domains ⊆ m.domains) ∧
      ∀ g ∈ before, provider.dir g = provider.dir group → group.domains ⊆ g.domains

variable {κ : Type} {cm : CaseMapping} {provider : AcmeProvider} {parse : KeyParser κ}

theorem inserted_initializeCerts_subset (env : ℕ → GroupEnv) (storage : AcmeStorage)
    (manager : CertManager κ) :
    (provider.initializeCerts parse cm env storage manager).inserted ⊆
      (provider.wholePass (provider.initializeFiles parse) env storage).inserted := by
  unfold initializeCerts
  split
  · exact nil_subset _
  · dsimp only
    split
    · exact refl _
    · split <;> exact refl _

theorem inserted_checkAndRenew (env : ℕ → GroupEnv) (storage : AcmeStorage)
    (manager : CertManager κ) :
    (provider.checkAndRenew parse cm env storage manager).inserted =
      (provider.wholePass (provider.checkFiles parse) env storage).inserted := by
  unfold checkAndRenew
  dsimp only
  split
  · rfl
  · split <;> rfl

/-! ### Agreement is enough -/

structure OwnNames (provider : AcmeProvider) (storage : AcmeStorage)
    (done : List (AcmeCertConfig × GroupEnv)) (pass : Pass κ) : Prop where
  described : ∀ d m, (pass.storage d).certMeta = some m → (storage d).certMeta = some m ∨
    ∃ v ∈ done, provider.dir v.1 = d ∧ m.domains = v.1.domains
  domains : pass.outcome = .ok () → ∀ v ∈ done, v.1.domains ≠ []
  own : ∀ i ∈ pass.inserted, i.domains ⊆ i.stored.domains

variable {pass : Pass κ} {storage : AcmeStorage}
  {v : AcmeCertConfig × GroupEnv} {pass' : Pass κ} {m : CertMeta}
  {rest : List (AcmeCertConfig × GroupEnv)} {visit : Visit κ} {group : AcmeCertConfig}

theorem Advances.described (h : Advances provider parse v pass pass') {d : String}
    (hm : (pass'.storage d).certMeta = some m) :
    (pass.storage d).certMeta = some m ∨ (provider.dir v.1 = d ∧ m.domains = v.1.domains) := by
  by_cases hd : d = provider.dir v.1
  · subst hd
    rcases h.written with hsame | ⟨issued, n, -, hwrite⟩
    · rw [hsame] at hm
      exact .inl hm
    · rw [hwrite] at hm
      rcases certMeta_write (pass.storage (provider.dir v.1)) (storedOf v.1 issued) n
        with hsame | hnew
      · rw [hsame] at hm
        exact .inl hm
      · rw [hnew, Option.some_inj] at hm
        exact .inr ⟨rfl, by rw [← hm]; rfl⟩
  · rw [h.frame d hd] at hm
    exact .inl hm

theorem OwnNames.advance {done : List (AcmeCertConfig × GroupEnv)}
    (hnames : provider.NamesStored storage)
    (hall : provider.allCerts = (done ++ v :: rest).map Prod.fst)
    (h : OwnNames provider storage done pass) (hok : pass.outcome = .ok ())
    (hadv : Advances provider parse v pass pass') :
    OwnNames provider storage (done ++ [v]) pass' := by
  have hdone : ∀ g ∈ done.map Prod.fst, g.domains ≠ [] := by
    intro g hg
    obtain ⟨w, hw, rfl⟩ := mem_map.1 hg
    exact h.domains hok w hw
  obtain ⟨hmeta, hearlier⟩ := hnames (done.map Prod.fst) v.1 (rest.map Prod.fst)
    (by rw [hall, map_append, map_cons]) hdone
  refine ⟨?_, ?_, ?_⟩
  · intro d m hm
    rcases hadv.described hm with hold | hnew
    · refine (h.described d m hold).imp_right ?_
      rintro ⟨w, hw, hd⟩
      exact ⟨w, mem_append_left _ hw, hd⟩
    · exact .inr ⟨v, by simp, hnew⟩
  · intro hok' w hw
    rcases mem_append.1 hw with hw | hw
    · exact h.domains hok w hw
    · rw [mem_singleton.1 hw]
      exact hadv.domains hok'
  · rcases hadv.inserted with hsame | ⟨i, hins, hdomains, hstored, -⟩
    · rw [hsame]
      exact h.own
    · rw [hins]
      intro j hj
      rcases mem_append.1 hj with hj | hj
      · exact h.own j hj
      · obtain rfl := mem_singleton.1 hj
        rw [hdomains]
        -- it is described by what was there at the start, by an earlier group, or by this one
        rcases hadv.described (certMeta_of_stored hstored) with hold | ⟨-, heq⟩
        · rcases h.described _ _ hold with hfirst | ⟨w, hw, hdir, heq⟩
          · exact hmeta _ hfirst
          · rw [show j.stored.domains = w.1.domains from heq]
            exact hearlier w.1 (mem_map_of_mem hw) hdir
        · rw [show j.stored.domains = v.1.domains from heq]
          exact refl _

theorem own_of_namesStored (hnames : provider.NamesStored storage)
    (hvisit : ∀ files env group, Handled parse env group files (visit files env group))
    (env : ℕ → GroupEnv) :
    ∀ i ∈ (provider.wholePass visit env storage).inserted, i.domains ⊆ i.stored.domains := by
  have hstart : OwnNames provider storage [] ({ storage := storage } : Pass κ) :=
    ⟨fun _ _ hm => .inl hm, fun _ _ hv => absurd hv not_mem_nil, fun _ hi => absurd hi not_mem_nil⟩
  obtain ⟨_, h, -⟩ := pass_rule provider visit env storage (OwnNames provider storage) hstart
    fun done v rest pass hall _ h hok =>
      h.advance hnames (by rw [← hall, map_fst_visits]) hok (next_advances hvisit pass v)
  exact h.own

/-! ### Agreement is necessary -/

theorem needsRenewal_notFound (files : CertFiles) (now : Int) (daysBefore : ℕ) :
    needsRenewal files .notFound now daysBefore = .ok true := by
  unfold needsRenewal loadCert
  cases files.stored <;> rfl

theorem loadCert_notFound (files : CertFiles) : loadCert files .notFound = .ok none := by
  unfold loadCert
  cases files.stored <;> rfl

theorem next_idle (h : group.domains ≠ []) (pass : Pass κ) :
    provider.next (provider.checkFiles parse) pass (group, idleEnv) = pass := by
  have hcheck : ∀ files, provider.checkFiles parse files idleEnv group = (files, .ok {}) := by
    simp [checkFiles, idleEnv, needsRenewal_notFound, obtainCert, loadCert_notFound]
  simp [next, handleGroup, h, hcheck]

theorem forGroups_idle {groups : List AcmeCertConfig} (h : ∀ g ∈ groups, g.domains ≠ [])
    (rest : List (AcmeCertConfig × GroupEnv)) (hok : pass.outcome = .ok ()) :
    provider.forGroups (provider.checkFiles parse) (groups.map (·, idleEnv) ++ rest) pass =
      provider.forGroups (provider.checkFiles parse) rest pass := by
  induction groups with
  | nil => rfl
  | cons g groups ih =>
    rw [forall_mem_cons] at h
    rw [map_cons, cons_append, forGroups, next_idle h.1, hok]
    exact ih h.2

theorem mem_inserted_forGroups
    (hvisit : ∀ files env group, Handled parse env group files (visit files env group))
    (rest : List (AcmeCertConfig × GroupEnv)) (hok : pass.outcome = .ok ()) {i : Insertion κ}
    (hi : i ∈ pass.inserted) :
    i ∈ (provider.forGroups visit rest pass).inserted := by
  obtain ⟨-, h, -⟩ := forGroups_rule (fun _ pass => i ∈ pass.inserted)
    (fun _ v _ pass _ h _ => (next_advances hvisit pass v).subset h)
    (nil_append rest).symm hok hi
  exact h

def issuedEnv (save : SaveOutcome) : GroupEnv where
  now := 0
  issue := .ok ⟨"cert", "key", 0⟩
  renewalRead := .notFound
  save := save

theorem inserted_next_issued {group : AcmeCertConfig} (h : group.domains ≠ []) {m : CertMeta}
    {pass : Pass κ} (hm : (pass.storage (provider.dir group)).certMeta = some m) (key : κ) :
    (provider.next (provider.checkFiles fun _ _ => .ok key) pass
      (group, issuedEnv (.failed 2 (.Io "disk full")))).outcome = pass.outcome ∧
    ⟨group.domains, ⟨"cert", "key", m.expiry, m.domains⟩, key⟩ ∈
      (provider.next (provider.checkFiles fun _ _ => .ok key) pass
        (group, issuedEnv (.failed 2 (.Io "disk full")))).inserted := by
  have hcheck : provider.checkFiles (fun _ _ => .ok key) (pass.storage (provider.dir group))
      (issuedEnv (.failed 2 (.Io "disk full"))) group =
      ({ certPem := some "cert", keyPem := some "key", certMeta := some m },
        .ok { inserted := some ⟨group.domains, ⟨"cert", "key", m.expiry, m.domains⟩, key⟩ }) := by
    simp [checkFiles, issuedEnv, needsRenewal_notFound, obtainCert, saveCert, write,
      StoredCert.writes, storedOf, loadCert, stored, hm, insertStored, loadStoredCert,
      Except.map, Except.mapError]
  simp [next, handleGroup, h, hcheck]

theorem certMeta_next_issued {group : AcmeCertConfig} (h : group.domains ≠ []) (pass : Pass κ)
    (key : κ) :
    (provider.next (provider.checkFiles fun _ _ => .ok key) pass
      (group, issuedEnv .saved)).outcome = pass.outcome ∧
    ((provider.next (provider.checkFiles fun _ _ => .ok key) pass
      (group, issuedEnv .saved)).storage (provider.dir group)).certMeta =
        some ⟨0, group.domains⟩ := by
  simp [next, handleGroup, h, checkFiles, issuedEnv, needsRenewal_notFound, obtainCert, saveCert,
    write, StoredCert.writes, storedOf, insertStored, loadStoredCert, Except.map, Except.mapError]

theorem domains_subset_of_described [Inhabited κ] (h : group.domains ≠ [])
    (hok : pass.outcome = .ok ()) (hm : (pass.storage (provider.dir group)).certMeta = some m)
    (hown : ∀ i ∈ (provider.forGroups (provider.checkFiles fun _ _ => .ok default)
        ((group, issuedEnv (.failed 2 (.Io "disk full"))) :: rest) pass).inserted,
      i.domains ⊆ i.stored.domains) : group.domains ⊆ m.domains := by
  obtain ⟨hout, hmem⟩ := @inserted_next_issued κ provider group h m pass hm default
  refine hown ⟨group.domains, ⟨"cert", "key", m.expiry, m.domains⟩, default⟩ ?_
  rw [forGroups, hout, hok]
  exact mem_inserted_forGroups checkFiles_handled rest (hout.trans hok) hmem

theorem namesStored_of_servesOwnNames [Inhabited κ] (h : provider.ServesOwnNames κ cm storage) :
    provider.NamesStored storage := by
  intro before group after hall hbefore
  by_cases hne : group.domains = []
  · rw [hne]
    exact ⟨fun _ _ => nil_subset _, fun _ _ _ => nil_subset _⟩
  -- whatever the groups meet with, the pass that renews keeps to the names
  have hown : ∀ vs : List (AcmeCertConfig × GroupEnv), vs.map Prod.fst = provider.allCerts →
      ∀ i ∈ (provider.forGroups (provider.checkFiles fun _ _ => .ok (default : κ)) vs
        { storage := storage }).inserted, i.domains ⊆ i.stored.domains := by
    intro vs hvs i hi
    obtain ⟨env, rfl⟩ := exists_visits_eq hvs
    refine h (fun _ _ => .ok default) env {} i (mem_append_right _ ?_)
    rw [inserted_checkAndRenew]
    exact hi
  constructor
  · intro m hm
    have hvs := hown (before.map (·, idleEnv) ++
      (group, issuedEnv (.failed 2 (.Io "disk full"))) :: after.map (·, idleEnv))
      (by simp [hall, Function.comp_def])
    rw [forGroups_idle hbefore _ rfl] at hvs
    exact domains_subset_of_described hne rfl hm hvs
  · intro g hg hdir
    obtain ⟨front, back, rfl⟩ := append_of_mem hg
    simp only [mem_append, mem_cons, or_imp, forall_and, forall_eq] at hbefore
    have hvs := hown (front.map (·, idleEnv) ++ (g, issuedEnv .saved) ::
      (back.map (·, idleEnv) ++
        (group, issuedEnv (.failed 2 (.Io "disk full"))) :: after.map (·, idleEnv)))
      (by simp [hall, Function.comp_def])
    obtain ⟨hout, hm⟩ := @certMeta_next_issued κ provider g hbefore.2.1
      { storage := storage } default
    rw [forGroups_idle hbefore.1 _ rfl, forGroups, hout, forGroups_idle hbefore.2.2 _ hout] at hvs
    rw [hdir] at hm
    exact domains_subset_of_described hne hout hm hvs

/-- **Certificates are inserted for their own domains only** exactly when the domains of every group
are among those described in its directory, and those of the earlier groups that use it. -/
theorem servesOwnNames_iff [Inhabited κ] (cm : CaseMapping) (provider : AcmeProvider)
    (storage : AcmeStorage) :
    provider.ServesOwnNames κ cm storage ↔ provider.NamesStored storage := by
  constructor
  · exact namesStored_of_servesOwnNames
  · intro hnames parse env manager i hi
    rcases List.mem_append.1 hi with hi | hi
    · exact own_of_namesStored hnames initializeFiles_handled env i
        (inserted_initializeCerts_subset env storage manager hi)
    · rw [inserted_checkAndRenew] at hi
      exact own_of_namesStored hnames checkFiles_handled env i hi

end AcmeProvider

def wwwProvider : AcmeProvider where
  config :=
    { certs := [{ domains := ["a.com", "www.a.com"], dns := { provider := "cloudflare" } }] }

def bareStorage : AcmeStorage :=
  Function.update (fun _ => {}) (certPath false "a.com")
    (saveCert {} .saved ⟨"cert-a", "key-a", 9000000, ["a.com"]⟩).1

def calmEnv : GroupEnv where
  now := 0
  issue := .ok ⟨"cert-new", "key-new", 18000000⟩

theorem wwwProvider_serves_other_name :
    ¬wwwProvider.ServesOwnNames String CaseMapping.ascii bareStorage := by
  intro h
  have hmem : (⟨["a.com", "www.a.com"], ⟨"cert-a", "key-a", 9000000, ["a.com"]⟩, "cert-a"⟩ :
      Insertion String) ∈ (wwwProvider.initializeCerts (fun cert _ => .ok cert) CaseMapping.ascii
        (fun _ => calmEnv) bareStorage {}).inserted := by
    exact List.mem_cons_self
  have hsubset := h (fun cert _ => .ok cert) (fun _ => calmEnv) {} _ (List.mem_append_left _ hmem)
  exact absurd (hsubset (List.mem_cons_of_mem _ List.mem_cons_self)) (by decide)

end Wicket
