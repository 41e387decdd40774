/-
**Certificates from files and from ACME together.**

The watcher of the files and the ACME provider share one store, and each replaces it as a whole by
what it has itself.  This is stated for runs without any failure.
-/

import Wicket.AcmeServing

namespace Wicket

open AcmeProvider FileWatcher CertStore List

open Text (CaseMapping)

/-- What the pairs of files hold at one moment; all of them can be loaded. -/
abbrev KeyContents (κ : Type) : Type := String → String → κ

/-- The steps of the two sources, without failures. -/
inductive MixedStep (κ : Type)
  | loadAll (files : KeyContents κ)
  | reloadCerts (files : KeyContents κ)
  | initializeCerts (env : ℕ → Int × Issued)
  | checkAndRenew (env : ℕ → Int × Issued)

/-- The storage of the provider, the store that is served, and what the files held when they were
last loaded. -/
structure MixedState (κ : Type) where
  storage : AcmeStorage
  manager : CertManager κ
  files : KeyContents κ

def smoothEnv (e : Int × Issued) : GroupEnv where
  now := e.1
  issue := .ok e.2

namespace MixedCerts

variable {κ : Type} (cm : CaseMapping) (file : FileConfig) (provider : AcmeProvider)
  (parse : String → String → κ)

def initializeStep (env : ℕ → Int × Issued) (st : MixedState κ) : Cycle κ :=
  provider.initializeCerts (fun cert key => .ok (parse cert key)) cm (fun i => smoothEnv (env i))
    st.storage st.manager

def renewStep (env : ℕ → Int × Issued) (st : MixedState κ) : Cycle κ :=
  provider.checkAndRenew (fun cert key => .ok (parse cert key)) cm (fun i => smoothEnv (env i))
    st.storage st.manager

def step (st : MixedState κ) : MixedStep κ → MixedState κ
  | .loadAll files =>
    match FileWatcher.loadAll cm file (fun cert key => .ok (files cert key)) st.manager with
    | .ok manager => { st with manager := manager, files := files }
    | .error _ => st
  | .reloadCerts files =>
    { st with
      manager := FileWatcher.reloadCerts cm file (fun cert key => .ok (files cert key)) st.manager
      files := files }
  | .initializeCerts env =>
    { st with
      storage := (initializeStep cm provider parse env st).storage
      manager := (initializeStep cm provider parse env st).manager }
  | .checkAndRenew env =>
    { st with
      storage := (renewStep cm provider parse env st).storage
      manager := (renewStep cm provider parse env st).manager }

def run (st : MixedState κ) (steps : List (MixedStep κ)) : MixedState κ :=
  steps.foldl (step cm file provider parse) st

inductive Started : MixedState κ → Prop
  | intro (storage : AcmeStorage) (files : KeyContents κ) (manager : CertManager κ)
      (env : ℕ → Int × Issued)
      (load : FileWatcher.loadAll cm file (fun cert key => .ok (files cert key)) {} = .ok manager)
      (init : (initializeStep cm provider parse env ⟨storage, manager, files⟩).outcome = .ok ()) :
      Started (step cm file provider parse ⟨storage, manager, files⟩ (.initializeCerts env))

structure Kept (st : MixedState κ) : Prop where
  fromFiles : ∀ certConfig ∈ file.certs, ∀ domain ∈ certConfig.domains,
    st.manager.resolve cm domain = some (st.files certConfig.cert certConfig.key)
  fromAcme : ∀ group ∈ provider.allCerts, ∀ domain ∈ group.domains,
    (∀ certConfig ∈ file.certs, domain ∉ certConfig.domains) →
      ∃ stored, (st.storage (provider.dir group)).stored = some stored ∧
        st.manager.resolve cm domain = some (parse stored.certPem stored.keyPem)

/-- Both sources are served after every run without failures, and files come first. -/
def SourcesKept : Prop :=
  ∀ (κ : Type) (parse : String → String → κ) (st : MixedState κ),
    Started cm file provider parse st → ∀ steps,
      Kept cm file provider parse (run cm file provider parse st steps)

def NeverStarts : Prop :=
  (∀ certConfig ∈ file.certs, certConfig.domains = []) ∨ ∃ g ∈ provider.allCerts, g.domains = []

structure FilesOnly : Prop where
  noGroups : provider.allCerts = []
  agree : ∀ certConfig ∈ file.certs, ∀ domain ∈ certConfig.domains, ∀ other ∈ file.certs,
    ∀ domain' ∈ other.domains, slotOf cm domain = slotOf cm domain' →
      certConfig.cert = other.cert ∧ certConfig.key = other.key

variable {cm file provider parse}

/-! ### Without groups -/

def Current (cm : CaseMapping) (file : FileConfig) (st : MixedState κ) : Prop :=
  FileWatcher.buildStore cm file (fun cert key => .ok (st.files cert key)) = .ok st.manager.store

theorem exists_buildStore (hsome : ∃ certConfig ∈ file.certs, certConfig.domains ≠ [])
    (files : KeyContents κ) :
    ∃ store, buildStore cm file (fun cert key => .ok (files cert key)) = .ok store := by
  obtain ⟨certConfig, hmem, hne⟩ := hsome
  exact ⟨_, buildStore_eq_ok.2 ⟨⟨certConfig, hmem, ⟨_, rfl⟩, hne⟩, rfl⟩⟩

theorem initializeStep_of_noGroups (h : provider.allCerts = []) (env : ℕ → Int × Issued)
    (st : MixedState κ) :
    initializeStep cm provider parse env st = ⟨st.storage, st.manager, [], .ok ()⟩ := by
  simp [initializeStep, initializeCerts, h]

theorem renewStep_of_noGroups (h : provider.allCerts = []) (env : ℕ → Int × Issued)
    (st : MixedState κ) :
    renewStep cm provider parse env st = ⟨st.storage, st.manager, [], .ok ()⟩ := by
  simp [renewStep, checkAndRenew, wholePass, visits, forGroups, h]

theorem Current.step (h : provider.allCerts = [])
    (hsome : ∃ certConfig ∈ file.certs, certConfig.domains ≠ []) {st : MixedState κ}
    (hst : Current cm file st) (s : MixedStep κ) :
    Current cm file (step cm file provider parse st s) := by
  cases s with
  | loadAll files =>
    obtain ⟨store, hstore⟩ := @exists_buildStore κ cm file hsome files
    have hload : loadAll cm file (fun cert key => .ok (files cert key)) st.manager =
        .ok ⟨store⟩ := loadAll_eq_ok.2 hstore
    simp only [MixedCerts.step, hload]
    exact hstore
  | reloadCerts files =>
    obtain ⟨store, hstore⟩ := @exists_buildStore κ cm file hsome files
    simp only [MixedCerts.step, reloadCerts, hstore]
    exact hstore
  | initializeCerts env =>
    simp only [MixedCerts.step, initializeStep_of_noGroups h]
    exact hst
  | checkAndRenew env =>
    simp only [MixedCerts.step, renewStep_of_noGroups h]
    exact hst

theorem Current.run (h : provider.allCerts = [])
    (hsome : ∃ certConfig ∈ file.certs, certConfig.domains ≠ []) {st : MixedState κ}
    (hst : Current cm file st) (steps : List (MixedStep κ)) :
    Current cm file (run cm file provider parse st steps) := by
  induction steps generalizing st with
  | nil => exact hst
  | cons s steps ih => exact ih (hst.step h hsome s)

theorem FilesOnly.kept (h : FilesOnly cm file provider) {st : MixedState κ}
    (hst : Current cm file st) : Kept cm file provider parse st := by
  refine ⟨?_, ?_⟩
  · intro certConfig hmem domain hdomain
    rw [CertManager.resolve, (buildStore_eq_ok.1 hst).2]
    refine resolve_domain ?_
    rw [slot_ofEntries]
    refine KeyMap.lastWrite_of_forall ?_ ?_
    · exact mem_writes.2 ⟨_, mem_loaded.2 ⟨certConfig, hmem, rfl, rfl⟩, rfl, domain, hdomain, rfl⟩
    · intro key hkey
      obtain ⟨⟨domains, key'⟩, he, rfl, domain', hdomain', hslot⟩ := mem_writes.1 hkey
      obtain ⟨other, hother, rfl, hload⟩ := mem_loaded.1 he
      obtain ⟨hcert, hkeyFile⟩ := h.agree certConfig hmem domain hdomain other hother domain'
        hdomain' hslot.symm
      rw [hcert, hkeyFile]
      exact (Except.ok.inj hload).symm
  · rw [h.noGroups]
    exact fun _ hg => absurd hg not_mem_nil

/-! ### With groups -/

theorem exists_initializeFiles_ok (files : CertFiles) (e : Int × Issued) (group : AcmeCertConfig) :
    ∃ r, (provider.initializeFiles (fun cert key => .ok (parse cert key)) files (smoothEnv e)
      group).2 = .ok r := by
  have hinsert : ∀ renewed stored, ∃ r, insertStored
      (fun cert key => .ok (parse cert key)) (smoothEnv e) group renewed stored = .ok r :=
    fun _ _ => ⟨_, insertStored_eq_ok.2 ⟨rfl, _, rfl, rfl⟩⟩
  have hobtain : obtainCert files (smoothEnv e) group =
      (files.write (storedOf group e.2) 3, .ok (storedOf group e.2)) := rfl
  obtain ⟨due, hdue⟩ :=
    exists_needsRenewal_found files e.1 provider.renewBeforeDays.toNat
  have hread : loadCert files (smoothEnv e).certRead = .ok files.stored :=
    loadCert_found files
  unfold initializeFiles
  rw [show needsRenewal files (smoothEnv e).renewalRead (smoothEnv e).now _ = .ok due from hdue]
  cases due with
  | true =>
    exact hinsert true _
  | false =>
    simp only [Bool.false_eq_true, if_false, hread]
    cases files.stored with
    | some stored => exact hinsert false stored
    | none =>
      exact hinsert true _

theorem exists_inserted_smooth {pass : Pass κ} {v : AcmeCertConfig × GroupEnv}
    (hne : v.1.domains ≠ []) {e : Int × Issued} (he : v.2 = smoothEnv e) :
    ∃ i, (provider.next (provider.initializeFiles fun cert key => .ok (parse cert key)) pass
        v).inserted = pass.inserted ++ [i] ∧
      (provider.next (provider.initializeFiles fun cert key => .ok (parse cert key)) pass
        v).outcome = pass.outcome ∧
      i.domains = v.1.domains ∧ ∃ certPem keyPem, parse certPem keyPem = i.key := by
  obtain ⟨r, hr⟩ := @exists_initializeFiles_ok κ provider parse
    (pass.storage (provider.dir v.1)) e v.1
  obtain ⟨i', hi'⟩ := exists_inserted_of_initializeFiles hr
  rw [← he] at hr
  have hnext := @AcmeProvider.next_of_ok κ provider _ pass v hne r hr
  have hadv : AcmeProvider.Advances provider (fun cert key => .ok (parse cert key)) v pass
      (provider.next (provider.initializeFiles fun cert key => .ok (parse cert key)) pass v) :=
    next_advances initializeFiles_handled pass v
  rcases hadv.inserted with hsame | ⟨i, hins, hdomains, -, hkey⟩
  · rw [hnext, hi'] at hsame
    simp at hsame
  · exact ⟨i, hins, by rw [hnext], hdomains, _, _, Except.ok.inj hkey⟩

theorem smooth_pass (hgroups : ∀ g ∈ provider.allCerts, g.domains ≠ [])
    (env : ℕ → Int × Issued) (storage : AcmeStorage) {pass : Pass κ}
    (hpass : provider.wholePass
      (provider.initializeFiles fun cert key => .ok (parse cert key)) (fun i => smoothEnv (env i))
      storage = pass) :
    pass.outcome = .ok () ∧ (∀ i ∈ pass.inserted, ∃ certPem keyPem, parse certPem keyPem = i.key) ∧
      (provider.allCerts ≠ [] → ∃ i ∈ pass.inserted, i.domains ≠ []) := by
  obtain ⟨done, ⟨hok, hkeys, hsome⟩, hdone⟩ := pass_rule provider
    (provider.initializeFiles fun cert key => .ok (parse cert key)) (fun i => smoothEnv (env i))
    storage
    (fun done pass => pass.outcome = .ok () ∧
      (∀ i ∈ pass.inserted, ∃ certPem keyPem, parse certPem keyPem = i.key) ∧
      (done ≠ [] → ∃ i ∈ pass.inserted, i.domains ≠ []))
    ⟨rfl, fun _ hi => absurd hi not_mem_nil, fun h => absurd rfl h⟩
    (by
      rintro done v rest pass hall hgroup ⟨hok, hkeys, -⟩ -
      have hv : v ∈ provider.visits fun i => smoothEnv (env i) := by rw [hall]; simp
      obtain ⟨e, -, he⟩ := mem_map.1 hv
      obtain ⟨i, hins, hout, hdomains, hkey⟩ := @exists_inserted_smooth κ provider parse pass v
        (hgroups v.1 hgroup) _ (congrArg Prod.snd he).symm
      refine ⟨hout.trans hok, ?_, fun _ => ⟨i, by rw [hins]; simp, ?_⟩⟩
      · rw [hins]
        intro j hj
        rcases mem_append.1 hj with hj | hj
        · exact hkeys j hj
        · rw [mem_singleton.1 hj]
          exact hkey
      · rw [hdomains]
        exact hgroups v.1 hgroup)
  rw [hpass] at hok hkeys hsome hdone
  refine ⟨hok, hkeys, fun hne => hsome ?_⟩
  rw [hdone hok]
  intro hnil
  rw [← map_fst_visits provider (fun i => smoothEnv (env i)), hnil] at hne
  exact hne rfl

theorem initializeStep_ok (hgroups : ∀ g ∈ provider.allCerts, g.domains ≠ [])
    (env : ℕ → Int × Issued) (st : MixedState κ) :
    (initializeStep cm provider parse env st).outcome = .ok () ∧
      (provider.allCerts ≠ [] → ∀ sni key,
        (initializeStep cm provider parse env st).manager.resolve cm sni = some key →
          ∃ certPem keyPem, parse certPem keyPem = key) := by
  by_cases hnone : provider.allCerts = []
  · rw [initializeStep_of_noGroups hnone]
    exact ⟨rfl, fun h => absurd hnone h⟩
  · obtain ⟨pass, hpass⟩ : ∃ pass, provider.wholePass
      (provider.initializeFiles fun cert key => .ok (parse cert key)) (fun i => smoothEnv (env i))
      st.storage = pass := ⟨_, rfl⟩
    obtain ⟨hok, hkeys, hsome⟩ := smooth_pass hgroups env st.storage hpass
    obtain ⟨i, hi, hdomains⟩ := hsome hnone
    rw [initializeStep, initializeCerts_of_pass hnone st.manager hpass hok
      (isEmpty_storeOf hi hdomains)]
    refine ⟨rfl, ?_⟩
    intro _ sni key hkey
    obtain ⟨e, he, rfl, -⟩ := exists_of_resolve_ofEntries hkey
    obtain ⟨j, hj, rfl⟩ := mem_map.1 he
    exact hkeys j hj

/-! ### When both sources are served -/

theorem exists_started (hsome : ∃ certConfig ∈ file.certs, certConfig.domains ≠ [])
    (hgroups : ∀ g ∈ provider.allCerts, g.domains ≠ []) (parse : String → String → κ)
    (files : KeyContents κ) :
    ∃ st, Started cm file provider parse st ∧ st.files = files ∧
      (provider.allCerts ≠ [] → ∀ sni key, st.manager.resolve cm sni = some key →
        ∃ certPem keyPem, parse certPem keyPem = key) := by
  obtain ⟨store, hstore⟩ := @exists_buildStore κ cm file hsome files
  obtain ⟨hok, hkeys⟩ := @initializeStep_ok κ cm provider parse hgroups (fun _ => (0, ⟨"", "", 0⟩))
    ⟨fun _ => {}, ⟨store⟩, files⟩
  exact ⟨_, .intro (fun _ => {}) files ⟨store⟩ _ (loadAll_eq_ok.2 hstore) hok, rfl, hkeys⟩

theorem noGroups_of_sourcesKept (h : SourcesKept cm file provider)
    (hsome : ∃ certConfig ∈ file.certs, certConfig.domains ≠ [])
    (hgroups : ∀ g ∈ provider.allCerts, g.domains ≠ []) : provider.allCerts = [] := by
  -- keys from files are told from keys of the provider by a flag
  by_contra hnone
  obtain ⟨st, hst, hfiles, hkeys⟩ := @exists_started Bool cm file provider hsome hgroups
    (fun _ _ => false) (fun _ _ => true)
  obtain ⟨certConfig, hmem, hne⟩ := hsome
  obtain ⟨domain, hdomain⟩ := exists_mem_of_ne_nil _ hne
  have hkept := (h Bool _ st hst []).fromFiles certConfig hmem domain hdomain
  obtain ⟨_, _, hfalse⟩ := hkeys hnone domain _ hkept
  rw [show (run cm file provider (fun _ _ => false) st []).files = st.files from rfl,
    hfiles] at hfalse
  cases hfalse

theorem sameFiles_of_sourcesKept (h : SourcesKept cm file provider)
    (hsome : ∃ certConfig ∈ file.certs, certConfig.domains ≠ [])
    (hgroups : ∀ g ∈ provider.allCerts, g.domains ≠ [])
    {certConfig other : FileCertConfig} (hmem : certConfig ∈ file.certs)
    (hother : other ∈ file.certs) {domain domain' : String} (hdomain : domain ∈ certConfig.domains)
    (hdomain' : domain' ∈ other.domains) (hslot : slotOf cm domain = slotOf cm domain') :
    certConfig.cert = other.cert ∧ certConfig.key = other.key := by
  -- here a key is the pair of paths it was loaded from
  obtain ⟨st, hst, hfiles, -⟩ := @exists_started (String × String) cm file provider hsome
    hgroups (fun _ _ => ("", "")) Prod.mk
  have hkept := h (String × String) _ st hst []
  have hdom := hkept.fromFiles certConfig hmem domain hdomain
  have hdom' := hkept.fromFiles other hother domain' hdomain'
  rw [show (run cm file provider _ st []).files = st.files from rfl, hfiles] at hdom hdom'
  rw [CertManager.resolve, resolve_congr (toLowercase_eq_of_slotOf hslot)] at hdom
  rw [CertManager.resolve, hdom] at hdom'
  exact Prod.mk.inj (Option.some_inj.1 hdom')

/-- **Both sources are served** after every run exactly when the proxy cannot start, or there are no
groups for ACME and the files agree on their domains. -/
theorem sourcesKept_iff (cm : CaseMapping) (file : FileConfig) (provider : AcmeProvider) :
    SourcesKept cm file provider ↔ NeverStarts file provider ∨ FilesOnly cm file provider := by
  constructor
  · intro h
    by_cases hnever : NeverStarts file provider
    · exact .inl hnever
    · simp only [NeverStarts, not_or, not_forall, not_exists, not_and] at hnever
      obtain ⟨⟨certConfig, hmem, hne⟩, hgroups⟩ := hnever
      have hsome : ∃ certConfig ∈ file.certs, certConfig.domains ≠ [] := ⟨certConfig, hmem, hne⟩
      exact .inr ⟨noGroups_of_sourcesKept h hsome hgroups,
        fun _ hmem _ hdomain _ hother _ hdomain' hslot =>
          sameFiles_of_sourcesKept h hsome hgroups hmem hother hdomain hdomain' hslot⟩
  · intro h κ parse st hst steps
    obtain ⟨storage, files, manager, env, hload, hinit⟩ := hst
    obtain ⟨⟨certConfig, hmem, -, hne⟩, -⟩ :=
      FileWatcher.buildStore_eq_ok.1 (FileWatcher.loadAll_eq_ok.1 hload)
    rcases h with (hnone | ⟨g, hg, hempty⟩) | honly
    · exact absurd (hnone certConfig hmem) hne
    · exact absurd hempty (AcmeProvider.domains_of_initializeCerts hinit g hg)
    · refine honly.kept (Current.run honly.noGroups ⟨certConfig, hmem, hne⟩ ?_ steps)
      refine Current.step honly.noGroups ⟨certConfig, hmem, hne⟩ ?_ _
      exact FileWatcher.loadAll_eq_ok.1 hload

end MixedCerts

def siteFile : FileConfig where
  certs :=
    [{ name := "site", cert := "/tls/site.crt", key := "/tls/site.key"
       domains := ["site.example"] }]

def shopProvider : AcmeProvider where
  config := { certs := [{ domains := ["shop.example"], dns := { provider := "cloudflare" } }] }

theorem site_not_kept : ¬MixedCerts.SourcesKept CaseMapping.ascii siteFile shopProvider := by
  intro h
  have hload : FileWatcher.loadAll CaseMapping.ascii siteFile (fun cert _ => .ok cert) {} =
      .ok ⟨CertStore.ofEntries CaseMapping.ascii [(["site.example"], "/tls/site.crt")]⟩ := by
    rfl
  have hkept := (h String (fun cert _ => cert) _
    (.intro (fun _ => {}) (fun cert _ => cert) _ (fun _ => (0, ⟨"shop-cert", "shop-key", 7776000⟩))
      hload (by decide +kernel)) []).fromFiles _ List.mem_cons_self "site.example"
        List.mem_cons_self
  revert hkept
  decide +kernel

end Wicket
