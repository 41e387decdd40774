/-
**The ACME provider: stored certificates, issuance, and renewal.**

A directory for each group of domains holds the certificate, the key and a description.  At startup
and once a day all groups are visited: one that is due gets a new certificate, else what is stored
is used.  Everything that can go wrong is an input, the `GroupEnv` of a visit.
-/

import Wicket.FileCerts

namespace Wicket

open Function List

open Text (CaseMapping)

/-! ### The storage -/

inductive StorageError
  | Io (error : String)
  | Json (error : String)
  | CertNotFound (domain : String)
  deriving DecidableEq

inductive AcmeError
  | Storage (error : StorageError)
  | Cloudflare (error : String)
  | Acme (error : String)
  | Json (error : String)
  | Io (error : String)
  | Pem (error : PemError)
  | Rcgen (error : String)
  | Base64 (error : String)
  | Config (message : String)
  | NoChallenge
  | OrderFailed (message : String)
  | NoCertificates
  deriving DecidableEq

structure CertMeta where
  expiry : Int
  domains : List String
  deriving DecidableEq

structure StoredCert where
  certPem : String
  keyPem : String
  expiry : Int
  domains : List String
  deriving DecidableEq

structure CertFiles where
  certPem : Option String := none
  keyPem : Option String := none
  certMeta : Option CertMeta := none
  deriving DecidableEq

def CertFiles.stored (files : CertFiles) : Option StoredCert :=
  match files.certPem, files.keyPem, files.certMeta with
  | some certPem, some keyPem, some m => some ⟨certPem, keyPem, m.expiry, m.domains⟩
  | _, _, _ => none

def StoredCert.writes (cert : StoredCert) : List (CertFiles → CertFiles) :=
  [fun files => { files with certPem := some cert.certPem },
   fun files => { files with keyPem := some cert.keyPem },
   fun files => { files with certMeta := some ⟨cert.expiry, cert.domains⟩ }]

def CertFiles.write (files : CertFiles) (cert : StoredCert) (n : ℕ) : CertFiles :=
  (cert.writes.take n).foldl (fun files write => write files) files

abbrev AcmeStorage : Type := String → CertFiles

def envName (staging : Bool) : String := if staging then "staging" else "production"

/-- Slashes, backslashes and zero characters do not belong into the name of a directory. -/
def safeDomain (domain : String) : String :=
  String.ofList (domain.toList.map fun c => if c = '/' ∨ c = '\\' ∨ c = '\x00' then '_' else c)

def certPath (staging : Bool) (domain : String) : String :=
  "certs/" ++ envName staging ++ "/" ++ safeDomain domain

inductive ReadOutcome
  | found
  /-- The test whether the files exist fails. -/
  | notFound
  | failed (error : StorageError)
  deriving DecidableEq

inductive SaveOutcome
  | saved
  /-- An error after the first files have been replaced. -/
  | failed (written : Fin 3) (error : StorageError)
  deriving DecidableEq

def loadCert (files : CertFiles) (read : ReadOutcome) : Except StorageError (Option StoredCert) :=
  match files.stored, read with
  | none, _ => .ok none
  | some _, .notFound => .ok none
  | some _, .failed error => .error error
  | some cert, .found => .ok (some cert)

def saveCert (files : CertFiles) (save : SaveOutcome) (cert : StoredCert) :
    CertFiles × Except StorageError Unit :=
  match save with
  | .saved => (files.write cert 3, .ok ())
  | .failed written error => (files.write cert written, .error error)

def needsRenewal (files : CertFiles) (read : ReadOutcome) (now : Int) (daysBefore : ℕ) :
    Except StorageError Bool :=
  (loadCert files read).map fun cert =>
    match cert with
    | none => true
    | some cert => decide (cert.expiry < now + daysBefore * 86400)

/-! ### The groups -/

structure AutoTlsDomain where
  domain : String
  provider : Option String := none

def AcmeConfig.resolveDns (acme : AcmeConfig) (auto : AutoTlsDomain) : Option DnsProviderConfig :=
  match auto.provider with
  | some name => acme.dnsProviders.lookup name
  | none => acme.defaultDns

def AcmeConfig.allCertsWithProviders (acme : AcmeConfig) (autoTlsDomains : List AutoTlsDomain) :
    List AcmeCertConfig :=
  acme.certs ++ autoTlsDomains.filterMap fun auto =>
    if acme.certs.any fun cert => cert.domains.contains auto.domain then none
    else (acme.resolveDns auto).map fun dns => { domains := [auto.domain], dns := dns }

structure AcmeProvider where
  config : AcmeConfig
  staging : Bool := false
  renewBeforeDays : UInt32 := 30
  autoTlsDomains : List AutoTlsDomain := []

structure Issued where
  certPem : String
  keyPem : String
  expiry : Int

/-- What happens around the provider while one group is visited. -/
structure GroupEnv where
  /-- The time at which the expiry is compared. -/
  now : Int
  issue : Except AcmeError Issued
  renewalRead : ReadOutcome := .found
  certRead : ReadOutcome := .found
  fallbackRead : ReadOutcome := .found
  save : SaveOutcome := .saved
  tempFiles : Option AcmeError := none

structure Insertion (κ : Type) where
  domains : List String
  stored : StoredCert
  key : κ

/-- The result of a visit: what is inserted, and whether it was issued just now. -/
structure GroupResult (κ : Type) where
  inserted : Option (Insertion κ) := none
  renewed : Bool := false

/-- A pass over the groups.  The local store is given by the insertions made so far. -/
structure Pass (κ : Type) where
  storage : AcmeStorage
  inserted : List (Insertion κ) := []
  anyRenewed : Bool := false
  outcome : Except AcmeError Unit := .ok ()

/-- The state after a pass, and what the call returns. -/
structure Cycle (κ : Type) where
  storage : AcmeStorage
  manager : CertManager κ
  inserted : List (Insertion κ)
  outcome : Except AcmeError Unit

abbrev KeyParser (κ : Type) : Type := String → String → Except PemError κ

def storeOf {κ : Type} (cm : CaseMapping) (inserted : List (Insertion κ)) : CertStore κ :=
  CertStore.ofEntries cm (inserted.map fun i => (i.domains, i.key))

namespace AcmeProvider

variable {κ : Type} (provider : AcmeProvider) (parse : KeyParser κ)

/-- All groups, those from routes included. -/
def allCerts : List AcmeCertConfig :=
  provider.config.allCertsWithProviders provider.autoTlsDomains

def dir (group : AcmeCertConfig) : String :=
  certPath provider.staging (group.domains.headD "")

def loadStoredCert (env : GroupEnv) (stored : StoredCert) : Except AcmeError κ :=
  match env.tempFiles with
  | some error => .error error
  | none => (parse stored.certPem stored.keyPem).mapError .Pem

def insertStored (env : GroupEnv) (group : AcmeCertConfig) (renewed : Bool) (stored : StoredCert) :
    Except AcmeError (GroupResult κ) :=
  (loadStoredCert parse env stored).map fun key =>
    { inserted := some ⟨group.domains, stored, key⟩, renewed := renewed }

def storedOf (group : AcmeCertConfig) (issued : Issued) : StoredCert :=
  ⟨issued.certPem, issued.keyPem, issued.expiry, group.domains⟩

def obtainCert (files : CertFiles) (env : GroupEnv) (group : AcmeCertConfig) :
    CertFiles × Except AcmeError StoredCert :=
  match env.issue with
  | .error error => (files, .error error)
  | .ok issued =>
    let saved := saveCert files env.save (storedOf group issued)
    (saved.1, (saved.2.mapError AcmeError.Storage).map fun _ => storedOf group issued)

def initializeFiles (files : CertFiles) (env : GroupEnv) (group : AcmeCertConfig) :
    CertFiles × Except AcmeError (GroupResult κ) :=
  match needsRenewal files env.renewalRead env.now provider.renewBeforeDays.toNat with
  | .error error => (files, .error (.Storage error))
  | .ok due =>
    match if due then .ok none else loadCert files env.certRead with
    | .error error => (files, .error (.Storage error))
    | .ok (some stored) => (files, insertStored parse env group false stored)
    | .ok none =>
      match obtainCert files env group with
      | (files', .ok stored) => (files', insertStored parse env group true stored)
      | (files', .error error) =>
        match loadCert files' env.fallbackRead with
        | .ok (some stored) => (files', insertStored parse env group false stored)
        | _ => (files', .error error)

def checkFiles (files : CertFiles) (env : GroupEnv) (group : AcmeCertConfig) :
    CertFiles × Except AcmeError (GroupResult κ) :=
  match needsRenewal files env.renewalRead env.now provider.renewBeforeDays.toNat with
  | .error error => (files, .error (.Storage error))
  | .ok true =>
    match obtainCert files env group with
    | (files', .ok stored) => (files', insertStored parse env group true stored)
    | (files', .error _) =>
      match loadCert files' env.fallbackRead with
      | .ok (some stored) => (files', insertStored parse env group false stored)
      | _ => (files', .ok {})
  | .ok false =>
    match loadCert files env.certRead with
    | .error error => (files, .error (.Storage error))
    | .ok (some stored) => (files, insertStored parse env group false stored)
    | .ok none => (files, .ok {})

abbrev Visit (κ : Type) : Type :=
  CertFiles → GroupEnv → AcmeCertConfig → CertFiles × Except AcmeError (GroupResult κ)

/-- A visit of one group: its first domain names the directory, and without one it fails. -/
def handleGroup (visit : Visit κ) (storage : AcmeStorage) (env : GroupEnv)
    (group : AcmeCertConfig) : AcmeStorage × Except AcmeError (GroupResult κ) :=
  if group.domains.isEmpty then (storage, .error (.Config "cert config has no domains"))
  else
    let result := visit (storage (provider.dir group)) env group
    (Function.update storage (provider.dir group) result.1, result.2)

def next (visit : Visit κ) (pass : Pass κ) (v : AcmeCertConfig × GroupEnv) : Pass κ :=
  match provider.handleGroup visit pass.storage v.2 v.1 with
  | (storage, .error error) => { pass with storage := storage, outcome := .error error }
  | (storage, .ok result) =>
    { pass with
      storage := storage
      inserted := pass.inserted ++ result.inserted.toList
      anyRenewed := pass.anyRenewed || result.renewed }

def forGroups (visit : Visit κ) : List (AcmeCertConfig × GroupEnv) → Pass κ → Pass κ
  | [], pass => pass
  | v :: rest, pass =>
    match (provider.next visit pass v).outcome with
    | .error _ => provider.next visit pass v
    | .ok () => forGroups visit rest (provider.next visit pass v)

def visits (env : ℕ → GroupEnv) : List (AcmeCertConfig × GroupEnv) :=
  provider.allCerts.zipIdx.map fun e => (e.1, env e.2)

/-- A pass over all groups. -/
abbrev wholePass (visit : Visit κ) (env : ℕ → GroupEnv) (storage : AcmeStorage) : Pass κ :=
  provider.forGroups visit (provider.visits env) { storage := storage }

def initializeCerts (cm : CaseMapping) (env : ℕ → GroupEnv) (storage : AcmeStorage)
    (manager : CertManager κ) : Cycle κ :=
  if provider.allCerts.isEmpty then ⟨storage, manager, [], .ok ()⟩
  else
    let pass := provider.wholePass (provider.initializeFiles parse) env storage
    match pass.outcome with
    | .error error => ⟨pass.storage, manager, pass.inserted, .error error⟩
    | .ok () =>
      if (storeOf cm pass.inserted).isEmpty then
        ⟨pass.storage, manager, pass.inserted, .error .NoCertificates⟩
      else ⟨pass.storage, manager.reload (storeOf cm pass.inserted), pass.inserted, .ok ()⟩

def checkAndRenew (cm : CaseMapping) (env : ℕ → GroupEnv) (storage : AcmeStorage)
    (manager : CertManager κ) : Cycle κ :=
  let pass := provider.wholePass (provider.checkFiles parse) env storage
  match pass.outcome with
  | .error error => ⟨pass.storage, manager, pass.inserted, .error error⟩
  | .ok () =>
    if pass.anyRenewed && !(storeOf cm pass.inserted).isEmpty then
      ⟨pass.storage, manager.reload (storeOf cm pass.inserted), pass.inserted, .ok ()⟩
    else ⟨pass.storage, manager, pass.inserted, .ok ()⟩

end AcmeProvider

/-! ### Files -/

variable {files : CertFiles} {cert : StoredCert}

theorem CertFiles.certMeta_of_stored (h : files.stored = some cert) :
    files.certMeta = some ⟨cert.expiry, cert.domains⟩ := by
  unfold CertFiles.stored at h
  split at h
  · rename_i m _ _ hmeta
    obtain rfl := Option.some_inj.1 h
    exact hmeta
  · cases h

@[simp] theorem CertFiles.stored_write_three (files : CertFiles) (cert : StoredCert) :
    (files.write cert 3).stored = some cert := rfl

theorem CertFiles.certMeta_write (files : CertFiles) (cert : StoredCert) (n : ℕ) :
    (files.write cert n).certMeta = files.certMeta ∨
      (files.write cert n).certMeta = some ⟨cert.expiry, cert.domains⟩ := by
  match n with
  | 0 => exact .inl rfl
  | 1 => exact .inl rfl
  | 2 => exact .inl rfl
  | n + 3 => exact .inr (by simp [CertFiles.write, StoredCert.writes])

theorem loadCert_eq_some {read : ReadOutcome} :
    loadCert files read = .ok (some cert) ↔ files.stored = some cert ∧ read = .found := by
  unfold loadCert
  cases files.stored <;> cases read <;> simp

/-! ### What a visit can have done -/

namespace AcmeProvider

variable {κ : Type} {provider : AcmeProvider} {parse : KeyParser κ}
  {env : GroupEnv} {group : AcmeCertConfig} {renewed : Bool} {stored : StoredCert}
  {files : CertFiles} {visit : Visit κ} {v : AcmeCertConfig × GroupEnv} {pass : Pass κ}
  {r : GroupResult κ} {files' : CertFiles}

theorem insertStored_eq_ok :
    insertStored parse env group renewed stored = .ok r ↔
      env.tempFiles = none ∧ ∃ key, parse stored.certPem stored.keyPem = .ok key ∧
        r = { inserted := some ⟨group.domains, stored, key⟩, renewed := renewed } := by
  rw [insertStored, Check.map_eq_ok, loadStoredCert]
  cases env.tempFiles with
  | some error => simp
  | none => simp [Check.mapError_eq_ok, eq_comm]

theorem exists_inserted_of_insertStored (h : insertStored parse env group renewed stored = .ok r) :
    (∃ i, r.inserted = some i) ∧ r.renewed = renewed := by
  obtain ⟨-, key, -, rfl⟩ := insertStored_eq_ok.1 h
  exact ⟨⟨_, rfl⟩, rfl⟩

/-- **A visit uses what is stored afterwards**: what is inserted is the certificate stored there
now, under the domains of the group. -/
structure Handled (parse : KeyParser κ) (env : GroupEnv) (group : AcmeCertConfig)
    (files : CertFiles) (result : CertFiles × Except AcmeError (GroupResult κ)) : Prop where
  written : result.1 = files ∨ ∃ issued n, env.issue = .ok issued ∧
    result.1 = files.write (storedOf group issued) n
  inserted : ∀ r, result.2 = .ok r → ∀ i ∈ r.inserted, i.domains = group.domains ∧
    result.1.stored = some i.stored ∧ parse i.stored.certPem i.stored.keyPem = .ok i.key

theorem Handled.of_error (error : AcmeError) :
    Handled parse env group files (files, .error error) where
  written := .inl rfl
  inserted := by rintro r ⟨⟩

theorem Handled.of_insertStored
    (hwritten : files' = files ∨ ∃ issued n, env.issue = .ok issued ∧
      files' = files.write (storedOf group issued) n) (hstored : files'.stored = some stored) :
    Handled parse env group files (files', insertStored parse env group renewed stored) where
  written := hwritten
  inserted := by
    intro r hr i hi
    obtain ⟨-, key, hkey, rfl⟩ := insertStored_eq_ok.1 hr
    obtain rfl := Option.some_inj.1 hi
    exact ⟨rfl, hstored, hkey⟩

theorem obtainCert_cases (files : CertFiles) (env : GroupEnv) (group : AcmeCertConfig) :
    (∃ error, env.issue = .error error ∧ obtainCert files env group = (files, .error error)) ∨
    (∃ issued, env.issue = .ok issued ∧ env.save = .saved ∧
      obtainCert files env group =
        (files.write (storedOf group issued) 3, .ok (storedOf group issued))) ∨
    ∃ issued n error, env.issue = .ok issued ∧ env.save = .failed n error ∧
      obtainCert files env group =
        (files.write (storedOf group issued) n, .error (.Storage error)) := by
  unfold obtainCert saveCert
  cases env.issue with
  | error e => exact .inl ⟨e, rfl, rfl⟩
  | ok issued =>
    cases hsave : env.save with
    | saved => exact .inr (.inl ⟨issued, rfl, rfl, rfl⟩)
    | failed n e => exact .inr (.inr ⟨issued, n, e, rfl, rfl, rfl⟩)

theorem Handled.of_fallback
    (hwritten : files' = files ∨ ∃ issued n, env.issue = .ok issued ∧
      files' = files.write (storedOf group issued) n) {other : Except AcmeError (GroupResult κ)}
    (hother : ∀ r, other = .ok r → r.inserted = none) :
    Handled parse env group files (match loadCert files' env.fallbackRead with
      | .ok (some stored) => (files', insertStored parse env group false stored)
      | _ => (files', other)) := by
  split
  · rename_i stored hload
    exact .of_insertStored hwritten (loadCert_eq_some.1 hload).1
  · refine ⟨hwritten, ?_⟩
    intro r hr i hi
    rw [hother r hr] at hi
    cases hi

theorem Handled.of_obtain {other : AcmeError → Except AcmeError (GroupResult κ)}
    (hother : ∀ e r, other e = .ok r → r.inserted = none) :
    Handled parse env group files (match obtainCert files env group with
      | (files', .ok stored) => (files', insertStored parse env group true stored)
      | (files', .error error) =>
        match loadCert files' env.fallbackRead with
        | .ok (some stored) => (files', insertStored parse env group false stored)
        | _ => (files', other error)) := by
  rcases obtainCert_cases files env group with ⟨e, -, hob⟩ | ⟨issued, hissue, -, hob⟩ |
    ⟨issued, n, e, hissue, -, hob⟩
  · rw [hob]
    exact .of_fallback (.inl rfl) (hother _)
  · rw [hob]
    exact .of_insertStored (.inr ⟨issued, 3, hissue, rfl⟩) (CertFiles.stored_write_three _ _)
  · rw [hob]
    exact .of_fallback (.inr ⟨issued, n, hissue, rfl⟩) (hother _)

theorem initializeFiles_handled (files : CertFiles) (env : GroupEnv) (group : AcmeCertConfig) :
    Handled parse env group files (provider.initializeFiles parse files env group) := by
  unfold initializeFiles
  split
  · exact .of_error _
  · rename_i due hdue
    split
    · exact .of_error _
    · rename_i stored hload
      cases due with
      | true => cases hload
      | false => exact .of_insertStored (.inl rfl) (loadCert_eq_some.1 hload).1
    · exact .of_obtain (by rintro e r ⟨⟩)

theorem checkFiles_handled (files : CertFiles) (env : GroupEnv) (group : AcmeCertConfig) :
    Handled parse env group files (provider.checkFiles parse files env group) := by
  unfold checkFiles
  split
  · exact .of_error _
  · exact .of_obtain (by rintro e r ⟨⟩; rfl)
  · split
    · exact .of_error _
    · rename_i stored hload
      exact .of_insertStored (.inl rfl) (loadCert_eq_some.1 hload).1
    · exact ⟨.inl rfl, by rintro r ⟨⟩ i ⟨⟩⟩

/-! ### Passes -/

/-- One more visit of a pass. -/
structure Advances (provider : AcmeProvider) (parse : KeyParser κ)
    (v : AcmeCertConfig × GroupEnv) (pass pass' : Pass κ) : Prop where
  frame : ∀ d, d ≠ provider.dir v.1 → pass'.storage d = pass.storage d
  written : pass'.storage (provider.dir v.1) = pass.storage (provider.dir v.1) ∨
    ∃ issued n, v.2.issue = .ok issued ∧ pass'.storage (provider.dir v.1) =
      (pass.storage (provider.dir v.1)).write (storedOf v.1 issued) n
  inserted : pass'.inserted = pass.inserted ∨ ∃ i, pass'.inserted = pass.inserted ++ [i] ∧
    i.domains = v.1.domains ∧ (pass'.storage (provider.dir v.1)).stored = some i.stored ∧
    parse i.stored.certPem i.stored.keyPem = .ok i.key
  domains : pass'.outcome = .ok () → v.1.domains ≠ []

theorem next_advances
    (hvisit : ∀ files env group, Handled parse env group files (visit files env group))
    (pass : Pass κ) (v : AcmeCertConfig × GroupEnv) :
    Advances provider parse v pass (provider.next visit pass v) := by
  unfold next handleGroup
  by_cases hempty : v.1.domains.isEmpty = true
  · rw [if_pos hempty]
    exact ⟨fun _ _ => rfl, .inl rfl, .inl rfl, by rintro ⟨⟩⟩
  · have hne : v.1.domains ≠ [] := by simpa using hempty
    have h := hvisit (pass.storage (provider.dir v.1)) v.2 v.1
    rw [if_neg hempty]
    generalize visit (pass.storage (provider.dir v.1)) v.2 v.1 = result at h
    obtain ⟨files', outcome⟩ := result
    cases outcome with
    | error e =>
      refine ⟨?_, ?_, .inl rfl, fun _ => hne⟩
      · intro d hd
        exact update_of_ne hd _ _
      · simpa using h.written
    | ok r =>
      refine ⟨?_, ?_, ?_, fun _ => hne⟩
      · intro d hd
        exact update_of_ne hd _ _
      · simpa using h.written
      · cases hr : r.inserted with
        | none => exact .inl (by simp [hr])
        | some i =>
          obtain ⟨hdomains, hstored, hkey⟩ := h.inserted r rfl i hr
          exact .inr ⟨i, by simp [hr], hdomains, by simpa using hstored, hkey⟩

theorem Advances.subset {pass' : Pass κ} (h : Advances provider parse v pass pass') :
    pass.inserted ⊆ pass'.inserted := by
  rcases h.inserted with hsame | ⟨i, hins, -⟩
  · rw [hsame]
    exact List.Subset.refl _
  · rw [hins]
    exact subset_append_left _ _

theorem next_of_ok {visit : Visit κ} {pass : Pass κ} {v : AcmeCertConfig × GroupEnv}
    (hne : v.1.domains ≠ []) {r : GroupResult κ}
    (hr : (visit (pass.storage (provider.dir v.1)) v.2 v.1).2 = .ok r) :
    provider.next visit pass v =
      { pass with
        storage := update pass.storage (provider.dir v.1)
          (visit (pass.storage (provider.dir v.1)) v.2 v.1).1
        inserted := pass.inserted ++ r.inserted.toList
        anyRenewed := pass.anyRenewed || r.renewed } := by
  simp [next, handleGroup, hne, hr]

theorem exists_of_next_ok (h : (provider.next visit pass v).outcome = .ok ()) :
    ∃ r, (visit (pass.storage (provider.dir v.1)) v.2 v.1).2 = .ok r ∧
      (provider.next visit pass v).inserted = pass.inserted ++ r.inserted.toList := by
  by_cases hne : v.1.domains = []
  · simp [next, handleGroup, hne] at h
  · cases hr : (visit (pass.storage (provider.dir v.1)) v.2 v.1).2 with
    | error e => simp [next, handleGroup, hne, hr] at h
    | ok r => exact ⟨r, rfl, by rw [next_of_ok hne hr]⟩

theorem forGroups_rule {all : List (AcmeCertConfig × GroupEnv)}
    (I : List (AcmeCertConfig × GroupEnv) → Pass κ → Prop)
    (hstep : ∀ done v rest pass, all = done ++ v :: rest → I done pass →
      pass.outcome = .ok () → I (done ++ [v]) (provider.next visit pass v))
    {rest done : List (AcmeCertConfig × GroupEnv)} (hall : all = done ++ rest)
    (hok : pass.outcome = .ok ()) (h : I done pass) :
    ∃ done', I done' (provider.forGroups visit rest pass) ∧
      ((provider.forGroups visit rest pass).outcome = .ok () → done' = all) := by
  induction rest generalizing done pass with
  | nil => exact ⟨done, h, fun _ => by rw [hall, append_nil]⟩
  | cons v rest ih =>
    have hnext := hstep done v rest pass hall h hok
    rw [forGroups]
    split
    · rename_i e he
      refine ⟨done ++ [v], hnext, ?_⟩
      rw [he]
      rintro ⟨⟩
    · rename_i he
      exact ih (by rw [hall, append_assoc, singleton_append]) he hnext

theorem map_fst_visits (provider : AcmeProvider) (env : ℕ → GroupEnv) :
    (provider.visits env).map Prod.fst = provider.allCerts := by
  simp [visits, comp_def]

theorem mem_allCerts_of_mem_visits {env : ℕ → GroupEnv} (h : v ∈ provider.visits env) :
    v.1 ∈ provider.allCerts := by
  rw [← map_fst_visits provider env]
  exact mem_map_of_mem h

/-- **An invariant of a pass from its visits**, which are all of them unless the pass ended with an
error. -/
theorem pass_rule (provider : AcmeProvider) (visit : Visit κ) (env : ℕ → GroupEnv)
    (storage : AcmeStorage) (I : List (AcmeCertConfig × GroupEnv) → Pass κ → Prop)
    (hstart : I [] { storage := storage })
    (hstep : ∀ done v rest pass, provider.visits env = done ++ v :: rest →
      v.1 ∈ provider.allCerts → I done pass → pass.outcome = .ok () →
      I (done ++ [v]) (provider.next visit pass v)) :
    ∃ done, I done (provider.wholePass visit env storage) ∧
      ((provider.wholePass visit env storage).outcome = .ok () → done = provider.visits env) := by
  refine forGroups_rule I ?_ (nil_append _).symm rfl hstart
  intro done v rest pass hall h hok
  have hv : v ∈ provider.visits env := by
    rw [hall]
    exact mem_append_right _ mem_cons_self
  exact hstep done v rest pass hall (mem_allCerts_of_mem_visits hv) h hok

/-- Nothing is seen in the storage, and nothing is issued. -/
def idleEnv : GroupEnv where
  now := 0
  issue := .error (.Acme "no answer")
  renewalRead := .notFound
  fallbackRead := .notFound

theorem exists_visits_eq {vs : List (AcmeCertConfig × GroupEnv)}
    (h : vs.map Prod.fst = provider.allCerts) : ∃ env, provider.visits env = vs := by
  refine ⟨fun n => ((vs[n]?).map Prod.snd).getD idleEnv, ?_⟩
  rw [visits, ← h]
  refine ext_getElem (by simp) ?_
  intro n hn hn'
  simp [getElem?_eq_getElem hn']

end AcmeProvider

end Wicket
