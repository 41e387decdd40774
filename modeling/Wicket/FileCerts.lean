/-
**Certificates from files.**

Each time the store is built from scratch, without the pairs of files that cannot be loaded.  A
reload that cannot read some of the files drops their domains, unless nothing at all is loaded.
-/

import Wicket.CertStore
import Wicket.Config

namespace Wicket

open List CertStore

open Text (CaseMapping)

/-! ### The watcher -/

inductive PemError
  | ReadFile (path source : String)
  | NoCertificates (path : String)
  | NoPrivateKey (path : String)
  | ParseKey (error : String)
  | UnsupportedKeyType
  deriving DecidableEq

inductive FileWatcherError
  | Notify (error : String)
  | NoCertificatesLoaded
  deriving DecidableEq

/-- What loading the certificate at a path with the key at another yields, at one moment. -/
abbrev KeyFiles (κ : Type) : Type := String → String → Except PemError κ

namespace FileWatcher

variable {κ : Type} (cm : CaseMapping) (file : FileConfig)

def loadCert (load : KeyFiles κ) (store : CertStore κ) (certConfig : FileCertConfig) :
    CertStore κ :=
  match load certConfig.cert certConfig.key with
  | .ok key => store.insert cm certConfig.domains key
  -- the other certificates are still loaded
  | .error _ => store

def buildStore (load : KeyFiles κ) : Except FileWatcherError (CertStore κ) :=
  let store := file.certs.foldl (loadCert cm load) ({} : CertStore κ)
  if store.isEmpty then .error .NoCertificatesLoaded else .ok store

def loadAll (load : KeyFiles κ) (manager : CertManager κ) :
    Except FileWatcherError (CertManager κ) :=
  (buildStore cm file load).map manager.reload

def reloadCerts (load : KeyFiles κ) (manager : CertManager κ) : CertManager κ :=
  match buildStore cm file load with
  | .ok store => manager.reload store
  -- the old certificates are kept
  | .error _ => manager

def reloads (manager : CertManager κ) (loads : List (KeyFiles κ)) : CertManager κ :=
  loads.foldl (fun manager load => reloadCerts cm file load manager) manager

/-! ### What is built -/

def Loads (load : KeyFiles κ) (certConfig : FileCertConfig) : Prop :=
  ∃ key, load certConfig.cert certConfig.key = .ok key

def loaded (load : KeyFiles κ) : List (List String × κ) :=
  file.certs.filterMap fun certConfig =>
    (load certConfig.cert certConfig.key).toOption.map fun key => (certConfig.domains, key)

variable {cm file}

variable {load : KeyFiles κ} {store : CertStore κ}

theorem mem_loaded {domains : List String} {key : κ} :
    (domains, key) ∈ loaded file load ↔
      ∃ certConfig ∈ file.certs, certConfig.domains = domains ∧
        load certConfig.cert certConfig.key = .ok key := by
  simp only [loaded, mem_filterMap, Option.map_eq_some_iff, Prod.mk.injEq]
  constructor
  · rintro ⟨certConfig, hmem, key', hkey, rfl, rfl⟩
    refine ⟨certConfig, hmem, rfl, ?_⟩
    cases hload : load certConfig.cert certConfig.key with
    | error e => simp [hload, Except.toOption] at hkey
    | ok k =>
      rw [hload] at hkey
      exact congrArg Except.ok (Option.some_inj.1 hkey)
  · rintro ⟨certConfig, hmem, rfl, hload⟩
    exact ⟨certConfig, hmem, key, by rw [hload]; rfl, rfl, rfl⟩

theorem foldl_loadCert (load : KeyFiles κ) (certs : List FileCertConfig) (store : CertStore κ) :
    certs.foldl (loadCert cm load) store =
      (certs.filterMap fun certConfig =>
        (load certConfig.cert certConfig.key).toOption.map fun key =>
          (certConfig.domains, key)).foldl (fun store e => store.insert cm e.1 e.2) store := by
  induction certs generalizing store with
  | nil => rfl
  | cons certConfig certs ih =>
    rw [foldl_cons, ih]
    cases hload : load certConfig.cert certConfig.key with
    | error e => simp [loadCert, hload, Except.toOption]
    | ok key => simp [loadCert, hload, Except.toOption]

theorem buildStore_eq_ok :
    buildStore cm file load = .ok store ↔
      (∃ certConfig ∈ file.certs, Loads load certConfig ∧ certConfig.domains ≠ []) ∧
        store = ofEntries cm (loaded file load) := by
  have hempty : (ofEntries cm (loaded file load)).isEmpty = false ↔
      ∃ certConfig ∈ file.certs, Loads load certConfig ∧ certConfig.domains ≠ [] := by
    rw [← Bool.not_eq_true, isEmpty_ofEntries]
    push Not
    constructor
    · rintro ⟨⟨domains, key⟩, he, hne⟩
      obtain ⟨certConfig, hmem, rfl, hload⟩ := mem_loaded.1 he
      exact ⟨certConfig, hmem, ⟨key, hload⟩, hne⟩
    · rintro ⟨certConfig, hmem, ⟨key, hload⟩, hne⟩
      exact ⟨_, mem_loaded.2 ⟨certConfig, hmem, rfl, hload⟩, hne⟩
  have hfold : file.certs.foldl (loadCert cm load) ({} : CertStore κ) =
      ofEntries cm (loaded file load) := foldl_loadCert load file.certs {}
  simp only [← hempty, buildStore, hfold]
  cases h : (ofEntries cm (loaded file load)).isEmpty with
  | true => simp
  | false => simp [eq_comm]

theorem isSome_resolve_iff (h : buildStore cm file load = .ok store) {sni : String} :
    (store.resolve cm sni).isSome = true ↔
      ∃ certConfig ∈ file.certs, Loads load certConfig ∧
        ∃ domain ∈ certConfig.domains, Covers cm domain sni := by
  rw [(buildStore_eq_ok.1 h).2, isSome_resolve_ofEntries]
  constructor
  · rintro ⟨⟨domains, key⟩, he, hdomain⟩
    obtain ⟨certConfig, hmem, rfl, hload⟩ := mem_loaded.1 he
    exact ⟨certConfig, hmem, ⟨key, hload⟩, hdomain⟩
  · rintro ⟨certConfig, hmem, ⟨key, hload⟩, hdomain⟩
    exact ⟨_, mem_loaded.2 ⟨certConfig, hmem, rfl, hload⟩, hdomain⟩

theorem exists_of_resolve (h : buildStore cm file load = .ok store) {sni : String} {key : κ}
    (hkey : store.resolve cm sni = some key) :
    ∃ certConfig ∈ file.certs, load certConfig.cert certConfig.key = .ok key ∧
      ∃ domain ∈ certConfig.domains, Covers cm domain sni := by
  rw [(buildStore_eq_ok.1 h).2] at hkey
  obtain ⟨⟨domains, key'⟩, he, rfl, hdomain⟩ := exists_of_resolve_ofEntries hkey
  obtain ⟨certConfig, hmem, rfl, hload⟩ := mem_loaded.1 he
  exact ⟨certConfig, hmem, hload, hdomain⟩

theorem loadAll_eq_ok {manager manager' : CertManager κ} :
    loadAll cm file load manager = .ok manager' ↔ buildStore cm file load = .ok manager'.store := by
  rw [loadAll, Check.map_eq_ok]
  constructor
  · rintro ⟨store, hstore, rfl⟩
    exact hstore
  · intro h
    exact ⟨_, h, rfl⟩

end FileWatcher

/-! ### The default certificate -/

section Default

variable {κ : Type} (cm : CaseMapping)

/-- Startup succeeds, and a certificate without domains is served for every name that the domains
of the other certificates do not cover. -/
def ServesDefault (file : FileConfig) (load : KeyFiles κ) : Prop :=
  ∃ manager, FileWatcher.loadAll cm file load {} = .ok manager ∧
    ∀ defaultCert ∈ file.defaultCerts, ∀ sni,
      (∀ certConfig ∈ file.certs, ∀ domain ∈ certConfig.domains, ¬Covers cm domain sni) →
      ∃ key, load defaultCert.cert defaultCert.key = .ok key ∧ manager.resolve cm sni = some key

structure Config.HasDefaultCert (c : Config) (file : FileConfig) : Prop where
  accepted : c.validate = .ok ()
  mode : ∃ tls, c.tls = some tls ∧ tls.mode = .File ∧ tls.file = some file
  one : file.defaultCerts.length = 1

variable {cm}

theorem exists_uncovered (domains : List String) : ∃ sni, ∀ domain ∈ domains,
    ¬Covers cm domain sni := by
  obtain ⟨n, hn⟩ : ∃ n, ∀ domain ∈ domains, (cm.toLowercase domain).length < n := by
    induction domains with
    | nil => exact ⟨0, by simp⟩
    | cons domain domains ih =>
      obtain ⟨n, hn⟩ := ih
      refine ⟨max n ((cm.toLowercase domain).length + 1), ?_⟩
      intro d hd
      rcases mem_cons.1 hd with rfl | hd
      · omega
      · have := hn d hd
        omega
  have hmem : ∀ a ∈ replicate n 'a', a = 'a' := fun _ ha => eq_of_mem_replicate ha
  have hascii : Text.isAscii (String.ofList (replicate n 'a')) = true := by
    rw [Text.isAscii, String.toList_ofList, all_eq_true]
    intro a ha
    rw [hmem a ha]
    decide
  have hlower : cm.toLowercase (String.ofList (replicate n 'a')) =
      String.ofList (replicate n 'a') := by
    rw [cm.toLowercase_ascii _ hascii, Text.toAsciiLowercase, String.toList_ofList, map_replicate]
    rfl
  refine ⟨String.ofList (replicate n 'a'), ?_⟩
  intro domain hdomain hcovers
  rcases covers_iff.1 hcovers with ⟨-, heq⟩ | ⟨base, label, -, -, hsni⟩
  · have hlength := hn domain hdomain
    rw [heq, hlower, String.length_ofList, length_replicate] at hlength
    exact lt_irrefl n hlength
  · have hdot : '.' ∈ (label ++ "." ++ base).toList := by simp
    rw [← hsni, hlower, String.toList_ofList] at hdot
    exact absurd (hmem _ hdot) (by decide)

theorem resolve_uncovered {file : FileConfig} {load : KeyFiles κ} {store : CertStore κ}
    (h : FileWatcher.buildStore cm file load = .ok store) {sni : String}
    (hsni : ∀ certConfig ∈ file.certs, ∀ domain ∈ certConfig.domains, ¬Covers cm domain sni) :
    store.resolve cm sni = none := by
  rw [Option.eq_none_iff_forall_ne_some]
  intro key hkey
  obtain ⟨certConfig, hmem, -, domain, hdomain, hcovers⟩ := FileWatcher.exists_of_resolve h hkey
  exact hsni certConfig hmem domain hdomain hcovers

theorem not_servesDefault {file : FileConfig} (load : KeyFiles κ) {defaultCert : FileCertConfig}
    (hdefault : defaultCert ∈ file.defaultCerts) : ¬ServesDefault cm file load := by
  rintro ⟨manager, hall, hserves⟩
  obtain ⟨sni, hsni⟩ := @exists_uncovered cm (file.certs.flatMap FileCertConfig.domains)
  have huncovered : ∀ certConfig ∈ file.certs, ∀ domain ∈ certConfig.domains,
      ¬Covers cm domain sni := fun certConfig hmem domain hdomain =>
    hsni domain (mem_flatMap.2 ⟨certConfig, hmem, hdomain⟩)
  obtain ⟨key, -, hkey⟩ := hserves defaultCert hdefault sni huncovered
  rw [CertManager.resolve, resolve_uncovered (FileWatcher.loadAll_eq_ok.1 hall) huncovered] at hkey
  cases hkey

/-- **The certificate without domains is never the default**, whatever the files hold. -/
theorem default_cert_not_served {c : Config} {file : FileConfig} (h : c.HasDefaultCert file)
    (load : KeyFiles κ) : ¬ServesDefault cm file load := by
  obtain ⟨defaultCert, hdefault⟩ := List.length_pos_iff_exists_mem.1 (h.one ▸ Nat.one_pos)
  exact not_servesDefault load hdefault

end Default

def fallbackFile : FileConfig where
  certs :=
    [{ name := "site", cert := "/tls/site.crt", key := "/tls/site.key"
       domains := ["example.com"] },
     { name := "fallback", cert := "/tls/any.crt", key := "/tls/any.key", domains := [] }]

def fallbackConfig : Config :=
  { Config.default with tls := some { mode := .File, file := some fallbackFile } }

theorem fallbackConfig_hasDefaultCert : fallbackConfig.HasDefaultCert fallbackFile where
  accepted := by rfl
  mode := ⟨_, rfl, rfl, rfl⟩
  one := by decide

def readable : KeyFiles String := fun cert _ => .ok cert

theorem fallback_not_served : ¬ServesDefault CaseMapping.ascii fallbackFile readable :=
  default_cert_not_served fallbackConfig_hasDefaultCert readable

/-- All files are readable, and a name that is not `example.com` gets no certificate. -/
theorem fallback_resolves_to_nothing :
    fallbackConfig.HasDefaultCert fallbackFile ∧
      (∀ certConfig ∈ fallbackFile.certs, FileWatcher.Loads readable certConfig) ∧
      ¬ServesDefault CaseMapping.ascii fallbackFile readable := by
  refine ⟨fallbackConfig_hasDefaultCert, fun _ _ => ⟨_, rfl⟩, ?_⟩
  rintro ⟨manager, hall, hserves⟩
  have huncovered : ∀ certConfig ∈ fallbackFile.certs, ∀ domain ∈ certConfig.domains,
      ¬Covers CaseMapping.ascii domain "other.org" := by decide +kernel
  have hdefault : ∃ cert, cert ∈ fallbackFile.defaultCerts := ⟨_, List.mem_cons_self⟩
  obtain ⟨cert, hcert⟩ := hdefault
  obtain ⟨key, -, hkey⟩ := hserves cert hcert "other.org" huncovered
  rw [CertManager.resolve, resolve_uncovered (FileWatcher.loadAll_eq_ok.1 hall) huncovered] at hkey
  cases hkey

/-! ### Reloads -/

namespace FileWatcher

variable {κ : Type} (cm : CaseMapping) (file : FileConfig)

def LoadedFor (history : List (KeyFiles κ)) (sni : String) (key : κ) : Prop :=
  ∃ load ∈ history, ∃ certConfig ∈ file.certs, load certConfig.cert certConfig.key = .ok key ∧
    ∃ domain ∈ certConfig.domains, Covers cm domain sni

def KeepsDomains (history : List (KeyFiles κ)) (before after : CertManager κ) : Prop :=
  ∀ certConfig ∈ file.certs, ∀ domain ∈ certConfig.domains,
    (before.resolve cm domain).isSome = true →
      ∃ key, after.resolve cm domain = some key ∧ LoadedFor cm file history domain key

def LoadsCover (load : KeyFiles κ) (manager : CertManager κ) : Prop :=
  (∀ certConfig ∈ file.certs, Loads load certConfig → certConfig.domains = []) ∨
    ∀ certConfig ∈ file.certs, ∀ domain ∈ certConfig.domains,
      (manager.resolve cm domain).isSome = true →
        ∃ other ∈ file.certs, Loads load other ∧ ∃ domain' ∈ other.domains, Covers cm domain' domain

def BuiltFrom (history : List (KeyFiles κ)) (manager : CertManager κ) : Prop :=
  ∃ load ∈ history, buildStore cm file load = .ok manager.store

variable {cm file}

variable {history : List (KeyFiles κ)} {manager : CertManager κ}

theorem BuiltFrom.loadedFor (h : BuiltFrom cm file history manager) {sni : String} {key : κ}
    (hkey : manager.resolve cm sni = some key) : LoadedFor cm file history sni key := by
  obtain ⟨load, hload, hstore⟩ := h
  exact ⟨load, hload, exists_of_resolve hstore hkey⟩

theorem reloadCerts_cases (cm : CaseMapping) (file : FileConfig) (load : KeyFiles κ)
    (manager : CertManager κ) :
    ((∀ certConfig ∈ file.certs, Loads load certConfig → certConfig.domains = []) ∧
      reloadCerts cm file load manager = manager) ∨
    buildStore cm file load = .ok (reloadCerts cm file load manager).store := by
  cases hbuild : buildStore cm file load with
  | ok store => exact .inr (by rw [reloadCerts, hbuild]; rfl)
  | error e =>
    refine .inl ⟨?_, by rw [reloadCerts, hbuild]⟩
    intro certConfig hmem hload
    by_contra hne
    have hok : buildStore cm file load = .ok _ :=
      buildStore_eq_ok.2 ⟨⟨certConfig, hmem, hload, hne⟩, rfl⟩
    rw [hbuild] at hok
    cases hok

theorem BuiltFrom.reloadCerts {history : List (KeyFiles κ)} {manager : CertManager κ}
    (h : BuiltFrom cm file history manager) (load : KeyFiles κ) :
    BuiltFrom cm file (history ++ [load]) (reloadCerts cm file load manager) := by
  rcases reloadCerts_cases cm file load manager with ⟨-, hsame⟩ | hbuild
  · obtain ⟨load', hmem, hstore⟩ := h
    rw [hsame]
    exact ⟨load', mem_append_left _ hmem, hstore⟩
  · exact ⟨load, by simp, hbuild⟩

theorem reloads_concat (manager : CertManager κ) (loads : List (KeyFiles κ)) (load : KeyFiles κ) :
    reloads cm file manager (loads ++ [load]) =
      reloadCerts cm file load (reloads cm file manager loads) := by
  rw [reloads, foldl_append, foldl_cons, foldl_nil, ← reloads]

theorem BuiltFrom.reloads {history : List (KeyFiles κ)} {manager : CertManager κ}
    (h : BuiltFrom cm file history manager) (loads : List (KeyFiles κ)) :
    BuiltFrom cm file (history ++ loads) (reloads cm file manager loads) := by
  induction loads using reverseRecOn with
  | nil => simpa [FileWatcher.reloads] using h
  | append_singleton loads load ih =>
    rw [reloads_concat, ← append_assoc]
    exact ih.reloadCerts load

theorem keepsDomains_reloadCerts_iff (h : BuiltFrom cm file history manager) (load : KeyFiles κ) :
    KeepsDomains cm file (history ++ [load]) manager
        (FileWatcher.reloadCerts cm file load manager) ↔
      LoadsCover cm file load manager := by
  constructor
  · intro hkeeps
    rcases reloadCerts_cases cm file load manager with ⟨hnone, -⟩ | hbuild
    · exact .inl hnone
    · refine .inr ?_
      intro certConfig hmem domain hdomain hsome
      obtain ⟨key, hkey, -⟩ := hkeeps certConfig hmem domain hdomain hsome
      refine (isSome_resolve_iff hbuild).1 ?_
      exact Option.isSome_iff_exists.2 ⟨key, hkey⟩
  · intro hcover certConfig hmem domain hdomain hsome
    have hafter :
        ((FileWatcher.reloadCerts cm file load manager).resolve cm domain).isSome = true := by
      rcases reloadCerts_cases cm file load manager with ⟨-, hsame⟩ | hbuild
      · rw [hsame]
        exact hsome
      · refine (isSome_resolve_iff hbuild).2 ?_
        rcases hcover with hnone | hcover
        · -- something was built, so a certificate with a domain was loaded
          obtain ⟨⟨other, hother, hloads, hne⟩, -⟩ := buildStore_eq_ok.1 hbuild
          exact absurd (hnone other hother hloads) hne
        · exact hcover certConfig hmem domain hdomain hsome
    obtain ⟨key, hkey⟩ := Option.isSome_iff_exists.1 hafter
    exact ⟨key, hkey, (h.reloadCerts load).loadedFor hkey⟩

/-- **The reloads of a run keep the domains** exactly when each loads nothing, or a certificate for
every configured domain that resolves. -/
theorem reloads_keep_domains_iff {first : KeyFiles κ} {manager : CertManager κ}
    (h : loadAll cm file first {} = .ok manager) (loads : List (KeyFiles κ)) :
    (∀ before load after, loads = before ++ load :: after →
      KeepsDomains cm file (first :: before ++ [load]) (FileWatcher.reloads cm file manager before)
        (FileWatcher.reloads cm file manager (before ++ [load]))) ↔
    ∀ before load after, loads = before ++ load :: after →
      LoadsCover cm file load (FileWatcher.reloads cm file manager before) := by
  have hfirst : BuiltFrom cm file [first] manager := ⟨first, by simp, loadAll_eq_ok.1 h⟩
  refine forall_congr' fun before => forall_congr' fun load => forall_congr' fun after =>
    imp_congr_right fun _ => ?_
  rw [reloads_concat]
  exact keepsDomains_reloadCerts_iff (hfirst.reloads before) load

theorem loadsCover_of_forall {load : KeyFiles κ}
    (h : ∀ certConfig ∈ file.certs, Loads load certConfig)
    (manager : CertManager κ) : LoadsCover cm file load manager :=
  .inr fun certConfig hmem domain hdomain _ =>
    ⟨certConfig, hmem, h certConfig hmem, domain, hdomain, covers_self domain⟩

end FileWatcher

def pairFile : FileConfig where
  certs :=
    [{ name := "a", cert := "/tls/a.crt", key := "/tls/a.key", domains := ["a.example"] },
     { name := "b", cert := "/tls/b.crt", key := "/tls/b.key", domains := ["b.example"] }]

def pairManager : CertManager String :=
  ⟨CertStore.ofEntries CaseMapping.ascii (FileWatcher.loaded pairFile readable)⟩

theorem loadAll_pairFile :
    FileWatcher.loadAll CaseMapping.ascii pairFile readable {} = .ok pairManager := by
  refine FileWatcher.loadAll_eq_ok.2 (FileWatcher.buildStore_eq_ok.2 ⟨?_, rfl⟩)
  exact ⟨_, mem_cons_self, ⟨_, rfl⟩, by simp⟩

def unreadable : KeyFiles String := fun cert _ => .error (.ReadFile cert "no such file")

def halfWritten : KeyFiles String := fun cert _ =>
  if cert = "/tls/b.crt" then .error (.NoCertificates cert) else .ok cert

theorem pair_reloads_keep_domains :
    FileWatcher.KeepsDomains CaseMapping.ascii pairFile [readable, unreadable] pairManager
        (FileWatcher.reloads CaseMapping.ascii pairFile pairManager [unreadable]) ∧
      FileWatcher.KeepsDomains CaseMapping.ascii pairFile [readable, unreadable, readable]
        (FileWatcher.reloads CaseMapping.ascii pairFile pairManager [unreadable])
        (FileWatcher.reloads CaseMapping.ascii pairFile pairManager [unreadable, readable]) := by
  have hkeeps := (FileWatcher.reloads_keep_domains_iff loadAll_pairFile [unreadable, readable]).2
    (by
      intro before load after hsplit
      have hmem : load ∈ [unreadable, readable] := by rw [hsplit]; simp
      simp only [List.mem_cons, List.not_mem_nil, or_false] at hmem
      rcases hmem with rfl | rfl
      · refine .inl ?_
        rintro certConfig - ⟨key, hkey⟩
        cases hkey
      · exact FileWatcher.loadsCover_of_forall (fun _ _ => ⟨_, rfl⟩) _)
  exact ⟨hkeeps [] unreadable [readable] rfl, hkeeps [unreadable] readable [] rfl⟩

theorem pair_reload_drops_domain :
    FileWatcher.loadAll CaseMapping.ascii pairFile readable {} = .ok pairManager ∧
      ¬∀ before load after, [halfWritten] = before ++ load :: after →
        FileWatcher.KeepsDomains CaseMapping.ascii pairFile (readable :: before ++ [load])
          (FileWatcher.reloads CaseMapping.ascii pairFile pairManager before)
          (FileWatcher.reloads CaseMapping.ascii pairFile pairManager (before ++ [load])) := by
  refine ⟨loadAll_pairFile, ?_⟩
  intro hkeeps
  have hsome : (pairManager.resolve CaseMapping.ascii "b.example").isSome = true := by
    decide +kernel
  obtain ⟨key, hkey, -⟩ := hkeeps [] halfWritten [] rfl _
    (List.mem_cons_of_mem _ List.mem_cons_self) "b.example"
    List.mem_cons_self hsome
  cases hkey

end Wicket
