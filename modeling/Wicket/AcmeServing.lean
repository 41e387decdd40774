/-
**Stored certificates and served certificates.**

A cycle saves each certificate when it is issued, but publishes at its end, and only if one was
issued in this very cycle.  A cycle that ends early leaves a certificate behind that no later one
publishes.

Main definitions:
* `ServesStored` — each stored certificate is loaded as a key and served for its group;
* `VisitClean`, `NothingIssued` — what a visit may meet with, asked for only where it is consulted;
* `CycleClean` — all visits of a cycle are clean, or none of them replaces a file.

Main results:
* `servesStored_initializeCerts` — after a successful startup what is stored is served;
* `servesStored_checkAndRenew` — a clean cycle keeps it so, and by induction every run of
  clean cycles.
-/

import Wicket.AcmeProvider

namespace Wicket

open List CertStore

open Text (CaseMapping)

namespace AcmeProvider

variable {κ : Type}

/-! ### The statement -/

/-- The groups have directories of their own, and no two of them have a domain in common, up to
case. -/
structure GroupsApart (cm : CaseMapping) (provider : AcmeProvider) : Prop where
  dirs : provider.allCerts.Pairwise fun g g' => provider.dir g ≠ provider.dir g'
  slots : provider.allCerts.Pairwise fun g g' =>
    ∀ d ∈ g.domains, ∀ d' ∈ g'.domains, slotOf cm d ≠ slotOf cm d'

def ServesStored (cm : CaseMapping) (provider : AcmeProvider) (parse : KeyParser κ)
    (storage : AcmeStorage) (manager : CertManager κ) : Prop :=
  ∀ group ∈ provider.allCerts, ∀ stored, (storage (provider.dir group)).stored = some stored →
    ∀ domain ∈ group.domains, ∃ key, parse stored.certPem stored.keyPem = .ok key ∧
      manager.resolve cm domain = some key

def cycles (provider : AcmeProvider) (cm : CaseMapping) (parse : KeyParser κ)
    (envs : List (ℕ → GroupEnv)) (start : AcmeStorage × CertManager κ) :
    AcmeStorage × CertManager κ :=
  envs.foldl (fun st env =>
    ((provider.checkAndRenew parse cm env st.1 st.2).storage,
      (provider.checkAndRenew parse cm env st.1 st.2).manager)) start

/-- No file is replaced: there is no new certificate, or saving it fails before the first file. -/
def NothingSaved (env : GroupEnv) : Prop :=
  (∃ error, env.issue = .error error) ∨ ∃ error, env.save = .failed 0 error

/-- The certificate that is stored, if there is one, is read and loaded as a key. -/
def Loads (parse : KeyParser κ) (files : CertFiles) (env : GroupEnv) (read : ReadOutcome) : Prop :=
  ∀ stored, files.stored = some stored →
    read = .found ∧ env.tempFiles = none ∧ ∃ key, parse stored.certPem stored.keyPem = .ok key

/-- A new certificate is issued, saved completely and loaded as a key. -/
def Renews (parse : KeyParser κ) (env : GroupEnv) : Prop :=
  env.save = .saved ∧ env.tempFiles = none ∧
    ∃ issued key, env.issue = .ok issued ∧ parse issued.certPem issued.keyPem = .ok key

/-- A visit that replaces no file. -/
def NothingIssued (provider : AcmeProvider) (files : CertFiles) (env : GroupEnv) : Prop :=
  needsRenewal files env.renewalRead env.now provider.renewBeforeDays.toNat = .ok true →
    NothingSaved env

/-- A visit after which the certificate that is stored has been loaded.  Each outcome is asked for
only where the visit consults it. -/
def VisitClean (provider : AcmeProvider) (parse : KeyParser κ) (files : CertFiles)
    (env : GroupEnv) : Prop :=
  match needsRenewal files env.renewalRead env.now provider.renewBeforeDays.toNat with
  | .error _ => False
  | .ok false => Loads parse files env env.certRead
  | .ok true => Renews parse env ∨ NothingSaved env ∧ Loads parse files env env.fallbackRead

/-- No visit of the cycle replaces a file, or all of them are clean. -/
def CycleClean (provider : AcmeProvider) (parse : KeyParser κ) (storage : AcmeStorage)
    (env : ℕ → GroupEnv) : Prop :=
  (∀ v ∈ provider.visits env, provider.NothingIssued (storage (provider.dir v.1)) v.2) ∨
    ∀ v ∈ provider.visits env, provider.VisitClean parse (storage (provider.dir v.1)) v.2

variable {cm : CaseMapping} {provider : AcmeProvider} {parse : KeyParser κ}

/-! ### Visits -/

variable {files : CertFiles} {env : GroupEnv} {done : List (AcmeCertConfig × GroupEnv)}
  {visit : Visit κ}

theorem exists_inserted_of_initializeFiles {group : AcmeCertConfig} {r : GroupResult κ}
    (h : (provider.initializeFiles parse files env group).2 = .ok r) :
    ∃ i, r.inserted = some i := by
  unfold initializeFiles at h
  split at h
  · cases h
  · split at h
    · cases h
    · exact (exists_inserted_of_insertStored h).1
    · split at h
      · exact (exists_inserted_of_insertStored h).1
      · split at h
        · exact (exists_inserted_of_insertStored h).1
        · cases h

theorem NothingSaved.obtainCert_eq (h : NothingSaved env) (files : CertFiles)
    (group : AcmeCertConfig) :
    ∃ error, obtainCert files env group = (files, .error error) := by
  unfold obtainCert
  cases hissue : env.issue with
  | error error => exact ⟨error, rfl⟩
  | ok issued =>
    rcases h with ⟨error, herror⟩ | ⟨error, hsave⟩
    · rw [hissue] at herror
      cases herror
    · rw [hsave]
      exact ⟨.Storage error, rfl⟩

theorem checkFiles_of_nothingIssued (h : provider.NothingIssued files env)
    (group : AcmeCertConfig) :
    (provider.checkFiles parse files env group).1 = files ∧
      ∀ r, (provider.checkFiles parse files env group).2 = .ok r → r.renewed = false := by
  unfold checkFiles
  split
  · exact ⟨rfl, by rintro r ⟨⟩⟩
  · rename_i hdue
    obtain ⟨error, herror⟩ := (h hdue).obtainCert_eq files group
    simp only [herror]
    split
    · exact ⟨rfl, fun r hr => (exists_inserted_of_insertStored hr).2⟩
    · exact ⟨rfl, by rintro r ⟨⟩; rfl⟩
  · split
    · exact ⟨rfl, by rintro r ⟨⟩⟩
    · exact ⟨rfl, fun r hr => (exists_inserted_of_insertStored hr).2⟩
    · exact ⟨rfl, by rintro r ⟨⟩; rfl⟩

theorem loadCert_found (files : CertFiles) : loadCert files .found = .ok files.stored := by
  unfold loadCert
  cases files.stored <;> rfl

theorem exists_needsRenewal_found (files : CertFiles) (now : Int) (daysBefore : ℕ) :
    ∃ due, needsRenewal files .found now daysBefore = .ok due := by
  rw [needsRenewal, loadCert_found]
  exact ⟨_, rfl⟩

/-- What a clean visit does: the certificate that is stored afterwards is inserted, and
the files change only together with a renewal. -/
structure Published (files : CertFiles) (result : CertFiles × Except AcmeError (GroupResult κ))
    (r : GroupResult κ) : Prop where
  ok : result.2 = .ok r
  complete : ∀ stored, result.1.stored = some stored → ∃ i, r.inserted = some i
  unchanged : r.renewed = false → result.1 = files
  renewed : r.renewed = true → ∃ i, r.inserted = some i

theorem Loads.loadCert_eq {read : ReadOutcome} (h : Loads parse files env read) :
    loadCert files read = .ok files.stored := by
  cases hs : files.stored with
  | none => simp [loadCert, hs]
  | some stored => exact loadCert_eq_some.2 ⟨hs, (h stored hs).1⟩

/-- What is done when the certificate that is stored is used. -/
theorem Loads.published {read : ReadOutcome} (h : Loads parse files env read)
    (group : AcmeCertConfig) :
    ∃ r, Published files
      (match files.stored with
        | some stored => (files, insertStored parse env group false stored)
        | none => (files, .ok ({} : GroupResult κ))) r := by
  cases hs : files.stored with
  | none => exact ⟨{}, rfl, fun _ hsome => absurd (hs ▸ hsome) (by simp), fun _ => rfl, nofun⟩
  | some stored =>
    obtain ⟨-, htemp, key, hkey⟩ := h stored hs
    exact ⟨_, insertStored_eq_ok.2 ⟨htemp, key, hkey, rfl⟩, fun _ _ => ⟨_, rfl⟩, fun _ => rfl,
      nofun⟩

theorem checkFiles_of_visitClean {files : CertFiles} {env : GroupEnv}
    (h : provider.VisitClean parse files env) (group : AcmeCertConfig) :
    ∃ r, Published files (provider.checkFiles parse files env group) r := by
  unfold VisitClean at h
  unfold checkFiles
  split at h
  · exact h.elim
  · rename_i hdue
    have hstored := h.published group
    rw [hdue, h.loadCert_eq]
    cases hs : files.stored <;> simpa [hs] using hstored
  · rename_i hdue
    rw [hdue]
    rcases h with ⟨hsave, htemp, issued, key, hissue, hkey⟩ | ⟨hnone, hloads⟩
    · have hins := (@insertStored_eq_ok κ parse env group true (storedOf group issued) _).2
        ⟨htemp, key, hkey, rfl⟩
      simp only [obtainCert, hissue, hsave, saveCert, Except.mapError, Except.map]
      exact ⟨_, hins, fun _ _ => ⟨_, rfl⟩, nofun, fun _ => ⟨_, rfl⟩⟩
    · obtain ⟨error, herror⟩ := hnone.obtainCert_eq files group
      have hstored := hloads.published group
      rw [herror]
      simp only [hloads.loadCert_eq]
      cases hs : files.stored <;> simpa [hs] using hstored

/-! ### Passes -/

def Sound (provider : AcmeProvider) (parse : KeyParser κ)
    (done : List (AcmeCertConfig × GroupEnv)) (pass : Pass κ) : Prop :=
  ∀ i ∈ pass.inserted, ∃ v ∈ done, i.domains = v.1.domains ∧
    (pass.storage (provider.dir v.1)).stored = some i.stored ∧
    parse i.stored.certPem i.stored.keyPem = .ok i.key

def Complete (provider : AcmeProvider) (done : List (AcmeCertConfig × GroupEnv)) (pass : Pass κ) :
    Prop :=
  ∀ v ∈ done, ∀ stored, (pass.storage (provider.dir v.1)).stored = some stored →
    ∃ i ∈ pass.inserted, i.domains = v.1.domains ∧ i.stored = stored

theorem sound_nil (storage : AcmeStorage) :
    Sound provider parse [] ({ storage := storage } : Pass κ) :=
  fun _ hi => absurd hi not_mem_nil

theorem complete_nil (storage : AcmeStorage) :
    Complete provider [] ({ storage := storage } : Pass κ) :=
  fun _ hv => absurd hv not_mem_nil

section Advance

variable {done : List (AcmeCertConfig × GroupEnv)} {v : AcmeCertConfig × GroupEnv}
  {pass pass' : Pass κ}

theorem Sound.advance (hdir : ∀ w ∈ done, provider.dir w.1 ≠ provider.dir v.1)
    (h : Sound provider parse done pass) (hadv : Advances provider parse v pass pass') :
    Sound provider parse (done ++ [v]) pass' := by
  have hold : ∀ i ∈ pass.inserted, ∃ w ∈ done ++ [v], i.domains = w.1.domains ∧
      (pass'.storage (provider.dir w.1)).stored = some i.stored ∧
      parse i.stored.certPem i.stored.keyPem = .ok i.key := by
    intro i hi
    obtain ⟨w, hw, hdomains, hstored, hkey⟩ := h i hi
    refine ⟨w, mem_append_left _ hw, hdomains, ?_, hkey⟩
    rw [hadv.frame _ (hdir w hw)]
    exact hstored
  rcases hadv.inserted with hsame | ⟨i, hins, hi⟩
  · rw [Sound, hsame]
    exact hold
  · rw [Sound, hins]
    intro j hj
    rcases mem_append.1 hj with hj | hj
    · exact hold j hj
    · rw [mem_singleton.1 hj]
      exact ⟨v, by simp, hi⟩

theorem Complete.advance (hdir : ∀ w ∈ done, provider.dir w.1 ≠ provider.dir v.1)
    (h : Complete provider done pass) (hadv : Advances provider parse v pass pass')
    (hv : ∀ stored, (pass'.storage (provider.dir v.1)).stored = some stored →
      pass'.inserted ≠ pass.inserted) : Complete provider (done ++ [v]) pass' := by
  intro w hw stored hstored
  rcases mem_append.1 hw with hw | hw
  · rw [hadv.frame _ (hdir w hw)] at hstored
    obtain ⟨i, hi, hiw⟩ := h w hw stored hstored
    exact ⟨i, hadv.subset hi, hiw⟩
  · obtain rfl := mem_singleton.1 hw
    rcases hadv.inserted with hsame | ⟨i, hins, hdomains, hi, -⟩
    · exact absurd hsame (hv stored hstored)
    · refine ⟨i, by rw [hins]; simp, hdomains, ?_⟩
      rw [hi, Option.some_inj] at hstored
      exact hstored

end Advance

variable {env : ℕ → GroupEnv} {v : AcmeCertConfig × GroupEnv} {pass : Pass κ}
  {storage : AcmeStorage} {manager : CertManager κ}

theorem GroupsApart.dir_ne (h : provider.GroupsApart cm) {rest : List (AcmeCertConfig × GroupEnv)}
    (hall : provider.visits env = done ++ v :: rest) :
    ∀ w ∈ done, provider.dir w.1 ≠ provider.dir v.1 := by
  have hpair := h.dirs
  rw [← map_fst_visits provider env, hall, pairwise_map, pairwise_append] at hpair
  intro w hw
  exact hpair.2.2 w hw v mem_cons_self

theorem servesStored_of_complete (hapart : provider.GroupsApart cm)
    (hsound : Sound provider parse (provider.visits env) pass)
    (hcomplete : Complete provider (provider.visits env) pass) :
    ServesStored cm provider parse pass.storage ⟨storeOf cm pass.inserted⟩ := by
  intro group hgroup stored hstored domain hdomain
  rw [← map_fst_visits provider env] at hgroup
  obtain ⟨v, hv, rfl⟩ := mem_map.1 hgroup
  obtain ⟨i, hi, hdomains, rfl⟩ := hcomplete v hv stored hstored
  obtain ⟨-, -, -, -, hkey⟩ := hsound i hi
  refine ⟨i.key, hkey, resolve_domain ?_⟩
  rw [slot_ofEntries]
  refine KeyMap.lastWrite_of_forall ?_ ?_
  · refine mem_writes.2 ⟨(i.domains, i.key), mem_map_of_mem hi, rfl, domain, ?_, rfl⟩
    rw [hdomains]
    exact hdomain
  · -- another write to the slot is for the same group, and so of the same certificate
    intro key' hwrite
    obtain ⟨e, he, rfl, domain', hdomain', hslot⟩ := mem_writes.1 hwrite
    obtain ⟨j, hj, rfl⟩ := mem_map.1 he
    obtain ⟨w, hw, hjdomains, hjstored, hjkey⟩ := hsound j hj
    have hsame : w.1 = v.1 := by
      by_contra hne
      have : Std.Symm fun g g' : AcmeCertConfig =>
          ∀ d ∈ g.domains, ∀ d' ∈ g'.domains, slotOf cm d ≠ slotOf cm d' :=
        ⟨fun g g' hgg d hd d' hd' heq => hgg d' hd' d hd heq.symm⟩
      refine hapart.slots.forall (mem_allCerts_of_mem_visits hw) (mem_allCerts_of_mem_visits hv)
        hne domain' ?_ domain hdomain hslot
      rw [← hjdomains]
      exact hdomain'
    rw [hsame, hstored, Option.some_inj] at hjstored
    rw [← hjstored, hkey, Except.ok.injEq] at hjkey
    exact hjkey.symm

theorem isEmpty_storeOf {inserted : List (Insertion κ)} {i : Insertion κ} (hi : i ∈ inserted)
    (hne : i.domains ≠ []) : (storeOf cm inserted).isEmpty = false := by
  rw [← Bool.not_eq_true, storeOf, isEmpty_ofEntries]
  exact fun hall => hne (hall _ (mem_map_of_mem hi))

/-! ### Startup -/

theorem initializeCerts_of_pass (hne : provider.allCerts ≠ []) (manager : CertManager κ)
    (hpass : provider.wholePass (provider.initializeFiles parse) env storage = pass)
    (hok : pass.outcome = .ok ()) (hstore : (storeOf cm pass.inserted).isEmpty = false) :
    provider.initializeCerts parse cm env storage manager =
      ⟨pass.storage, ⟨storeOf cm pass.inserted⟩, pass.inserted, .ok ()⟩ := by
  rw [initializeCerts, if_neg (by simpa using hne)]
  simp only [hpass, hok, hstore, Bool.false_eq_true, if_false]
  rfl

theorem initializeCerts_eq_ok
    (h : (provider.initializeCerts parse cm env storage manager).outcome = .ok ()) :
    provider.allCerts = [] ∨
      ∃ pass, provider.wholePass (provider.initializeFiles parse) env storage = pass ∧
        pass.outcome = .ok () ∧ provider.initializeCerts parse cm env storage manager =
          ⟨pass.storage, ⟨storeOf cm pass.inserted⟩, pass.inserted, .ok ()⟩ := by
  by_cases hne : provider.allCerts = []
  · exact .inl hne
  · refine .inr ⟨_, rfl, ?_⟩
    rw [initializeCerts, if_neg (by simpa using hne)] at h
    dsimp only at h
    split at h
    · cases h
    · rename_i hok
      split at h
      · cases h
      · rename_i hstore
        exact ⟨hok, initializeCerts_of_pass hne manager rfl hok (by simpa using hstore)⟩

theorem domains_of_forGroups
    (hvisit : ∀ files env group, Handled parse env group files (visit files env group))
    (hok : (provider.wholePass visit env storage).outcome = .ok ()) :
    ∀ g ∈ provider.allCerts, g.domains ≠ [] := by
  obtain ⟨done, hdomains, hdone⟩ := pass_rule provider visit env storage
    (fun done pass => pass.outcome = .ok () → ∀ v ∈ done, v.1.domains ≠ [])
    (fun _ _ hv => absurd hv not_mem_nil)
    (by
      intro done v rest pass _ _ hdomains hok hok' w hw
      rcases mem_append.1 hw with hw | hw
      · exact hdomains hok w hw
      · rw [mem_singleton.1 hw]
        exact (next_advances hvisit pass v).domains hok')
  obtain rfl := hdone hok
  rw [← map_fst_visits provider env]
  intro g hg
  obtain ⟨v, hv, rfl⟩ := mem_map.1 hg
  exact hdomains hok v hv

theorem domains_of_initializeCerts
    (h : (provider.initializeCerts parse cm env storage manager).outcome = .ok ()) :
    ∀ g ∈ provider.allCerts, g.domains ≠ [] := by
  rcases initializeCerts_eq_ok h with hnone | ⟨pass, rfl, hok, -⟩
  · rw [hnone]
    exact fun _ hg => absurd hg not_mem_nil
  · exact domains_of_forGroups initializeFiles_handled hok

theorem collected_initialize (hapart : provider.GroupsApart cm)
    (hpass : provider.wholePass (provider.initializeFiles parse) env storage = pass)
    (hok : pass.outcome = .ok ()) :
    Sound provider parse (provider.visits env) pass ∧
      Complete provider (provider.visits env) pass := by
  obtain ⟨done, ⟨hsound, hcomplete⟩, hdone⟩ := pass_rule provider (provider.initializeFiles parse)
    env storage
    (fun done pass => Sound provider parse done pass ∧
      (pass.outcome = .ok () → Complete provider done pass))
    ⟨sound_nil storage, fun _ => complete_nil storage⟩
    (by
      rintro done v rest pass hall - ⟨hsound, hcomplete⟩ hok
      have hadv : Advances provider parse v pass
          (provider.next (provider.initializeFiles parse) pass v) :=
        next_advances initializeFiles_handled pass v
      have hdir := hapart.dir_ne hall
      refine ⟨hsound.advance hdir hadv, ?_⟩
      intro hok'
      refine (hcomplete hok).advance hdir hadv ?_
      obtain ⟨r, hr, hins⟩ := exists_of_next_ok hok'
      obtain ⟨i, hi⟩ := exists_inserted_of_initializeFiles hr
      rw [hins, hi]
      simp)
  rw [hpass] at hsound hcomplete hdone
  obtain rfl := hdone hok
  exact ⟨hsound, hcomplete hok⟩

theorem servesStored_initializeCerts (hapart : provider.GroupsApart cm)
    (h : (provider.initializeCerts parse cm env storage manager).outcome = .ok ()) :
    ServesStored cm provider parse (provider.initializeCerts parse cm env storage manager).storage
      (provider.initializeCerts parse cm env storage manager).manager := by
  rcases initializeCerts_eq_ok h with hnone | ⟨pass, hpass, hok, heq⟩
  · rw [ServesStored, hnone]
    exact fun _ hg => absurd hg not_mem_nil
  · obtain ⟨hsound, hcomplete⟩ := collected_initialize hapart hpass hok
    rw [heq]
    exact servesStored_of_complete hapart hsound hcomplete

/-! ### Cycles -/

theorem next_unchanged
    (hfiles : (visit (pass.storage (provider.dir v.1)) v.2 v.1).1 = pass.storage (provider.dir v.1))
    (hr : ∀ r, (visit (pass.storage (provider.dir v.1)) v.2 v.1).2 = .ok r → r.renewed = false) :
    (provider.next visit pass v).storage = pass.storage ∧
      (provider.next visit pass v).anyRenewed = pass.anyRenewed := by
  by_cases hne : v.1.domains = []
  · simp [next, handleGroup, hne]
  · cases hres : (visit (pass.storage (provider.dir v.1)) v.2 v.1).2 with
    | error e => simp [next, handleGroup, hne, hres, hfiles]
    | ok r => simp [next_of_ok hne hres, hfiles, hr r hres]

theorem forGroups_of_nothingIssued {env : ℕ → GroupEnv} {storage : AcmeStorage}
    (h : ∀ v ∈ provider.visits env, provider.NothingIssued (storage (provider.dir v.1)) v.2) :
    (provider.wholePass (provider.checkFiles parse) env storage).storage = storage ∧
    (provider.wholePass (provider.checkFiles parse) env storage).anyRenewed = false := by
  obtain ⟨-, hpass, -⟩ := pass_rule provider (provider.checkFiles parse) env storage
    (fun _ pass => pass.storage = storage ∧ pass.anyRenewed = false) ⟨rfl, rfl⟩
    (by
      rintro done v rest pass hall - ⟨hstorage, hrenewed⟩ -
      have hissued : provider.NothingIssued (pass.storage (provider.dir v.1)) v.2 := by
        rw [hstorage]
        exact h v (by rw [hall]; simp)
      obtain ⟨hfiles, hr⟩ := checkFiles_of_nothingIssued hissued v.1
      have hnext := next_unchanged hfiles hr
      exact ⟨hnext.1.trans hstorage, hnext.2.trans hrenewed⟩)
  exact hpass

/-- A pass of clean visits: all that is stored for the groups visited is inserted, and the storage
has changed only if a certificate was renewed. -/
structure CleanPass (provider : AcmeProvider) (parse : KeyParser κ) (storage : AcmeStorage)
    (done : List (AcmeCertConfig × GroupEnv)) (pass : Pass κ) : Prop where
  ok : pass.outcome = .ok ()
  sound : Sound provider parse done pass
  complete : Complete provider done pass
  frame : ∀ d, (∀ w ∈ done, provider.dir w.1 ≠ d) → pass.storage d = storage d
  unchanged : pass.anyRenewed = false → pass.storage = storage
  renewed : pass.anyRenewed = true → pass.inserted ≠ []

theorem CleanPass.next (hdir : ∀ w ∈ done, provider.dir w.1 ≠ provider.dir v.1)
    (hne : v.1.domains ≠ []) (hclean : provider.VisitClean parse (storage (provider.dir v.1)) v.2)
    (h : CleanPass provider parse storage done pass) :
    CleanPass provider parse storage (done ++ [v])
      (provider.next (provider.checkFiles parse) pass v) := by
  have hfiles : pass.storage (provider.dir v.1) = storage (provider.dir v.1) := h.frame _ hdir
  have hadv : Advances provider parse v pass (provider.next (provider.checkFiles parse) pass v) :=
    next_advances checkFiles_handled pass v
  rw [← hfiles] at hclean
  obtain ⟨r, hr⟩ := checkFiles_of_visitClean hclean v.1
  have hnext := @next_of_ok κ provider (provider.checkFiles parse) pass v hne r hr.ok
  refine ⟨?_, h.sound.advance hdir hadv, h.complete.advance hdir hadv ?_, ?_, ?_, ?_⟩
  · rw [hnext]
    exact h.ok
  · intro stored hstored
    rw [hnext] at hstored ⊢
    simp only [Function.update_self] at hstored
    obtain ⟨i, hi⟩ := hr.complete stored hstored
    simp [hi]
  · intro d hd
    rw [hadv.frame d (hd v (by simp)).symm]
    exact h.frame d fun w hw => hd w (mem_append_left _ hw)
  · rw [hnext]
    intro hrenewed
    simp only [Bool.or_eq_false_iff] at hrenewed
    rw [hr.unchanged hrenewed.2, Function.update_eq_self]
    exact h.unchanged hrenewed.1
  · rw [hnext]
    intro hrenewed
    simp only [Bool.or_eq_true] at hrenewed
    rcases hrenewed with hbefore | hnow
    · simp [h.renewed hbefore]
    · obtain ⟨i, hi⟩ := hr.renewed hnow
      simp [hi]

theorem cleanPass_of_visitClean (hapart : provider.GroupsApart cm)
    (hdomains : ∀ g ∈ provider.allCerts, g.domains ≠ [])
    (h : ∀ v ∈ provider.visits env, provider.VisitClean parse (storage (provider.dir v.1)) v.2) :
    CleanPass provider parse storage (provider.visits env)
      (provider.wholePass (provider.checkFiles parse) env storage) := by
  obtain ⟨done, hpass, hdone⟩ := pass_rule provider (provider.checkFiles parse) env storage
    (CleanPass provider parse storage)
    ⟨rfl, sound_nil storage, complete_nil storage, fun _ _ => rfl, fun _ => rfl, nofun⟩
    (fun done v rest pass hall hgroup hpass _ =>
      hpass.next (hapart.dir_ne hall) (hdomains v.1 hgroup) (h v (by rw [hall]; simp)))
  obtain rfl := hdone hpass.ok
  exact hpass

theorem servesStored_checkAndRenew (hapart : provider.GroupsApart cm)
    (hdomains : ∀ g ∈ provider.allCerts, g.domains ≠ [])
    (hclean : provider.CycleClean parse storage env)
    (h : ServesStored cm provider parse storage manager) :
    ServesStored cm provider parse (provider.checkAndRenew parse cm env storage manager).storage
      (provider.checkAndRenew parse cm env storage manager).manager := by
  unfold checkAndRenew
  rcases hclean with hissued | hvisits
  · obtain ⟨hstorage, hrenewed⟩ := @forGroups_of_nothingIssued κ provider parse env storage hissued
    dsimp only
    split
    · rw [hstorage]
      exact h
    · rw [hrenewed, Bool.false_and, if_neg Bool.false_ne_true, hstorage]
      exact h
  · have hpass := cleanPass_of_visitClean hapart hdomains hvisits
    dsimp only
    rw [hpass.ok]
    cases hrenewed : (provider.wholePass (provider.checkFiles parse) env storage).anyRenewed with
    | false =>
      rw [hpass.unchanged hrenewed]
      exact h
    | true =>
      -- what was renewed is in the store, so the store is not empty
      obtain ⟨i, hi⟩ := exists_mem_of_ne_nil _ (hpass.renewed hrenewed)
      obtain ⟨v, hv, hi', -⟩ := hpass.sound i hi
      have hne : i.domains ≠ [] := by
        rw [hi']
        exact hdomains v.1 (mem_allCerts_of_mem_visits hv)
      have hstore := @isEmpty_storeOf κ cm _ i hi hne
      simp only [hstore, Bool.not_false, Bool.and_self, if_true]
      exact servesStored_of_complete hapart hpass.sound hpass.complete

/-! ### Runs -/

theorem cycles_concat (cm : CaseMapping) (provider : AcmeProvider) (parse : KeyParser κ)
    (envs : List (ℕ → GroupEnv)) (env : ℕ → GroupEnv) (start : AcmeStorage × CertManager κ) :
    provider.cycles cm parse (envs ++ [env]) start =
      ((provider.checkAndRenew parse cm env (provider.cycles cm parse envs start).1
          (provider.cycles cm parse envs start).2).storage,
        (provider.checkAndRenew parse cm env (provider.cycles cm parse envs start).1
          (provider.cycles cm parse envs start).2).manager) := by
  rw [cycles, foldl_append, foldl_cons, foldl_nil, ← cycles]

/-- **In a run of clean cycles what is stored is served**: in each of them all visits are clean, or
none of them replaces a file. -/
theorem stored_certs_served (hapart : provider.GroupsApart cm) {env₀ : ℕ → GroupEnv}
    {storage₀ : AcmeStorage} {manager₀ : CertManager κ} {start : AcmeStorage × CertManager κ}
    (hinit : (provider.initializeCerts parse cm env₀ storage₀ manager₀).outcome = .ok ())
    (hstart : start = ((provider.initializeCerts parse cm env₀ storage₀ manager₀).storage,
      (provider.initializeCerts parse cm env₀ storage₀ manager₀).manager))
    (envs : List (ℕ → GroupEnv))
    (hclean : ∀ before env after, envs = before ++ env :: after →
      provider.CycleClean parse (provider.cycles cm parse before start).1 env) :
    ∀ before after, envs = before ++ after →
      ServesStored cm provider parse (provider.cycles cm parse before start).1
        (provider.cycles cm parse before start).2 := by
  have hdomains := domains_of_initializeCerts hinit
  intro before
  induction before using List.reverseRecOn with
  | nil =>
    intro _ _
    rw [hstart]
    exact servesStored_initializeCerts hapart hinit
  | append_singleton before env ih =>
    intro after hsplit
    rw [List.append_assoc, List.singleton_append] at hsplit
    rw [cycles_concat]
    exact servesStored_checkAndRenew hapart hdomains (hclean before env after hsplit)
      (ih (env :: after) hsplit)

end AcmeProvider

def twoGroups : AcmeProvider where
  config :=
    { certs :=
        [{ domains := ["a.com", "www.a.com"], dns := { provider := "cloudflare" } },
         { domains := ["b.com"], dns := { provider := "cloudflare" } }] }

theorem twoGroups_apart : twoGroups.GroupsApart CaseMapping.ascii where
  dirs := by decide +kernel
  slots := by decide +kernel

def textParser : KeyParser String := fun cert _ => .ok cert

def issuingEnv (now : Int) (i : ℕ) : GroupEnv where
  now := now
  issue := .ok ⟨toString now ++ "." ++ toString i, "key", now + 7776000⟩

def failingEnv (now : Int) (i : ℕ) : GroupEnv :=
  { issuingEnv now i with
    renewalRead := if i = 0 then .found else .failed (.Io "input/output error") }

def twoGroupsStart : AcmeStorage × CertManager String :=
  ((twoGroups.initializeCerts textParser CaseMapping.ascii (issuingEnv 0) (fun _ => {}) {}).storage,
    (twoGroups.initializeCerts textParser CaseMapping.ascii (issuingEnv 0)
      (fun _ => {}) {}).manager)

theorem visitClean_issuingEnv (files : CertFiles) (now : Int) (i : ℕ) :
    twoGroups.VisitClean textParser files (issuingEnv now i) := by
  obtain ⟨due, hdue⟩ :=
    AcmeProvider.exists_needsRenewal_found files now twoGroups.renewBeforeDays.toNat
  simp only [AcmeProvider.VisitClean, issuingEnv, hdue]
  cases due with
  | false => exact fun _ _ => ⟨rfl, rfl, _, rfl⟩
  | true => exact .inl ⟨rfl, rfl, _, _, rfl, rfl⟩

theorem twoGroupsStart_ok : (twoGroups.initializeCerts textParser CaseMapping.ascii (issuingEnv 0)
    (fun _ => {}) {}).outcome = .ok () := by
  decide +kernel

theorem twoGroups_served :
    AcmeProvider.ServesStored CaseMapping.ascii twoGroups textParser
      (twoGroups.cycles CaseMapping.ascii textParser [issuingEnv 86400, issuingEnv 6998400]
        twoGroupsStart).1
      (twoGroups.cycles CaseMapping.ascii textParser [issuingEnv 86400, issuingEnv 6998400]
        twoGroupsStart).2 := by
  refine AcmeProvider.stored_certs_served twoGroups_apart twoGroupsStart_ok rfl
    [issuingEnv 86400, issuingEnv 6998400] ?_ _ [] (List.append_nil _).symm
  intro before env after hsplit
  have henv : env ∈ [issuingEnv 86400, issuingEnv 6998400] := by rw [hsplit]; simp
  refine .inr ?_
  intro v hv
  obtain ⟨e, -, rfl⟩ := List.mem_map.1 hv
  simp only [List.mem_cons, List.not_mem_nil, or_false] at henv
  rcases henv with rfl | rfl
  · exact visitClean_issuingEnv _ _ _
  · exact visitClean_issuingEnv _ _ _

def silentEnv (now : Int) (_ : ℕ) : GroupEnv where
  now := now
  issue := .error (.Acme "no answer")

/-- After 81 days the first group is renewed and saved, but the cycle ends with an error; the cycle
of the next day succeeds, and the old certificate is still served. -/
theorem twoGroups_not_served :
    twoGroups.GroupsApart CaseMapping.ascii ∧
      (twoGroups.initializeCerts textParser CaseMapping.ascii (issuingEnv 0)
        (fun _ => {}) {}).outcome = .ok () ∧
      (twoGroups.checkAndRenew textParser CaseMapping.ascii (silentEnv 7084800)
        (twoGroups.cycles CaseMapping.ascii textParser [failingEnv 6998400] twoGroupsStart).1
        (twoGroups.cycles CaseMapping.ascii textParser [failingEnv 6998400]
          twoGroupsStart).2).outcome = .ok () ∧
      ¬AcmeProvider.ServesStored CaseMapping.ascii twoGroups textParser
        (twoGroups.cycles CaseMapping.ascii textParser [failingEnv 6998400, silentEnv 7084800]
          twoGroupsStart).1
        (twoGroups.cycles CaseMapping.ascii textParser [failingEnv 6998400, silentEnv 7084800]
          twoGroupsStart).2 := by
  refine ⟨twoGroups_apart, twoGroupsStart_ok, by decide +kernel, ?_⟩
  intro h
  obtain ⟨key, hkey, hserved⟩ := h _ List.mem_cons_self
    ⟨"6998400.0", "key", 14774400, ["a.com", "www.a.com"]⟩ (by decide +kernel) "a.com"
    List.mem_cons_self
  obtain rfl : "6998400.0" = key := Except.ok.inj hkey
  revert hserved
  decide +kernel

end Wicket
