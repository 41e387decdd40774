/-
**Updates of mounted Secrets.**

An event counts when it names one of the certificate files.  In a mounted Secret these are links
into a directory `..data`, and an update replaces that link only.
-/

import Wicket.FileCerts
import Wicket.Paths
import Wicket.RuntimePlan

namespace Wicket

open List Text Paths

/-! ### The loop of the watcher -/

def isRelevantEvent (file : FileConfig) (paths : List String) : Bool :=
  paths.any fun path => file.certs.any fun certConfig =>
    samePath path certConfig.cert || samePath path certConfig.key

/-- An event of the watched directories, or an error, at a time in milliseconds. -/
structure NotifyEvent where
  time : ℕ
  result : Except String (List String)

structure WatchState (κ : Type) where
  manager : CertManager κ
  debounceDeadline : Option ℕ

/-- What the files hold from then on, the events that are reported, and a time at which their
deadlines have passed. -/
structure SecretUpdate (κ : Type) where
  files : KeyFiles κ
  events : List NotifyEvent
  settled : ℕ
  passed : ∀ e ∈ events, e.time + 500 ≤ settled

section Loop

variable {κ : Type} (cm : CaseMapping) (file : FileConfig)

def WatchState.timer (files : KeyFiles κ) (now : ℕ) (s : WatchState κ) : WatchState κ :=
  match s.debounceDeadline with
  | some deadline =>
    if deadline ≤ now then ⟨FileWatcher.reloadCerts cm file files s.manager, none⟩ else s
  | none => s

def NotifyEvent.isRelevant (e : NotifyEvent) : Bool :=
  match e.result with
  | .ok paths => isRelevantEvent file paths
  | .error _ => false

def WatchState.receive (s : WatchState κ) (e : NotifyEvent) : WatchState κ :=
  if e.isRelevant file then { s with debounceDeadline := some (e.time + 500) } else s

def watchUpdate (s : WatchState κ) (u : SecretUpdate κ) : WatchState κ :=
  (u.events.foldl (fun s e => (s.timer cm file u.files e.time).receive file e) s).timer cm file
    u.files u.settled

def watchUpdates (s : WatchState κ) (updates : List (SecretUpdate κ)) : WatchState κ :=
  updates.foldl (watchUpdate cm file) s

variable {cm file} {s : WatchState κ} {u : SecretUpdate κ} {store : CertStore κ}

theorem watchUpdate_of_irrelevant (h : ∀ e ∈ u.events, e.isRelevant file = false)
    (hs : s.debounceDeadline = none) : watchUpdate cm file s u = s := by
  have htimer : ∀ now, s.timer cm file u.files now = s := by
    intro now
    rw [WatchState.timer, hs]
  have hevents : u.events.foldl
      (fun s e => (s.timer cm file u.files e.time).receive file e) s = s := by
    refine foldlRecOn u.events _ (motive := (· = s)) rfl ?_
    rintro _ rfl e he
    rw [htimer, WatchState.receive, h e he]
    rfl
  rw [watchUpdate, hevents, htimer]

/-- The certificates are loaded from the files, or will be before the update has settled. -/
def WatchState.Pending (store : CertStore κ) (settled : ℕ) (s : WatchState κ) : Prop :=
  (∃ deadline, s.debounceDeadline = some deadline ∧ deadline ≤ settled) ∨
    s.debounceDeadline = none ∧ s.manager.store = store

theorem WatchState.Pending.timer {settled : ℕ} {files : KeyFiles κ}
    (hbuild : FileWatcher.buildStore cm file files = .ok store) (h : s.Pending store settled)
    (now : ℕ) : (s.timer cm file files now).Pending store settled := by
  rw [WatchState.timer]
  rcases h with ⟨deadline, hdeadline, hle⟩ | ⟨hnone, hstore⟩
  · rw [hdeadline]
    dsimp only
    split
    · rw [FileWatcher.reloadCerts, hbuild]
      exact .inr ⟨rfl, rfl⟩
    · exact .inl ⟨deadline, hdeadline, hle⟩
  · rw [hnone]
    exact .inr ⟨hnone, hstore⟩

theorem WatchState.pending_receive {settled : ℕ} {e : NotifyEvent} (he : e.time + 500 ≤ settled)
    (h : e.isRelevant file = true ∨ s.Pending store settled) :
    (s.receive file e).Pending store settled := by
  rw [WatchState.receive]
  split
  · exact .inl ⟨_, rfl, he⟩
  · exact h.resolve_left ‹_›

/-- **A relevant event is enough**: once the update has settled, the certificates are those of the
files. -/
theorem watchUpdate_of_relevant (s : WatchState κ)
    (hbuild : FileWatcher.buildStore cm file u.files = .ok store) {e : NotifyEvent}
    (he : e ∈ u.events) (hrelevant : e.isRelevant file = true) :
    watchUpdate cm file s u = ⟨⟨store⟩, none⟩ := by
  obtain ⟨before, after, hsplit⟩ := append_of_mem he
  have hpending : (u.events.foldl (fun s e => (s.timer cm file u.files e.time).receive file e)
      s).Pending store u.settled := by
    rw [hsplit, foldl_append, foldl_cons]
    refine foldlRecOn after _ (WatchState.pending_receive (u.passed e he) (.inl hrelevant)) ?_
    intro s hs e' he'
    have hmem : e' ∈ u.events := by
      rw [hsplit]
      simp [he']
    exact WatchState.pending_receive (u.passed e' hmem) (.inr (hs.timer hbuild e'.time))
  rw [watchUpdate]
  generalize u.events.foldl _ s = s' at hpending
  obtain ⟨⟨_⟩, _⟩ := s'
  rcases hpending with ⟨deadline, rfl, hle⟩ | ⟨rfl, rfl⟩
  · simp [WatchState.timer, hle, FileWatcher.reloadCerts, hbuild, CertManager.reload]
  · rfl

end Loop

/-! ### Mounted Secrets -/

def FileConfig.InMounts (file : FileConfig) : Prop :=
  ∀ certConfig ∈ file.certs, ∃ secret, certConfig.cert = tlsMountDir secret ++ "/tls.crt" ∧
    certConfig.key = tlsMountDir secret ++ "/tls.key"

/-- What updates of a mounted Secret create, rename or remove starts with two dots. -/
def IsKubeletPath (path : String) : Prop :=
  ∃ secret entry, path = tlsMountDir secret ++ "/" ++ entry ∧
    startsWith entry ".." = true ∧ '/' ∉ entry.toList

def SecretUpdate.ByKubelet {κ : Type} (u : SecretUpdate κ) : Prop :=
  ∀ e ∈ u.events, ∀ paths, e.result = .ok paths → ∀ path ∈ paths, IsKubeletPath path

/-- The component of a name that starts with two dots is that of no certificate or key file. -/
theorem ofPart_of_dots {entry : String} (h : startsWith entry ".." = true) :
    ∃ component, Component.ofPart entry = some component ∧
      ∀ name ∈ ["tls.crt", "tls.key"], component ≠ .Normal name := by
  have hother : entry ≠ "" ∧ entry ≠ "." ∧ entry ≠ "tls.crt" ∧ entry ≠ "tls.key" := by
    refine ⟨?_, ?_, ?_, ?_⟩ <;> (rintro rfl; exact absurd h (by decide))
  by_cases hparent : entry = ".."
  · subst hparent
    exact ⟨.ParentDir, by decide, by simp⟩
  · refine ⟨.Normal entry, by simp [Component.ofPart, hother.1, hother.2.1, hparent], ?_⟩
    simp [hother.2.2.1, hother.2.2.2]

theorem isRelevantEvent_of_kubelet {file : FileConfig} (hfile : file.InMounts)
    {paths : List String} (hpaths : ∀ path ∈ paths, IsKubeletPath path) :
    isRelevantEvent file paths = false := by
  rw [isRelevantEvent, any_eq_false]
  intro path hpath hany
  obtain ⟨certConfig, hmem, hsame⟩ := any_eq_true.1 hany
  obtain ⟨secret, entry, rfl, hdots, hslash⟩ := hpaths path hpath
  obtain ⟨secret', hcert, hkey⟩ := hfile certConfig hmem
  obtain ⟨name, hname, hparts⟩ : ∃ name ∈ ["tls.crt", "tls.key"],
      components (tlsMountDir secret ++ "/" ++ entry) =
        components (tlsMountDir secret' ++ "/" ++ name) := by
    rw [hcert, hkey, Bool.or_eq_true, samePath, samePath, beq_iff_eq, beq_iff_eq] at hsame
    rcases hsame with hsame | hsame
    · exact ⟨"tls.crt", by simp, by rw [hsame, String.append_assoc]; rfl⟩
    · exact ⟨"tls.key", by simp, by rw [hsame, String.append_assoc]; rfl⟩
  -- the last component of the one path starts with two dots, that of the other does not
  obtain ⟨component, hentry, hne⟩ := ofPart_of_dots hdots
  have hplain : ∀ name ∈ ["tls.crt", "tls.key"], '/' ∉ name.toList ∧
      Component.ofPart name = some (.Normal name) := by decide
  have hlast := getLast?_components_join (tlsMountDir secret) hslash hentry
  rw [hparts, getLast?_components_join _ (hplain name hname).1 (hplain name hname).2] at hlast
  exact hne name hname (Option.some.inj hlast).symm

variable {κ : Type} {cm : CaseMapping} {file : FileConfig}

def FreshAfter (cm : CaseMapping) (file : FileConfig) (s : WatchState κ) (u : SecretUpdate κ) :
    Prop :=
  FileWatcher.buildStore cm file u.files = .ok s.manager.store

theorem watchUpdates_of_kubelet (hfile : file.InMounts) (manager : CertManager κ)
    {updates : List (SecretUpdate κ)} (hupdates : ∀ u ∈ updates, u.ByKubelet) :
    watchUpdates cm file ⟨manager, none⟩ updates = ⟨manager, none⟩ := by
  refine foldlRecOn updates _ (motive := (· = (⟨manager, none⟩ : WatchState κ))) rfl ?_
  rintro _ rfl u hu
  refine watchUpdate_of_irrelevant (fun e he => ?_) rfl
  rw [NotifyEvent.isRelevant]
  split
  · exact isRelevantEvent_of_kubelet hfile (hupdates u hu e he _ ‹_›)
  · rfl

/-- **When the certificates are those of the last update**: when every update builds the store that
was built at the start. -/
theorem secretUpdates_fresh_iff (hfile : file.InMounts) {first : KeyFiles κ}
    {manager started : CertManager κ}
    (hstart : FileWatcher.loadAll cm file first manager = .ok started)
    (updates : List (SecretUpdate κ)) (hupdates : ∀ u ∈ updates, u.ByKubelet) :
    (∀ before u, before ++ [u] <+: updates →
        FreshAfter cm file (watchUpdates cm file ⟨started, none⟩ (before ++ [u])) u) ↔
      ∀ u ∈ updates, FileWatcher.buildStore cm file u.files =
        FileWatcher.buildStore cm file first := by
  have hfirst := FileWatcher.loadAll_eq_ok.1 hstart
  have hstate : ∀ before u, before ++ [u] <+: updates →
      watchUpdates cm file ⟨started, none⟩ (before ++ [u]) = ⟨started, none⟩ := by
    intro before u hcut
    exact watchUpdates_of_kubelet hfile started fun v hv => hupdates v (hcut.subset hv)
  constructor
  · intro h u hu
    obtain ⟨before, after, hsplit⟩ := List.append_of_mem hu
    have hcut : before ++ [u] <+: updates := ⟨after, by rw [hsplit]; simp⟩
    have hfresh := h before u hcut
    rw [FreshAfter, hstate before u hcut] at hfresh
    rw [hfresh, hfirst]
  · intro h before u hcut
    rw [FreshAfter, hstate before u hcut, h u (hcut.subset (by simp)), hfirst]

def mountedFile : FileConfig where
  certs :=
    [{ name := "web"
       cert := "/etc/wicket/tls/web/tls.crt"
       key := "/etc/wicket/tls/web/tls.key"
       domains := ["web.example"] }]

theorem mountedFile_inMounts : mountedFile.InMounts := by
  intro certConfig hmem
  obtain rfl := mem_singleton.1 hmem
  exact ⟨"web", by decide, by decide⟩

def renewal (key : String) : SecretUpdate String where
  files := fun _ _ => .ok key
  events := [⟨100, .ok ["/etc/wicket/tls/web/..data_tmp", "/etc/wicket/tls/web/..data"]⟩]
  settled := 600
  passed := by simp

def rewrittenFile : SecretUpdate String where
  __ := renewal "new"
  events := [⟨100, .ok ["/etc/wicket/tls/web/tls.crt"]⟩]
  passed := by simp [renewal]

theorem rewrittenFile_taken_up :
    ∃ store, FileWatcher.buildStore .ascii mountedFile rewrittenFile.files = .ok store ∧
      watchUpdate .ascii mountedFile ⟨{}, none⟩ rewrittenFile = ⟨⟨store⟩, none⟩ :=
  ⟨_, rfl, watchUpdate_of_relevant _ rfl (mem_singleton_self _) (by decide)⟩

theorem renewal_byKubelet (key : String) : (renewal key).ByKubelet := by
  intro e he paths hpaths path hpath
  obtain rfl := mem_singleton.1 he
  cases hpaths
  simp only [mem_cons, not_mem_nil, or_false] at hpath
  rcases hpath with rfl | rfl
  · exact ⟨"web", "..data_tmp", by decide, by decide, by decide⟩
  · exact ⟨"web", "..data", by decide, by decide, by decide⟩

theorem renewal_not_fresh :
    ∃ started, FileWatcher.loadAll .ascii mountedFile (renewal "old").files {} = .ok started ∧
      (watchUpdates .ascii mountedFile ⟨started, none⟩ [renewal "new"]).manager.resolve .ascii
        "web.example" = some "old" ∧
      ¬FreshAfter .ascii mountedFile
        (watchUpdates .ascii mountedFile ⟨started, none⟩ [renewal "new"]) (renewal "new") := by
  obtain ⟨started, hstart⟩ : ∃ started, FileWatcher.loadAll .ascii mountedFile
    (renewal "old").files {} = .ok started := ⟨_, rfl⟩
  have hstate : watchUpdates .ascii mountedFile ⟨started, none⟩ [renewal "new"] =
      ⟨started, none⟩ := by
    refine watchUpdates_of_kubelet mountedFile_inMounts started fun u hu => ?_
    obtain rfl := List.mem_singleton.1 hu
    exact renewal_byKubelet "new"
  have hold : started.resolve .ascii "web.example" = some "old" := by
    cases hstart
    decide +kernel
  refine ⟨started, hstart, by rwa [hstate], fun hfresh => ?_⟩
  have hnew : (FileWatcher.buildStore .ascii mountedFile (renewal "new").files).toOption.bind
      (CertStore.resolve .ascii · "web.example") = some "new" := by decide +kernel
  rw [hfresh] at hnew
  exact absurd (hold.symm.trans hnew) (by decide)

theorem renewal_fresh_same :
    ∃ started, FileWatcher.loadAll .ascii mountedFile (renewal "old").files {} = .ok started ∧
      FreshAfter .ascii mountedFile
        (watchUpdates .ascii mountedFile ⟨started, none⟩ [renewal "old"]) (renewal "old") := by
  obtain ⟨started, hstart⟩ : ∃ started, FileWatcher.loadAll .ascii mountedFile
    (renewal "old").files {} = .ok started := ⟨_, rfl⟩
  refine ⟨started, hstart, ?_⟩
  refine (secretUpdates_fresh_iff mountedFile_inMounts hstart [renewal "old"] ?_).2 ?_ []
    (renewal "old") List.prefix_rfl
  · intro u hu
    obtain rfl := List.mem_singleton.1 hu
    exact renewal_byKubelet "old"
  · intro u hu
    obtain rfl := List.mem_singleton.1 hu
    rfl

end Wicket
