/-
**Watching the configuration file.**

Every two seconds the time of the file is read; when it has changed the file is loaded, and the HTTP
proxy and the stream listeners are reloaded.  The file may change between the two reads, backend
names may resolve at one round and not at the next, and whatever fails leaves the proxy as it was.

Main definitions:

* `ReloadTask` — what the task knows: the listeners that run, and the versions of the file;
* `Watcher` — the state of the loop, with what the slots of the proxies hold;
* `Poll` — what one round meets: the times, the reads, and how backend names resolve;
* `ReloadTask.poll`, `ReloadTask.run` — one round and a history of rounds.

Main results:

* `ReloadTask.run_serves` — no history of the file leaves a route without its upstream;
* `ReloadTask.run_takesUp` — a version is taken up at the first round that loads it, and at no
  other.
-/

import Wicket.HttpReload
import Wicket.ListenerSet

namespace Wicket

open Function List KeyMap Config Except
open Check
open Text (CaseMapping)
open TwoSlots (stored)

/-! ### The loop -/

/-- `Config::load`, on what the text of the file is parsed to. -/
def Config.load (parsed : Option Config) : Option Config :=
  parsed.bind fun config => config.validate.toOption.map fun _ => config

/-- What the task that watches the file has to do with.  A version of the file is known by its
time. -/
structure ReloadTask (τ : Type) where
  cm : CaseMapping
  running : HashMap String StreamProxy
  content : τ → Option Config

/-- The state of the loop, and what the slots of the proxies hold. -/
structure Watcher (τ : Type) where
  lastModified : Option τ
  http : Router × Upstreams
  stream : String → SniRouter × StreamUpstreams

/-- One round: the version whose time is read, the version that is loaded, how backend names resolve
at that time, and whether the reads succeed. -/
structure Poll (τ : Type) where
  seen : τ
  read : τ
  resolve : Resolver
  readable : Bool := true
  loads : Bool := true

/-- The time that the round finds, if it can read it. -/
def Poll.modified {τ : Type} (p : Poll τ) : Option τ := if p.readable then some p.seen else none

/-- The reload of one stream proxy; a configuration without a running proxy is passed over. -/
def reloadStream (running : HashMap String StreamProxy)
    (stream : String → SniRouter × StreamUpstreams) (config : StreamConfig) :
    String → SniRouter × StreamUpstreams :=
  match running.lookup config.name with
  | none => stream
  | some _ =>
    Function.update stream config.name (stored (StreamProxy.reload config).1 (stream config.name))

namespace ReloadTask

variable {τ : Type}

/-- What the round loads. -/
def loadConfig (task : ReloadTask τ) (p : Poll τ) : Option Config :=
  Config.load (if p.loads then task.content p.read else none)

/-- The reloads after a configuration has been loaded.  The time of the file is remembered whether
they succeed or not. -/
def reload (task : ReloadTask τ) (w : Watcher τ) (p : Poll τ) (new : Config) : Watcher τ where
  lastModified := p.modified
  http := stored (applyReload task.cm p.resolve new).1 w.http
  stream :=
    if listenerSetChanged task.running new.streams then w.stream
    else new.streams.foldl (reloadStream task.running) w.stream

/-- One round. -/
def poll [DecidableEq τ] (task : ReloadTask τ) (w : Watcher τ) (p : Poll τ) : Watcher τ :=
  if p.modified = w.lastModified then w
  else
    match task.loadConfig p with
    | none => w
    | some new => task.reload w p new

/-- A history of rounds. -/
def run [DecidableEq τ] (task : ReloadTask τ) (w : Watcher τ) (polls : List (Poll τ)) : Watcher τ :=
  polls.foldl task.poll w

/-- The loop starts after the listeners have, with the slots they were built with. -/
def start (task : ReloadTask τ) (lastModified : Option τ) (http : Router × Upstreams) :
    Watcher τ where
  lastModified := lastModified
  http := http
  stream := fun name =>
    ((task.running.lookup name).map fun proxy => (proxy.router, proxy.upstreams)).getD
      (⟨[], none⟩, ∅)

/-! ### One round -/

variable {task : ReloadTask τ} {w : Watcher τ} {p : Poll τ} {new : Config}

theorem load_eq_some {parsed : Option Config} :
    load parsed = some new ↔ parsed = some new ∧ new.validate = .ok () := by
  cases parsed with
  | none => simp [load]
  | some config =>
    cases h : config.validate <;> simp [load, h, Except.toOption] <;> grind

theorem poll_cases [DecidableEq τ] (task : ReloadTask τ) (w : Watcher τ) (p : Poll τ) :
    (task.poll w p = w ∧ (p.modified = w.lastModified ∨ task.loadConfig p = none)) ∨
      ∃ new, task.loadConfig p = some new ∧ task.poll w p = task.reload w p new := by
  unfold poll
  split
  case isTrue hsame => exact .inl ⟨rfl, .inl hsame⟩
  case isFalse =>
    cases task.loadConfig p with
    | none => exact .inl ⟨rfl, .inr rfl⟩
    | some new => exact .inr ⟨new, rfl, rfl⟩

theorem stored_applyReload (cm : CaseMapping) (resolve : Resolver) (new : Config)
    (http : Router × Upstreams) :
    stored (applyReload cm resolve new).1 http = (buildHttp cm resolve new).toOption.getD http := by
  unfold applyReload
  cases buildHttp cm resolve new <;> rfl

theorem stored_reload (config : StreamConfig) (slots : SniRouter × StreamUpstreams) :
    stored (StreamProxy.reload config).1 slots = config.build.toOption.getD slots := by
  unfold StreamProxy.reload
  cases config.build <;> rfl

variable {streams : List StreamConfig} {stream : String → SniRouter × StreamUpstreams}
  {running : HashMap String StreamProxy} {name : String}

theorem reloadStream_of_ne {config : StreamConfig} (h : config.name ≠ name) :
    reloadStream running stream config name = stream name := by
  unfold reloadStream
  cases running.lookup config.name with
  | none => rfl
  | some proxy => exact update_of_ne h.symm ..

theorem foldl_reloadStream_of_notMem (h : ∀ config ∈ streams, config.name ≠ name) :
    streams.foldl (reloadStream running) stream name = stream name := by
  induction streams generalizing stream with
  | nil => rfl
  | cons config streams ih =>
    rw [foldl_cons, ih fun c hc => h c (mem_cons_of_mem _ hc)]
    exact reloadStream_of_ne (h config mem_cons_self)

theorem reloadStream_self (config : StreamConfig) :
    reloadStream running stream config config.name =
      if (running.lookup config.name).isSome then config.build.toOption.getD (stream config.name)
      else stream config.name := by
  unfold reloadStream
  cases running.lookup config.name <;> simp [stored_reload]

theorem foldl_reloadStream_of_mem (hnames : (streams.map StreamConfig.name).Nodup)
    {config : StreamConfig} (hmem : config ∈ streams) :
    streams.foldl (reloadStream running) stream config.name =
      reloadStream running stream config config.name := by
  obtain ⟨before, after, rfl⟩ := append_of_mem hmem
  simp only [map_append, map_cons, nodup_append, nodup_cons, mem_map, mem_cons] at hnames
  rw [foldl_append, foldl_cons,
    foldl_reloadStream_of_notMem fun c hc heq => hnames.2.1.1 ⟨c, hc, heq⟩,
    reloadStream_self, reloadStream_self, foldl_reloadStream_of_notMem]
  exact fun c hc heq => hnames.2.2 _ ⟨c, hc, rfl⟩ _ (.inl rfl) heq

/-! ### The routes always lead to upstreams -/

/-- No request and no connection is sent to an upstream that does not exist. -/
structure Serves (task : ReloadTask τ) (w : Watcher τ) : Prop where
  http : ∀ req, ¬MayAnswer w.http.2 (w.http.1.routeMatch task.cm req) .undefinedUpstream
  stream : ∀ name sni upstream,
    routeConnection (w.stream name).1 (w.stream name).2 sni ≠ .error (.unknownUpstream upstream)

theorem serves_http {config : Config} {b : Router × Upstreams} (hvalid : config.validate = .ok ())
    {resolve : Resolver} (hb : buildHttp task.cm resolve config = .ok b) (req : Request) :
    ¬MayAnswer b.2 (b.1.routeMatch task.cm req) .undefinedUpstream :=
  (@answeredAlike_of_build _ _ _ (fun _ => True) b hvalid hb trivial req).defined

theorem serves_stream {config : Config} {b : SniRouter × StreamUpstreams} {sc : StreamConfig}
    (hvalid : config.validate = .ok ()) (hsc : sc ∈ config.streams) (hb : sc.build = .ok b)
    (sni : Option String) (upstream : String) :
    routeConnection b.1 b.2 sni ≠ .error (.unknownUpstream upstream) :=
  routeConnection_known (StreamConfig.validateStream_eq_ok.2
    ((validate_eq_ok.1 hvalid).streams.each sc hsc)) hb (fun _ => rfl) sni upstream

theorem Serves.reload (h : task.Serves w) (hvalid : new.validate = .ok ()) (p : Poll τ) :
    task.Serves (task.reload w p new) where
  http := by
    simp only [ReloadTask.reload, stored_applyReload]
    cases hb : buildHttp task.cm p.resolve new with
    | error e => exact h.http
    | ok b => exact serves_http hvalid hb
  stream := by
    intro name sni upstream
    simp only [ReloadTask.reload]
    split
    case isTrue => exact h.stream name sni upstream
    case isFalse =>
      by_cases hname : ∃ sc ∈ new.streams, sc.name = name
      · obtain ⟨sc, hsc, rfl⟩ := hname
        rw [foldl_reloadStream_of_mem (validate_eq_ok.1 hvalid).streams.names hsc,
          reloadStream_self]
        split
        · cases hb : sc.build with
          | error e => exact h.stream sc.name sni upstream
          | ok b => exact serves_stream hvalid hsc hb sni upstream
        · exact h.stream sc.name sni upstream
      · rw [foldl_reloadStream_of_notMem fun sc hsc heq => hname ⟨sc, hsc, heq⟩]
        exact h.stream name sni upstream

theorem Serves.run [DecidableEq τ] (h : task.Serves w) (polls : List (Poll τ)) :
    task.Serves (task.run w polls) := by
  induction polls generalizing w with
  | nil => exact h
  | cons p polls ih =>
    refine ih ?_
    rcases task.poll_cases w p with ⟨hsame, -⟩ | ⟨new, hnew, hreload⟩
    · rw [hsame]
      exact h
    · rw [hreload]
      exact h.reload (load_eq_some.1 hnew).2 _

section Start

variable {config : Config} {b : Router × Upstreams}

theorem exists_of_lookup_running (hstreams : startStreams config.streams = .ok task.running)
    {proxy : StreamProxy} (hproxy : task.running.lookup name = some proxy) :
    ∃ sc ∈ config.streams, sc.name = name ∧ sc.build = .ok (proxy.router, proxy.upstreams) := by
  obtain ⟨pairs, hpairs, hrunning⟩ := map_eq_ok.1 hstreams
  rw [← hrunning, lookup_collect] at hproxy
  obtain ⟨sc, hsc, hfrom⟩ := exists_of_mem_compileAll hpairs (mem_of_lastWrite hproxy)
  obtain ⟨proxy', hproxy', heq⟩ := map_eq_ok.1 hfrom
  obtain ⟨rfl, rfl⟩ := Prod.mk.inj heq
  exact ⟨sc, hsc, rfl, StreamProxy.build_of_fromConfig hproxy'⟩

/-- **No history of the file leaves a route without its upstream.**  Whatever the file holds at each
round, and whether it can be read, parsed and built or not, the HTTP proxy and every stream listener
only know routes to upstreams that exist. -/
theorem run_serves [DecidableEq τ] (hvalid : config.validate = .ok ()) {resolve : Resolver}
    (hhttp : buildHttp task.cm resolve config = .ok b)
    (hstreams : startStreams config.streams = .ok task.running) (modified : Option τ)
    (polls : List (Poll τ)) : task.Serves (task.run (task.start modified b) polls) := by
  refine Serves.run ⟨serves_http hvalid hhttp, fun name sni upstream => ?_⟩ polls
  simp only [start]
  cases hproxy : task.running.lookup name with
  | none => cases sni <;> simp [routeConnection, SniRouter.matchSni]
  | some proxy =>
    obtain ⟨sc, hsc, -, hbuild⟩ := exists_of_lookup_running hstreams hproxy
    exact serves_stream hvalid hsc hbuild sni upstream

end Start

/-! ### A version of the file -/

/-- The slots hold what is built from the configuration; what cannot be built is as it was, and the
listeners are when they are not the ones that run. -/
structure TakesUp (task : ReloadTask τ) (resolve : Resolver) (new : Config) (w w' : Watcher τ) :
    Prop where
  http : w'.http = (buildHttp task.cm resolve new).toOption.getD w.http
  stream : listenerSetChanged task.running new.streams = false →
    ∀ sc ∈ new.streams, w'.stream sc.name = sc.build.toOption.getD (w.stream sc.name)
  kept : listenerSetChanged task.running new.streams = true → w'.stream = w.stream

theorem takesUp_reload (hvalid : new.validate = .ok ()) :
    task.TakesUp p.resolve new w (task.reload w p new) where
  http := stored_applyReload ..
  stream := by
    intro hsame sc hsc
    obtain ⟨proxy, hproxy, -⟩ := (listenerSetChanged_eq_false.1 hsame).2 sc hsc
    simp only [reload, hsame, Bool.false_eq_true, if_false]
    rw [foldl_reloadStream_of_mem (validate_eq_ok.1 hvalid).streams.names hsc, reloadStream_self,
      hproxy]
    rfl
  kept := fun hchanged => if_pos hchanged

variable [DecidableEq τ] {t : τ}

/-- Rounds that cannot load the version of `t` do not remember its time. -/
theorem lastModified_run_ne {polls : List (Poll τ)} (hw : w.lastModified ≠ some t)
    (h : ∀ q ∈ polls, q.modified = some t → task.loadConfig q = none) :
    (task.run w polls).lastModified ≠ some t := by
  refine foldlRecOn polls _ (motive := fun w : Watcher τ => w.lastModified ≠ some t) hw ?_
  intro w hw q hq
  rcases task.poll_cases w q with ⟨hsame, -⟩ | ⟨new, hnew, hreload⟩
  · rw [hsame]
    exact hw
  · rw [hreload]
    intro hmodified
    rw [h q hq hmodified] at hnew
    cases hnew

/-- Rounds that find the time remembered, or cannot load the file, change nothing. -/
theorem run_of_unchanged {polls : List (Poll τ)} (hw : w.lastModified = some t)
    (h : ∀ q ∈ polls, q.modified = some t ∨ task.loadConfig q = none) : task.run w polls = w := by
  refine foldlRecOn polls _ (motive := (· = w)) rfl ?_
  rintro _ rfl q hq
  unfold poll
  rcases h q hq with hsame | hnone
  · rw [if_pos (hsame.trans hw.symm)]
  · rw [hnone, ite_self]

/-- **A version of the file is taken up once.**  The first round that finds its time and can load
it decides, with the backend names as they resolve at that round: from then on, as long as the file
stays or cannot be loaded, the slots hold what could be built at that round. -/
theorem run_takesUp {before after : List (Poll τ)} (hstart : w.lastModified ≠ some t)
    (hbefore : ∀ q ∈ before, q.modified = some t → task.loadConfig q = none)
    (hp : p.modified = some t) (hnew : task.loadConfig p = some new)
    (hafter : ∀ q ∈ after, q.modified = some t ∨ task.loadConfig q = none) :
    task.TakesUp p.resolve new (task.run w before) (task.run w (before ++ p :: after)) := by
  have hpoll : task.poll (task.run w before) p = task.reload (task.run w before) p new := by
    unfold poll
    rw [if_neg fun h => lastModified_run_ne hstart hbefore (h.symm.trans hp), hnew]
  have hrun : task.run w (before ++ p :: after) = task.reload (task.run w before) p new := by
    rw [run, foldl_append, foldl_cons]
    change task.run (task.poll (task.run w before) p) after = _
    rw [hpoll]
    exact run_of_unchanged hp hafter
  rw [hrun]
  exact takesUp_reload (load_eq_some.1 hnew).2

/-- The configuration before and after an edit that moves the database. -/
def editedConfig (upstream server : String) : Config :=
  { oneUpstream upstream ["10.0.0.1:80"] with streams := [oneStream "db" server] }

/-- The file is replaced; the version in between is half a file. -/
def editedFile : ReloadTask ℕ where
  cm := .ascii
  running := (startStreams [oneStream "db" "10.0.0.1:5432"]).toOption.getD ∅
  content
    | 0 => some (editedConfig "api" "10.0.0.1:5432")
    | 1 => none
    | _ => some (editedConfig "api-v2" "10.0.0.2:5432")

theorem editedFile_serves :
    ∃ b, buildHttp .ascii literalResolver (editedConfig "api" "10.0.0.1:5432") = .ok b ∧
      editedFile.Serves (editedFile.run (editedFile.start (some 0) b)
        [⟨1, 1, literalResolver, true, true⟩, ⟨1, 2, fun _ => none, true, true⟩]) :=
  ⟨_, rfl, @run_serves _ editedFile (editedConfig "api" "10.0.0.1:5432") _ _ rfl
    literalResolver rfl rfl _ _⟩

/-- The new version is seen after half a file has been, and later rounds, at which the names no
longer resolve, leave it alone. -/
theorem editedFile_takesUp :
    ∃ b₀ b b', buildHttp .ascii literalResolver (editedConfig "api" "10.0.0.1:5432") = .ok b₀ ∧
      buildHttp .ascii literalResolver (editedConfig "api-v2" "10.0.0.2:5432") = .ok b ∧
      (oneStream "db" "10.0.0.2:5432").build = .ok b' ∧
      ∃ w, w = editedFile.run (editedFile.start (some 0) b₀)
          ([⟨1, 1, literalResolver, true, true⟩] ++
            ⟨2, 2, literalResolver, true, true⟩ :: [⟨2, 2, fun _ => none, true, true⟩]) ∧
        w.http = b ∧ w.stream "tcp" = b' := by
  refine ⟨_, _, _, rfl, rfl, rfl, ?_⟩
  have htaken := fun b₀ => @run_takesUp ℕ editedFile (editedFile.start (some 0) b₀)
    ⟨2, 2, literalResolver, true, true⟩ (editedConfig "api-v2" "10.0.0.2:5432") _ 2
    [⟨1, 1, literalResolver, true, true⟩] [⟨2, 2, fun _ => none, true, true⟩]
    (by simp [start]) (by simp [Poll.modified]) rfl rfl (by simp [Poll.modified])
  exact ⟨_, rfl, (htaken _).http, (htaken _).stream (by decide) _ mem_cons_self⟩

end ReloadTask

end Wicket
