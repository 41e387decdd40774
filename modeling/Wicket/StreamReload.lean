/-
**Reloading a stream listener while it takes connections.**

A connection loads the router and then the upstreams, at its very start, but a reload still fits
between the two.
-/

import Wicket.Stream
import Wicket.TwoSlots

namespace Wicket

open Option KeyMap
open TwoSlots (Access Memory Sees)
open Check

/-! ### Building and storing -/

abbrev StreamUpstreams : Type := HashMap String Upstream

/-- What a reload puts in place of the two slots. -/
def StreamConfig.build (config : StreamConfig) : Except StreamError (SniRouter × StreamUpstreams) :=
  (compileAll (Upstream.fromConfig config.healthCooldownSecs) config.upstreams).map fun upstreams =>
    (SniRouter.new config.sniRoutes config.defaultUpstream, collect upstreams)

/-- The router is stored before the upstreams, so a connection can see one without the other. -/
def StreamProxy.reload (config : StreamConfig) :
    List (Access SniRouter StreamUpstreams) × Except StreamError Unit :=
  match config.build with
  | .error e => ([], .error e)
  | .ok (router, upstreams) => ([.storeFirst router, .storeSecond upstreams], .ok ())

inductive RoutingError
  | noMatchingUpstream
  | unknownUpstream (name : String)
  deriving DecidableEq

def RoutingError.text : RoutingError → String
  | .noMatchingUpstream => "No matching upstream"
  | .unknownUpstream name => "Unknown upstream: " ++ name

/-- The upstream of a connection, from the two slots as it has read them. -/
def routeConnection (router : SniRouter) (upstreams : StreamUpstreams) (sni : Option String) :
    Except RoutingError Upstream :=
  match router.matchSni sni with
  | none => .error .noMatchingUpstream
  | some name => (upstreams.lookup name).elim (.error (.unknownUpstream name)) .ok

/-- A connection is handled as if one configuration alone had been in place. -/
structure HandledByOne (builds : SniRouter × StreamUpstreams → Prop) (router : SniRouter)
    (upstreams : StreamUpstreams) : Prop where
  build : ∃ b, builds b ∧ b.1 = router ∧ ∀ name, b.2.lookup name = upstreams.lookup name
  known : ∀ sni name, routeConnection router upstreams sni ≠ .error (.unknownUpstream name)

/-! ### Within one configuration -/

variable {config : StreamConfig} {b : SniRouter × StreamUpstreams}

theorem StreamProxy.build_of_fromConfig {proxy : StreamProxy}
    (h : StreamProxy.fromConfig config = .ok proxy) :
    config.build = .ok (proxy.router, proxy.upstreams) := by
  obtain ⟨upstreams, hupstreams, -, hrouter, hups⟩ := StreamProxy.exists_of_fromConfig h
  rw [hrouter, hups]
  exact map_eq_ok.2 ⟨upstreams, hupstreams, rfl⟩

theorem StreamConfig.isSome_lookup_build (h : config.build = .ok b) {u : StreamUpstreamConfig}
    (hu : u ∈ config.upstreams) :
    (b.2.lookup u.name).isSome = true := by
  obtain ⟨upstreams, hupstreams, rfl⟩ := map_eq_ok.1 h
  obtain ⟨entry, hentry, hfrom⟩ := exists_mem_of_compileAll hupstreams hu
  obtain ⟨servers, -, rfl⟩ := map_eq_ok.1 hfrom
  simp only
  rw [lookup_collect, isSome_iff_ne_none, ne_eq, lastWrite_eq_none]
  intro hnone
  exact hnone _ hentry rfl

theorem StreamConfig.Valid.exists_upstream (h : config.Valid) (hb : config.build = .ok b)
    {sni : Option String} {name : String} (hname : b.1.matchSni sni = some name) :
    ∃ u ∈ config.upstreams, u.name = name := by
  obtain ⟨upstreams, -, rfl⟩ := map_eq_ok.1 hb
  rcases or_eq_some_iff.1 hname with hroute | ⟨-, hdefault⟩
  · obtain ⟨hostname, -, hfound⟩ := bind_eq_some_iff.1 hroute
    obtain ⟨r, hr, rfl⟩ := map_eq_some_iff.1 hfound
    have hmem := List.mem_of_find?_eq_some hr
    rw [SniRouter.new, List.mem_insertionSort] at hmem
    obtain ⟨e, he, rfl⟩ := List.mem_map.1 hmem
    exact h.sni e.1 e.2 (mem_entries.1 he)
  · exact h.default name hdefault

theorem routeConnection_known (hvalid : config.validateStream = .ok ())
    (hb : config.build = .ok b) {upstreams : StreamUpstreams}
    (hsame : ∀ name, b.2.lookup name = upstreams.lookup name) (sni : Option String)
    (name : String) :
    routeConnection b.1 upstreams sni ≠ .error (.unknownUpstream name) := by
  intro herror
  rw [routeConnection] at herror
  split at herror
  case h_1 => cases herror
  case h_2 name' hname' =>
    obtain ⟨u, hu, rfl⟩ :=
      (StreamConfig.validateStream_eq_ok.1 hvalid).exists_upstream hb hname'
    have hsome := StreamConfig.isSome_lookup_build hb hu
    rw [hsame] at hsome
    obtain ⟨up, hup⟩ := isSome_iff_exists.1 hsome
    rw [hup] at herror
    cases herror

theorem handledByOne_of_build (hvalid : config.validateStream = .ok ())
    (hb : config.build = .ok b) {builds : SniRouter × StreamUpstreams → Prop} (hbuilds : builds b)
    {router : SniRouter} (hrouter : b.1 = router) {upstreams : StreamUpstreams}
    (hsame : ∀ name, b.2.lookup name = upstreams.lookup name) :
    HandledByOne builds router upstreams := by
  subst hrouter
  exact ⟨⟨b, hbuilds, rfl, hsame⟩, routeConnection_known hvalid hb hsame⟩

theorem StreamProxy.reload_error {e : StreamError} (h : (StreamProxy.reload config).2 = .error e)
    (memory : Memory SniRouter StreamUpstreams) :
    TwoSlots.run memory (StreamProxy.reload config).1 = memory := by
  rw [StreamProxy.reload] at h ⊢
  split at h
  case h_1 => rfl
  case h_2 => cases h

/-! ### In the middle of a reload -/

/-- **Every connection is handled by one configuration**, in every interleaving with a reload,
exactly when the reload leaves the router or the upstreams as they were. -/
theorem streamReload_iff {old new : StreamConfig} (hold : old.validateStream = .ok ())
    (hnew : new.validateStream = .ok ()) {proxy : StreamProxy}
    (hproxy : StreamProxy.fromConfig old = .ok proxy) {after : SniRouter × StreamUpstreams}
    (hafter : new.build = .ok after) :
    ((∀ router upstreams,
        Sees proxy.router proxy.upstreams (StreamProxy.reload new).1 router upstreams →
          HandledByOne (fun b => b = (proxy.router, proxy.upstreams) ∨ b = after)
            router upstreams) ∧
      ∀ config e, (StreamProxy.reload config).2 = .error e →
        ∀ memory, TwoSlots.run memory (StreamProxy.reload config).1 = memory) ↔
      proxy.router = after.1 ∨ ∀ name, proxy.upstreams.lookup name = after.2.lookup name := by
  have herror : ∀ config e, (StreamProxy.reload config).2 = .error e →
      ∀ memory, TwoSlots.run memory (StreamProxy.reload config).1 = memory :=
    fun config e he => StreamProxy.reload_error he
  have hbefore := StreamProxy.build_of_fromConfig hproxy
  have hstores : (StreamProxy.reload new).1 = [.storeFirst after.1, .storeSecond after.2] := by
    rw [StreamProxy.reload, hafter]
  have hpure : HandledByOne (fun b => b = (proxy.router, proxy.upstreams) ∨ b = after)
      proxy.router proxy.upstreams := handledByOne_of_build hold hbefore (.inl rfl) rfl fun _ => rfl
  have hpure' : HandledByOne (fun b => b = (proxy.router, proxy.upstreams) ∨ b = after)
      after.1 after.2 := handledByOne_of_build hnew hafter (.inr rfl) rfl fun _ => rfl
  rw [and_iff_left herror, hstores, TwoSlots.forall_sees_stores_iff, and_iff_right ⟨hpure, hpure'⟩]
  constructor
  · -- the connection that loads the old router and the new upstreams
    rintro ⟨⟨⟨b, rfl | rfl, hrouter, hsame⟩, -⟩, -⟩
    · exact .inr hsame
    · exact .inl hrouter.symm
  · rintro (hrouter | hsame)
    · exact ⟨handledByOne_of_build hnew hafter (.inr rfl) hrouter.symm fun _ => rfl,
        handledByOne_of_build hold hbefore (.inl rfl) hrouter fun _ => rfl⟩
    · exact ⟨handledByOne_of_build hold hbefore (.inl rfl) rfl hsame,
        handledByOne_of_build hnew hafter (.inr rfl) rfl fun name => (hsame name).symm⟩

/-! ### A moved backend, and a renamed upstream -/

def oneStream (name server : String) : StreamConfig where
  name := "tcp"
  listen := "0.0.0.0:5432"
  defaultUpstream := some name
  upstreams := [{ name := name, servers := [server] }]

theorem movedBackend_handledByOne :
    ∃ proxy after, StreamProxy.fromConfig (oneStream "db" "10.0.0.1:5432") = .ok proxy ∧
      (oneStream "db" "10.0.0.2:5432").build = .ok after ∧
      ∀ router upstreams, Sees proxy.router proxy.upstreams
          (StreamProxy.reload (oneStream "db" "10.0.0.2:5432")).1 router upstreams →
        HandledByOne (fun b => b = (proxy.router, proxy.upstreams) ∨ b = after)
          router upstreams := by
  have hold : (oneStream "db" "10.0.0.1:5432").validateStream = .ok () := rfl
  have hnew : (oneStream "db" "10.0.0.2:5432").validateStream = .ok () := rfl
  obtain ⟨proxy, hproxy⟩ : ∃ proxy, StreamProxy.fromConfig (oneStream "db" "10.0.0.1:5432") =
      .ok proxy := ⟨_, rfl⟩
  obtain ⟨after, hafter⟩ : ∃ after, (oneStream "db" "10.0.0.2:5432").build = .ok after := ⟨_, rfl⟩
  refine ⟨proxy, after, hproxy, hafter, ((streamReload_iff hold hnew hproxy hafter).2 ?_).1⟩
  cases hproxy
  cases hafter
  exact .inl rfl

/-- While the upstream is renamed, a connection is routed to the new name and finds the old one. -/
theorem renamedStream_unknown :
    ∃ proxy after,
      (oneStream "db" "10.0.0.1:5432").validateStream = .ok () ∧
      (oneStream "db-v2" "10.0.0.1:5432").validateStream = .ok () ∧
      StreamProxy.fromConfig (oneStream "db" "10.0.0.1:5432") = .ok proxy ∧
      (oneStream "db-v2" "10.0.0.1:5432").build = .ok after ∧
      Sees proxy.router proxy.upstreams
        (StreamProxy.reload (oneStream "db-v2" "10.0.0.1:5432")).1 after.1 proxy.upstreams ∧
      routeConnection after.1 proxy.upstreams none = .error (.unknownUpstream "db-v2") := by
  refine ⟨_, _, rfl, rfl, rfl, rfl, ?_, rfl⟩
  exact TwoSlots.sees_stores_iff.2 ⟨.inr rfl, .inl rfl⟩

end Wicket
