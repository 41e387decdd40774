/-
**Whether a reload keeps the stream listeners.**

Addresses are compared as texts: that of a running listener is written anew from the parsed address,
that of the new configuration is taken as it stands there.
-/

import Wicket.IpText
import Wicket.StreamReload

namespace Wicket

open List KeyMap StreamConfig Prod
open Net
open Check

/-! ### Running listeners and a new configuration -/

/-- The proxies that are started, under the names of their streams. -/
def startStreams (streams : List StreamConfig) : Except StreamError (HashMap String StreamProxy) :=
  (compileAll (fun config => (StreamProxy.fromConfig config).map fun proxy => (config.name, proxy))
    streams).map collect

/-- The test before a reload; the address is compared as a text. -/
def listenerSetChanged (running : HashMap String StreamProxy) (newStreams : List StreamConfig) :
    Bool :=
  running.keys.length != newStreams.length ||
    newStreams.any fun stream =>
      match running.lookup stream.name with
      | none => true
      | some proxy => proxy.localAddr.text .std != stream.listen

def listenAddrs (streams : List StreamConfig) : HashMap String (Option SocketAddr) :=
  collect (streams.map fun s => (s.name, parseSocketAddr s.listen))

/-- The same names, each with the same address. -/
def SameListeners (first second : List StreamConfig) : Prop :=
  ∀ name, (listenAddrs first).lookup name = (listenAddrs second).lookup name

section Addresses

variable {streams : List StreamConfig} {name : String}

theorem lookup_listenAddrs_of_mem (hvalid : StreamsValid streams) {s : StreamConfig}
    (hs : s ∈ streams) : (listenAddrs streams).lookup s.name = some (parseSocketAddr s.listen) := by
  rw [listenAddrs, lookup_collect]
  refine lastWrite_of_forall (mem_map_of_mem hs) fun addr haddr => ?_
  obtain ⟨s', hs', heq⟩ := mem_map.1 haddr
  obtain ⟨hname, rfl⟩ := mk.inj heq
  rw [inj_on_of_nodup_map hvalid.names hs' hs hname]

theorem exists_of_lookup_listenAddrs {addr : Option SocketAddr}
    (h : (listenAddrs streams).lookup name = some addr) :
    ∃ s ∈ streams, s.name = name ∧ parseSocketAddr s.listen = addr := by
  rw [listenAddrs, lookup_collect] at h
  obtain ⟨s, hs, heq⟩ := mem_map.1 (mem_of_lastWrite h)
  exact ⟨s, hs, mk.inj heq⟩

theorem isSome_lookup_listenAddrs :
    ((listenAddrs streams).lookup name).isSome = true ↔ name ∈ streams.map StreamConfig.name := by
  rw [listenAddrs, lookup_collect, Option.isSome_iff_ne_none, Ne, lastWrite_eq_none]
  simp

end Addresses

theorem StreamProxy.localAddr_of_fromConfig {config : StreamConfig} {proxy : StreamProxy}
    (h : StreamProxy.fromConfig config = .ok proxy) :
    parseSocketAddr config.listen = some proxy.localAddr := by
  obtain ⟨-, -, haddr, -⟩ := StreamProxy.exists_of_fromConfig h
  exact haddr

section Reload

variable {first second : List StreamConfig} {running : HashMap String StreamProxy}

theorem running_of_startStreams (hfirst : StreamsValid first)
    (hrunning : startStreams first = .ok running) :
    running.keys.length = first.length ∧ ∀ name,
      (listenAddrs first).lookup name =
        (running.lookup name).map fun proxy => some proxy.localAddr := by
  obtain ⟨pairs, hpairs, rfl⟩ := map_eq_ok.1 hrunning
  have hsame : (first.map fun s => (s.name, parseSocketAddr s.listen)) =
      pairs.map fun p => (p.1, some p.2.localAddr) := by
    have hforall := compileAll_eq_ok.1 hpairs
    clear hrunning hpairs hfirst
    induction hforall with
    | nil => rfl
    | cons hp _ ih =>
      obtain ⟨proxy, hproxy, rfl⟩ := map_eq_ok.1 hp
      rw [map_cons, map_cons, ih, StreamProxy.localAddr_of_fromConfig hproxy]
  have hnames : pairs.map fst = first.map name := by
    simpa [Function.comp_def] using congrArg (List.map fst) hsame.symm
  refine ⟨?_, fun name => ?_⟩
  · rw [length_keys_collect (hnames ▸ hfirst.names), ← length_map fst, hnames, length_map]
  · rw [listenAddrs, lookup_collect, lookup_collect, hsame]
    exact lastWrite_map (fun proxy => some proxy.localAddr) pairs name

theorem listenerSetChanged_eq_false :
    listenerSetChanged running second = false ↔ running.keys.length = second.length ∧
      ∀ s ∈ second, ∃ proxy, running.lookup s.name = some proxy ∧
        proxy.localAddr.text .std = s.listen := by
  simp only [listenerSetChanged, Bool.or_eq_false_iff, bne_eq_false_iff_eq, any_eq_false]
  refine and_congr_right fun _ => forall₂_congr fun s _ => ?_
  cases running.lookup s.name <;> simp

theorem SameListeners.of_unchanged (hfirst : StreamsValid first) (hsecond : StreamsValid second)
    (hrunning : startStreams first = .ok running)
    (h : listenerSetChanged running second = false) : SameListeners first second := by
  obtain ⟨hlength, haddrs⟩ := running_of_startStreams hfirst hrunning
  obtain ⟨hsize, htexts⟩ := listenerSetChanged_eq_false.1 h
  have hmem : ∀ s ∈ second, (listenAddrs first).lookup s.name =
      some (parseSocketAddr s.listen) := by
    intro s hs
    obtain ⟨proxy, hproxy, htext⟩ := htexts s hs
    have hlookup := haddrs s.name
    rw [hproxy, Option.map_some] at hlookup
    obtain ⟨s', -, -, hparse⟩ := exists_of_lookup_listenAddrs hlookup
    rw [hlookup, ← htext, parseSocketAddr_text_of_parse hparse]
  -- the names of the second list are among those of the first, and as many
  have hsubset : second.map name ⊆ first.map name := by
    intro name hname
    obtain ⟨s, hs, rfl⟩ := mem_map.1 hname
    rw [← isSome_lookup_listenAddrs, hmem s hs]
    rfl
  have hperm := (hsecond.names.subperm hsubset).perm_of_length_le
    (by rw [length_map, length_map, ← hlength, hsize])
  intro name
  by_cases hname : name ∈ second.map StreamConfig.name
  · obtain ⟨s, hs, rfl⟩ := mem_map.1 hname
    rw [hmem s hs, lookup_listenAddrs_of_mem hsecond hs]
  · have hother := hname
    rw [hperm.mem_iff, ← isSome_lookup_listenAddrs] at hother
    rw [← isSome_lookup_listenAddrs] at hname
    rw [Option.not_isSome_iff_eq_none.1 hname, Option.not_isSome_iff_eq_none.1 hother]

theorem unchanged_iff_of_sameListeners (hfirst : StreamsValid first)
    (hsecond : StreamsValid second) (hrunning : startStreams first = .ok running)
    (hsame : SameListeners first second) :
    listenerSetChanged running second = false ↔
      ∀ s ∈ second, ∀ addr ∈ parseSocketAddr s.listen, addr.text .std = s.listen := by
  obtain ⟨hlength, haddrs⟩ := running_of_startStreams hfirst hrunning
  have hperm : (first.map name).Perm (second.map name) := by
    refine (perm_ext_iff_of_nodup hfirst.names hsecond.names).2 fun name => ?_
    rw [← isSome_lookup_listenAddrs, ← isSome_lookup_listenAddrs, hsame name]
  have hsize : running.keys.length = second.length := by
    rw [hlength, ← length_map name, hperm.length_eq, length_map]
  rw [listenerSetChanged_eq_false, and_iff_right hsize]
  refine forall₂_congr fun s hs => ?_
  have hlookup := (haddrs s.name).symm.trans
    ((hsame s.name).trans (lookup_listenAddrs_of_mem hsecond hs))
  obtain ⟨proxy, hproxy, hparse⟩ := Option.map_eq_some_iff.1 hlookup
  simp [hproxy, ← hparse]

/-- **The comparison of listeners is right** exactly when no address of an unchanged set is written
in another way than the standard library writes it. -/
theorem listenerSetChanged_right_iff (hfirst : validateStreamsFrom [] [] first = .ok ())
    (hsecond : validateStreamsFrom [] [] second = .ok ())
    (hrunning : startStreams first = .ok running) :
    (listenerSetChanged running second = true ↔ ¬SameListeners first second) ↔
      (SameListeners first second →
        ∀ s ∈ second, ∀ addr ∈ parseSocketAddr s.listen, addr.text .std = s.listen) := by
  have hfirst := (validateStreamsFrom_eq_ok.1 hfirst).1
  have hsecond := (validateStreamsFrom_eq_ok.1 hsecond).1
  have hunchanged := SameListeners.of_unchanged hfirst hsecond hrunning
  by_cases hsame : SameListeners first second
  · have htexts := unchanged_iff_of_sameListeners hfirst hsecond hrunning hsame
    simpa [hsame] using htexts
  · have hchanged : listenerSetChanged running second = true := by
      by_contra h
      exact hsame (hunchanged (Bool.not_eq_true _ ▸ h))
    simp [hsame, hchanged]

end Reload

def loopbackStream : StreamConfig := { oneStream "db" "10.0.0.1:5432" with
  listen := "[0:0:0:0:0:0:0:1]:5432" }

theorem listenerSetChanged_oneStream :
    ∃ running, startStreams [oneStream "db" "10.0.0.1:5432"] = .ok running ∧
      (listenerSetChanged running [oneStream "db" "10.0.0.2:5432"] = true ↔
        ¬SameListeners [oneStream "db" "10.0.0.1:5432"] [oneStream "db" "10.0.0.2:5432"]) := by
  obtain ⟨running, hrunning⟩ : ∃ running,
    startStreams [oneStream "db" "10.0.0.1:5432"] = .ok running := ⟨_, rfl⟩
  refine ⟨running, hrunning, (listenerSetChanged_right_iff rfl rfl hrunning).2 ?_⟩
  intro _ s hs addr haddr
  have htext : (parseSocketAddr "0.0.0.0:5432").map (SocketAddr.text .std) =
      some "0.0.0.0:5432" := by decide
  obtain rfl := List.mem_singleton.1 hs
  rw [show parseSocketAddr "0.0.0.0:5432" = some addr from haddr] at htext
  exact Option.some.inj htext

theorem listenerSetChanged_loopbackStream :
    ∃ running, startStreams [loopbackStream] = .ok running ∧
      listenerSetChanged running [loopbackStream] = true ∧
      SameListeners [loopbackStream] [loopbackStream] := by
  obtain ⟨running, hrunning⟩ : ∃ running, startStreams [loopbackStream] = .ok running := ⟨_, rfl⟩
  have hvalid : StreamsValid [loopbackStream] :=
    (validateStreamsFrom_eq_ok.1 (rfl : validateStreamsFrom [] [] [loopbackStream] = _)).1
  refine ⟨running, hrunning, ?_, fun _ => rfl⟩
  rw [← Bool.not_eq_false, unchanged_iff_of_sameListeners hvalid hvalid hrunning fun _ => rfl]
  intro htexts
  have htext : (parseSocketAddr loopbackStream.listen).map (SocketAddr.text .std) =
      some "[::1]:5432" := by decide
  obtain ⟨addr, haddr, hshort⟩ := Option.map_eq_some_iff.1 htext
  exact absurd (hshort.symm.trans (htexts _ List.mem_cons_self addr haddr)) (by decide)

end Wicket
