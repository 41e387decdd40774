/-
**One meaning of host patterns, in four places.**

Both routers, the certificate store and the planner read patterns with different operations on
text.  Here a pattern denotes a set of names, and the four are shown to work with it.
-/

import Wicket.Attachment
import Wicket.CertStore
import Wicket.HostIdentity
import Wicket.SniPatterns

namespace Wicket

open List Text CertStore HostMatcher

/-! ### What a pattern denotes -/

def Denotes (pattern name : String) : Prop :=
  (startsWith pattern "*." = false ∧ name = pattern) ∨
    ∃ label suffix, pattern = "*." ++ suffix ∧ name = label ++ "." ++ suffix ∧ label ≠ "" ∧
      '.' ∉ label.toList

structure HostPattern (pattern : String) : Prop where
  ascii : isAscii pattern = true
  noPort : ':' ∉ pattern.toList
  star : '*' ∉ pattern.toList ∨ ∃ suffix, pattern = "*." ++ suffix ∧ '*' ∉ suffix.toList

section Denotes

variable {pattern suffix name : String}

theorem startsWith_star_of_notMem (h : '*' ∉ pattern.toList) :
    startsWith pattern "*." = false := by
  rw [← Bool.not_eq_true, startsWith_iff]
  intro hstar
  obtain ⟨suffix, rfl⟩ := hstar
  simp at h

theorem denotes_of_exact (h : startsWith pattern "*." = false) :
    Denotes pattern name ↔ name = pattern := by
  constructor
  · intro hname
    rcases hname with hexact | hwild
    · exact hexact.2
    · obtain ⟨-, suffix, hpattern, -⟩ := hwild
      rw [startsWith_iff.2 ⟨suffix, hpattern⟩] at h
      cases h
  · intro hname
    exact Or.inl ⟨h, hname⟩

theorem denotes_wildcard :
    Denotes ("*." ++ suffix) name ↔
      ∃ label, name = label ++ "." ++ suffix ∧ label ≠ "" ∧ '.' ∉ label.toList := by
  constructor
  · intro hname
    rcases hname with hexact | hwild
    · rw [startsWith_iff.2 ⟨suffix, rfl⟩] at hexact
      cases hexact.1
    · obtain ⟨label, suffix', hpattern, hlabel⟩ := hwild
      rw [(String.append_right_inj "*.").1 hpattern]
      exact ⟨label, hlabel⟩
  · intro hname
    obtain ⟨label, hlabel⟩ := hname
    exact Or.inr ⟨label, suffix, rfl, hlabel⟩

theorem denotes_toAsciiLowercase {hostname : String} :
    Denotes (toAsciiLowercase pattern) (toAsciiLowercase hostname) ↔
      IsExactFor pattern hostname ∨ IsWildcardFor pattern hostname := by
  rw [Denotes, IsExactFor, and_comm, @eq_comm _ (toAsciiLowercase hostname)
    (toAsciiLowercase pattern)]
  rfl

theorem toAsciiLowercase_wildcard (suffix : String) :
    toAsciiLowercase ("*." ++ suffix) = "*." ++ toAsciiLowercase suffix := by
  rw [toAsciiLowercase_append]
  rfl

end Denotes

/-! ### What the components accept -/

section Components

variable {cm : CaseMapping} {pattern hostname : String}

theorem HostPattern.exists_compile (hp : HostPattern pattern) :
    ∃ m, compile cm pattern = .ok m ∧ ∀ host, m.matches_ cm host = true ↔
      Denotes (toAsciiLowercase pattern) (hostName cm host) := by
  rcases hp.star with hplain | hstar
  · have hexact : startsWith (toAsciiLowercase pattern) "*." = false := by
      refine startsWith_star_of_notMem ?_
      rwa [mem_toAsciiLowercase (by decide) (by decide)]
    have hcompile : compile cm pattern = .ok (.Exact (toAsciiLowercase pattern)) := by
      rw [compile, stripPrefix_eq_none.2 (startsWith_star_of_notMem hplain),
        cm.toLowercase_ascii pattern hp.ascii]
      rw [hasChar, contains_eq_mem, decide_eq_false hplain]
      rfl
    refine ⟨_, hcompile, ?_⟩
    intro host
    rw [denotes_of_exact hexact]
    exact beq_iff_eq
  · obtain ⟨suffix, rfl, -⟩ := hstar
    have hsuffix : isAscii suffix = true := by
      have hascii := hp.ascii
      rw [isAscii, String.toList_append, all_append, Bool.and_eq_true] at hascii
      exact hascii.2
    have hcompile : compile cm ("*." ++ suffix) =
        .ok (.WildcardPrefix ("." ++ toAsciiLowercase suffix)) := by
      rw [compile, stripPrefix_eq_some.2 rfl]
      dsimp only
      rw [cm.toLowercase_ascii suffix hsuffix]
    refine ⟨_, hcompile, ?_⟩
    intro host
    rw [toAsciiLowercase_wildcard, denotes_wildcard]
    simp only [String.append_assoc]
    exact HostMatcher.matches_wildcard

theorem HostPattern.hostAccepts_iff (hp : HostPattern pattern) {host : String} :
    hostAccepts cm pattern host = true ↔ Denotes (toAsciiLowercase pattern) (hostName cm host) := by
  obtain ⟨m, hm, hmatches⟩ := @HostPattern.exists_compile cm pattern hp
  rw [hostAccepts, hm]
  exact hmatches host

theorem CompiledPattern.matches_iff :
    (CompiledPattern.parse pattern).matches_ (toAsciiLowercase hostname) = true ↔
      Denotes (toAsciiLowercase pattern) (toAsciiLowercase hostname) := by
  rw [denotes_toAsciiLowercase, CompiledPattern.matches_parse]

theorem HostPattern.covers_iff (hp : HostPattern pattern)
    (hascii : isAscii hostname = true) (hlabel : beforeFirst hostname '.' ≠ "") :
    Covers cm pattern hostname ↔
      Denotes (toAsciiLowercase pattern) (toAsciiLowercase hostname) := by
  rw [Wicket.covers_iff, cm.toLowercase_ascii _ hp.ascii, cm.toLowercase_ascii _ hascii, Denotes,
    @eq_comm _ (toAsciiLowercase hostname) (toAsciiLowercase pattern)]
  refine or_congr Iff.rfl ?_
  constructor
  · intro h
    obtain ⟨suffix, label, hpattern, hdots, hname⟩ := h
    refine ⟨label, suffix, hpattern, hname, ?_, hdots⟩
    intro hempty
    -- the name would begin with a dot, and so would it before it was put in lower case
    rw [hempty, String.empty_append] at hname
    apply hlabel
    have hlist := congrArg String.toList hname
    rw [toAsciiLowercase, String.toList_ofList, String.toList_append] at hlist
    cases hchars : hostname.toList with
    | nil =>
      rw [beforeFirst, hchars]
      rfl
    | cons c cs =>
      rw [hchars, map_cons] at hlist
      have hdot := toLower_eq (by decide) (cons.inj hlist).1
      rw [beforeFirst, hchars, hdot]
      rfl
  · intro h
    obtain ⟨label, suffix, hpattern, hname, -, hdots⟩ := h
    exact ⟨suffix, label, hpattern, hdots, hname⟩

def ResolvesTo {κ : Type} (cm : CaseMapping) (store : CertStore κ) (sni : String) (cert : κ) :
    Prop :=
  store.resolveWithOutcome cm sni = (some cert, .Exact) ∨
    store.resolveWithOutcome cm sni = (some cert, .Wildcard)

theorem resolvesTo_iff {κ : Type} {store : CertStore κ} {sni : String} {cert : κ}
    (hdefault : store.default = none) :
    ResolvesTo cm store sni cert ↔ store.resolve cm sni = some cert := by
  rw [ResolvesTo, resolve, resolveWithOutcome, hdefault]
  cases store.exact.lookup (cm.toLowercase sni) with
  | some key => simp
  | none =>
    cases (afterFirst (cm.toLowercase sni) '.').bind store.wildcard.lookup with
    | some key => simp
    | none => simp

theorem resolves_insert_iff {κ : Type} {cert : κ} :
    ResolvesTo cm (({} : CertStore κ).insert cm [pattern] cert) hostname cert ↔
      Covers cm pattern hostname := by
  have hstore : ({} : CertStore κ).insert cm [pattern] cert =
      ofEntries cm [([pattern], cert)] := rfl
  rw [hstore, resolvesTo_iff (default_ofEntries _)]
  constructor
  · intro h
    obtain ⟨e, he, -, domain, hdomain, hcovers⟩ := exists_of_resolve_ofEntries h
    rw [mem_singleton.1 he, mem_singleton] at hdomain
    rwa [← hdomain]
  · intro h
    have hsome := isSome_resolve_ofEntries.2
      ⟨([pattern], cert), mem_singleton_self _, pattern, mem_singleton_self _, h⟩
    obtain ⟨key, hkey⟩ := Option.isSome_iff_exists.1 hsome
    obtain ⟨e, he, hcert, -⟩ := exists_of_resolve_ofEntries hkey
    rw [hkey, ← hcert, mem_singleton.1 he]

end Components

/-- **The two routers and the certificate store accept the same names**: ASCII names without a port
and with a first label. -/
theorem hostPattern_agreement (cm : CaseMapping) {κ : Type} (cert : κ) {pattern hostname : String}
    (hp : HostPattern pattern) (hascii : isAscii hostname = true)
    (hport : ':' ∉ hostname.toList) (hlabel : beforeFirst hostname '.' ≠ "") :
    ∃ m, HostMatcher.compile cm pattern = .ok m ∧
      (m.matches_ cm hostname = true ↔
        (CompiledPattern.parse pattern).matches_ (toAsciiLowercase hostname) = true) ∧
      ((CompiledPattern.parse pattern).matches_ (toAsciiLowercase hostname) = true ↔
        ResolvesTo cm (({} : CertStore κ).insert cm [pattern] cert) hostname cert) := by
  have hname : hostName cm hostname = toAsciiLowercase hostname := by
    rw [hostName, cm.toLowercase_ascii _ hascii, beforeFirst_of_notMem]
    rwa [mem_toAsciiLowercase (by decide) (by decide)]
  obtain ⟨m, hm, hmatches⟩ := @HostPattern.exists_compile cm pattern hp
  refine ⟨m, hm, ?_, ?_⟩
  · rw [hmatches, hname, CompiledPattern.matches_iff]
  · rw [CompiledPattern.matches_iff, resolves_insert_iff, hp.covers_iff hascii hlabel]

theorem exampleWildcard : HostPattern "*.Example.com" :=
  ⟨by decide, by decide, Or.inr ⟨"Example.com", by decide, by decide⟩⟩

theorem exampleWildcard_agreement :
    ResolvesTo .ascii (({} : CertStore String).insert .ascii ["*.Example.com"] "cert")
      "api.example.com" "cert" := by
  obtain ⟨m, -, -, hresolves⟩ := hostPattern_agreement .ascii "cert" exampleWildcard
    (show isAscii "api.example.com" = true by decide) (by decide) (by decide)
  exact hresolves.1 (by decide)

/-! ### Patterns that meet -/

section Meeting

variable {a b name name' : String}

theorem wildcard_unique {s t : String} (hs : Denotes ("*." ++ s) name)
    (ht : Denotes ("*." ++ t) name) : s = t := by
  obtain ⟨label, hname, -, hdots⟩ := denotes_wildcard.1 hs
  obtain ⟨label', hname', -, hdots'⟩ := denotes_wildcard.1 ht
  have hlists := congrArg String.toList (hname.symm.trans hname')
  simp only [String.toList_append, append_assoc] at hlists
  exact String.toList_inj.1 (append_cons_inj_left hdots hdots' hlists).2

theorem exists_denotes (pattern : String) : ∃ name, Denotes pattern name := by
  cases hstar : startsWith pattern "*." with
  | false => exact ⟨pattern, (denotes_of_exact hstar).2 rfl⟩
  | true =>
    obtain ⟨suffix, rfl⟩ := startsWith_iff.1 hstar
    exact ⟨"a" ++ "." ++ suffix, denotes_wildcard.2 ⟨"a", rfl, by decide, by decide⟩⟩

theorem wildcardVerdict_of_exact (ha : startsWith a "*." = false) :
    wildcardVerdict a b = none := by
  rw [wildcardVerdict, stripPrefix_eq_none.2 ha]

theorem wildcardVerdict_of_wildcards (ha : startsWith a "*." = true)
    (hb : startsWith b "*." = true) : wildcardVerdict a b = none := by
  obtain ⟨suffix, rfl⟩ := startsWith_iff.1 ha
  rw [wildcardVerdict, stripPrefix_eq_some.2 rfl]
  dsimp only
  rw [if_pos hb]

theorem wildcardVerdict_iff (ha : startsWith a "*." = true)
    (hb : startsWith b "*." = false) :
    (wildcardVerdict a b).getD false = true ↔ Denotes a b := by
  obtain ⟨suffix, rfl⟩ := startsWith_iff.1 ha
  rw [wildcardVerdict, stripPrefix_eq_some.2 rfl, denotes_wildcard]
  dsimp only
  rw [if_neg (by rw [hb]; exact Bool.false_ne_true)]
  simp only [String.append_assoc]
  rw [← CompiledPattern.matches_wildcard, CompiledPattern.matches_]
  cases stripSuffix b ("." ++ suffix) with
  | none => rfl
  | some label => rfl

theorem hostnameIntersects_of_ne (hne : a ≠ b) :
    hostnameIntersects a b = (wildcardVerdict a b).getD ((wildcardVerdict b a).getD false) := by
  rw [hostnameIntersects, if_neg (by rwa [beq_iff_eq])]
  cases wildcardVerdict a b with
  | none => rfl
  | some verdict => rfl

theorem hostnameIntersects_iff :
    hostnameIntersects a b = true ↔ ∃ name, Denotes a name ∧ Denotes b name := by
  by_cases heq : a = b
  · subst heq
    obtain ⟨name, hname⟩ := exists_denotes a
    rw [hostnameIntersects, if_pos (by rw [beq_iff_eq])]
    exact iff_of_true rfl ⟨name, hname, hname⟩
  rw [hostnameIntersects_of_ne heq]
  cases ha : startsWith a "*." with
  | false =>
    rw [wildcardVerdict_of_exact ha, Option.getD_none]
    simp only [denotes_of_exact ha, exists_eq_left]
    cases hb : startsWith b "*." with
    | false =>
      rw [wildcardVerdict_of_exact hb, denotes_of_exact hb]
      exact iff_of_false Bool.false_ne_true heq
    | true => exact wildcardVerdict_iff hb ha
  | true =>
    cases hb : startsWith b "*." with
    | false =>
      simp only [denotes_of_exact hb, exists_eq_right, wildcardVerdict_of_exact hb,
        Option.getD_none]
      exact wildcardVerdict_iff ha hb
    | true =>
      rw [wildcardVerdict_of_wildcards ha hb, wildcardVerdict_of_wildcards hb ha]
      refine iff_of_false Bool.false_ne_true ?_
      intro h
      obtain ⟨name, hname, hname'⟩ := h
      obtain ⟨s, rfl⟩ := startsWith_iff.1 ha
      obtain ⟨t, rfl⟩ := startsWith_iff.1 hb
      rw [wildcard_unique hname hname'] at heq
      exact heq rfl

theorem hostnameIntersects_comm (a b : String) :
    hostnameIntersects a b = hostnameIntersects b a := by
  rw [Bool.eq_iff_iff, hostnameIntersects_iff, hostnameIntersects_iff]
  simp only [and_comm]

end Meeting

/-! ### Hosts that patterns match -/

structure LowerPattern (pattern : String) : Prop extends HostPattern pattern where
  lower : toAsciiLowercase pattern = pattern

structure PlainHost (host : String) : Prop where
  ascii : isAscii host = true
  lower : toAsciiLowercase host = host
  noPort : ':' ∉ host.toList
  noStar : '*' ∉ host.toList

/-- The host satisfies the listener and the route; without host names they take every host. -/
def HostnamesMeet (cm : CaseMapping) (listenerHostname : Option String)
    (routeHostnames : List String) (host : String) : Prop :=
  (∀ l ∈ listenerHostname, l = "" ∨ hostAccepts cm l host = true) ∧
    (routeHostnames = [] ∨ ∃ r ∈ routeHostnames, hostAccepts cm r host = true)

section Hosts

variable {cm : CaseMapping} {a b host : String}

theorem PlainHost.hostName_eq (h : PlainHost host) : hostName cm host = host := by
  rw [hostName, cm.toLowercase_ascii _ h.ascii, h.lower, beforeFirst_of_notMem h.noPort]

theorem LowerPattern.accepts_iff (ha : LowerPattern a) :
    hostAccepts cm a host = true ↔ Denotes a (hostName cm host) := by
  rw [ha.hostAccepts_iff, ha.lower]

theorem LowerPattern.plainHost (ha : LowerPattern a) (hexact : startsWith a "*." = false) :
    PlainHost a where
  ascii := ha.ascii
  lower := ha.lower
  noPort := ha.noPort
  noStar := by
    refine ha.star.resolve_right ?_
    intro h
    obtain ⟨suffix, hsuffix, -⟩ := h
    rw [startsWith_iff.2 ⟨suffix, hsuffix⟩] at hexact
    cases hexact

theorem LowerPattern.plainHost_label {suffix : String} (ha : LowerPattern ("*." ++ suffix)) :
    PlainHost ("a" ++ "." ++ suffix) := by
  have hascii := ha.ascii
  have hlower := ha.lower
  have hport := ha.noPort
  have hstar : '*' ∉ suffix.toList := by
    rcases ha.star with hno | hsuffix
    · simp at hno
    · obtain ⟨suffix', heq, hno⟩ := hsuffix
      rwa [(String.append_right_inj "*.").1 heq]
  rw [toAsciiLowercase_wildcard, String.append_right_inj] at hlower
  rw [isAscii, String.toList_append, all_append, Bool.and_eq_true] at hascii
  rw [String.toList_append, mem_append, not_or] at hport
  refine ⟨?_, ?_, ?_, ?_⟩
  · rw [isAscii, String.toList_append, all_append, hascii.2]
    rfl
  · rw [toAsciiLowercase_append, hlower]
    rfl
  · rw [String.toList_append, mem_append, not_or]
    exact ⟨by decide, hport.2⟩
  · rw [String.toList_append, mem_append, not_or]
    exact ⟨by decide, hstar⟩

theorem LowerPattern.exists_plainHost (ha : LowerPattern a) :
    ∃ host, PlainHost host ∧ Denotes a host := by
  cases hstar : startsWith a "*." with
  | false => exact ⟨a, ha.plainHost hstar, (denotes_of_exact hstar).2 rfl⟩
  | true =>
    obtain ⟨suffix, rfl⟩ := startsWith_iff.1 hstar
    exact ⟨_, ha.plainHost_label, denotes_wildcard.2 ⟨"a", rfl, by decide, by decide⟩⟩

theorem LowerPattern.exists_common (ha : LowerPattern a) (hb : LowerPattern b)
    (h : hostnameIntersects a b = true) :
    ∃ host, PlainHost host ∧ Denotes a host ∧ Denotes b host := by
  obtain ⟨name, hname, hname'⟩ := hostnameIntersects_iff.1 h
  cases hstar : startsWith a "*." with
  | false =>
    have heq := (denotes_of_exact hstar).1 hname
    exact ⟨name, heq ▸ ha.plainHost hstar, hname, hname'⟩
  | true =>
    cases hstar' : startsWith b "*." with
    | false =>
      have heq := (denotes_of_exact hstar').1 hname'
      exact ⟨name, heq ▸ hb.plainHost hstar', hname, hname'⟩
    | true =>
      -- two wildcards with a common name are one wildcard
      obtain ⟨s, rfl⟩ := startsWith_iff.1 hstar
      obtain ⟨t, rfl⟩ := startsWith_iff.1 hstar'
      obtain rfl := wildcard_unique hname hname'
      obtain ⟨host, hplain, hdenotes⟩ := ha.exists_plainHost
      exact ⟨host, hplain, hdenotes, hdenotes⟩

theorem LowerPattern.intersects_iff (ha : LowerPattern a) (hb : LowerPattern b) :
    (hostnameIntersects a b = true ↔
      ∃ host, hostAccepts cm a host = true ∧ hostAccepts cm b host = true) ∧
    (hostnameIntersects a b = true ↔
      ∃ host, PlainHost host ∧ hostAccepts cm a host = true ∧ hostAccepts cm b host = true) := by
  have hback : ∀ host, hostAccepts cm a host = true → hostAccepts cm b host = true →
      hostnameIntersects a b = true := by
    intro host hhost hhost'
    exact hostnameIntersects_iff.2 ⟨_, ha.accepts_iff.1 hhost, hb.accepts_iff.1 hhost'⟩
  have hforth : hostnameIntersects a b = true →
      ∃ host, PlainHost host ∧ hostAccepts cm a host = true ∧ hostAccepts cm b host = true := by
    intro h
    obtain ⟨host, hplain, hhost, hhost'⟩ := ha.exists_common hb h
    rw [← @PlainHost.hostName_eq cm host hplain] at hhost hhost'
    exact ⟨host, hplain, ha.accepts_iff.2 hhost, hb.accepts_iff.2 hhost'⟩
  constructor
  · constructor
    · intro h
      obtain ⟨host, -, hboth⟩ := hforth h
      exact ⟨host, hboth⟩
    · intro h
      obtain ⟨host, hhost, hhost'⟩ := h
      exact hback host hhost hhost'
  · constructor
    · exact hforth
    · intro h
      obtain ⟨host, -, hhost, hhost'⟩ := h
      exact hback host hhost hhost'

theorem LowerPattern.exists_accepts (ha : LowerPattern a) :
    ∃ host, hostAccepts cm a host = true := by
  obtain ⟨host, hplain, hhost⟩ := ha.exists_plainHost
  rw [← @PlainHost.hostName_eq cm host hplain] at hhost
  exact ⟨host, ha.accepts_iff.2 hhost⟩

variable {listenerHostname : Option String} {routeHostnames : List String}

theorem exists_meet_of_any (hlistener : ∀ l ∈ listenerHostname, LowerPattern l)
    (hroute : ∀ r ∈ routeHostnames, LowerPattern r)
    (hany : (∀ l ∈ listenerHostname, l = "") ∨ routeHostnames = []) :
    ∃ host, HostnamesMeet cm listenerHostname routeHostnames host := by
  rcases hany with hempty | hempty
  · cases routeHostnames with
    | nil => exact ⟨"", fun l hl => Or.inl (hempty l hl), Or.inl rfl⟩
    | cons r rs =>
      obtain ⟨host, hhost⟩ := @LowerPattern.exists_accepts cm r (hroute r mem_cons_self)
      exact ⟨host, fun l hl => Or.inl (hempty l hl), Or.inr ⟨r, mem_cons_self, hhost⟩⟩
  · cases listenerHostname with
    | none =>
      refine ⟨"", ?_, Or.inl hempty⟩
      intro l hl
      cases hl
    | some l =>
      obtain ⟨host, hhost⟩ := @LowerPattern.exists_accepts cm l (hlistener l rfl)
      refine ⟨host, ?_, Or.inl hempty⟩
      intro l' hl'
      cases hl'
      exact Or.inr hhost

theorem hostnamesCompatible_iff (hlistener : ∀ l ∈ listenerHostname, LowerPattern l)
    (hroute : ∀ r ∈ routeHostnames, LowerPattern r) :
    hostnamesCompatible listenerHostname routeHostnames = true ↔
      ∃ host, HostnamesMeet cm listenerHostname routeHostnames host := by
  cases listenerHostname with
  | none =>
    refine iff_of_true rfl (exists_meet_of_any hlistener hroute (Or.inl ?_))
    intro l hl
    cases hl
  | some l =>
    by_cases hl : l = ""
    · refine iff_of_true ?_ (exists_meet_of_any hlistener hroute (Or.inl ?_))
      · rw [hl]
        rfl
      · intro l' hl'
        cases hl'
        exact hl
    · by_cases hr : routeHostnames = []
      · refine iff_of_true ?_ (exists_meet_of_any hlistener hroute (Or.inr hr))
        rw [hr, hostnamesCompatible, isEmpty_nil, if_pos rfl, ite_self]
      · have hcompatible : hostnamesCompatible (some l) routeHostnames =
            routeHostnames.any (hostnameIntersects l) := by
          rw [hostnamesCompatible, if_neg (by rwa [beq_iff_eq]), if_neg (by rwa [List.isEmpty_iff])]
        have hmeet : ∀ host, HostnamesMeet cm (some l) routeHostnames host ↔
            hostAccepts cm l host = true ∧ ∃ r ∈ routeHostnames, hostAccepts cm r host = true := by
          simp [HostnamesMeet, hl, hr]
        rw [hcompatible, List.any_eq_true]
        simp only [hmeet]
        constructor
        · intro h
          obtain ⟨r, hmem, hintersects⟩ := h
          obtain ⟨host, hlhost, hrhost⟩ :=
            ((hlistener l rfl).intersects_iff (hroute r hmem)).1.1 hintersects
          exact ⟨host, hlhost, r, hmem, hrhost⟩
        · intro h
          obtain ⟨host, hlhost, r, hmem, hrhost⟩ := h
          exact ⟨r, hmem,
            ((hlistener l rfl).intersects_iff (hroute r hmem)).1.2 ⟨host, hlhost, hrhost⟩⟩

end Hosts

/-- **Patterns intersect exactly when some host matches both.** -/
theorem hostnameIntersects_spec (cm : CaseMapping) :
    (∀ a b, LowerPattern a → LowerPattern b →
      (hostnameIntersects a b = true ↔
        ∃ host, hostAccepts cm a host = true ∧ hostAccepts cm b host = true) ∧
      (hostnameIntersects a b = true ↔ ∃ host, PlainHost host ∧
        hostAccepts cm a host = true ∧ hostAccepts cm b host = true) ∧
      hostnameIntersects a b = hostnameIntersects b a) ∧
    (∀ listenerHostname routeHostnames, (∀ l ∈ listenerHostname, LowerPattern l) →
      (∀ r ∈ routeHostnames, LowerPattern r) →
      (hostnamesCompatible listenerHostname routeHostnames = true ↔
        ∃ host, HostnamesMeet cm listenerHostname routeHostnames host)) := by
  constructor
  · intro a b ha hb
    exact ⟨(ha.intersects_iff hb).1, (ha.intersects_iff hb).2, hostnameIntersects_comm a b⟩
  · intro listenerHostname routeHostnames hlistener hroute
    exact hostnamesCompatible_iff hlistener hroute

theorem exampleWildcard_meets :
    ∃ host, PlainHost host ∧ hostAccepts .ascii "*.example.com" host = true ∧
      hostAccepts .ascii "api.example.com" host = true := by
  have hwild : LowerPattern "*.example.com" :=
    ⟨⟨by decide, by decide, Or.inr ⟨"example.com", by decide, by decide⟩⟩, by decide⟩
  have hname : LowerPattern "api.example.com" :=
    ⟨⟨by decide, by decide, Or.inl (by decide)⟩, by decide⟩
  obtain ⟨-, hplain, -⟩ := (hostnameIntersects_spec .ascii).1 _ _ hwild hname
  exact hplain.1 (by decide)

end Wicket
