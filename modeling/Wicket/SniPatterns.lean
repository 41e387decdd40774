/-
**Which pattern a server name takes.**

Exact names are sorted before wildcards, and the first pattern that accepts decides.  At most one
exact pattern and one wildcard do, when no two differ in letter case only.
-/

import Wicket.Stream

namespace Wicket

open List Text CompiledPattern SniRouter
open KeyMap

/-! ### Patterns and names -/

/-- The pattern is the server name, up to letter case, and not a wildcard. -/
def IsExactFor (pattern hostname : String) : Prop :=
  toAsciiLowercase pattern = toAsciiLowercase hostname ∧
    startsWith (toAsciiLowercase pattern) "*." = false

def IsWildcardFor (pattern hostname : String) : Prop :=
  ∃ label suffix, toAsciiLowercase pattern = "*." ++ suffix ∧
    toAsciiLowercase hostname = label ++ "." ++ suffix ∧ label ≠ "" ∧ '.' ∉ label.toList

/-- No two patterns differ in letter case only. -/
def DistinctPatterns (sniRoutes : HashMap String String) : Prop :=
  (sniRoutes.keys.map toAsciiLowercase).Nodup

instance (sniRoutes : HashMap String String) : Decidable (DistinctPatterns sniRoutes) :=
  inferInstanceAs (Decidable (List.Nodup _))

variable {p q hostname pattern suffix : String}

theorem IsWildcardFor.unique (hp : IsWildcardFor p hostname) (hq : IsWildcardFor q hostname) :
    toAsciiLowercase p = toAsciiLowercase q := by
  obtain ⟨label, suffix, hp, hname, -, hdots⟩ := hp
  obtain ⟨label', suffix', hq, hname', -, hdots'⟩ := hq
  have hlists := congrArg String.toList (hname.symm.trans hname')
  simp only [String.toList_append, append_assoc] at hlists
  have hsuffix := (append_cons_inj_left hdots hdots' hlists).2
  rw [hp, hq, String.toList_inj.1 hsuffix]

theorem DistinctPatterns.eq {sniRoutes : HashMap String String} (h : DistinctPatterns sniRoutes)
    {up up' : String} (hp : sniRoutes.lookup p = some up) (hq : sniRoutes.lookup q = some up')
    (heq : toAsciiLowercase p = toAsciiLowercase q) : p = q :=
  inj_on_of_nodup_map h (AList.lookup_isSome.1 (Option.isSome_of_mem hp))
    (AList.lookup_isSome.1 (Option.isSome_of_mem hq)) heq

/-! ### Compiled patterns -/

theorem CompiledPattern.parse_of_exact
    (h : startsWith (toAsciiLowercase pattern) "*." = false) :
    parse pattern = .Exact (toAsciiLowercase pattern) := by
  rw [parse, stripPrefix_eq_none.2 h]

theorem CompiledPattern.parse_of_wildcard (h : toAsciiLowercase pattern = "*." ++ suffix) :
    parse pattern = .Wildcard ("." ++ suffix) := by
  rw [parse, stripPrefix_eq_some.2 h]

theorem CompiledPattern.matches_wildcard :
    (CompiledPattern.Wildcard suffix).matches_ hostname = true ↔
      ∃ label, hostname = label ++ suffix ∧ label ≠ "" ∧ '.' ∉ label.toList := by
  rw [matches_]
  cases hstrip : stripSuffix hostname suffix with
  | none =>
    refine iff_of_false (by simp) ?_
    intro h
    obtain ⟨label, hname, -⟩ := h
    rw [stripSuffix_eq_some.2 hname] at hstrip
    cases hstrip
  | some label =>
    have hname := stripSuffix_eq_some.1 hstrip
    simp only [Bool.and_eq_true, bne_iff_ne, Bool.not_eq_true', hasChar,
      contains_eq_mem, decide_eq_false_iff_not]
    constructor
    · intro h
      exact ⟨label, hname, h⟩
    · intro h
      obtain ⟨label', hname', h⟩ := h
      rw [hname'] at hname
      rwa [← (String.append_left_inj suffix).1 hname]

theorem CompiledPattern.matches_parse :
    (parse pattern).matches_ (toAsciiLowercase hostname) = true ↔
      IsExactFor pattern hostname ∨ IsWildcardFor pattern hostname := by
  cases hstar : startsWith (toAsciiLowercase pattern) "*." with
  | false =>
    have hno : ¬IsWildcardFor pattern hostname := by
      intro h
      obtain ⟨-, suffix, hpattern, -⟩ := h
      rw [startsWith_iff.2 ⟨suffix, hpattern⟩] at hstar
      cases hstar
    rw [parse_of_exact hstar, matches_, beq_iff_eq, or_iff_left hno, IsExactFor,
      hstar, and_iff_left rfl, eq_comm]
  | true =>
    obtain ⟨suffix, hpattern⟩ := startsWith_iff.1 hstar
    have hno : ¬IsExactFor pattern hostname := by
      intro h
      rw [h.2] at hstar
      cases hstar
    rw [parse_of_wildcard hpattern, matches_wildcard, or_iff_right hno]
    constructor
    · intro h
      obtain ⟨label, hname, hlabel⟩ := h
      exact ⟨label, suffix, hpattern, by rw [hname, String.append_assoc], hlabel⟩
    · intro h
      obtain ⟨label, suffix', hpattern', hname, hlabel⟩ := h
      obtain rfl := (String.append_right_inj "*.").1 (hpattern.symm.trans hpattern')
      exact ⟨label, by rw [hname, String.append_assoc], hlabel⟩

theorem CompiledPattern.le_trans {a b c : CompiledPattern} (hab : a.le b = true)
    (hbc : b.le c = true) : a.le c = true := by
  cases a with
  | Exact => rfl
  | Wildcard s =>
    cases b with
    | Exact => cases hab
    | Wildcard t =>
      cases c with
      | Exact => cases hbc
      | Wildcard u =>
        simp only [le, decide_eq_true_eq] at hab hbc ⊢
        omega

theorem CompiledPattern.le_total (a b : CompiledPattern) : a.le b = true ∨ b.le a = true := by
  cases a with
  | Exact => exact Or.inl rfl
  | Wildcard s =>
    cases b with
    | Exact => exact Or.inr rfl
    | Wildcard t =>
      simp only [le, decide_eq_true_eq]
      omega

/-! ### The router -/

section Router

variable {sniRoutes : HashMap String String} {defaultUpstream : Option String}
  {hostname upstream : String} {r : CompiledPattern × String} {p : String}

theorem SniRouter.mem_routes :
    r ∈ (new sniRoutes defaultUpstream).routes ↔
      ∃ p, sniRoutes.lookup p = some r.2 ∧ r.1 = parse p := by
  rw [new, mem_insertionSort, mem_map]
  constructor
  · intro h
    obtain ⟨⟨p, up⟩, hmem, rfl⟩ := h
    exact ⟨p, mem_entries.1 hmem, rfl⟩
  · intro h
    obtain ⟨p, hlookup, hparse⟩ := h
    exact ⟨(p, r.2), mem_entries.2 hlookup, by rw [← hparse]⟩

theorem SniRouter.parse_mem_routes (defaultUpstream : Option String)
    (hp : sniRoutes.lookup p = some upstream) :
    (parse p, upstream) ∈ (new sniRoutes defaultUpstream).routes := by
  rw [mem_routes]
  exact ⟨p, hp, rfl⟩

theorem SniRouter.pairwise_routes (sniRoutes : HashMap String String)
    (defaultUpstream : Option String) :
    (new sniRoutes defaultUpstream).routes.Pairwise fun a b => a.1.le b.1 = true := by
  have htotal : Std.Total fun a b : CompiledPattern × String => a.1.le b.1 = true :=
    ⟨fun a b => a.1.le_total b.1⟩
  have htrans : IsTrans (CompiledPattern × String) fun a b => a.1.le b.1 = true :=
    ⟨fun _ _ _ => le_trans⟩
  exact pairwise_insertionSort _ _

def SniRouter.findRoute (router : SniRouter) (hostname : String) :
    Option (CompiledPattern × String) :=
  router.routes.find? fun r => r.1.matches_ (toAsciiLowercase hostname)

theorem SniRouter.matchSni_some (router : SniRouter) :
    router.matchSni (some hostname) =
      ((router.findRoute hostname).map Prod.snd).or router.defaultUpstream := rfl

theorem SniRouter.le_of_find {pattern : CompiledPattern}
    (h : (new sniRoutes defaultUpstream).findRoute hostname = some r)
    (hmem : (pattern, upstream) ∈ (new sniRoutes defaultUpstream).routes)
    (hmatch : pattern.matches_ (toAsciiLowercase hostname) = true) :
    r = (pattern, upstream) ∨ r.1.le pattern = true := by
  have hsorted := pairwise_routes sniRoutes defaultUpstream
  obtain ⟨-, before, after, hroutes, hbefore⟩ := find?_eq_some_iff_append.1 h
  rw [hroutes] at hmem hsorted
  rcases mem_append.1 hmem with hfront | hback
  · have hno := hbefore _ hfront
    rw [hmatch] at hno
    cases hno
  · rcases mem_cons.1 hback with rfl | hafter
    · exact Or.inl rfl
    · exact Or.inr (rel_of_pairwise_cons (pairwise_append.1 hsorted).2.1 hafter)

theorem SniRouter.exists_of_find (h : (new sniRoutes defaultUpstream).findRoute hostname = some r) :
    ∃ p, sniRoutes.lookup p = some r.2 ∧
      (IsExactFor p hostname ∨ IsWildcardFor p hostname ∧
        ∀ q, (sniRoutes.lookup q).isSome = true → ¬IsExactFor q hostname) := by
  obtain ⟨p, hlookup, hparse⟩ := mem_routes.1 (mem_of_find?_eq_some h)
  obtain ⟨hmatch, -⟩ := find?_eq_some_iff_append.1 h
  refine ⟨p, hlookup, ?_⟩
  rw [hparse] at hmatch
  rcases matches_parse.1 hmatch with hexact | hwild
  · exact Or.inl hexact
  · refine Or.inr ⟨hwild, ?_⟩
    intro q hq hexact
    -- an exact route would stand before the wildcard
    obtain ⟨up, hup⟩ := Option.isSome_iff_exists.1 hq
    obtain ⟨label, suffix, hpattern, -⟩ := hwild
    have hmem := parse_mem_routes defaultUpstream hup
    have hfirst := le_of_find h hmem (matches_parse.2 (Or.inl hexact))
    rw [parse_of_wildcard hpattern] at hparse
    rw [parse_of_exact hexact.2] at hfirst
    rcases hfirst with hsame | hle
    · rw [hsame] at hparse
      exact CompiledPattern.noConfusion hparse
    · rw [hparse] at hle
      exact Bool.false_ne_true hle

theorem SniRouter.exists_find (hp : sniRoutes.lookup p = some upstream)
    (h : IsExactFor p hostname ∨ IsWildcardFor p hostname) :
    ∃ r, (new sniRoutes defaultUpstream).findRoute hostname = some r := by
  have hmatch := matches_parse.2 h
  rw [← Option.isSome_iff_exists, findRoute, find?_isSome]
  refine ⟨_, parse_mem_routes defaultUpstream hp, ?_⟩
  exact hmatch

theorem SniRouter.matchSni_of_agree (defaultUpstream : Option String)
    (hp : sniRoutes.lookup p = some upstream)
    (h : IsExactFor p hostname ∨ IsWildcardFor p hostname)
    (hagree : ∀ q up, sniRoutes.lookup q = some up →
      (IsExactFor q hostname ∨ IsWildcardFor q hostname ∧
        ∀ q, (sniRoutes.lookup q).isSome = true → ¬IsExactFor q hostname) → up = upstream) :
    (new sniRoutes defaultUpstream).matchSni (some hostname) = some upstream := by
  obtain ⟨r, hr⟩ := exists_find hp h
  obtain ⟨q, hq, hways⟩ := exists_of_find hr
  rw [matchSni_some, hr, Option.map_some, Option.some_or, hagree q r.2 hq hways]

theorem SniRouter.find_eq_none
    (h : ∀ p, (sniRoutes.lookup p).isSome = true →
      ¬IsExactFor p hostname ∧ ¬IsWildcardFor p hostname) :
    (new sniRoutes defaultUpstream).findRoute hostname = none := by
  rw [findRoute, find?_eq_none]
  intro r hr hmatch
  obtain ⟨p, hlookup, hparse⟩ := mem_routes.1 hr
  obtain ⟨hexact, hwild⟩ := h p (Option.isSome_of_mem hlookup)
  rw [hparse, matches_parse] at hmatch
  exact hmatch.elim hexact hwild

/-- **Exact pattern, else wildcard, else the default**, in whatever order the map is iterated. -/
theorem SniRouter.matchSni_spec (hdistinct : DistinctPatterns sniRoutes)
    (defaultUpstream : Option String) :
    (∀ hostname p upstream, sniRoutes.lookup p = some upstream → IsExactFor p hostname →
      (SniRouter.new sniRoutes defaultUpstream).matchSni (some hostname) = some upstream) ∧
    (∀ hostname p upstream, sniRoutes.lookup p = some upstream → IsWildcardFor p hostname →
      (∀ q, (sniRoutes.lookup q).isSome = true → ¬IsExactFor q hostname) →
      (SniRouter.new sniRoutes defaultUpstream).matchSni (some hostname) = some upstream ∧
        ∀ q, (sniRoutes.lookup q).isSome = true → IsWildcardFor q hostname → q = p) ∧
    (∀ hostname, (∀ q, (sniRoutes.lookup q).isSome = true →
        ¬IsExactFor q hostname ∧ ¬IsWildcardFor q hostname) →
      (SniRouter.new sniRoutes defaultUpstream).matchSni (some hostname) = defaultUpstream) ∧
    (SniRouter.new sniRoutes defaultUpstream).matchSni none = defaultUpstream := by
  refine ⟨?_, ?_, ?_, rfl⟩
  · intro hostname p upstream hp hexact
    refine SniRouter.matchSni_of_agree defaultUpstream hp (Or.inl hexact) ?_
    intro q up hq hways
    rcases hways with hexact' | hwild
    · obtain rfl := hdistinct.eq hq hp (hexact'.1.trans hexact.1.symm)
      exact Option.some.inj (hq.symm.trans hp)
    · exact absurd hexact (hwild.2 p (Option.isSome_of_mem hp))
  · intro hostname p upstream hp hwild hnone
    have hunique : ∀ q up, sniRoutes.lookup q = some up → IsWildcardFor q hostname → q = p :=
      fun q up hq hwild' => hdistinct.eq hq hp (hwild'.unique hwild)
    refine ⟨SniRouter.matchSni_of_agree defaultUpstream hp (Or.inr hwild) ?_, ?_⟩
    · intro q up hq hways
      rcases hways with hexact | hwild'
      · exact absurd hexact (hnone q (Option.isSome_of_mem hq))
      · obtain rfl := hunique q up hq hwild'.1
        exact Option.some.inj (hq.symm.trans hp)
    · intro q hq hwild'
      obtain ⟨up, hup⟩ := Option.isSome_iff_exists.1 hq
      exact hunique q up hup hwild'
  · intro hostname hnone
    rw [SniRouter.matchSni_some, SniRouter.find_eq_none hnone, Option.map_none, Option.none_or]
    rfl

end Router

def apiPatterns : HashMap String String :=
  collect [("*.Example.com", "web"), ("API.example.com", "api")]

theorem apiPatterns_matchSni :
    (SniRouter.new apiPatterns (some "rest")).matchSni (some "api.example.COM") = some "api" ∧
    (SniRouter.new apiPatterns (some "rest")).matchSni (some "www.example.com") = some "web" := by
  obtain ⟨hexact, hwild, -⟩ := SniRouter.matchSni_spec
    (show DistinctPatterns apiPatterns by decide) (some "rest")
  refine ⟨hexact _ "API.example.com" _ (by decide) ⟨by decide, by decide⟩, ?_⟩
  refine (hwild _ "*.Example.com" _ (by decide)
    ⟨"www", "example.com", by decide, by decide, by decide, by decide⟩ ?_).1
  intro q hq hexact
  have hkeys : apiPatterns.keys = ["API.example.com", "*.Example.com"] := by decide
  rw [AList.lookup_isSome, AList.mem_keys, hkeys] at hq
  rcases List.mem_cons.1 hq with rfl | hq
  · exact absurd hexact.1 (by decide)
  · obtain rfl := List.mem_singleton.1 hq
    exact absurd hexact.1 (by decide)

end Wicket
