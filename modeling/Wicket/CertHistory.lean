/-
**What a name resolves to after a history of insertions.**

The last insertion with the name among its domains decides, else the last one with the wildcard
above the name.
-/

import Wicket.CertStore

namespace Wicket

open List Text

section Domains

variable (cm : CaseMapping)

/-- The domain is the name, up to case, and not a wildcard. -/
def isExactDomain (sni domain : String) : Bool :=
  cm.toLowercase domain == cm.toLowercase sni && !startsWith (cm.toLowercase domain) "*."

def isWildcardDomain (sni domain : String) : Bool :=
  (afterFirst (cm.toLowercase sni) '.').any fun parent =>
    cm.toLowercase domain == "*." ++ parent

variable {cm} {κ : Type}

theorem slotOf_eq_exact {domain name : String} :
    slotOf cm domain = .exact name ↔
      cm.toLowercase domain = name ∧ startsWith (cm.toLowercase domain) "*." = false := by
  rw [slotOf, ← stripPrefix_eq_none]
  cases stripPrefix (cm.toLowercase domain) "*." with
  | none => simp
  | some base => simp

theorem slotOf_eq_wildcard {domain base : String} :
    slotOf cm domain = .wildcard base ↔ cm.toLowercase domain = "*." ++ base := by
  rw [slotOf, ← stripPrefix_eq_some]
  cases stripPrefix (cm.toLowercase domain) "*." with
  | none => simp
  | some base' => simp

def lastInsert (entries : List (List String × κ)) (p : String → Bool) : Option κ :=
  (entries.reverse.find? fun e => e.1.any p).map Prod.snd

theorem lastInsert_append_singleton (entries : List (List String × κ)) (e : List String × κ)
    (p : String → Bool) :
    lastInsert (entries ++ [e]) p =
      if e.1.any p = true then some e.2 else lastInsert entries p := by
  rw [lastInsert, reverse_append, reverse_singleton, singleton_append, find?_cons]
  cases e.1.any p with
  | true => rfl
  | false => rfl

theorem lastInsert_erase {before after : List (List String × κ)} {e : List String × κ}
    {p : String → Bool} (h : ∀ domain ∈ e.1, p domain = false) :
    lastInsert (before ++ e :: after) p = lastInsert (before ++ after) p := by
  have hany : e.1.any p = false := any_eq_false.2 fun domain hmem => by simp [h domain hmem]
  simp [lastInsert, hany]

end Domains

namespace CertStore

variable {κ : Type} {cm : CaseMapping}

theorem slot_insert (store : CertStore κ) (domains : List String) (cert : κ) (s : CertSlot) :
    (store.insert cm domains cert).slot s =
      if domains.any (fun domain => slotOf cm domain = s) = true then some cert
      else store.slot s := by
  rw [insert]
  induction domains using reverseRecOn with
  | nil => rfl
  | append_singleton domains domain ih =>
    rw [foldl_append, foldl_cons, foldl_nil, slot_insertDomain, ih, any_append]
    by_cases hs : slotOf cm domain = s
    · simp [hs]
    · simp [hs]

variable (entries : List (List String × κ))

theorem slot_eq_lastInsert (s : CertSlot) :
    (ofEntries cm entries).slot s = lastInsert entries fun domain => slotOf cm domain = s := by
  induction entries using reverseRecOn with
  | nil => cases s <;> rfl
  | append_singleton entries e ih =>
    rw [lastInsert_append_singleton, ← ih, ← slot_insert, ofEntries, foldl_append]
    rfl

theorem resolve_eq_lastInsert (sni : String) :
    (ofEntries cm entries).resolve cm sni =
      (lastInsert entries (isExactDomain cm sni)).or
        (lastInsert entries (isWildcardDomain cm sni)) := by
  have hexact : isExactDomain cm sni =
      fun domain => decide (slotOf cm domain = .exact (cm.toLowercase sni)) := by
    funext domain
    rw [Bool.eq_iff_iff, isExactDomain, decide_eq_true_eq, slotOf_eq_exact]
    simp
  rw [resolve_eq, default_ofEntries, Option.or_none, slotsFor, findSome?_cons, hexact,
    ← slot_eq_lastInsert]
  cases hafter : afterFirst (cm.toLowercase sni) '.' with
  | none =>
    -- a name without a dot is under no wildcard
    have hwild : isWildcardDomain cm sni = fun _ => false := by
      funext domain
      rw [isWildcardDomain, hafter]
      rfl
    have hnone : lastInsert entries (fun _ => false) = none := by
      rw [lastInsert, Option.map_eq_none_iff, find?_eq_none]
      simp
    rw [hwild, hnone, Option.or_none]
    cases (ofEntries cm entries).slot (.exact (cm.toLowercase sni)) with
    | none => rfl
    | some cert => rfl
  | some parent =>
    have hwild : isWildcardDomain cm sni =
        fun domain => decide (slotOf cm domain = .wildcard parent) := by
      funext domain
      rw [Bool.eq_iff_iff, isWildcardDomain, hafter, decide_eq_true_eq, slotOf_eq_wildcard]
      exact beq_iff_eq
    rw [hwild, ← slot_eq_lastInsert]
    cases (ofEntries cm entries).slot (.exact (cm.toLowercase sni)) with
    | none => simp
    | some cert => rfl

/-- **The last insertion of the name decides, else the last one of its wildcard**; an insertion for
other domains can be left out of the history. -/
theorem resolve_history (sni : String) :
    (ofEntries cm entries).resolve cm sni =
      (lastInsert entries (isExactDomain cm sni)).or
        (lastInsert entries (isWildcardDomain cm sni)) ∧
    ∀ before e after, entries = before ++ e :: after →
      (∀ domain ∈ e.1, isExactDomain cm sni domain = false ∧
        isWildcardDomain cm sni domain = false) →
      (ofEntries cm entries).resolve cm sni = (ofEntries cm (before ++ after)).resolve cm sni := by
  refine ⟨resolve_eq_lastInsert entries sni, ?_⟩
  intro before e after hentries hother
  rw [hentries, resolve_eq_lastInsert, resolve_eq_lastInsert,
    lastInsert_erase fun domain hmem => (hother domain hmem).1,
    lastInsert_erase fun domain hmem => (hother domain hmem).2]

def renewals : List (List String × ℕ) :=
  [(["*.Example.com", "example.com"], 1), (["api.example.com"], 2), (["*.example.com"], 3),
    (["example.org"], 4)]

theorem renewals_resolve :
    (ofEntries .ascii renewals).resolve .ascii "www.example.com" = some 3 ∧
      (ofEntries .ascii renewals).resolve .ascii "API.example.com" = some 2 ∧
      (ofEntries .ascii renewals).resolve .ascii "www.example.com" =
        (ofEntries .ascii (renewals.take 3)).resolve .ascii "www.example.com" := by
  refine ⟨?_, ?_, ?_⟩
  · rw [(resolve_history renewals "www.example.com").1]
    decide
  · rw [(resolve_history renewals "API.example.com").1]
    decide
  · have hother := (@resolve_history _ .ascii renewals "www.example.com").2 (renewals.take 3)
      (["example.org"], 4) [] rfl (by decide)
    exact hother

end CertStore

end Wicket
