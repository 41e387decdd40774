/-
**The certificate store: exact names, wildcards, and a default.**

The two maps are described by *slots*: every domain has one, a name has those it is looked up in,
and a slot holds the last write to it.
-/

import Wicket.KeyMap
import Wicket.Text

namespace Wicket

open List KeyMap
open Text

/-! ### The store -/

/-- How the certificate for a handshake was found. -/
inductive CertResolutionOutcome
  | Exact
  | Wildcard
  | Default
  | Miss
  | NoSni
  deriving DecidableEq

/-- Certificates under lowercase names, and under what follows `*.` in a wildcard. -/
structure CertStore (κ : Type) where
  exact : HashMap String κ := ∅
  wildcard : HashMap String κ := ∅
  default : Option κ := none

namespace CertStore

variable {κ : Type} (cm : CaseMapping)

/-- An entry for one domain; a later one for the same slot replaces it. -/
def insertDomain (cert : κ) (store : CertStore κ) (domain : String) : CertStore κ :=
  match stripPrefix (cm.toLowercase domain) "*." with
  | some base => { store with wildcard := store.wildcard.insert base cert }
  | none => { store with exact := store.exact.insert (cm.toLowercase domain) cert }

def insert (store : CertStore κ) (domains : List String) (cert : κ) : CertStore κ :=
  domains.foldl (insertDomain cm cert) store

/-- The exact name first, then the wildcard one label up, then the default. -/
def resolveWithOutcome (store : CertStore κ) (sni : String) : Option κ × CertResolutionOutcome :=
  match store.exact.lookup (cm.toLowercase sni) with
  | some cert => (some cert, .Exact)
  | none =>
    match (afterFirst (cm.toLowercase sni) '.').bind store.wildcard.lookup with
    | some cert => (some cert, .Wildcard)
    | none =>
      match store.default with
      | some cert => (some cert, .Default)
      | none => (none, .Miss)

def resolve (store : CertStore κ) (sni : String) : Option κ := (store.resolveWithOutcome cm sni).1

def isEmpty (store : CertStore κ) : Bool :=
  (entries store.exact).isEmpty && (entries store.wildcard).isEmpty && store.default.isNone

end CertStore

/-- The store that is served; it is replaced as a whole. -/
structure CertManager (κ : Type) where
  store : CertStore κ := {}

namespace CertManager

variable {κ : Type} (cm : CaseMapping)

def reload (_manager : CertManager κ) (store : CertStore κ) : CertManager κ := ⟨store⟩

def resolve (manager : CertManager κ) (sni : String) : Option κ := manager.store.resolve cm sni

end CertManager

/-! ### Slots -/

/-- A key of one of the two maps. -/
inductive CertSlot
  | exact (name : String)
  | wildcard (base : String)
  deriving DecidableEq

section Slots

variable (cm : CaseMapping)

/-- The slot that a domain is inserted into. -/
def slotOf (domain : String) : CertSlot :=
  match stripPrefix (cm.toLowercase domain) "*." with
  | some base => .wildcard base
  | none => .exact (cm.toLowercase domain)

/-- Where the certificate of a name is looked for, in this order. -/
def slotsFor (sni : String) : List CertSlot :=
  .exact (cm.toLowercase sni) ::
    ((afterFirst (cm.toLowercase sni) '.').map CertSlot.wildcard).toList

/-- A certificate for the domain is considered for the name. -/
def Covers (domain sni : String) : Prop := slotOf cm domain ∈ slotsFor cm sni

instance (domain sni : String) : Decidable (Covers cm domain sni) :=
  inferInstanceAs (Decidable (_ ∈ _))

variable {cm}

variable {domain base sni : String}

theorem toLowercase_eq_of_slotOf {domain' : String} (h : slotOf cm domain = slotOf cm domain') :
    cm.toLowercase domain = cm.toLowercase domain' := by
  unfold slotOf at h
  cases hd : stripPrefix (cm.toLowercase domain) "*." with
  | some base =>
    cases hd' : stripPrefix (cm.toLowercase domain') "*." with
    | some base' =>
      simp only [hd, hd', CertSlot.wildcard.injEq] at h
      rw [stripPrefix_eq_some.1 hd, stripPrefix_eq_some.1 hd', h]
    | none => simp [hd, hd'] at h
  | none =>
    cases hd' : stripPrefix (cm.toLowercase domain') "*." with
    | some base' => simp [hd, hd'] at h
    | none => simpa [hd, hd'] using h

theorem slotOf_ne_exact {name : String} (h : name = "*." ++ base) :
    slotOf cm domain ≠ .exact name := by
  unfold slotOf
  cases hstrip : stripPrefix (cm.toLowercase domain) "*." with
  | some b => simp
  | none =>
    simp only [ne_eq, CertSlot.exact.injEq]
    intro hname
    rw [hname, h, stripPrefix_eq_some.2 rfl] at hstrip
    cases hstrip

theorem covers_iff :
    Covers cm domain sni ↔
      (startsWith (cm.toLowercase domain) "*." = false ∧
        cm.toLowercase domain = cm.toLowercase sni) ∨
      ∃ base label, cm.toLowercase domain = "*." ++ base ∧ '.' ∉ label.toList ∧
        cm.toLowercase sni = label ++ "." ++ base := by
  unfold Covers slotOf slotsFor
  cases hstrip : stripPrefix (cm.toLowercase domain) "*." with
  | none =>
    have hno := stripPrefix_eq_none.1 hstrip
    simp only [mem_cons, CertSlot.exact.injEq, Option.mem_toList, Option.map_eq_some_iff,
      reduceCtorEq, and_false, exists_false, or_false, hno, true_and]
    constructor
    · exact Or.inl
    · rintro (h | ⟨base, label, h, -⟩)
      · exact h
      · rw [stripPrefix_eq_some.2 h] at hstrip
        cases hstrip
  | some base =>
    have hlower := stripPrefix_eq_some.1 hstrip
    have hyes : startsWith (cm.toLowercase domain) "*." = true :=
      startsWith_iff.2 ⟨base, hlower⟩
    simp only [mem_cons, Option.mem_toList, Option.map_eq_some_iff, reduceCtorEq,
      CertSlot.wildcard.injEq, exists_eq_right, false_or, hyes, Bool.true_eq_false, false_and,
      afterFirst_eq_some]
    constructor
    · rintro ⟨label, hlabel, hsni⟩
      exact ⟨base, label, hlower, hlabel, hsni⟩
    · rintro ⟨base', label, hbase, hlabel, hsni⟩
      rw [stripPrefix_eq_some.2 hbase, Option.some_inj] at hstrip
      exact ⟨label, hlabel, hstrip ▸ hsni⟩

theorem slotsFor_wildcard (h : cm.toLowercase sni = "*." ++ base) :
    slotsFor cm sni = [.exact ("*." ++ base), .wildcard base] := by
  have hafter : afterFirst ("*." ++ base) '.' = some base :=
    @afterFirst_append "*" '.' (by decide) base
  simp [slotsFor, h, hafter]

theorem covers_self (domain : String) : Covers cm domain domain := by
  unfold Covers slotOf
  cases hstrip : stripPrefix (cm.toLowercase domain) "*." with
  | some base =>
    rw [slotsFor_wildcard (stripPrefix_eq_some.1 hstrip)]
    simp
  | none => simp [slotsFor]

end Slots

namespace CertStore

variable {κ : Type} {cm : CaseMapping}

def slot (store : CertStore κ) : CertSlot → Option κ
  | .exact name => store.exact.lookup name
  | .wildcard base => store.wildcard.lookup base

theorem resolve_eq (store : CertStore κ) (sni : String) :
    store.resolve cm sni = ((slotsFor cm sni).findSome? store.slot).or store.default := by
  unfold resolve resolveWithOutcome slotsFor
  cases hexact : store.exact.lookup (cm.toLowercase sni) with
  | some cert => simp [slot, hexact]
  | none =>
    cases hafter : afterFirst (cm.toLowercase sni) '.' with
    | none => cases hdefault : store.default <;> simp [slot, hexact]
    | some parent =>
      cases hwild : store.wildcard.lookup parent with
      | some cert => simp [slot, hexact, hwild]
      | none => cases hdefault : store.default <;> simp [slot, hexact, hwild]

variable {sni : String} {entries : List (List String × κ)} {s : CertSlot} {key : κ}

theorem resolve_congr {sni' : String} (h : cm.toLowercase sni = cm.toLowercase sni')
    (store : CertStore κ) : store.resolve cm sni = store.resolve cm sni' := by
  rw [resolve, resolveWithOutcome, h, ← resolveWithOutcome, ← resolve]

theorem slot_insertDomain (cert : κ) (store : CertStore κ) (domain : String) (s : CertSlot) :
    (insertDomain cm cert store domain).slot s =
      if slotOf cm domain = s then some cert else store.slot s := by
  unfold insertDomain slotOf
  cases stripPrefix (cm.toLowercase domain) "*." with
  | some base =>
    cases s with
    | exact name => simp [slot]
    | wildcard b =>
      by_cases hb : base = b
      · simp [slot, hb]
      · simp [slot, hb, AList.lookup_insert_ne (Ne.symm hb)]
  | none =>
    cases s with
    | wildcard b => simp [slot]
    | exact name =>
      by_cases hname : cm.toLowercase domain = name
      · simp [slot, hname]
      · simp [slot, hname, AList.lookup_insert_ne (Ne.symm hname)]

theorem default_insertDomain (cert : κ) (store : CertStore κ) (domain : String) :
    (insertDomain cm cert store domain).default = store.default := by
  unfold insertDomain
  split <;> rfl

/-! ### Stores filled by insertions -/

/-- The store after inserting the entries in order. -/
def ofEntries (cm : CaseMapping) (entries : List (List String × κ)) : CertStore κ :=
  entries.foldl (fun store e => store.insert cm e.1 e.2) {}

/-- The insertions of the entries, one by one. -/
def writes (cm : CaseMapping) (entries : List (List String × κ)) : List (CertSlot × κ) :=
  entries.flatMap fun e => e.1.map fun domain => (slotOf cm domain, e.2)

theorem mem_writes :
    (s, key) ∈ writes cm entries ↔
      ∃ e ∈ entries, e.2 = key ∧ ∃ domain ∈ e.1, slotOf cm domain = s := by
  simp only [writes, mem_flatMap, mem_map, Prod.mk.injEq]
  constructor
  · rintro ⟨e, he, domain, hdomain, hs, hkey⟩
    exact ⟨e, he, hkey, domain, hdomain, hs⟩
  · rintro ⟨e, he, hkey, domain, hdomain, hs⟩
    exact ⟨e, he, domain, hdomain, hs, hkey⟩

theorem foldl_insert_eq (entries : List (List String × κ)) (store : CertStore κ) :
    entries.foldl (fun store e => store.insert cm e.1 e.2) store =
      (entries.flatMap fun e => e.1.map fun domain => (domain, e.2)).foldl
        (fun store w => insertDomain cm w.2 store w.1) store := by
  induction entries generalizing store with
  | nil => rfl
  | cons e entries ih =>
    rw [foldl_cons, ih, flatMap_cons, foldl_append, foldl_map, insert]

theorem slot_ofEntries (entries : List (List String × κ)) (s : CertSlot) :
    (ofEntries cm entries).slot s = lastWrite (writes cm entries) s := by
  have hwrites : writes cm entries =
      (entries.flatMap fun e => e.1.map fun domain => (domain, e.2)).map fun w =>
        (slotOf cm w.1, w.2) := by
    simp [writes, map_flatMap, Function.comp_def]
  rw [ofEntries, foldl_insert_eq, hwrites]
  induction entries.flatMap fun e => e.1.map fun domain => (domain, e.2) using reverseRecOn with
  | nil => cases s <;> simp [slot, lastWrite]
  | append_singleton l w ih =>
    rw [foldl_append, foldl_cons, foldl_nil, slot_insertDomain, ih]
    by_cases hs : slotOf cm w.1 = s
    · simp [lastWrite, hs]
    · simp [lastWrite, hs]

theorem default_ofEntries (entries : List (List String × κ)) :
    (ofEntries cm entries).default = none := by
  rw [ofEntries, foldl_insert_eq]
  induction entries.flatMap fun e => e.1.map fun domain => (domain, e.2) using reverseRecOn with
  | nil => rfl
  | append_singleton l w ih =>
    rw [foldl_append, foldl_cons, foldl_nil, default_insertDomain, ih]

theorem slot_ofEntries_eq_none :
    (ofEntries cm entries).slot s = none ↔ ∀ e ∈ entries, ∀ domain ∈ e.1, slotOf cm domain ≠ s := by
  rw [slot_ofEntries, lastWrite_eq_none]
  constructor
  · intro h e he domain hdomain hs
    exact h (s, e.2) (mem_writes.2 ⟨e, he, rfl, domain, hdomain, hs⟩) rfl
  · rintro h ⟨s', key⟩ hmem rfl
    obtain ⟨e, he, -, domain, hdomain, hs⟩ := mem_writes.1 hmem
    exact h e he domain hdomain hs

theorem slot_ofEntries_isSome :
    ((ofEntries cm entries).slot s).isSome = true ↔
      ∃ e ∈ entries, ∃ domain ∈ e.1, slotOf cm domain = s := by
  rw [Option.isSome_iff_ne_none, ne_eq, slot_ofEntries_eq_none]
  push Not
  rfl

theorem isSome_resolve_ofEntries :
    ((ofEntries cm entries).resolve cm sni).isSome = true ↔
      ∃ e ∈ entries, ∃ domain ∈ e.1, Covers cm domain sni := by
  rw [resolve_eq, default_ofEntries, Option.or_none, isSome_findSome?]
  simp only [any_eq_true, slot_ofEntries_isSome, Covers]
  constructor
  · rintro ⟨s, hs, e, he, domain, hdomain, rfl⟩
    exact ⟨e, he, domain, hdomain, hs⟩
  · rintro ⟨e, he, domain, hdomain, hs⟩
    exact ⟨_, hs, e, he, domain, hdomain, rfl⟩

theorem exists_of_resolve_ofEntries (h : (ofEntries cm entries).resolve cm sni = some key) :
    ∃ e ∈ entries, e.2 = key ∧ ∃ domain ∈ e.1, Covers cm domain sni := by
  rw [resolve_eq, default_ofEntries, Option.or_none] at h
  obtain ⟨s, hs, hkey⟩ := exists_of_findSome?_eq_some h
  rw [slot_ofEntries] at hkey
  obtain ⟨e, he, hek, domain, hdomain, rfl⟩ := mem_writes.1 (mem_of_lastWrite hkey)
  exact ⟨e, he, hek, domain, hdomain, hs⟩

theorem resolve_domain {domain : String}
    (h : (ofEntries cm entries).slot (slotOf cm domain) = some key) :
    (ofEntries cm entries).resolve cm domain = some key := by
  rw [resolve_eq]
  cases hstrip : stripPrefix (cm.toLowercase domain) "*." with
  | none => simp_all [slotOf, slotsFor]
  | some base =>
    have hlower := stripPrefix_eq_some.1 hstrip
    -- the exact slot, which is looked up first, is never written
    have hexact : (ofEntries cm entries).slot (.exact ("*." ++ base)) = none :=
      slot_ofEntries_eq_none.2 fun _ _ _ _ => slotOf_ne_exact rfl
    have hslot : slotOf cm domain = .wildcard base := by rw [slotOf, hstrip]
    rw [hslot] at h
    simp [slotsFor_wildcard hlower, hexact, h]

theorem isEmpty_iff {store : CertStore κ} :
    store.isEmpty = true ↔ (∀ s, store.slot s = none) ∧ store.default = none := by
  have hmap : ∀ m : HashMap String κ,
      (entries m).isEmpty = true ↔ ∀ name, m.lookup name = none := by
    intro m
    rw [List.isEmpty_iff, List.eq_nil_iff_forall_not_mem]
    constructor
    · intro h name
      rw [Option.eq_none_iff_forall_ne_some]
      intro key hkey
      exact h (name, key) (mem_entries.2 hkey)
    · rintro h ⟨name, key⟩ hmem
      rw [mem_entries, h name] at hmem
      cases hmem
  simp only [isEmpty, Bool.and_eq_true, hmap, Option.isNone_iff_eq_none]
  constructor
  · rintro ⟨⟨hexact, hwild⟩, hdefault⟩
    refine ⟨?_, hdefault⟩
    intro s
    cases s with
    | exact name => exact hexact name
    | wildcard base => exact hwild base
  · rintro ⟨hslot, hdefault⟩
    exact ⟨⟨fun name => hslot (.exact name), fun base => hslot (.wildcard base)⟩, hdefault⟩

theorem isEmpty_ofEntries : (ofEntries cm entries).isEmpty = true ↔ ∀ e ∈ entries, e.1 = [] := by
  rw [isEmpty_iff]
  simp only [slot_ofEntries_eq_none, default_ofEntries, and_true]
  constructor
  · intro h e he
    refine eq_nil_iff_forall_not_mem.2 ?_
    intro domain hdomain
    exact h (slotOf cm domain) e he domain hdomain rfl
  · intro h s e he domain hdomain
    rw [h e he] at hdomain
    cases hdomain

end CertStore

end Wicket
