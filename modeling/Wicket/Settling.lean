/-
**Values that are rewritten only when they change.**

Details such as the time are taken over from the stored value before the two are compared.  A list
is compared position by position, but its details are taken over by key.
-/

import Wicket.Check

namespace Settling

open List

/-! ### Lists -/

section Lists

variable {α κ : Type}

/-- The lists have one length, and their entries agree position by position. -/
def zipAll (r : α → α → Bool) (a b : List α) : Bool :=
  if a.length != b.length then false else (a.zip b).all fun e => r e.1 e.2

theorem zipAll_iff {ω : Type} {o : α → ω} {r : α → α → Bool} {a b : List α}
    (hr : ∀ x y, r x y = true ↔ o x = o y) : zipAll r a b = true ↔ a.map o = b.map o := by
  induction a generalizing b with
  | nil => cases b <;> simp [zipAll]
  | cons x a ih =>
    cases b with
    | nil => simp [zipAll]
    | cons y b =>
      rw [map_cons, map_cons, cons.injEq, ← ih, ← hr]
      by_cases hlen : a.length = b.length <;> simp [zipAll, hlen]

variable [DecidableEq κ]

/-- Every entry with what `f` takes over from the first existing entry with the same key. -/
def mergeByKey (key : α → κ) (f : α → α → α) (new existing : List α) : List α :=
  new.map fun a =>
    match existing.find? fun e => key e == key a with
    | some prev => f a prev
    | none => a

variable {key : α → κ} {f : α → α → α} {new existing : List α}

theorem forall₂_mergeByKey {R : α → α → Prop} (hnodup : (existing.map key).Nodup)
    (hsome : ∀ a ∈ new, ∀ prev ∈ existing, key prev = key a → R a (f a prev))
    (hnone : ∀ a ∈ new, (∀ prev ∈ existing, key prev ≠ key a) → R a a) :
    List.Forall₂ R new (mergeByKey key f new existing) := by
  rw [mergeByKey, forall₂_map_right_iff, forall₂_same]
  intro a ha
  by_cases hkey : ∃ prev ∈ existing, key prev = key a
  · obtain ⟨prev, hprev, hkey⟩ := hkey
    have hfind := Check.find?_of_nodup_map hnodup hprev
    rw [hkey] at hfind
    rw [hfind]
    exact hsome a ha prev hprev hkey
  · have hfind : existing.find? (fun e => key e == key a) = none := by
      rw [find?_eq_none]
      intro prev hprev heq
      exact hkey ⟨prev, hprev, eq_of_beq heq⟩
    rw [hfind]
    refine hnone a ha ?_
    intro prev hprev heq
    exact hkey ⟨prev, hprev, heq⟩

theorem map_mergeByKey {ω : Type} {o : α → ω} (hf : ∀ a prev, o (f a prev) = o a) :
    (mergeByKey key f new existing).map o = new.map o := by
  rw [mergeByKey, map_map]
  refine map_congr_left ?_
  intro a _
  dsimp only [Function.comp_apply]
  split
  · exact hf _ _
  · rfl

/-- **Entries that agree position by position are taken over as they are.** -/
theorem mergeByKey_eq_existing {ω : Type} {o : α → ω} (hnodup : (existing.map key).Nodup)
    (h : existing.map o = new.map o) (hkey : ∀ a b, o a = o b → key a = key b)
    (hf : ∀ prev ∈ existing, ∀ a, o prev = o a → f a prev = prev) :
    mergeByKey key f new existing = existing := by
  have hlen : new.length = existing.length := by
    simpa using (congrArg length h).symm
  refine ext_getElem (by rw [mergeByKey, length_map, hlen]) ?_
  intro i hi hi'
  have hsame : o existing[i] = o new[i] := by
    have hget := getElem_of_eq h (by rwa [length_map])
    rw [getElem_map, getElem_map] at hget
    exact hget
  simp only [mergeByKey, getElem_map]
  rw [← hkey _ _ hsame, Check.find?_of_nodup_map hnodup (getElem_mem hi')]
  exact hf _ (getElem_mem hi') _ hsame

end Lists

/-! ### Rounds -/

structure Kind (S : Type) where
  equal : S → S → Bool
  preserve : S → S → S

namespace Kind

variable {S : Type} (K : Kind S)

/-- One round: the stored value afterwards, and whether it was written. -/
def update (existing : Option S) (computed : S) : S × Bool :=
  match existing with
  | none => (computed, true)
  | some existing =>
    let status := K.preserve computed existing
    if !K.equal existing status then (status, true) else (existing, false)

def patches : Option S → List S → List S
  | _, [] => []
  | existing, computed :: rest =>
    let (stored, written) := K.update existing computed
    (if written then [stored] else []) ++ patches (some stored) rest

/-- What makes the rounds settle. -/
structure Lawful {O : Type} (outcome : S → O) (Unique : S → Prop) : Prop where
  equal_iff : ∀ a b, K.equal a b = true ↔ outcome a = outcome b
  unique : ∀ {a b}, outcome a = outcome b → Unique a → Unique b
  outcome_preserve : ∀ new existing, outcome (K.preserve new existing) = outcome new
  preserve_eq : ∀ {existing new}, Unique existing → outcome existing = outcome new →
    K.preserve new existing = existing

variable {K} {O : Type} {outcome : S → O} {Unique : S → Prop} (h : K.Lawful outcome Unique)

include h

theorem Lawful.outcome_update (existing : Option S) (computed : S) :
    outcome (K.update existing computed).1 = outcome computed := by
  cases existing with
  | none => rfl
  | some existing =>
    have hkept := h.outcome_preserve computed existing
    dsimp only [update]
    cases hequal : K.equal existing (K.preserve computed existing) with
    | false => exact hkept
    | true => exact ((h.equal_iff _ _).1 hequal).trans hkept

theorem Lawful.update_eq {existing computed : S} (hunique : Unique existing)
    (hsame : outcome existing = outcome computed) :
    K.update (some existing) computed = (existing, false) := by
  dsimp only [update]
  rw [h.preserve_eq hunique hsame, (h.equal_iff _ _).2 rfl]
  rfl

theorem Lawful.patches_eq_nil {stored : S} (hunique : Unique stored) {cs : List S}
    (hcs : ∀ c ∈ cs, outcome stored = outcome c) :
    K.patches (some stored) cs = [] ∧
      cs.foldl (fun s c => (K.update (some s) c).1) stored = stored := by
  induction cs with
  | nil => exact ⟨rfl, rfl⟩
  | cons c cs ih =>
    have hround := h.update_eq hunique (hcs c mem_cons_self)
    obtain ⟨hpatches, hstored⟩ := ih fun c' hc' => hcs c' (mem_cons_of_mem c hc')
    rw [patches, foldl_cons, hround]
    exact ⟨hpatches, hstored⟩

/-- **Computed again with the same outcome, a value is written at most once**, and stays as it is
after the first round. -/
theorem Lawful.patches_le_one (existing : Option S) {computed : S} (hunique : Unique computed)
    {cs : List S} (hcs : ∀ c ∈ cs, K.equal computed c = true) :
    (K.patches existing (computed :: cs)).length ≤ 1 ∧
      cs.foldl (fun s c => (K.update (some s) c).1) (K.update existing computed).1 =
        (K.update existing computed).1 := by
  have hfirst := h.outcome_update existing computed
  obtain ⟨hrest, hstored⟩ := h.patches_eq_nil (h.unique hfirst.symm hunique) fun c hc =>
    hfirst.trans ((h.equal_iff _ _).1 (hcs c hc))
  refine ⟨?_, hstored⟩
  dsimp only [patches]
  rw [hrest]
  cases (K.update existing computed).2 <;> simp

end Kind

end Settling
