/-
**Searching a circle of slots from every start.**

A search takes the first eligible slot from its start on, or else the start.  Over `n` consecutive
starts an eligible slot is taken once for itself and once for every start in the gap before it.
-/

import Mathlib.Data.Nat.Periodic

namespace Cyclic

open Nat Option List

/-! ### Searches -/

variable (eligible : ℕ → Bool) (n : ℕ)

def distance (start : ℕ) : ℕ :=
  ((List.range n).find? fun i => eligible ((start + i) % n)).getD 0

/-- The slot at which a search ends. -/
def pick (start : ℕ) : ℕ := (start + distance eligible n start) % n

def gap (slot : ℕ) : ℕ :=
  ((List.range (n - 1)).takeWhile fun d => !eligible ((slot + n - 1 - d) % n)).length

variable {eligible n}

theorem pick_periodic : Function.Periodic (pick eligible n) n := by
  intro start
  have hturn : ∀ i, (start + n + i) % n = (start + i) % n := by
    intro i
    rw [add_right_comm, add_mod_right]
  rw [pick, pick, distance, distance, hturn]
  simp only [hturn]

theorem pick_of_none (hnone : ∀ slot < n, eligible slot = false) (start : ℕ) :
    pick eligible n start = start % n := by
  have hfind : ((range n).find? fun i => eligible ((start + i) % n)) = none := by
    rw [find?_eq_none]
    intro i hi
    have hpos : 0 < n := by
      have hlt := mem_range.1 hi
      omega
    rw [hnone _ (mod_lt _ hpos)]
    exact Bool.false_ne_true
  rw [pick, distance, hfind, getD_none, add_zero]

theorem distance_eq_iff {start d : ℕ} (hd : d < n) (heligible : eligible ((start + d) % n) = true) :
    distance eligible n start = d ↔ ∀ i < d, eligible ((start + i) % n) = false := by
  constructor
  · intro h i hi
    rw [distance] at h
    cases hfind : (range n).find? fun i => eligible ((start + i) % n) with
    | none =>
      have hno := find?_eq_none.1 hfind d (mem_range.2 hd)
      exact absurd heligible hno
    | some m =>
      rw [hfind, getD_some] at h
      subst h
      have hbefore := (find?_range_eq_some.1 hfind).2.2 i hi
      simpa using hbefore
  · intro h
    have hfind : ((range n).find? fun i => eligible ((start + i) % n)) = some d := by
      rw [find?_range_eq_some]
      refine ⟨heligible, mem_range.2 hd, ?_⟩
      intro i hi
      rw [h i hi]
      rfl
    rw [distance, hfind, getD_some]

variable {slot k : ℕ}

theorem eligible_pick (hslot : slot < n) (heligible : eligible slot = true) (start : ℕ) :
    eligible (pick eligible n start) = true := by
  have hpos : 0 < n := by omega
  -- the search meets the slot within one turn
  have hmeets : ∃ i ∈ range n, eligible ((start + i) % n) = true := by
    have hmod := mod_lt start hpos
    refine ⟨(slot + (n - start % n)) % n, mem_range.2 (mod_lt _ hpos), ?_⟩
    have hsame : (start + (slot + (n - start % n)) % n) % n = slot := by
      have hdecomp := div_add_mod start n
      have hsum : start + (slot + (n - start % n)) = slot + n * (start / n + 1) := by
        rw [mul_add, mul_one]
        omega
      rw [add_mod_mod, hsum, add_mul_mod_self_left, mod_eq_of_lt hslot]
    rw [hsame]
    exact heligible
  have hsome := find?_isSome.2 hmeets
  obtain ⟨d, hd⟩ := isSome_iff_exists.1 hsome
  have hfound : eligible ((start + d) % n) = true := (find?_range_eq_some.1 hd).1
  rw [pick, distance, hd, getD_some]
  exact hfound

theorem pick_of_eligible (hslot : slot < n) (heligible : eligible slot = true) :
    pick eligible n slot = slot := by
  have hstart : slot % n = slot := mod_eq_of_lt hslot
  have hhere : eligible ((slot + 0) % n) = true := by rwa [add_zero, hstart]
  have hdistance : distance eligible n slot = 0 :=
    (distance_eq_iff (by omega) hhere).2 (fun i hi => absurd hi (not_lt_zero i))
  rw [pick, hdistance, add_zero, hstart]

/-! ### Gaps -/

theorem le_length_takeWhile_iff {α : Type} {p : α → Bool} {l : List α} :
    k ≤ (l.takeWhile p).length ↔ k ≤ l.length ∧ ∀ i < k, ∀ a, l[i]? = some a → p a = true := by
  induction l generalizing k with
  | nil => simp
  | cons b l ih =>
    cases k with
    | zero => simp
    | succ k =>
      cases hb : p b with
      | false =>
        rw [takeWhile_cons_of_neg (by simp [hb])]
        refine iff_of_false (by simp) ?_
        intro h
        have hfirst := h.2 0 (by omega) b (by simp)
        rw [hb] at hfirst
        cases hfirst
      | true =>
        rw [takeWhile_cons_of_pos hb, length_cons, length_cons,
          add_le_add_iff_right, ih, add_le_add_iff_right]
        refine and_congr_right fun _ => ⟨?_, ?_⟩
        · intro h i hi a ha
          cases i with
          | zero =>
            rw [getElem?_cons_zero, some.injEq] at ha
            rw [← ha]
            exact hb
          | succ i => exact h i (by omega) a (by rwa [getElem?_cons_succ] at ha)
        · intro h i hi a ha
          exact h (i + 1) (by omega) a (by rwa [getElem?_cons_succ])

theorem le_gap_iff (hk : k < n) :
    k ≤ gap eligible n slot ↔ ∀ d < k, eligible ((slot + n - 1 - d) % n) = false := by
  rw [gap, le_length_takeWhile_iff, length_range]
  constructor
  · intro h d hd
    have hplace := h.2 d hd d (by rw [getElem?_range (by omega)])
    simpa using hplace
  · intro h
    refine ⟨by omega, ?_⟩
    intro i hi a ha
    rw [getElem?_range (by omega), some.injEq] at ha
    rw [← ha, h i hi]
    rfl

theorem gap_lt (hpos : 0 < n) (slot : ℕ) : gap eligible n slot < n := by
  have hle := (takeWhile_sublist (l := range (n - 1))
    fun d => !eligible ((slot + n - 1 - d) % n)).length_le
  rw [length_range] at hle
  rw [gap]
  omega

theorem pick_eq_iff {start : ℕ} (hslot : slot < n) (heligible : eligible slot = true)
    (hlow : slot < start) (hhigh : start ≤ slot + n) :
    pick eligible n start = slot ↔ slot + n ≤ start + gap eligible n slot := by
  obtain ⟨d, hd⟩ : ∃ d, start + d = slot + n := ⟨slot + n - start, by omega⟩
  have hdn : d < n := by omega
  have hreach : (start + d) % n = slot := by
    rw [hd, add_mod_right, mod_eq_of_lt hslot]
  have hfirst := @distance_eq_iff eligible n start d hdn (by rw [hreach]; exact heligible)
  have hgap : d ≤ gap eligible n slot ↔ slot + n ≤ start + gap eligible n slot := by omega
  rw [← hgap, le_gap_iff hdn]
  constructor
  · intro h j hj
    -- a search that ends at the slot has gone the whole way to it
    have hdist : distance eligible n start = d := by
      have hpos : 0 < n := by omega
      have hlt : distance eligible n start < n := by
        rw [distance]
        cases hfind : (range n).find? fun i => eligible ((start + i) % n) with
        | none => exact hpos
        | some m => exact mem_range.1 (mem_of_find?_eq_some hfind)
      rw [pick, ← hreach] at h
      exact Nat.ModEq.eq_of_lt_of_lt (Nat.ModEq.add_left_cancel' start h) hlt hdn
    have hbefore := hfirst.1 hdist (d - 1 - j) (by omega)
    rwa [show start + (d - 1 - j) = slot + n - 1 - j by omega] at hbefore
  · intro h
    have hdist : distance eligible n start = d := by
      refine hfirst.2 ?_
      intro i hi
      have hback := h (d - 1 - i) (by omega)
      rwa [show slot + n - 1 - (d - 1 - i) = start + i by omega] at hback
    rw [pick, hdist, hreach]

/-! ### Consecutive starts -/

/-- The slots taken by searches from consecutive starts. -/
def picks (eligible : ℕ → Bool) (n start : ℕ) : List ℕ :=
  (List.range n).map fun j => pick eligible n (start + j)

theorem count_picks (eligible : ℕ → Bool) (n start start' slot : ℕ) :
    (picks eligible n start).count slot =
      ((Finset.Ico start' (start' + n)).filter fun s => pick eligible n s = slot).card := by
  have hperiodic : Function.Periodic (fun s => pick eligible n s = slot) n := by
    intro s
    simp only [pick_periodic s]
  have hlist : (picks eligible n start).count slot =
      ((Finset.Ico start (start + n)).filter fun s => pick eligible n s = slot).card := by
    have hico : (Finset.Ico start (start + n)).val = (List.range' start n : Multiset ℕ) := by
      rw [Nat.Ico_eq_range', Nat.add_sub_cancel_left]
    rw [Finset.card_def, Finset.filter_val, hico, Multiset.filter_coe, Multiset.coe_card,
      ← countP_eq_length_filter, range'_eq_map_range, countP_map, picks,
      count_eq_countP, countP_map]
    rfl
  rw [hlist, filter_Ico_card_eq_of_periodic _ _ _ hperiodic,
    filter_Ico_card_eq_of_periodic _ _ _ hperiodic]

/-- **An eligible slot is taken once for itself and once for every start in the gap before it.** -/
theorem count_pick (hslot : slot < n) (heligible : eligible slot = true) (start : ℕ) :
    (picks eligible n start).count slot = 1 + gap eligible n slot := by
  have hgap := @gap_lt eligible n (by omega) slot
  -- the turn that ends at the slot
  have hstarts : ((Finset.Ico (slot + 1) (slot + 1 + n)).filter fun s =>
      pick eligible n s = slot) = Finset.Ico (slot + n - gap eligible n slot) (slot + n + 1) := by
    ext s
    rw [Finset.mem_filter, Finset.mem_Ico, Finset.mem_Ico]
    constructor
    · intro h
      have htaken := (pick_eq_iff hslot heligible (by omega) (by omega)).1 h.2
      omega
    · intro h
      rw [pick_eq_iff hslot heligible (by omega) (by omega)]
      omega
  rw [count_picks eligible n start (slot + 1), hstarts, card_Ico]
  omega

/-- **Without an eligible slot every slot is taken once.** -/
theorem count_pick_of_none (hnone : ∀ slot < n, eligible slot = false) (hslot : slot < n)
    (start : ℕ) : (picks eligible n start).count slot = 1 := by
  have hstarts : ((Finset.Ico 0 (0 + n)).filter fun s => pick eligible n s = slot) = {slot} := by
    ext s
    rw [Finset.mem_filter, Finset.mem_Ico, Finset.mem_singleton, pick_of_none hnone]
    constructor
    · intro h
      rw [← h.2, mod_eq_of_lt (by omega)]
    · intro h
      rw [h, mod_eq_of_lt hslot]
      exact ⟨by omega, rfl⟩
  rw [count_picks eligible n start 0, hstarts, Finset.card_singleton]

end Cyclic
