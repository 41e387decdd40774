/-
**Objects whose fields are managed: applying a patch by force.**

A writer becomes an owner of every field in its patch; a field it owned alone and no longer wants is
removed, and every other field stays.
-/

import Mathlib.Data.List.Nodup

namespace ManagedFields

open List

variable {P V : Type} [DecidableEq P] [DecidableEq V]

/-- An object: the values of its fields, and for each field whether the writer and whether somebody
else owns it. -/
structure Object (P V : Type) where
  value : P → Option V := fun _ => none
  mine : P → Bool := fun _ => false
  others : P → Bool := fun _ => false

namespace Object

def apply (o : Object P V) (patch : List (P × V)) : Object P V where
  value p :=
    match patch.lookup p with
    | some v => some v
    | none => if o.mine p && !o.others p then none else o.value p
  mine p := (patch.lookup p).isSome
  others p := o.others p && (patch.lookup p == none || patch.lookup p == o.value p)

/-- The patch has nothing to do at the field. -/
def Settled (o : Object P V) (patch : List (P × V)) (p : P) : Prop :=
  match patch.lookup p with
  | some v => o.value p = some v
  | none => o.mine p = true → o.others p = false → o.value p = none

variable {o : Object P V} {patch : List (P × V)} {p : P} {v : V}

theorem value_apply : (o.apply patch).value p = match patch.lookup p with
    | some v => some v
    | none => if o.mine p && !o.others p then none else o.value p := rfl

theorem value_apply_of_mem (hnodup : (patch.map Prod.fst).Nodup) (h : (p, v) ∈ patch) :
    (o.apply patch).value p = some v := by
  obtain ⟨before, after, rfl⟩ := append_of_mem h
  have hfirst : ∀ q ∈ before, (p != q.1) = true := by
    intro q hq
    rw [map_append, nodup_append] at hnodup
    simpa using fun heq : p = q.1 =>
      hnodup.2.2 q.1 (mem_map_of_mem hq) p (by simp) heq.symm
  have hlookup : (before ++ (p, v) :: after).lookup p = some v :=
    lookup_eq_some_iff.2 ⟨before, after, rfl, hfirst⟩
  rw [value_apply, hlookup]

theorem value_of_value_apply (h : (o.apply patch).value p = some v) :
    o.value p = some v ∨ (p, v) ∈ patch := by
  rw [value_apply] at h
  cases hlookup : patch.lookup p with
  | some v' =>
    rw [hlookup] at h
    obtain rfl := Option.some.inj h
    obtain ⟨before, after, rfl, -⟩ := lookup_eq_some_iff.1 hlookup
    exact .inr (by simp)
  | none =>
    rw [hlookup] at h
    dsimp only at h
    split at h
    · cases h
    · exact .inl h

theorem value_apply_eq_iff : (o.apply patch).value p = o.value p ↔ o.Settled patch p := by
  rw [Settled, value_apply]
  cases patch.lookup p with
  | some v => exact eq_comm
  | none =>
    cases o.mine p <;> cases o.others p
    · simp
    · simp
    · simpa using eq_comm
    · simp

theorem value_apply_apply {patch' : List (P × V)} (h : patch'.lookup p = patch.lookup p) :
    ((o.apply patch).apply patch').value p = (o.apply patch).value p := by
  rw [value_apply_eq_iff, Settled, h, value_apply]
  cases hlookup : patch.lookup p with
  | some v => rfl
  | none =>
    -- the writer does not own a field it has not named
    intro hmine
    simp [apply, hlookup] at hmine

omit [DecidableEq V] in
theorem lookup_append_of_notMem {patch' : List (P × V)} (h : p ∉ patch.map Prod.fst) :
    (patch ++ patch').lookup p = patch'.lookup p := by
  have hnone : patch.lookup p = none := by
    rw [lookup_eq_none_iff]
    intro f hf
    rw [bne_iff_ne]
    rintro rfl
    exact h (mem_map_of_mem hf)
  rw [lookup_append, hnone, Option.none_or]

end Object

end ManagedFields
