/-
**Two slots, a writer and a reader.**

Two slots are replaced one after the other and read one after the other, and the reader may see
either before or after it is replaced.
-/

import Mathlib.Data.List.Basic

namespace TwoSlots

open List

/-- The third list takes the steps of the first and of the second, each in its order. -/
inductive Interleaves {σ : Type} : List σ → List σ → List σ → Prop
  | nil : Interleaves [] [] []
  | left {s : σ} {xs ys zs : List σ} (h : Interleaves xs ys zs) :
      Interleaves (s :: xs) ys (s :: zs)
  | right {s : σ} {xs ys zs : List σ} (h : Interleaves xs ys zs) :
      Interleaves xs (s :: ys) (s :: zs)

theorem Interleaves.mem {σ : Type} {xs ys zs : List σ} (h : Interleaves xs ys zs) {s : σ}
    (hs : s ∈ zs) : s ∈ xs ∨ s ∈ ys := by
  induction h with
  | nil => exact .inl hs
  | left _ ih =>
    rcases mem_cons.1 hs with rfl | hs
    · exact .inl (by simp)
    · exact (ih hs).imp_left (mem_cons_of_mem _)
  | right _ ih =>
    rcases mem_cons.1 hs with rfl | hs
    · exact .inr (by simp)
    · exact (ih hs).imp_right (mem_cons_of_mem _)

theorem Interleaves.of_nil {σ : Type} {ys zs : List σ} (h : Interleaves [] ys zs) : zs = ys := by
  generalize hxs : ([] : List σ) = xs at h
  induction h with
  | nil => rfl
  | left => cases hxs
  | right _ ih => rw [ih hxs]

variable {α β : Type}

inductive Access (α β : Type)
  | storeFirst (a : α)
  | storeSecond (b : β)
  | loadFirst
  | loadSecond

/-- The contents of the slots, and what the reader has loaded so far. -/
structure Memory (α β : Type) where
  first : α
  second : β
  seenFirst : Option α := none
  seenSecond : Option β := none

def Memory.access (m : Memory α β) : Access α β → Memory α β
  | .storeFirst a => { m with first := a }
  | .storeSecond b => { m with second := b }
  | .loadFirst => { m with seenFirst := some m.first }
  | .loadSecond => { m with seenSecond := some m.second }

def run (m : Memory α β) (schedule : List (Access α β)) : Memory α β :=
  schedule.foldl Memory.access m

/-- What the slots hold after some accesses. -/
def stored (schedule : List (Access α β)) (slots : α × β) : α × β :=
  ((run ⟨slots.1, slots.2, none, none⟩ schedule).first,
    (run ⟨slots.1, slots.2, none, none⟩ schedule).second)

/-- A reader that loads the first slot and then the second can see `x` and `y`, while the writer
takes its steps. -/
def Sees (a : α) (b : β) (writer : List (Access α β)) (x : α) (y : β) : Prop :=
  ∃ schedule, Interleaves writer [.loadFirst, .loadSecond] schedule ∧
    (run ⟨a, b, none, none⟩ schedule).seenFirst = some x ∧
    (run ⟨a, b, none, none⟩ schedule).seenSecond = some y

variable {schedule : List (Access α β)} {m : Memory α β} {x a : α} {y b : β}

theorem seen_run {γ : Type} {slot : Memory α β → γ} {seen : Memory α β → Option γ}
    {store : γ → Access α β}
    (hseen : ∀ m s, seen (m.access s) = seen m ∨ seen (m.access s) = some (slot m))
    (hslot : ∀ m s, slot (m.access s) = slot m ∨ s = store (slot (m.access s))) {x : γ}
    (h : seen (run m schedule) = some x) :
    seen m = some x ∨ slot m = x ∨ store x ∈ schedule := by
  induction schedule generalizing m with
  | nil => exact .inl h
  | cons s schedule ih =>
    rcases ih h with hx | hx | hx
    · rcases hseen m s with heq | heq
      · exact .inl (heq.symm.trans hx)
      · exact .inr (.inl (Option.some.inj (heq.symm.trans hx)))
    · rcases hslot m s with heq | heq
      · exact .inr (.inl (heq.symm.trans hx))
      · rw [hx] at heq
        exact .inr (.inr (by simp [heq]))
    · exact .inr (.inr (mem_cons_of_mem _ hx))

theorem seenFirst_run (h : (run m schedule).seenFirst = some x) :
    m.seenFirst = some x ∨ m.first = x ∨ .storeFirst x ∈ schedule := by
  refine seen_run ?_ ?_ h
  · intro m s
    cases s <;> simp [Memory.access]
  · intro m s
    cases s <;> simp [Memory.access]

theorem seenSecond_run (h : (run m schedule).seenSecond = some y) :
    m.seenSecond = some y ∨ m.second = y ∨ .storeSecond y ∈ schedule := by
  refine seen_run ?_ ?_ h
  · intro m s
    cases s <;> simp [Memory.access]
  · intro m s
    cases s <;> simp [Memory.access]

/-- **While both slots are replaced, a reader can see every mixture** of the old and the new
contents. -/
theorem sees_stores_iff {a' : α} {b' : β} :
    Sees a b [.storeFirst a', .storeSecond b'] x y ↔ (x = a ∨ x = a') ∧ (y = b ∨ y = b') := by
  constructor
  · rintro ⟨schedule, h, hx, hy⟩
    refine ⟨?_, ?_⟩
    · rcases seenFirst_run hx with hseen | hfirst | hstore
      · cases hseen
      · exact .inl hfirst.symm
      · have hmem := h.mem hstore
        simp only [mem_cons, Access.storeFirst.injEq, reduceCtorEq, not_mem_nil, or_false] at hmem
        exact .inr hmem
    · rcases seenSecond_run hy with hseen | hsecond | hstore
      · cases hseen
      · exact .inl hsecond.symm
      · have hmem := h.mem hstore
        simp only [mem_cons, Access.storeSecond.injEq, reduceCtorEq, not_mem_nil,
          or_false, false_or] at hmem
        exact .inr hmem
  · rintro ⟨rfl | rfl, rfl | rfl⟩
    · exact ⟨_, .right (.right (.left (.left .nil))), rfl, rfl⟩
    · exact ⟨_, .right (.left (.left (.right .nil))), rfl, rfl⟩
    · exact ⟨_, .left (.right (.right (.left .nil))), rfl, rfl⟩
    · exact ⟨_, .left (.left (.right (.right .nil))), rfl, rfl⟩

theorem forall_sees_stores_iff {P : α → β → Prop} {a' : α} {b' : β} :
    (∀ x y, Sees a b [.storeFirst a', .storeSecond b'] x y → P x y) ↔
      (P a b ∧ P a' b') ∧ P a b' ∧ P a' b := by
  simp only [sees_stores_iff]
  constructor
  · intro h
    exact ⟨⟨h _ _ ⟨.inl rfl, .inl rfl⟩, h _ _ ⟨.inr rfl, .inr rfl⟩⟩,
      h _ _ ⟨.inl rfl, .inr rfl⟩, h _ _ ⟨.inr rfl, .inl rfl⟩⟩
  · rintro ⟨⟨hold, hnew⟩, hmixed, hmixed'⟩ x y ⟨rfl | rfl, rfl | rfl⟩
    · exact hold
    · exact hmixed
    · exact hmixed'
    · exact hnew

theorem sees_nil_iff : Sees a b ([] : List (Access α β)) x y ↔ x = a ∧ y = b := by
  constructor
  · rintro ⟨schedule, h, hx, hy⟩
    rw [h.of_nil] at hx hy
    cases hx
    cases hy
    exact ⟨rfl, rfl⟩
  · rintro ⟨rfl, rfl⟩
    exact ⟨_, .right (.right .nil), rfl, rfl⟩

end TwoSlots
