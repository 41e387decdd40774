/-
**Fallible passes: validators and compilers that stop at the first error.**

A sequence of checks succeeds exactly when its steps do, a pass over a list exactly when it does on
every element.
-/

import Mathlib.Data.List.Induction
import Mathlib.Data.List.Sort

namespace Check

open List

variable {ε α β : Type}

def bailIf (b : Bool) (e : ε) : Except ε Unit := if b then .error e else .ok ()

def onlyIf (b : Bool) (x : Except ε Unit) : Except ε Unit := if b then x else .ok ()

/-- Runs the check on the value, if there is one. -/
def forSome (f : α → Except ε Unit) : Option α → Except ε Unit
  | some x => f x
  | none => .ok ()

/-- Runs the check on every element, in order, up to the first failure. -/
def forEach (f : α → Except ε Unit) : List α → Except ε Unit
  | [] => .ok ()
  | x :: xs => do
    f x
    forEach f xs

/-- Compiles every element, in order, up to the first failure. -/
def compileAll (f : α → Except ε β) : List α → Except ε (List β)
  | [] => .ok []
  | x :: xs => do
    let y ← f x
    let ys ← compileAll f xs
    .ok (y :: ys)

variable {x a : α} {f : α → Except ε β} {b : β} {l : List α} {ys : List β} {γ : Type} {P : α → Prop}
  {q : α → Bool} {r : α → α → Prop}

/-- **A sequence succeeds exactly when its steps do.** -/
theorem bind_eq_ok {x : Except ε α} : (x >>= f) = .ok b ↔ ∃ a, x = .ok a ∧ f a = .ok b := by
  cases x with
  | error e => simp [bind, Except.bind]
  | ok a => simp [bind, Except.bind]

theorem bind_congr {x : Except ε α} {g : α → Except ε β} (h : ∀ a, x = .ok a → f a = g a) :
    (x >>= f) = (x >>= g) := by
  cases x with
  | error e => rfl
  | ok a => exact h a rfl

theorem map_eq_ok {x : Except ε α} {f : α → β} : x.map f = .ok b ↔ ∃ a, x = .ok a ∧ f a = b := by
  cases x with
  | error e => simp [Except.map]
  | ok a => simp [Except.map]

theorem mapError_eq_ok {δ : Type} {x : Except ε α} {f : ε → δ} :
    x.mapError f = .ok a ↔ x = .ok a := by
  cases x <;> simp [Except.mapError]

theorem exists_map_eq_ok {x : Except ε α} {f : α → β} :
    (∃ b, x.map f = .ok b) ↔ ∃ a, x = .ok a := by
  simp only [map_eq_ok]
  constructor
  · rintro ⟨_, a, ha, -⟩
    exact ⟨a, ha⟩
  · rintro ⟨a, ha⟩
    exact ⟨f a, a, ha, rfl⟩

@[simp] theorem seq_eq_ok {x : Except ε Unit} {y : Except ε β} :
    (x >>= fun _ => y) = .ok b ↔ x = .ok () ∧ y = .ok b := by
  rw [bind_eq_ok]
  constructor
  · rintro ⟨⟨⟩, hx, hy⟩
    exact ⟨hx, hy⟩
  · rintro ⟨hx, hy⟩
    exact ⟨(), hx, hy⟩

@[simp] theorem bailIf_eq_ok {b : Bool} {e : ε} : bailIf b e = .ok () ↔ b = false := by
  cases b <;> simp [bailIf]

@[simp] theorem onlyIf_eq_ok {b : Bool} {x : Except ε Unit} :
    onlyIf b x = .ok () ↔ (b = true → x = .ok ()) := by
  cases b <;> simp [onlyIf]

@[simp] theorem forSome_eq_ok {f : α → Except ε Unit} {o : Option α} :
    forSome f o = .ok () ↔ ∀ x ∈ o, f x = .ok () := by
  cases o <;> simp [forSome]

/-- **A check of a list accepts exactly when it accepts every element.** -/
@[simp] theorem forEach_eq_ok {f : α → Except ε Unit} :
    forEach f l = .ok () ↔ ∀ x ∈ l, f x = .ok () := by
  induction l with
  | nil => simp [forEach]
  | cons x xs ih => rw [forEach, seq_eq_ok, ih, forall_mem_cons]

theorem compileAll_eq_ok :
    compileAll f l = .ok ys ↔ List.Forall₂ (fun x y => f x = .ok y) l ys := by
  induction l generalizing ys with
  | nil => simp [compileAll, forall₂_nil_left_iff, eq_comm]
  | cons x xs ih =>
    rw [compileAll, bind_eq_ok]
    constructor
    · rintro ⟨y, hy, hrest⟩
      obtain ⟨ys', hys', heq⟩ := bind_eq_ok.1 hrest
      cases heq
      exact List.Forall₂.cons hy (ih.1 hys')
    · intro h
      cases h with
      | cons hy hys => exact ⟨_, hy, bind_eq_ok.2 ⟨_, ih.2 hys, rfl⟩⟩

theorem exists_mem_of_compileAll (h : compileAll f l = .ok ys) (hx : x ∈ l) :
    ∃ y ∈ ys, f x = .ok y := by
  induction compileAll_eq_ok.1 h with
  | nil => simp at hx
  | @cons x' y xs ys hy hys ih =>
    rcases mem_cons.1 hx with rfl | hx
    · exact ⟨y, by simp, hy⟩
    · obtain ⟨y', hy', hf⟩ := ih (compileAll_eq_ok.2 hys) hx
      exact ⟨y', by simp [hy'], hf⟩

theorem exists_of_mem_compileAll (h : compileAll f l = .ok ys) {y : β} (hy : y ∈ ys) :
    ∃ x ∈ l, f x = .ok y := by
  induction compileAll_eq_ok.1 h with
  | nil => simp at hy
  | @cons x y' xs ys hx hxs ih =>
    rcases mem_cons.1 hy with rfl | hy
    · exact ⟨x, by simp, hx⟩
    · obtain ⟨x', hx', hf⟩ := ih (compileAll_eq_ok.2 hxs) hy
      exact ⟨x', by simp [hx'], hf⟩

theorem exists_compileAll : (∃ ys, compileAll f l = .ok ys) ↔ ∀ x ∈ l, ∃ y, f x = .ok y := by
  induction l with
  | nil => simp [compileAll]
  | cons x xs ih =>
    rw [forall_mem_cons, ← ih]
    constructor
    · rintro ⟨ys, h⟩
      obtain ⟨y, hy, hrest⟩ := bind_eq_ok.1 h
      obtain ⟨ys', hys', -⟩ := bind_eq_ok.1 hrest
      exact ⟨⟨y, hy⟩, ys', hys'⟩
    · rintro ⟨⟨y, hy⟩, ys, hys⟩
      exact ⟨y :: ys, bind_eq_ok.2 ⟨y, hy, bind_eq_ok.2 ⟨ys, hys, rfl⟩⟩⟩

theorem foldlM_eq_ok {f : β → α → Except ε β} {g : β → α → β} {good : α → Prop}
    (h : ∀ b a b', f b a = .ok b' ↔ good a ∧ b' = g b a) {b' : β} :
    l.foldlM f b = .ok b' ↔ (∀ a ∈ l, good a) ∧ b' = l.foldl g b := by
  induction l generalizing b with
  | nil => simp [pure, Except.pure, eq_comm]
  | cons a l ih =>
    rw [foldlM_cons, bind_eq_ok, forall_mem_cons, foldl_cons]
    constructor
    · rintro ⟨b₁, hb₁, hrest⟩
      obtain ⟨hgood, rfl⟩ := (h _ _ _).1 hb₁
      obtain ⟨hall, heq⟩ := ih.1 hrest
      exact ⟨⟨hgood, hall⟩, heq⟩
    · rintro ⟨⟨hgood, hall⟩, heq⟩
      exact ⟨g b a, (h _ _ _).2 ⟨hgood, rfl⟩, ih.2 ⟨hall, heq⟩⟩

theorem foldl_of_mem {P : β → Prop} {f : β → α → β} (hkeep : ∀ b a, P b → P (f b a))
    (hx : ∀ b, P (f b x)) (hmem : x ∈ l) (b : β) : P (l.foldl f b) := by
  obtain ⟨before, after, rfl⟩ := append_of_mem hmem
  rw [foldl_append, foldl_cons]
  refine foldlRecOn after f (hx _) ?_
  intro b hb a _
  exact hkeep b a hb

theorem foldl_keeps (view : β → γ) {f : β → α → β} (h : ∀ b a, view (f b a) = view b) (l : List α)
    (b : β) : view (l.foldl f b) = view b := by
  induction l generalizing b with
  | nil => rfl
  | cons a l ih => rw [foldl_cons, ih, h]

theorem foldl_firstWrite (slot : β → Option γ) {f : β → α → β} {written : α → Option γ}
    (h : ∀ b a, slot (f b a) = (slot b).or (written a)) (l : List α) (b : β) :
    slot (l.foldl f b) = (slot b).or (l.findSome? written) := by
  induction l generalizing b with
  | nil => rw [foldl_nil, findSome?_nil, Option.or_none]
  | cons a l ih =>
    rw [foldl_cons, ih, h, Option.or_assoc, findSome?_cons]
    cases written a <;> rfl

theorem foldl_iff (Q : β → Prop) {f : β → α → β} (h : ∀ b a, Q (f b a) ↔ Q b ∨ P a) (l : List α)
    (b : β) :
    Q (l.foldl f b) ↔ Q b ∨ ∃ a ∈ l, P a := by
  induction l generalizing b with
  | nil => simp
  | cons a l ih => rw [foldl_cons, ih, h, exists_mem_cons_iff, or_assoc]

theorem foldl_flatMap_of_trans {R : List γ → β → β → Prop} (hrefl : ∀ b, R [] b b)
    (htrans : ∀ {xs ys b₁ b₂ b₃}, R xs b₁ b₂ → R ys b₂ b₃ → R (xs ++ ys) b₁ b₃) {f : β → α → β}
    {items : α → List γ} (h : ∀ b a, R (items a) b (f b a)) (l : List α) (b : β) :
    R (l.flatMap items) b (l.foldl f b) := by
  induction l generalizing b with
  | nil => exact hrefl b
  | cons a l ih =>
    exact htrans (h b a) (ih (f b a))

/-! ### Collecting what is new -/

section AddNew

variable {κ : Type} [DecidableEq κ]

/-- Adds what an element contributes, unless something with the same key is there. -/
def addNew (key : β → κ) (item : α → β) (acc : List β) (a : α) : List β :=
  if acc.any fun b => key b == key (item a) then acc else acc ++ [item a]

variable {key : β → κ} {item : α → β}

theorem mem_addNew {acc : List β} {a : α} {b : β} :
    b ∈ addNew key item acc a ↔ b ∈ acc ∨ b = item a ∧ ∀ b' ∈ acc, key b' ≠ key (item a) := by
  rw [addNew]
  split
  · rename_i hseen
    obtain ⟨b', hb', hkey⟩ := any_eq_true.1 hseen
    constructor
    · exact Or.inl
    · rintro (hb | ⟨-, hnew⟩)
      · exact hb
      · exact absurd (beq_iff_eq.1 hkey) (hnew b' hb')
  · rename_i hnew
    have hnone : ∀ b' ∈ acc, key b' ≠ key (item a) := by
      intro b' hb' hkey
      exact hnew (any_eq_true.2 ⟨b', hb', beq_iff_eq.2 hkey⟩)
    rw [mem_append, mem_singleton, and_iff_left hnone]

theorem mem_foldl_addNew {l : List α} {acc : List β} {b : β}
    (h : b ∈ l.foldl (addNew key item) acc) : b ∈ acc ∨ ∃ a ∈ l, b = item a := by
  have hstep : ∀ (acc : List β) (a : α), b ∈ addNew key item acc a → b ∈ acc ∨ b = item a := by
    intro acc a hb
    exact (mem_addNew.1 hb).imp_right And.left
  induction l generalizing acc with
  | nil => exact .inl h
  | cons a l ih =>
    rcases ih h with hb | ⟨a', ha', rfl⟩
    · rcases hstep acc a hb with hb | rfl
      · exact .inl hb
      · exact .inr ⟨a, mem_cons_self, rfl⟩
    · exact .inr ⟨a', mem_cons_of_mem _ ha', rfl⟩

theorem exists_key_foldl_addNew {l : List α} (acc : List β) {a : α} (ha : a ∈ l) :
    ∃ b ∈ l.foldl (addNew key item) acc, key b = key (item a) := by
  refine foldl_of_mem (P := fun acc => ∃ b ∈ acc, key b = key (item a)) ?_ ?_ ha acc
  · rintro acc a' ⟨b, hb, hkey⟩
    exact ⟨b, mem_addNew.2 (.inl hb), hkey⟩
  · intro acc
    by_cases hseen : ∃ b ∈ acc, key b = key (item a)
    · obtain ⟨b, hb, hkey⟩ := hseen
      exact ⟨b, mem_addNew.2 (.inl hb), hkey⟩
    · push Not at hseen
      exact ⟨item a, mem_addNew.2 (.inr ⟨rfl, hseen⟩), rfl⟩

theorem nodup_foldl_addNew {l : List α} {acc : List β} (h : (acc.map key).Nodup) :
    ((l.foldl (addNew key item) acc).map key).Nodup := by
  refine foldlRecOn (motive := fun acc : List β => (acc.map key).Nodup) l _ h ?_
  intro acc hacc a _
  rw [addNew]
  split
  · exact hacc
  · rename_i hnew
    rw [map_append, map_singleton]
    refine List.Nodup.append hacc (nodup_singleton _) ?_
    intro k hk hk'
    obtain rfl := mem_singleton.1 hk'
    obtain ⟨b, hb, hkey⟩ := mem_map.1 hk
    exact hnew (any_eq_true.2 ⟨b, hb, beq_iff_eq.2 hkey⟩)

def firsts (k : α → κ) (l : List α) : List α :=
  (List.range l.length).filterMap fun i =>
    l[i]?.filter fun a => (l.take i).all fun b => k b != k a

variable {k : α → κ}

theorem firsts_append_singleton (l : List α) (a : α) :
    firsts k (l ++ [a]) = firsts k l ++ if l.all fun b => k b != k a then [a] else [] := by
  have hbefore : ∀ i ∈ range l.length,
      ((l ++ [a])[i]?.filter fun a' => ((l ++ [a]).take i).all fun b => k b != k a') =
        l[i]?.filter fun a' => (l.take i).all fun b => k b != k a' := by
    intro i hi
    have hlt := mem_range.1 hi
    rw [getElem?_append_left hlt, take_append_of_le_length (Nat.le_of_lt hlt)]
  rw [firsts, length_append, length_singleton, range_succ, filterMap_append,
    filterMap_congr hbefore]
  rw [filterMap_cons, getElem?_concat_length, take_left, Option.filter_some]
  cases l.all fun b => k b != k a <;> rfl

theorem firsts_sublist (k : α → κ) (l : List α) : (firsts k l).Sublist l := by
  induction l using reverseRecOn with
  | nil => exact List.Sublist.refl []
  | append_singleton l a ih =>
    rw [firsts_append_singleton]
    refine ih.append ?_
    split
    · exact List.Sublist.refl [a]
    · exact nil_sublist [a]

theorem firsts_isPrefix (k : α → κ) (l l' : List α) : firsts k l <+: firsts k (l ++ l') := by
  induction l' using reverseRecOn with
  | nil =>
    simp
  | append_singleton l' a ih =>
    rw [← append_assoc, firsts_append_singleton]
    exact ih.trans (prefix_append _ _)

theorem foldl_addNew_eq_firsts (l : List α) :
    l.foldl (addNew key item) [] = (firsts (fun a => key (item a)) l).map item := by
  induction l using reverseRecOn with
  | nil => rfl
  | append_singleton l a ih =>
    have hseen : ((l.foldl (addNew key item) []).any fun b => key b == key (item a)) =
        !l.all fun b => key (item b) != key (item a) := by
      rw [Bool.eq_iff_iff, any_eq_true, Bool.not_eq_true', all_eq_false]
      constructor
      · intro h
        obtain ⟨b, hb, hkey⟩ := h
        obtain ⟨a', ha', rfl⟩ := (mem_foldl_addNew hb).resolve_left not_mem_nil
        exact ⟨a', ha', by simpa using hkey⟩
      · intro h
        obtain ⟨a', ha', hkey⟩ := h
        obtain ⟨b, hb, hb'⟩ := (exists_key_foldl_addNew [] ha' :
          ∃ b ∈ l.foldl (addNew key item) [], key b = key (item a'))
        exact ⟨b, hb, by rw [hb']; simpa using hkey⟩
    rw [foldl_append, foldl_cons, foldl_nil, addNew, hseen, firsts_append_singleton, map_append, ih]
    cases l.all fun b => key (item b) != key (item a) <;> simp

end AddNew

/-! ### The first element with a property -/

inductive IsFirst (P : α → Prop) : List α → α → Prop
  | here {x : α} {l : List α} (h : P x) : IsFirst P (x :: l) x
  | there {x y : α} {l : List α} (hy : ¬P y) (h : IsFirst P l x) : IsFirst P (y :: l) x

theorem IsFirst.mem (h : IsFirst P l x) : x ∈ l := by
  induction h with
  | here => exact mem_cons_self
  | there _ _ ih => exact mem_cons_of_mem _ ih

theorem IsFirst.holds (h : IsFirst P l x) : P x := by
  induction h with
  | here h => exact h
  | there _ _ ih => exact ih

theorem isFirst_cons {y : α} : IsFirst P (y :: l) x ↔ P y ∧ x = y ∨ ¬P y ∧ IsFirst P l x := by
  constructor
  · intro h
    cases h with
    | here h => exact Or.inl ⟨h, rfl⟩
    | there hy h => exact Or.inr ⟨hy, h⟩
  · rintro (⟨hy, rfl⟩ | ⟨hy, h⟩)
    · exact .here hy
    · exact .there hy h

theorem exists_isFirst {P : α → Prop} {l : List α} {x : α} (hx : x ∈ l) (hP : P x) :
    ∃ y, IsFirst P l y := by
  induction l with
  | nil => cases hx
  | cons z l ih =>
    by_cases hz : P z
    · exact ⟨z, .here hz⟩
    · rcases mem_cons.1 hx with rfl | hx
      · exact absurd hP hz
      · obtain ⟨y, hy⟩ := ih hx
        exact ⟨y, .there hz hy⟩

theorem IsFirst.eq_or_of_pairwise {R : α → α → Prop} {y : α} (h : IsFirst P l x)
    (hl : l.Pairwise R) (hy : y ∈ l) (hP : P y) : x = y ∨ R x y := by
  induction h with
  | here =>
    rcases mem_cons.1 hy with rfl | hy
    · exact Or.inl rfl
    · exact Or.inr (rel_of_pairwise_cons hl hy)
  | there hz _ ih =>
    rcases mem_cons.1 hy with rfl | hy
    · exact absurd hP hz
    · exact ih hl.of_cons hy

theorem isFirst_filter {p : α → Bool} (hp : ∀ x, P x → p x = true) :
    IsFirst P (l.filter p) x ↔ IsFirst P l x := by
  induction l with
  | nil => rfl
  | cons y l ih =>
    rw [filter_cons]
    split
    · rw [isFirst_cons, isFirst_cons, ih]
    · rename_i hy
      have hPy : ¬P y := fun h => hy (hp y h)
      rw [ih, isFirst_cons]
      simp [hPy]

theorem isFirst_map {P : β → Prop} {f : α → β} {y : β} :
    IsFirst P (l.map f) y ↔ ∃ x, IsFirst (fun x => P (f x)) l x ∧ f x = y := by
  induction l with
  | nil =>
    constructor
    · intro h
      cases h
    · rintro ⟨x, h, -⟩
      cases h
  | cons a l ih =>
    rw [map_cons, isFirst_cons, ih]
    constructor
    · rintro (⟨ha, rfl⟩ | ⟨ha, x, hx, rfl⟩)
      · exact ⟨a, .here ha, rfl⟩
      · exact ⟨x, .there ha hx, rfl⟩
    · rintro ⟨x, hx, rfl⟩
      rcases isFirst_cons.1 hx with ⟨ha, rfl⟩ | ⟨ha, hx⟩
      · exact Or.inl ⟨ha, rfl⟩
      · exact Or.inr ⟨ha, x, hx, rfl⟩

theorem exists_findIdx?_iff {q : β → Bool} {l' : List β}
    (h : List.Forall₂ (fun x y => q y = true ↔ P x) l l') :
    (∃ k, l'.findIdx? q = some k ∧ l[k]? = some x) ↔ IsFirst P l x := by
  induction h with
  | nil =>
    constructor
    · rintro ⟨k, hk, -⟩
      cases hk
    · intro h
      cases h
  | @cons a b l l' hab _ ih =>
    rw [isFirst_cons, ← ih, findIdx?_cons, ← hab]
    cases q b with
    | true => simp [eq_comm]
    | false => simp

theorem find?_eq_find?_iff {p : α → Bool} :
    l.find? p = l.find? q ↔
      ∀ x, l.find? (fun a => p a || q a) = some x → p x = true ∧ q x = true := by
  induction l with
  | nil => simp
  | cons a l ih =>
    simp only [find?_cons]
    cases hp : p a <;> cases hq : q a
    · exact ih
    · -- only the second search stops here
      simp only [Bool.false_or, Option.some.injEq, forall_eq', hp, Bool.false_eq_true, false_and,
        iff_false]
      intro h
      rw [find?_some h] at hp
      cases hp
    · simp only [Bool.true_or, Option.some.injEq, forall_eq', hq, Bool.false_eq_true, and_false,
        iff_false]
      intro h
      rw [find?_some h.symm] at hq
      cases hq
    · simp [hp, hq]

theorem exists_of_findSome?_ne {f g : α → Option β} (h : l.findSome? f ≠ l.findSome? g) :
    ∃ before x after, l = before ++ x :: after ∧
      (∀ y ∈ before, f y = none ∧ g y = none) ∧ f x ≠ g x := by
  induction l with
  | nil => exact absurd rfl h
  | cons a l ih =>
    by_cases hsame : f a = g a
    · rw [findSome?_cons, findSome?_cons, ← hsame] at h
      cases hfa : f a with
      | some y => exact absurd (by rw [hfa]) h
      | none =>
        rw [hfa] at h
        obtain ⟨before, x, after, rfl, hbefore, hne⟩ := ih h
        refine ⟨a :: before, x, after, rfl, ?_, hne⟩
        exact forall_mem_cons.2 ⟨⟨hfa, hsame.symm.trans hfa⟩, hbefore⟩
    · exact ⟨[], a, l, rfl, by simp, hsame⟩

theorem find?_of_nodup_map [DecidableEq β] {key : α → β} (h : (l.map key).Nodup) (ha : a ∈ l) :
    l.find? (fun b => key b == key a) = some a := by
  cases hfind : l.find? fun b => key b == key a with
  | none => exact absurd (beq_self_eq_true (key a)) (find?_eq_none.1 hfind a ha)
  | some b =>
    have hhit := find?_some hfind
    have hkey : key b = key a := beq_iff_eq.1 hhit
    rw [inj_on_of_nodup_map h (mem_of_find?_eq_some hfind) ha hkey]

theorem find?_insertionSort [DecidableRel r] (h : (l.filter q).Pairwise r) :
    (l.insertionSort r).find? q = l.find? q := by
  -- the hits stay in the order they have, and sorting adds none
  have hsub : (l.filter q).Sublist ((l.insertionSort r).filter q) := by
    have hfilter := (sublist_insertionSort h filter_sublist).filter q
    simpa only [filter_filter, Bool.and_self] using hfilter
  have hlen : (l.filter q).length = ((l.insertionSort r).filter q).length :=
    (((perm_insertionSort r l).filter q).length_eq).symm
  rw [← head?_filter, ← head?_filter, hsub.eq_of_length hlen]

theorem find?_insertionSort_cons [DecidableRel r] (ha : q a = true)
    (hfirst : ∀ b ∈ l, q b = true → r a b) :
    ((a :: l).insertionSort r).find? q = some a := by
  rw [insertionSort_cons, orderedInsert_eq_take_drop]
  refine find?_eq_some_iff_append.2 ⟨ha, _, _, rfl, ?_⟩
  intro b hb
  have hmem := (mem_insertionSort r).1 ((takeWhile_sublist _).subset hb)
  have hnot := all_eq_true.1 all_takeWhile b hb
  rw [decide_eq_true_eq] at hnot
  rw [Bool.not_eq_true', ← Bool.not_eq_true]
  exact fun hhit => hnot (hfirst b hmem hhit)

theorem insertionSort_congr [DecidableRel r] [Std.Total r] [IsTrans α r] {l' : List α}
    (hanti : ∀ a ∈ l, ∀ b ∈ l, r a b → r b a → a = b) (h : l.Perm l') :
    l.insertionSort r = l'.insertionSort r := by
  have hperm : (l.insertionSort r).Perm (l'.insertionSort r) :=
    (perm_insertionSort r l).trans (h.trans (perm_insertionSort r l').symm)
  refine hperm.eq_of_pairwise ?_ (pairwise_insertionSort r l) (pairwise_insertionSort r l')
  intro a b ha hb
  exact hanti a ((mem_insertionSort r).1 ha) b (h.mem_iff.2 ((mem_insertionSort r).1 hb))

theorem insertionSort_map_eq_iff {r : β → β → Prop} [DecidableRel r] {f g : α → β}
    (h : ∀ a ∈ l, ∀ b ∈ l, r (f a) (f b) ↔ r (g a) (g b)) :
    (l.map f).insertionSort r = (l.map g).insertionSort r ↔ ∀ a ∈ l, f a = g a := by
  -- both are images of one sorted list of places
  have hf := map_insertionSort (fun a b => r (f a) (f b)) r f l (fun _ _ _ _ => Iff.rfl)
  have hg := map_insertionSort (fun a b => r (f a) (f b)) r g l h
  rw [← hf, ← hg, map_inj_left]
  simp

/-! ### Changing the first hit -/

def updateFirst (p : α → Bool) (f : α → α) : List α → List α
  | [] => []
  | a :: l => if p a then f a :: l else a :: updateFirst p f l

theorem getElem?_updateFirst (p : α → Bool) (f : α → α) (l : List α) (i : ℕ) :
    (updateFirst p f l)[i]? = if l.findIdx? p = some i then l[i]?.map f else l[i]? := by
  induction l generalizing i with
  | nil => rfl
  | cons a l ih =>
    rw [updateFirst, findIdx?_cons]
    cases hp : p a with
    | true => cases i <;> simp
    | false => cases i <;> simp [ih]

theorem map_updateFirst (p : α → Bool) {f : α → α} {g : α → γ} (hf : ∀ a, g (f a) = g a)
    (l : List α) : (updateFirst p f l).map g = l.map g := by
  induction l with
  | nil => rfl
  | cons a l ih =>
    rw [updateFirst]
    cases hp : p a with
    | true => simp [hf]
    | false => simp [ih]

end Check
