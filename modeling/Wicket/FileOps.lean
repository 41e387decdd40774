/-
**Replacing files one after the other, and stopping anywhere.**

A process that stops has replaced the first few files completely and the others not at all, but for
temporary files.
-/

import Mathlib.Data.Set.Basic

namespace Files

open Nat Function List

/-! ### Operations on a directory -/

abbrev Directory : Type := String → Option (List UInt8)

inductive Op
  /-- An empty file in the place of what was there. -/
  | create (name : String)
  | append (name : String) (byte : UInt8)
  | rename (source target : String)

/-- One operation.  A file that is not there is neither written nor renamed. -/
def Op.apply (d : Directory) : Op → Directory
  | .create name => Function.update d name (some [])
  | .append name byte => Function.update d name ((d name).map (· ++ [byte]))
  | .rename source target =>
    match d source with
    | none => d
    | some content => Function.update (Function.update d source none) target (some content)

def run (d : Directory) (ops : List Op) : Directory := ops.foldl Op.apply d

variable (d : Directory)

@[simp] theorem run_nil : run d [] = d := rfl

@[simp] theorem run_cons (op : Op) (ops : List Op) : run d (op :: ops) = run (op.apply d) ops := rfl

theorem run_append (ops ops' : List Op) : run d (ops ++ ops') = run (run d ops) ops' := foldl_append

/-! ### Replacing a file -/

structure Replacement where
  temp : String
  name : String
  data : List UInt8

def Replacement.ops (r : Replacement) : List Op :=
  .create r.temp :: (r.data.map (.append r.temp) ++ [.rename r.temp r.name])

theorem run_map_append (temp : String) (data : List UInt8) :
    ∀ (d : Directory) (content : List UInt8), d temp = some content →
      run d (data.map (.append temp)) = update d temp (some (content ++ data)) := by
  induction data with
  | nil =>
    intro d content h
    rw [map_nil, run_nil, append_nil, ← h, update_eq_self]
  | cons byte data ih =>
    intro d content h
    rw [map_cons, run_cons, Op.apply, h, Option.map_some]
    rw [ih _ (content ++ [byte]) (update_self ..), update_idem, append_assoc, singleton_append]

theorem run_ops (r : Replacement) :
    run d r.ops = update (update d r.temp none) r.name (some r.data) := by
  rw [Replacement.ops, run_cons, run_append, Op.apply]
  rw [run_map_append r.temp r.data _ [] (update_self ..), nil_append, update_idem]
  simp [Op.apply]

/-! ### What a stopped replacement leaves -/

def AgreeOff (temps : Set String) (d e : Directory) : Prop := ∀ name ∉ temps, d name = e name

theorem AgreeOff.refl (temps : Set String) (d : Directory) : AgreeOff temps d d :=
  fun _ _ => rfl

theorem AgreeOff.trans {temps : Set String} {d e f : Directory} (h : AgreeOff temps d e)
    (h' : AgreeOff temps e f) : AgreeOff temps d f :=
  fun name hname => (h name hname).trans (h' name hname)

variable {temps : Set String}

theorem agreeOff_update {temp : String} (htemp : temp ∈ temps) (d : Directory)
    (content : Option (List UInt8)) :
    AgreeOff temps (update d temp content) d := by
  intro name hname
  have hne : name ≠ temp := fun h => hname (h ▸ htemp)
  rw [update_of_ne hne]

theorem AgreeOff.update {d e : Directory} (h : AgreeOff temps d e) (name : String)
    (content : Option (List UInt8)) :
    AgreeOff temps (update d name content) (update e name content) := by
  intro other hother
  by_cases heq : other = name
  · rw [heq, update_self, update_self]
  · rw [update_of_ne heq, update_of_ne heq, h other hother]

theorem run_ops_take {r : Replacement} (htemp : r.temp ∈ temps) (d : Directory) {k : ℕ}
    (hk : k < r.ops.length) :
    AgreeOff temps (run d (r.ops.take k)) d := by
  cases k with
  | zero => exact .refl temps d
  | succ k =>
    -- the renaming, which is the last operation, is not reached
    have hle : k ≤ (r.data.map (Op.append r.temp)).length := by
      simp only [Replacement.ops, length_cons, length_append, length_nil] at hk
      omega
    rw [Replacement.ops, take_succ_cons, run_cons, Op.apply,
      take_append_of_le_length hle, ← map_take]
    rw [run_map_append r.temp _ _ [] (update_self ..), update_idem]
    exact agreeOff_update htemp d _

/-! ### Replacing several files -/

def replaceOps (rs : List Replacement) : List Op := rs.flatMap Replacement.ops

def replaced (d : Directory) (rs : List Replacement) : Directory :=
  rs.foldl (fun d r => Function.update d r.name (some r.data)) d

theorem AgreeOff.replaced {temps : Set String} {d e : Directory} (h : AgreeOff temps d e)
    (rs : List Replacement) : AgreeOff temps (replaced d rs) (replaced e rs) := by
  induction rs generalizing d e with
  | nil => exact h
  | cons r rs ih => exact ih (h.update r.name (some r.data))

theorem agreeOff_run_ops {r : Replacement} (htemp : r.temp ∈ temps) (d : Directory) :
    AgreeOff temps (run d r.ops) (update d r.name (some r.data)) := by
  rw [run_ops]
  exact (agreeOff_update htemp d none).update r.name (some r.data)

variable (rs : List Replacement)

/-- **After any number of operations** the first few files are replaced, and the others are as they
were. -/
theorem run_replaceOps_take (htemps : ∀ r ∈ rs, r.temp ∈ temps) (d : Directory) (k : ℕ) :
    ∃ n ≤ rs.length, AgreeOff temps (run d ((replaceOps rs).take k)) (replaced d (rs.take n)) := by
  induction rs generalizing d k with
  | nil => exact ⟨0, le_refl 0, by simp [replaceOps, replaced, AgreeOff.refl]⟩
  | cons r rs ih =>
    have htemp : r.temp ∈ temps := htemps r mem_cons_self
    rw [replaceOps, flatMap_cons]
    by_cases hk : k < r.ops.length
    · refine ⟨0, zero_le _, ?_⟩
      rw [take_append_of_le_length (le_of_lt hk)]
      exact run_ops_take htemp d hk
    · obtain ⟨n, hn, h⟩ := ih (fun s hs => htemps s (mem_cons_of_mem r hs))
        (run d r.ops) (k - r.ops.length)
      refine ⟨n + 1, succ_le_succ hn, ?_⟩
      rw [take_append, take_of_length_le (not_lt.1 hk), run_append]
      exact h.trans ((agreeOff_run_ops htemp d).replaced (rs.take n))

theorem run_replaceOps (htemps : ∀ r ∈ rs, r.temp ∈ temps) (d : Directory) :
    AgreeOff temps (run d (replaceOps rs)) (replaced d rs) := by
  induction rs generalizing d with
  | nil => exact .refl temps d
  | cons r rs ih =>
    rw [replaceOps, flatMap_cons, run_append]
    have hrest := ih (fun s hs => htemps s (mem_cons_of_mem r hs)) (run d r.ops)
    exact hrest.trans ((agreeOff_run_ops (htemps r mem_cons_self) d).replaced rs)

theorem exists_take_replaceOps (htemps : ∀ r ∈ rs, r.temp ∈ temps) (d : Directory) (n : ℕ) :
    ∃ k, AgreeOff temps (run d ((replaceOps rs).take k)) (replaced d (rs.take n)) := by
  refine ⟨(replaceOps (rs.take n)).length, ?_⟩
  have hsplit : replaceOps rs = replaceOps (rs.take n) ++ replaceOps (rs.drop n) := by
    rw [replaceOps, replaceOps, replaceOps, ← flatMap_append, take_append_drop]
  rw [hsplit, take_left]
  exact run_replaceOps (rs.take n) (fun r hr => htemps r (mem_of_mem_take hr)) d

end Files
