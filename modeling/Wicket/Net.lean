/-
**Socket addresses and their textual syntax.**

The reader follows the recursive-descent reader of the source language's standard library step by
step.
-/

import Mathlib.Data.Fin.VecNotation
import Mathlib.Data.Fintype.Pi
import Mathlib.Tactic.FinCases
import Mathlib.Tactic.IntervalCases
import Wicket.Text

namespace Net

open Nat Option List UInt8 UInt32 Prod

/-! ### Addresses -/

structure Ipv4Addr where
  octets : Fin 4 → UInt8
  deriving DecidableEq

structure Ipv6Addr where
  segments : Fin 8 → UInt16
  deriving DecidableEq

inductive IpAddr
  | v4 (ip : Ipv4Addr)
  | v6 (ip : Ipv6Addr)
  deriving DecidableEq

inductive SocketAddr
  | v4 (ip : Ipv4Addr) (port : UInt16)
  | v6 (ip : Ipv6Addr) (port : UInt16) (flowinfo scopeId : UInt32)
  deriving DecidableEq

def SocketAddr.port : SocketAddr → UInt16
  | .v4 _ port => port
  | .v6 _ port _ _ => port

def Ipv4Addr.unspecified : Ipv4Addr := ⟨fun _ => 0⟩

/-! ### Readers -/

/-- A reader takes a value off the front of the text, or fails without using any of it. -/
abbrev Reader (α : Type) : Type := List Char → Option (α × List Char)

def toDigit (radix : ℕ) (c : Char) : Option ℕ :=
  let d :=
    if c.isDigit then c.toNat - '0'.toNat
    else if c.isLower then c.toNat - 'a'.toNat + 10
    else if c.isUpper then c.toNat - 'A'.toNat + 10
    else radix
  if d < radix then some d else none

def readGivenChar (target : Char) : Reader Unit
  | c :: cs => if c = target then some ((), cs) else none
  | [] => none

/-- Reads a number below `bound` from the longest run of digits, of at most `maxDigits`. -/
def readNumber (radix : ℕ) (maxDigits : Option ℕ) (allowZeroPrefix : Bool) (bound : ℕ) : Reader ℕ :=
  fun cs =>
    let ds := cs.takeWhile fun c => (toDigit radix c).isSome
    let n := ds.foldl (fun acc c => radix * acc + (toDigit radix c).getD 0) 0
    if ds.isEmpty then none
    else if maxDigits.any (· < ds.length) then none
    else if !allowZeroPrefix && ds.head? == some '0' && decide (1 < ds.length) then none
    else if n < bound then some (n, cs.dropWhile fun c => (toDigit radix c).isSome)
    else none

def readSeparator {α : Type} (sep : Char) (first : Bool) (inner : Reader α) : Reader α :=
  fun cs =>
    if first then inner cs
    else do
      let (_, cs) ← readGivenChar sep cs
      inner cs

/-- Reads an IPv4 address: four decimal octets without leading zeros. -/
def readIpv4Addr : Reader Ipv4Addr := fun cs => do
  let (a, cs) ← readSeparator '.' true (readNumber 10 (some 3) false 256) cs
  let (b, cs) ← readSeparator '.' false (readNumber 10 (some 3) false 256) cs
  let (c, cs) ← readSeparator '.' false (readNumber 10 (some 3) false 256) cs
  let (d, cs) ← readSeparator '.' false (readNumber 10 (some 3) false 256) cs
  some (⟨![UInt8.ofNat a, UInt8.ofNat b, UInt8.ofNat c, UInt8.ofNat d]⟩, cs)

def segmentOf (hi lo : UInt8) : UInt16 := UInt16.ofNat (256 * hi.toNat + lo.toNat)

/-- Reads at most `limit` groups, and whether the last two were written as an IPv4 address. -/
def readGroups : ℕ → Bool → List Char → List UInt16 × Bool × List Char
  | 0, _, cs => ([], false, cs)
  | limit + 1, first, cs =>
    match if 1 ≤ limit then readSeparator ':' first readIpv4Addr cs else none with
    | some (ip, rest) =>
      ([segmentOf (ip.octets 0) (ip.octets 1), segmentOf (ip.octets 2) (ip.octets 3)], true, rest)
    | none =>
      match readSeparator ':' first (readNumber 16 (some 4) true 65536) cs with
      | some (g, rest) =>
        let (gs, ipv4, rest) := readGroups limit false rest
        (UInt16.ofNat g :: gs, ipv4, rest)
      | none => ([], false, cs)

/-- Reads an IPv6 address: eight groups, or fewer around one `::`. -/
def readIpv6Addr : Reader Ipv6Addr := fun cs =>
  let (head, headIpv4, cs) := readGroups 8 true cs
  if head.length = 8 then some (⟨fun i => head.getD i 0⟩, cs)
  else if headIpv4 then none
  else do
    let (_, cs) ← readGivenChar ':' cs
    let (_, cs) ← readGivenChar ':' cs
    let (tail, _, cs) := readGroups (8 - (head.length + 1)) true cs
    let zeros := List.replicate (8 - (head.length + tail.length)) (0 : UInt16)
    some (⟨fun i => (head ++ zeros ++ tail).getD i 0⟩, cs)

def readPort : Reader UInt16 := fun cs => do
  let (_, cs) ← readGivenChar ':' cs
  let (n, cs) ← readNumber 10 none true 65536 cs
  some (UInt16.ofNat n, cs)

def readScopeId : Reader UInt32 := fun cs => do
  let (_, cs) ← readGivenChar '%' cs
  let (n, cs) ← readNumber 10 none true 4294967296 cs
  some (UInt32.ofNat n, cs)

def readSocketAddrV4 : Reader SocketAddr := fun cs => do
  let (ip, cs) ← readIpv4Addr cs
  let (port, cs) ← readPort cs
  some (.v4 ip port, cs)

def readSocketAddrV6 : Reader SocketAddr := fun cs => do
  let (_, cs) ← readGivenChar '[' cs
  let (ip, cs) ← readIpv6Addr cs
  let (scopeId, cs) := (readScopeId cs).getD (0, cs)
  let (_, cs) ← readGivenChar ']' cs
  let (port, cs) ← readPort cs
  some (.v6 ip port 0 scopeId, cs)

def readSocketAddr : Reader SocketAddr := fun cs =>
  (readSocketAddrV4 cs).or (readSocketAddrV6 cs)

def parseSocketAddr (s : String) : Option SocketAddr :=
  match readSocketAddr s.toList with
  | some (addr, []) => some addr
  | _ => none

example : parseSocketAddr "10.0.0.7:8080" = some (.v4 ⟨![10, 0, 0, 7]⟩ 8080) := by decide
example : (parseSocketAddr "[fd00::1%2]:443").isSome = true := by decide
example : parseSocketAddr "fd00::1:443" = none := by decide

/-! ### Numerals are read back -/

variable {c : Char} {radix : ℕ} {α : Type}

theorem toDigit_ten (h : c.isDigit = true) : toDigit 10 c = some (c.toNat - '0'.toNat) := by
  have hlt : c.toNat - '0'.toNat < 10 := by
    simp only [Char.isDigit, Bool.and_eq_true, decide_eq_true_eq, ge_iff_le,
      UInt32.le_iff_toNat_le] at h
    have h2 : c.toNat ≤ 57 := h.2
    have h0 : '0'.toNat = 48 := rfl
    omega
  simp only [toDigit, h, if_true, hlt]

theorem isDigit_of_toDigit_ten (h : (toDigit 10 c).isSome = true) : c.isDigit = true := by
  by_contra hd
  -- a letter counts at least ten
  have hge : ¬(if c.isLower then c.toNat - 'a'.toNat + 10
      else if c.isUpper then c.toNat - 'A'.toNat + 10 else 10) < 10 := by
    split_ifs <;> omega
  simp only [toDigit, if_neg hd, if_neg hge, isSome_none] at h
  cases h

theorem toDigit_digitChar {d : ℕ} (hradix : radix ≤ 16) (hd : d < radix) :
    toDigit radix d.digitChar = some d := by
  have hchar : ∀ d < 16, (if d.digitChar.isDigit then d.digitChar.toNat - '0'.toNat
      else if d.digitChar.isLower then d.digitChar.toNat - 'a'.toNat + 10
      else if d.digitChar.isUpper then d.digitChar.toNat - 'A'.toNat + 10 else radix) = d := by
    intro d hd
    interval_cases d <;> rfl
  simp only [toDigit, hchar d (lt_of_lt_of_le hd hradix), if_pos hd]

section Numeral

variable {radix : ℕ} (hone : 1 < radix) (hradix : radix ≤ 16)

include hone hradix

theorem foldl_toDigits (n : ℕ) :
    (Nat.toDigits radix n).foldl (fun acc c => radix * acc + (toDigit radix c).getD 0) 0 = n := by
  induction n using Nat.strong_induction_on with
  | _ n ih =>
    rw [Nat.toDigits_eq_if hone]
    split
    case isTrue hlt => simp [toDigit_digitChar hradix hlt]
    case isFalse hge =>
      have hdiv : n / radix < n := div_lt_self (by omega) hone
      rw [foldl_append, ih _ hdiv, foldl_cons, foldl_nil,
        toDigit_digitChar hradix (mod_lt n (by omega)), getD_some, div_add_mod]

theorem isSome_toDigit_of_mem {n : ℕ} {c : Char} (hc : c ∈ toDigits radix n) :
    (toDigit radix c).isSome = true := by
  induction n using Nat.strong_induction_on with
  | _ n ih =>
    rw [Nat.toDigits_eq_if hone] at hc
    split at hc
    case isTrue hlt =>
      rw [mem_singleton.1 hc, toDigit_digitChar hradix hlt]
      rfl
    case isFalse hge =>
      rcases mem_append.1 hc with hc | hc
      · exact ih _ (div_lt_self (by omega) hone) hc
      · rw [mem_singleton.1 hc, toDigit_digitChar hradix (mod_lt n (by omega))]
        rfl

theorem eq_zero_of_head?_toDigits {n : ℕ} (h : (toDigits radix n).head? = some '0') : n = 0 := by
  induction n using Nat.strong_induction_on with
  | _ n ih =>
    rw [Nat.toDigits_eq_if hone] at h
    split at h
    case isTrue hlt =>
      -- a single digit is the zero when its character is
      have hval := toDigit_digitChar hradix hlt
      rw [some.inj h] at hval
      have hzero : toDigit radix '0' = some 0 := toDigit_digitChar hradix (by omega : 0 < radix)
      exact some.inj (hval.symm.trans hzero)
    case isFalse hge =>
      have hdiv : n / radix < n := div_lt_self (by omega) hone
      rw [head?_append_of_ne_nil _ toDigits_ne_nil] at h
      have hsmall : n / radix = 0 := ih _ hdiv h
      have hpos : 0 < n / radix := div_pos (by omega) (by omega)
      omega

/-- **A numeral is read back as its number**, up to the next character that is no digit, when it has
no more digits than are allowed. -/
theorem readNumber_toDigits {n bound : ℕ} {maxDigits : Option ℕ} {zero : Bool} {rest : List Char}
    (hn : n < bound) (hlen : ∀ m ∈ maxDigits, (toDigits radix n).length ≤ m)
    (hrest : ∀ c ∈ rest.head?, (toDigit radix c).isSome = false) :
    readNumber radix maxDigits zero bound (toDigits radix n ++ rest) = some (n, rest) := by
  have hread := @Text.takeWhile_append_stop Char (fun c => (toDigit radix c).isSome)
    (toDigits radix n) rest (fun c hc => isSome_toDigit_of_mem hone hradix hc) hrest
  have hmax : maxDigits.any (· < (toDigits radix n).length) = false := by
    cases maxDigits with
    | none => rfl
    | some m => exact decide_eq_false (not_lt.2 (hlen m rfl))
  -- a numeral of more than one digit does not start with a zero
  have hzero : ((toDigits radix n).head? == some '0' &&
      decide (1 < (toDigits radix n).length)) = false := by
    rw [← Bool.not_eq_true, Bool.and_eq_true, beq_iff_eq, decide_eq_true_eq]
    intro h
    obtain ⟨hhead, hlong⟩ := h
    rw [eq_zero_of_head?_toDigits hone hradix hhead] at hlong
    simp at hlong
  simp [readNumber, hread.1, hread.2, foldl_toDigits hone hradix, hmax, Bool.and_assoc, hzero,
    if_pos hn]

end Numeral

theorem isSome_toDigit_ten {rest : List Char} (hrest : ∀ c ∈ rest.head?, c.isDigit = false) :
    ∀ c ∈ rest.head?, (toDigit 10 c).isSome = false := by
  intro c hc
  rw [← Bool.not_eq_true]
  intro h
  have hdigit := hrest c hc
  rw [isDigit_of_toDigit_ten h] at hdigit
  cases hdigit

theorem readNumber_numeral {n bound : ℕ} {rest : List Char} (hn : n < bound)
    (hrest : ∀ c ∈ rest.head?, c.isDigit = false) :
    readNumber 10 none true bound ((toString n).toList ++ rest) = some (n, rest) := by
  rw [toString_eq_repr, toList_repr]
  exact readNumber_toDigits (by decide) (by decide) hn (by simp) (isSome_toDigit_ten hrest)

theorem readPort_numeral (port : UInt16) :
    readPort (':' :: (toString port.toNat).toList) = some (port, []) := by
  have h := @readNumber_numeral port.toNat 65536 [] port.toNat_lt (by simp)
  rw [append_nil] at h
  simp only [readPort, readGivenChar, if_true, h, bind_eq_bind, bind_some, UInt16.ofNat_toNat]

theorem readNumber_zero {cs : List Char} (hc : c.isDigit = false) :
    readNumber 10 (some 3) false 256 ('0' :: c :: cs) = some (0, c :: cs) := by
  have hrest : ∀ c' ∈ (c :: cs).head?, c'.isDigit = false := by
    intro c' hc'
    obtain rfl : c = c' := by simpa using hc'
    exact hc
  have hdigits : toDigits 10 0 = ['0'] := rfl
  have hread := @readNumber_toDigits 10 (by decide) (by decide) 0 256 (some 3) false (c :: cs)
    (by decide) (by simp) (isSome_toDigit_ten hrest)
  rwa [hdigits, singleton_append] at hread

theorem readIpv4Addr_any (rest : List Char) :
    readIpv4Addr ("0.0.0.0:".toList ++ rest) = some (.unspecified, ':' :: rest) := by
  have hdot : '.'.isDigit = false := rfl
  have hcolon : ':'.isDigit = false := rfl
  have hoctets : Ipv4Addr.mk ![ofNat 0, ofNat 0, ofNat 0, ofNat 0] =
      .unspecified := by
    rw [Ipv4Addr.unspecified, Ipv4Addr.mk.injEq]
    funext i
    fin_cases i <;> rfl
  show readIpv4Addr ('0' :: '.' :: '0' :: '.' :: '0' :: '.' :: '0' :: ':' :: rest) = _
  simp only [readIpv4Addr, readSeparator, readGivenChar, readNumber_zero hdot,
    readNumber_zero hcolon, if_true, Bool.false_eq_true, if_false, bind_eq_bind, bind_some, hoctets]

theorem parseSocketAddr_any (port : UInt16) :
    parseSocketAddr ("0.0.0.0:" ++ toString port.toNat) = some (.v4 .unspecified port) := by
  have hread : readSocketAddr ("0.0.0.0:" ++ toString port.toNat).toList =
      some (.v4 .unspecified port, []) := by
    rw [String.toList_append]
    simp only [readSocketAddr, readSocketAddrV4, readIpv4Addr_any, readPort_numeral,
      bind_eq_bind, bind_some, some_or]
  rw [parseSocketAddr, hread]

/-! ### The characters of an address -/

def addrChar (c : Char) : Bool :=
  (toDigit 16 c).isSome || c == '.' || c == ':' || c == '[' || c == ']' || c == '%'

def Uses {α : Type} (r : Reader α) : Prop :=
  ∀ cs x rest, r cs = some (x, rest) → ∃ used, cs = used ++ rest ∧ ∀ c ∈ used, addrChar c = true

theorem Uses.bind {β : Type} {r : Reader α} {f : α → Reader β} (hr : Uses r)
    (hf : ∀ a, Uses (f a)) : Uses fun cs => (r cs).bind fun p => f p.1 p.2 := by
  intro cs x rest h
  obtain ⟨⟨a, mid⟩, ha, hx⟩ := bind_eq_some_iff.1 h
  obtain ⟨u, rfl, hu⟩ := hr _ _ _ ha
  obtain ⟨u', rfl, hu'⟩ := hf a _ _ _ hx
  refine ⟨u ++ u', by simp, ?_⟩
  intro c hc
  rcases mem_append.1 hc with hc | hc
  · exact hu c hc
  · exact hu' c hc

theorem Uses.pure (a : α) : Uses fun cs => some (a, cs) := by
  intro cs x rest h
  simp only [some.injEq, mk.injEq] at h
  exact ⟨[], by simp [h.2], by simp⟩

theorem uses_readGivenChar {t : Char} (ht : addrChar t = true) : Uses (readGivenChar t) := by
  intro cs x rest h
  cases cs with
  | nil => simp [readGivenChar] at h
  | cons c cs =>
    simp only [readGivenChar] at h
    split at h
    · rename_i hc
      simp only [some.injEq, mk.injEq] at h
      exact ⟨[c], by simp [h.2], by simp [hc, ht]⟩
    · cases h

theorem addrChar_of_toDigit (hradix : radix ≤ 16) (h : (toDigit radix c).isSome = true) :
    addrChar c = true := by
  have h16 : (toDigit 16 c).isSome = true := by
    simp only [toDigit] at h ⊢
    split_ifs at h ⊢ <;> simp_all <;> omega
  simp [addrChar, h16]

theorem toNat_le_of_addrChar (h : addrChar c = true) : c.toNat ≤ 127 := by
  have hkind : (c.isDigit = true ∨ c.isLower = true ∨ c.isUpper = true) ∨
      c ∈ ['.', ':', '[', ']', '%'] := by
    by_contra hno
    simp only [not_or, Bool.not_eq_true, mem_cons, not_mem_nil, or_false] at hno
    simp [addrChar, toDigit, hno] at h
  rcases hkind with (hdigit | hlower | hupper) | hmark
  · simp only [Char.isDigit, Bool.and_eq_true, decide_eq_true_eq] at hdigit
    exact le_trans (le_iff_toNat_le.1 hdigit.2) (by decide)
  · delta Char.isLower at hlower
    simp only [Bool.and_eq_true, decide_eq_true_eq] at hlower
    exact le_trans (le_iff_toNat_le.1 hlower.2) (by decide)
  · delta Char.isUpper at hupper
    simp only [decide_eq_true_eq] at hupper
    exact le_trans (le_iff_toNat_le.1 hupper.2) (by decide)
  · fin_cases hmark <;> decide

theorem uses_readNumber {bound : ℕ} {maxDigits : Option ℕ} {zero : Bool} (hradix : radix ≤ 16) :
    Uses (readNumber radix maxDigits zero bound) := by
  intro cs x rest h
  simp only [readNumber] at h
  split_ifs at h
  simp only [some.injEq, mk.injEq] at h
  refine ⟨cs.takeWhile fun c => (toDigit radix c).isSome, ?_, ?_⟩
  · rw [← h.2, takeWhile_append_dropWhile]
  · intro c hc
    exact addrChar_of_toDigit hradix (all_eq_true.1 all_takeWhile c hc)

theorem uses_readSeparator {sep : Char} {first : Bool} {inner : Reader α}
    (hsep : addrChar sep = true) (hinner : Uses inner) : Uses (readSeparator sep first inner) := by
  cases first with
  | true => exact hinner
  | false => exact (uses_readGivenChar hsep).bind fun _ => hinner

theorem uses_readIpv4Addr : Uses readIpv4Addr := by
  have hoctet : ∀ first, Uses (readSeparator '.' first (readNumber 10 (some 3) false 256)) :=
    fun _ => uses_readSeparator (by decide) (uses_readNumber (by decide))
  exact (hoctet true).bind fun a => (hoctet false).bind fun b => (hoctet false).bind fun c =>
    (hoctet false).bind fun d =>
      Uses.pure (Ipv4Addr.mk ![ofNat a, ofNat b, ofNat c, ofNat d])

theorem uses_readGroups : ∀ (limit : ℕ) (first : Bool) (cs : List Char),
    ∃ used, cs = used ++ (readGroups limit first cs).2.2 ∧ ∀ c ∈ used, addrChar c = true
  | 0, _, cs => ⟨[], rfl, by simp⟩
  | limit + 1, first, cs => by
    rw [readGroups]
    split
    · -- the last two groups were written as an IPv4 address
      rename_i ip rest hip
      split at hip
      · exact uses_readSeparator (by decide) uses_readIpv4Addr _ _ _ hip
      · cases hip
    · split
      · rename_i g rest hg
        obtain ⟨u, rfl, hu⟩ :=
          uses_readSeparator (by decide) (uses_readNumber (by decide)) _ _ _ hg
        obtain ⟨u', hrest, hu'⟩ := uses_readGroups limit false rest
        refine ⟨u ++ u', ?_, ?_⟩
        · rw [append_assoc, ← hrest]
        · intro c hc
          rcases mem_append.1 hc with hc | hc
          · exact hu c hc
          · exact hu' c hc
      · exact ⟨[], rfl, by simp⟩

theorem uses_readIpv6Addr : Uses readIpv6Addr := by
  have hgroups : ∀ (limit : ℕ) (f : List UInt16 → Ipv6Addr), Uses fun cs =>
      some (f (readGroups limit true cs).1, (readGroups limit true cs).2.2) := by
    intro limit f cs x rest h
    simp only [some.injEq, mk.injEq] at h
    rw [← h.2]
    exact uses_readGroups limit true cs
  intro cs x rest h
  obtain ⟨u, hcs, hu⟩ := uses_readGroups 8 true cs
  simp only [readIpv6Addr] at h
  split at h
  · simp only [some.injEq, mk.injEq] at h
    exact ⟨u, by rw [← h.2]; exact hcs, hu⟩
  · split at h
    · cases h
    · -- after the groups before `::` come the two colons and the groups after them
      have hcolon : Uses (readGivenChar ':') := uses_readGivenChar (by decide)
      obtain ⟨u', hrest, hu'⟩ := (hcolon.bind fun _ => hcolon.bind fun _ =>
        hgroups (8 - ((readGroups 8 true cs).1.length + 1)) fun tail =>
          ⟨fun i => ((readGroups 8 true cs).1 ++ replicate
            (8 - ((readGroups 8 true cs).1.length + tail.length)) 0 ++ tail).getD i 0⟩) _ _ _ h
      refine ⟨u ++ u', ?_, ?_⟩
      · rw [append_assoc, ← hrest, ← hcs]
      · intro c hc
        rcases mem_append.1 hc with hc | hc
        · exact hu c hc
        · exact hu' c hc

theorem uses_readPort : Uses readPort :=
  (uses_readGivenChar (by decide)).bind fun _ =>
    (uses_readNumber (by decide)).bind fun n => Uses.pure (UInt16.ofNat n)

theorem uses_readScopeId : Uses readScopeId :=
  (uses_readGivenChar (by decide)).bind fun _ =>
    (uses_readNumber (by decide)).bind fun n => Uses.pure (UInt32.ofNat n)

theorem Uses.getD {r : Reader α} (hr : Uses r) (a : α) :
    Uses fun cs => some ((r cs).getD (a, cs)) := by
  intro cs x rest h
  cases hcs : r cs with
  | none => exact Uses.pure a cs x rest (by simpa [hcs] using h)
  | some p => exact hr cs x rest (by simpa [hcs] using h)

theorem uses_readSocketAddr : Uses readSocketAddr := by
  have hv4 : Uses readSocketAddrV4 := uses_readIpv4Addr.bind fun ip =>
    uses_readPort.bind fun port => Uses.pure (SocketAddr.v4 ip port)
  have hv6 : Uses readSocketAddrV6 :=
    (uses_readGivenChar (by decide)).bind fun _ => uses_readIpv6Addr.bind fun ip =>
      (uses_readScopeId.getD 0).bind fun scopeId => (uses_readGivenChar (by decide)).bind fun _ =>
        uses_readPort.bind fun port => Uses.pure (SocketAddr.v6 ip port 0 scopeId)
  intro cs x rest h
  rcases or_eq_some_iff.1 h with h | h
  · exact hv4 cs x rest h
  · exact hv6 cs x rest h.2

/-- **An accepted text consists of characters of addresses.** -/
theorem addrChar_of_parseSocketAddr {s : String} {addr : SocketAddr}
    (h : parseSocketAddr s = some addr) : ∀ c ∈ s.toList, addrChar c = true := by
  rw [parseSocketAddr] at h
  split at h
  · rename_i addr' hread
    obtain ⟨u, hu, hchars⟩ := uses_readSocketAddr _ _ _ hread
    rw [hu, append_nil]
    exact hchars
  · cases h

end Net
