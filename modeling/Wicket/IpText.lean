/-
**Addresses as bytes and as text.**

The text is the one the source language's standard library writes.  The readers of `Net` read it
back.
-/

import Wicket.ByteReader
import Wicket.Net

namespace Net

open Option List Ipv6Addr UInt8

/-! ### Addresses in bytes, and of the other family -/

def Ipv4Addr.bytes (ip : Ipv4Addr) : List UInt8 := List.ofFn ip.octets

@[simp] theorem Ipv4Addr.length_bytes (ip : Ipv4Addr) : ip.bytes.length = 4 := length_ofFn

def Ipv6Addr.bytes (ip : Ipv6Addr) : List UInt8 :=
  (List.ofFn ip.segments).flatMap fun segment => Bytes.be 2 segment.toNat

variable (ip : Ipv6Addr)

@[simp] theorem Ipv6Addr.length_bytes : ip.bytes.length = 16 := by
  simp [bytes, Bytes.length_be, ofFn_succ]

-- the octets of an address are numbered by literals
local instance neZero_four : NeZero 4 := ⟨by decide⟩

/-- The IPv4 address inside an address of the form `::ffff:a.b.c.d`. -/
def Ipv6Addr.toIpv4Mapped (ip : Ipv6Addr) : Option Ipv4Addr :=
  match List.ofFn ip.segments with
  | [0, 0, 0, 0, 0, 0xffff, high, low] =>
    some ⟨![UInt8.ofNat (high.toNat / 256), UInt8.ofNat high.toNat,
      UInt8.ofNat (low.toNat / 256), UInt8.ofNat low.toNat]⟩
  | _ => none

/-- The address `::ffff:a.b.c.d` of an IPv4 address. -/
def Ipv4Addr.toIpv6Mapped (ip : Ipv4Addr) : Ipv6Addr :=
  ⟨![0, 0, 0, 0, 0, 0xffff, segmentOf (ip.octets 0) (ip.octets 1),
    segmentOf (ip.octets 2) (ip.octets 3)]⟩

def SocketAddr.isIpv4 : SocketAddr → Bool
  | .v4 _ _ => true
  | .v6 _ _ _ _ => false

def SocketAddr.asIpv4 : SocketAddr → Ipv4Addr
  | .v4 ip _ => ip
  | .v6 ip _ _ _ => ip.toIpv4Mapped.getD .unspecified

def SocketAddr.asIpv6 : SocketAddr → Ipv6Addr
  | .v6 ip _ _ _ => ip
  | .v4 ip _ => ip.toIpv6Mapped

def Ipv4Addr.ofBytes : List UInt8 → Option Ipv4Addr
  | [a, b, c, d] => some ⟨![a, b, c, d]⟩
  | _ => none

def Ipv6Addr.ofBytes (bytes : List UInt8) : Option Ipv6Addr :=
  if bytes.length = 16 then
    some ⟨fun i => segmentOf (bytes.getD (2 * i) 0) (bytes.getD (2 * i + 1) 0)⟩
  else none

@[simp] theorem segmentOf_octets (segment : UInt16) :
    segmentOf (ofNat (segment.toNat / 256)) segment.toUInt8 = segment := by
  have hlt : segment.toNat < 65536 := segment.toNat_lt
  have hsum : 256 * (segment.toNat / 256 % 256) + segment.toNat % 256 = segment.toNat := by omega
  rw [segmentOf, toNat_ofNat', UInt16.toNat_toUInt8, hsum, UInt16.ofNat_toNat]

@[simp] theorem Ipv4Addr.ofBytes_bytes (ip : Ipv4Addr) : ofBytes ip.bytes = some ip := by
  have hbytes : ip.bytes = [ip.octets 0, ip.octets 1, ip.octets 2, ip.octets 3] := by
    simp [Ipv4Addr.bytes, ofFn_succ]
  rw [hbytes, ofBytes, some.injEq]
  refine congrArg Ipv4Addr.mk (funext fun i => ?_)
  fin_cases i <;> rfl

@[simp] theorem Ipv6Addr.ofBytes_bytes : ofBytes ip.bytes = some ip := by
  rw [ofBytes, if_pos ip.length_bytes, some.injEq]
  refine congrArg mk (funext fun i => ?_)
  have hpair : ∀ n, Bytes.be 2 n = [ofNat (n / 256), ofNat n] := fun _ => rfl
  fin_cases i <;> simp [bytes, ofFn_succ, hpair]

theorem Ipv6Addr.eq_of_toIpv4Mapped {ip : Ipv6Addr} {v4 : Ipv4Addr}
    (h : ip.toIpv4Mapped = some v4) : ip = v4.toIpv6Mapped := by
  rw [toIpv4Mapped] at h
  split at h
  · rename_i high low hsegments
    cases h
    refine congrArg mk (ofFn_injective ?_)
    rw [hsegments]
    simp [ofFn_succ]
  · cases h

/-! ### The text of an IPv4 address -/

/-- A number below 256 in decimal. -/
def octetText (octet : UInt8) : List Char := Nat.toDigits 10 octet.toNat

def Ipv4Addr.text (ip : Ipv4Addr) : List Char :=
  octetText (ip.octets 0) ++ '.' :: octetText (ip.octets 1) ++ '.' :: octetText (ip.octets 2) ++
    '.' :: octetText (ip.octets 3)

theorem length_octetText (octet : UInt8) : (octetText octet).length ≤ 3 := by
  have hlt : octet.toNat < 10 ^ 3 := lt_trans octet.toNat_lt (by decide)
  exact (Nat.length_toDigits_le_iff (by decide) (by decide)).2 hlt

theorem Ipv4Addr.length_text (ip : Ipv4Addr) : ip.text.length ≤ 15 := by
  have h0 := length_octetText (ip.octets 0)
  have h1 := length_octetText (ip.octets 1)
  have h2 := length_octetText (ip.octets 2)
  have h3 := length_octetText (ip.octets 3)
  simp only [text, length_append, length_cons]
  omega

variable {rest : List Char}

theorem readNumber_octetText {octet : UInt8}
    (hrest : ∀ c ∈ rest.head?, (toDigit 10 c).isSome = false) :
    readNumber 10 (some 3) false 256 (octetText octet ++ rest) = some (octet.toNat, rest) :=
  readNumber_toDigits (by decide) (by decide) octet.toNat_lt
    (fun _ hm => some.inj hm ▸ length_octetText octet) hrest

theorem readNumber_octetText_dot (octet : UInt8) (rest : List Char) :
    readNumber 10 (some 3) false 256 (octetText octet ++ '.' :: rest) =
      some (octet.toNat, '.' :: rest) := by
  refine readNumber_octetText fun c hc => ?_
  obtain rfl : '.' = c := by simpa using hc
  rfl

/-- **Every written IPv4 address is read back**, up to the next character that is no digit. -/
theorem readIpv4Addr_text (ip : Ipv4Addr) {rest : List Char}
    (hrest : ∀ c ∈ rest.head?, (toDigit 10 c).isSome = false) :
    readIpv4Addr (ip.text ++ rest) = some (ip, rest) := by
  have hip : Ipv4Addr.mk ![ip.octets 0, ip.octets 1, ip.octets 2, ip.octets 3] = ip := by
    refine congrArg Ipv4Addr.mk (funext fun i => ?_)
    fin_cases i <;> rfl
  simp [readIpv4Addr, Ipv4Addr.text, readSeparator, readGivenChar, readNumber_octetText_dot,
    readNumber_octetText hrest, hip]

theorem readIpv4Addr_eq_none {cs : List Char}
    (h : (cs.dropWhile fun c => (toDigit 10 c).isSome).head? ≠ some '.') :
    readIpv4Addr cs = none := by
  rw [readIpv4Addr, bind_eq_bind, bind_eq_none_iff]
  intro r ha
  obtain ⟨a, rest⟩ := r
  -- after the first number stands what its digits left
  have hrest : rest = cs.dropWhile fun c => (toDigit 10 c).isSome := by
    simp only [readSeparator, if_true, readNumber] at ha
    split_ifs at ha
    simp only [some.injEq, Prod.mk.injEq] at ha
    exact ha.2.symm
  have hdot : readGivenChar '.' rest = none := by
    rw [hrest]
    cases hcs : cs.dropWhile fun c => (toDigit 10 c).isSome with
    | nil => rfl
    | cons c cs' =>
      rw [hcs, head?_cons] at h
      exact if_neg fun hc => h (congrArg some hc)
  simp [readSeparator, hdot]

/-! ### The text of an IPv6 address -/

def groupText (group : UInt16) : List Char := Nat.toDigits 16 group.toNat

/-- Groups with colons between them, and one before the first unless the text starts there. -/
def fmtGroups : Bool → List UInt16 → List Char
  | _, [] => []
  | first, group :: groups =>
    (if first then [] else [':']) ++ groupText group ++ fmtGroups false groups

structure Span where
  start : ℕ
  len : ℕ
  deriving DecidableEq

/-- The longest run of zeros so far, the first of them where there are several, and the run that
ends here. -/
structure Spans where
  longest : Span
  current : Span

/-- One turn of the search for the longest run of zeros. -/
def Spans.step (s : Spans) (entry : UInt16 × ℕ) : Spans :=
  if entry.1 = 0 then
    let current : Span :=
      if s.current.len = 0 then ⟨entry.2, 1⟩ else ⟨s.current.start, s.current.len + 1⟩
    ⟨if s.longest.len < current.len then current else s.longest, current⟩
  else ⟨s.longest, ⟨0, 0⟩⟩

def zeroSpan (segments : List UInt16) : Span :=
  (segments.zipIdx.foldl Spans.step ⟨⟨0, 0⟩, ⟨0, 0⟩⟩).longest

def Ipv6Addr.text (ip : Ipv6Addr) : List Char :=
  match ip.toIpv4Mapped with
  | some v4 => "::ffff:".toList ++ v4.text
  | none =>
    let segments := List.ofFn ip.segments
    let zeroes := zeroSpan segments
    if 1 < zeroes.len then
      fmtGroups true (segments.take zeroes.start) ++ "::".toList ++
        fmtGroups true (segments.drop (zeroes.start + zeroes.len))
    else fmtGroups true segments

/-- What the search knows after the segments it has seen: both runs are runs of zeros among them,
and the current one ends at their end. -/
structure Spans.Of (s : Spans) (seen : List UInt16) : Prop where
  longest : ∃ before after, before.length = s.longest.start ∧
    seen = before ++ List.replicate s.longest.len 0 ++ after
  current : ∃ before, (s.current.len ≠ 0 → before.length = s.current.start) ∧
    seen = before ++ List.replicate s.current.len 0

theorem Spans.Of.step {s : Spans} {seen : List UInt16} (h : s.Of seen) (segment : UInt16) :
    (s.step (segment, seen.length)).Of (seen ++ [segment]) := by
  obtain ⟨before, after, hstart, hseen⟩ := h.longest
  have hlongest : ∃ before after, before.length = s.longest.start ∧
      seen ++ [segment] = before ++ replicate s.longest.len 0 ++ after := by
    refine ⟨before, after ++ [segment], hstart, ?_⟩
    rw [← append_assoc, ← hseen]
  by_cases hzero : segment = 0
  · subst hzero
    -- the current run grows by one, or starts here
    have hcurrent : ∃ before, before.length = (s.step (0, seen.length)).current.start ∧
        seen ++ [0] = before ++ replicate (s.step (0, seen.length)).current.len 0 := by
      obtain ⟨run, hrun, hends⟩ := h.current
      rw [Spans.step, if_pos rfl]
      by_cases hlen : s.current.len = 0
      · simp only [if_pos hlen]
        exact ⟨seen, rfl, rfl⟩
      · simp only [if_neg hlen]
        refine ⟨run, hrun hlen, ?_⟩
        rw [replicate_succ', ← append_assoc, ← hends]
    obtain ⟨run, hrun, hends⟩ := hcurrent
    refine ⟨?_, run, fun _ => hrun, hends⟩
    by_cases hlonger : s.longest.len < (s.step (0, seen.length)).current.len
    · have heq : (s.step (0, seen.length)).longest = (s.step (0, seen.length)).current := by
        exact if_pos hlonger
      rw [heq]
      exact ⟨run, [], hrun, by rw [append_nil]; exact hends⟩
    · have heq : (s.step (0, seen.length)).longest = s.longest := by
        exact if_neg hlonger
      rw [heq]
      exact hlongest
  · rw [Spans.step, if_neg hzero]
    exact ⟨hlongest, seen ++ [segment], fun hlen => absurd rfl hlen, by simp⟩

theorem spansOf_foldl (segments : List UInt16) :
    (segments.zipIdx.foldl Spans.step ⟨⟨0, 0⟩, ⟨0, 0⟩⟩).Of segments := by
  induction segments using reverseRecOn with
  | nil => exact ⟨⟨[], [], rfl, rfl⟩, [], fun _ => rfl, rfl⟩
  | append_singleton segments segment ih =>
    rw [zipIdx_append, foldl_append]
    simpa using ih.step segment

theorem zeroSpan_spec (segments : List UInt16) :
    segments = segments.take (zeroSpan segments).start ++ replicate (zeroSpan segments).len 0 ++
      segments.drop ((zeroSpan segments).start + (zeroSpan segments).len) := by
  have hlongest : ∃ before after, before.length = (zeroSpan segments).start ∧
      segments = before ++ replicate (zeroSpan segments).len 0 ++ after :=
    (spansOf_foldl segments).longest
  generalize zeroSpan segments = span at hlongest ⊢
  obtain ⟨before, after, hstart, rfl⟩ := hlongest
  have hlen : span.start + span.len = (before ++ replicate span.len (0 : UInt16)).length := by
    rw [length_append, length_replicate, hstart]
  rw [hlen, drop_left, ← hstart, append_assoc, take_left, append_assoc]

/-! ### Groups are read back -/

/-- What may follow groups: nothing, or the `::` of the groups left out. -/
def EndsGroups (rest : List Char) : Prop := rest = [] ∨ ∃ rest', rest = ':' :: ':' :: rest'

theorem EndsGroups.colon (h : EndsGroups rest) : ∀ c ∈ rest.head?, c = ':' := by
  rcases h with rfl | ⟨rest', rfl⟩
  · simp
  · simp

theorem EndsGroups.fmtGroups {rest : List Char} (h : EndsGroups rest) (groups : List UInt16) :
    ∀ c ∈ (fmtGroups false groups ++ rest).head?, c = ':' := by
  cases groups with
  | nil => exact h.colon
  | cons group groups => simp [Net.fmtGroups]

theorem readIpv4Addr_groupText (group : UInt16) (hrest : ∀ c ∈ rest.head?, c = ':') :
    readIpv4Addr (groupText group ++ rest) = none := by
  refine readIpv4Addr_eq_none fun hdot => ?_
  have hcolon : rest.dropWhile (fun c => (toDigit 10 c).isSome) = rest := by
    cases rest with
    | nil => rfl
    | cons c rest =>
      obtain rfl : c = ':' := hrest c (by simp)
      rfl
  rw [dropWhile_append, hcolon] at hdot
  split at hdot
  · exact absurd (hrest '.' hdot) (by decide)
  · rename_i hne
    -- the dot would be a hexadecimal digit
    rw [head?_append_of_ne_nil _ (by simpa using hne)] at hdot
    have hmem : '.' ∈ groupText group :=
      (dropWhile_suffix _).subset (mem_of_head? hdot)
    exact absurd (isSome_toDigit_of_mem (by decide) (by decide) hmem) (by decide)

theorem length_groupText (group : UInt16) : (groupText group).length ≤ 4 :=
  (Nat.length_toDigits_le_iff (by decide) (by decide)).2 group.toNat_lt

theorem readNumber_groupText (group : UInt16) (hrest : ∀ c ∈ rest.head?, c = ':') :
    readNumber 16 (some 4) true 65536 (groupText group ++ rest) = some (group.toNat, rest) := by
  refine readNumber_toDigits (by decide) (by decide) group.toNat_lt ?_ fun c hc => ?_
  · intro m hm
    rw [← some.inj hm]
    exact length_groupText group
  · rw [hrest c hc]
    rfl

theorem readGroups_of_ends (h : EndsGroups rest) (limit : ℕ) (first : Bool) :
    readGroups limit first rest = ([], false, rest) := by
  cases limit with
  | zero => rfl
  | succ limit =>
    have hv4 : readSeparator ':' first readIpv4Addr rest = none := by
      rcases h with rfl | ⟨rest', rfl⟩ <;> cases first <;> rfl
    have hgroup : readSeparator ':' first (readNumber 16 (some 4) true 65536) rest = none := by
      rcases h with rfl | ⟨rest', rfl⟩ <;> cases first <;> rfl
    simp only [readGroups, hv4, hgroup, ite_self]

theorem readGroups_fmtGroups {rest : List Char} (h : EndsGroups rest) {groups : List UInt16}
    {limit : ℕ} (hlimit : groups.length ≤ limit) (first : Bool) :
    readGroups limit first (fmtGroups first groups ++ rest) = (groups, false, rest) := by
  induction groups generalizing limit first with
  | nil => exact readGroups_of_ends h limit first
  | cons group groups ih =>
    obtain ⟨limit, rfl⟩ : ∃ l, limit = l + 1 := by
      cases limit with
      | zero => simp at hlimit
      | succ l => exact ⟨l, rfl⟩
    have hcolon := h.fmtGroups groups
    -- whether or not a colon stands before the group
    have hsep : ∀ {α : Type} (inner : Reader α),
        readSeparator ':' first inner (fmtGroups first (group :: groups) ++ rest) =
          inner (groupText group ++ (fmtGroups false groups ++ rest)) := by
      cases first <;> simp [readSeparator, readGivenChar, fmtGroups]
    rw [readGroups, hsep, hsep, readIpv4Addr_groupText group hcolon,
      readNumber_groupText group hcolon, ite_self]
    simp [ih (Nat.le_of_succ_le_succ hlimit) false]

theorem Ipv6Addr.mk_getD : Ipv6Addr.mk (fun i => (List.ofFn ip.segments).getD i 0) = ip := by
  refine congrArg mk (funext fun i => ?_)
  rw [List.getD_eq_getElem?_getD, List.getElem?_ofFn, dif_pos i.isLt]
  rfl

theorem readIpv6Addr_groups :
    readIpv6Addr (fmtGroups true (List.ofFn ip.segments)) = some (ip, []) := by
  have hread := @readGroups_fmtGroups [] (.inl rfl) (ofFn ip.segments) 8
    (by rw [length_ofFn]) true
  rw [append_nil] at hread
  simp only [readIpv6Addr, hread, length_ofFn, if_true, ip.mk_getD]

theorem readIpv6Addr_around {before after : List UInt16} {len : ℕ} (hlen : 1 < len)
    (hip : ofFn ip.segments = before ++ replicate len 0 ++ after) :
    readIpv6Addr (fmtGroups true before ++ "::".toList ++ fmtGroups true after) =
      some (ip, []) := by
  have height : before.length + len + after.length = 8 := by
    have h := congrArg length hip
    rw [length_ofFn, length_append, length_append, length_replicate] at h
    exact h.symm
  have hbefore := @readGroups_fmtGroups (':' :: ':' :: fmtGroups true after) (.inr ⟨_, rfl⟩)
    before 8 (by omega) true
  have hafter := @readGroups_fmtGroups [] (.inl rfl) after (8 - (before.length + 1)) (by omega) true
  rw [append_nil] at hafter
  have hzeros : 8 - (before.length + after.length) = len := by omega
  have htext : fmtGroups true before ++ "::".toList ++ fmtGroups true after =
      fmtGroups true before ++ ':' :: ':' :: fmtGroups true after := by
    rw [append_assoc]
    rfl
  have hne : before.length ≠ 8 := by omega
  rw [htext]
  simp only [readIpv6Addr, hbefore, if_neg hne, Bool.false_eq_true, if_false, readGivenChar,
    if_true, bind_eq_bind, bind_some, hafter, hzeros, ← hip, ip.mk_getD]

theorem readIpv6Addr_mapped (ip : Ipv4Addr) :
    readIpv6Addr ("::ffff:".toList ++ ip.text) = some (ip.toIpv6Mapped, []) := by
  have hv4 : readIpv4Addr ip.text = some (ip, []) := by
    have h := @readIpv4Addr_text ip [] (by simp)
    rwa [append_nil] at h
  have hcolon : ∀ c ∈ (':' :: ip.text).head?, c = ':' := by simp
  have hgroups : readGroups 7 true ("ffff:".toList ++ ip.text) =
      ([0xffff, segmentOf (ip.octets 0) (ip.octets 1), segmentOf (ip.octets 2) (ip.octets 3)],
        true, []) := by
    show readGroups 7 true (groupText 0xffff ++ (':' :: ip.text)) = _
    rw [readGroups]
    simp only [readSeparator, if_true, readIpv4Addr_groupText 0xffff hcolon,
      readNumber_groupText 0xffff hcolon, ite_self]
    rw [readGroups]
    simp [readSeparator, readGivenChar, hv4]
  have hip : mk (fun i => ([] ++ replicate (8 - (0 + 3)) 0 ++ [0xffff,
      segmentOf (ip.octets 0) (ip.octets 1), segmentOf (ip.octets 2) (ip.octets 3)]).getD i 0) =
      ip.toIpv6Mapped := by
    refine congrArg mk (funext fun i => ?_)
    fin_cases i <;> rfl
  show readIpv6Addr (':' :: ':' :: ("ffff:".toList ++ ip.text)) = _
  generalize "ffff:".toList ++ ip.text = tail at hgroups ⊢
  have hends : EndsGroups (':' :: ':' :: tail) := .inr ⟨tail, rfl⟩
  simp only [readIpv6Addr, readGroups_of_ends hends, length_nil, readGivenChar, if_true,
    Bool.false_eq_true, if_false, bind_eq_bind, bind_some, Nat.zero_add,
    Nat.add_one_sub_one, hgroups, OfNat.zero_ne_ofNat]
  exact congrArg (fun ip => some (ip, [])) hip

theorem readIpv6Addr_text : readIpv6Addr ip.text = some (ip, []) := by
  rw [text]
  split
  · rename_i v4 hmapped
    rw [eq_of_toIpv4Mapped hmapped]
    exact readIpv6Addr_mapped v4
  · simp only
    split
    · rename_i hlen
      exact readIpv6Addr_around ip hlen (zeroSpan_spec _)
    · exact readIpv6Addr_groups ip

/-! ### The length of a text -/

theorem length_fmtGroups_false (groups : List UInt16) :
    (fmtGroups false groups).length ≤ 5 * groups.length := by
  induction groups with
  | nil => simp [fmtGroups]
  | cons group groups ih =>
    have hgroup := length_groupText group
    simp only [fmtGroups, Bool.false_eq_true, if_false, length_append, length_cons, length_nil]
    omega

theorem length_fmtGroups_true (groups : List UInt16) :
    (fmtGroups true groups).length ≤ 5 * groups.length - 1 := by
  cases groups with
  | nil => simp [fmtGroups]
  | cons group groups =>
    have hgroup := length_groupText group
    have hrest := length_fmtGroups_false groups
    simp only [fmtGroups, if_true, nil_append, length_append, length_cons]
    omega

theorem Ipv6Addr.length_text : ip.text.length ≤ 39 := by
  rw [text]
  split
  · rename_i v4 _
    have hv4 := v4.length_text
    have hmark : "::ffff:".toList.length = 7 := rfl
    rw [length_append]
    omega
  · simp only
    split
    · -- at least two groups are left out
      have height := congrArg length (zeroSpan_spec (ofFn ip.segments))
      have hbefore := length_fmtGroups_true
        ((ofFn ip.segments).take (zeroSpan (ofFn ip.segments)).start)
      have hafter := length_fmtGroups_true ((ofFn ip.segments).drop
        ((zeroSpan (ofFn ip.segments)).start + (zeroSpan (ofFn ip.segments)).len))
      have hmark : "::".toList.length = 2 := rfl
      rw [length_append, length_append, length_ofFn, length_replicate] at height
      rw [length_append, length_append]
      omega
    · have hall := length_fmtGroups_true (ofFn ip.segments)
      exact hall

/-! ### How addresses are written -/

structure IpFormat where
  v4 : Ipv4Addr → String
  v6 : Ipv6Addr → String

def IpFormat.std : IpFormat where
  v4 ip := String.ofList ip.text
  v6 ip := String.ofList ip.text

example : IpFormat.std.v4 ⟨![10, 0, 0, 7]⟩ = "10.0.0.7" := by decide
example : IpFormat.std.v6 ⟨![0xfd00, 0, 0, 1, 0, 0, 0, 0x1A]⟩ = "fd00:0:0:1::1a" := by decide
example : IpFormat.std.v6 ⟨![0, 0, 0, 0, 0, 0xffff, 0x0a00, 7]⟩ = "::ffff:10.0.0.7" := by decide

/-- The text of a socket address.  The flow label of an IPv6 address is not written. -/
def SocketAddr.text (fmt : IpFormat) : SocketAddr → String
  | .v4 ip port => fmt.v4 ip ++ ":" ++ toString port.toNat
  | .v6 ip port _ scopeId =>
    if scopeId = 0 then "[" ++ fmt.v6 ip ++ "]:" ++ toString port.toNat
    else "[" ++ fmt.v6 ip ++ "%" ++ toString scopeId.toNat ++ "]:" ++ toString port.toNat

/-- **Addresses are written so that the readers give them back**, in at most 39 characters. -/
structure IpFormat.RoundTrips (fmt : IpFormat) : Prop where
  v4 : ∀ ip, readIpv4Addr (fmt.v4 ip).toList = some (ip, [])
  v6 : ∀ ip, readIpv6Addr (fmt.v6 ip).toList = some (ip, [])
  length_v4 : ∀ ip, (fmt.v4 ip).length ≤ 39
  length_v6 : ∀ ip, (fmt.v6 ip).length ≤ 39

theorem IpFormat.std_roundTrips : IpFormat.std.RoundTrips where
  v4 ip := by
    have h := @readIpv4Addr_text ip [] (by simp)
    rw [append_nil] at h
    rw [IpFormat.std, String.toList_ofList, h]
  v6 ip := by rw [IpFormat.std, String.toList_ofList, readIpv6Addr_text]
  length_v4 ip := by
    rw [IpFormat.std, String.length_ofList]
    exact ip.length_text.trans (by decide)
  length_v6 ip := by
    rw [IpFormat.std, String.length_ofList]
    exact ip.length_text

/-! ### Socket addresses -/

/-- What may follow the address in the brackets: the end of it, or a scope. -/
def StopsAddr (rest : List Char) : Prop := ∀ c ∈ rest.head?, c = ']' ∨ c = '%'

/-- A reader that does not look past the end of an address. -/
def Local {α : Type} (r : Reader α) : Prop :=
  ∀ cs rest, StopsAddr rest → r (cs ++ rest) = (r cs).map fun p => (p.1, p.2 ++ rest)

section Local

variable {α : Type}

theorem Local.bind {β : Type} {r : Reader α} {f : α → Reader β} (hr : Local r)
    (hf : ∀ a, Local (f a)) : Local fun cs => (r cs).bind fun p => f p.1 p.2 := by
  intro cs rest h
  simp only [hr cs rest h]
  cases r cs with
  | none => rfl
  | some p => exact hf p.1 p.2 rest h

theorem Local.pure (a : α) : Local fun cs => some (a, cs) := fun _ _ _ => rfl

theorem local_readGivenChar {t : Char} (hclose : t ≠ ']') (hscope : t ≠ '%') :
    Local (readGivenChar t) := by
  intro cs rest h
  cases cs with
  | nil =>
    cases rest with
    | nil => rfl
    | cons c rest =>
      have hne : c ≠ t := by
        rcases h c rfl with rfl | rfl
        · exact hclose.symm
        · exact hscope.symm
      simp [readGivenChar, hne]
  | cons c cs =>
    simp only [cons_append, readGivenChar]
    split <;> rfl

theorem local_readNumber {radix bound : ℕ} {maxDigits : Option ℕ} {zero : Bool} :
    Local (readNumber radix maxDigits zero bound) := by
  intro cs rest h
  have hstop : ∀ c ∈ rest.head?, (toDigit radix c).isSome = false := by
    intro c hc
    rcases h c hc with rfl | rfl <;> simp [toDigit]
  obtain ⟨htake, hdrop⟩ := Text.takeWhile_append_of_head hstop cs
  simp only [readNumber, htake, hdrop]
  split_ifs <;> rfl

theorem local_readSeparator {sep : Char} {first : Bool} {inner : Reader α} (hclose : sep ≠ ']')
    (hscope : sep ≠ '%') (hinner : Local inner) : Local (readSeparator sep first inner) := by
  cases first with
  | true => exact hinner
  | false => exact (local_readGivenChar hclose hscope).bind fun _ => hinner

theorem local_readIpv4Addr : Local readIpv4Addr := by
  have hoctet : ∀ first, Local (readSeparator '.' first (readNumber 10 (some 3) false 256)) :=
    fun _ => local_readSeparator (by decide) (by decide) local_readNumber
  exact (hoctet true).bind fun a => (hoctet false).bind fun b => (hoctet false).bind fun c =>
    (hoctet false).bind fun d =>
      Local.pure (Ipv4Addr.mk ![ofNat a, ofNat b, ofNat c, ofNat d])

theorem readGroups_append {rest : List Char} (h : StopsAddr rest) (limit : ℕ) (first : Bool)
    (cs : List Char) : readGroups limit first (cs ++ rest) =
      ((readGroups limit first cs).1, (readGroups limit first cs).2.1,
        (readGroups limit first cs).2.2 ++ rest) := by
  induction limit generalizing first cs with
  | zero => rfl
  | succ limit ih =>
    have hsep : ∀ {β : Type} {inner : Reader β}, Local inner →
        Local (readSeparator ':' first inner) := local_readSeparator (by decide) (by decide)
    have hnumber : Local (readNumber 16 (some 4) true 65536) := local_readNumber
    rw [readGroups, readGroups, hsep local_readIpv4Addr cs rest h, hsep hnumber cs rest h]
    split_ifs
    all_goals cases readSeparator ':' first readIpv4Addr cs <;>
      cases readSeparator ':' first (readNumber 16 (some 4) true 65536) cs <;>
      simp [ih]

theorem local_readIpv6Addr : Local readIpv6Addr := by
  have hcolon : Local (readGivenChar ':') := local_readGivenChar (by decide) (by decide)
  have hgroups : ∀ (limit : ℕ) (f : List UInt16 → Ipv6Addr), Local fun cs =>
      some (f (readGroups limit true cs).1, (readGroups limit true cs).2.2) := by
    intro limit f cs rest h
    simp [readGroups_append h]
  intro cs rest h
  simp only [readIpv6Addr, readGroups_append h]
  split_ifs
  · rfl
  · rfl
  · -- after the groups before `::` come the two colons and the groups after them
    exact (hcolon.bind fun _ => hcolon.bind fun _ =>
      hgroups (8 - ((readGroups 8 true cs).1.length + 1)) fun tail =>
        ⟨fun i => ((readGroups 8 true cs).1 ++ replicate
          (8 - ((readGroups 8 true cs).1.length + tail.length)) 0 ++ tail).getD i 0⟩) _ rest h

theorem readIpv6Addr_text_append (ip : Ipv6Addr) {rest : List Char} (h : StopsAddr rest) :
    readIpv6Addr (ip.text ++ rest) = some (ip, rest) := by
  rw [local_readIpv6Addr ip.text rest h, readIpv6Addr_text]
  rfl

end Local

theorem readSocketAddr_v6 {cs cs' : List Char} {ip : Ipv6Addr} {port : UInt16} {scopeId : UInt32}
    (hip : readIpv6Addr cs = some (ip, cs'))
    (hscope : (readScopeId cs').getD (0, cs') =
      (scopeId, ']' :: ':' :: (toString port.toNat).toList)) :
    readSocketAddr ('[' :: cs) = some (.v6 ip port 0 scopeId, []) := by
  have hv4 : readSocketAddrV4 ('[' :: cs) = none := by
    simp [readSocketAddrV4, readIpv4Addr, readSeparator, readNumber, toDigit]
  simp only [readSocketAddr, hv4, none_or, readSocketAddrV6, readGivenChar, if_true, hip,
    hscope, readPort_numeral, bind_eq_bind, bind_some]

/-- **The text of a socket address is read back**, but for the flow label, which is not written. -/
theorem parseSocketAddr_text {addr : SocketAddr} (hflow : ∀ ip port flowinfo scopeId,
    addr = .v6 ip port flowinfo scopeId → flowinfo = 0) :
    parseSocketAddr (addr.text .std) = some addr := by
  have hread : readSocketAddr (addr.text .std).toList = some (addr, []) := by
    cases addr with
    | v4 ip port =>
      have hip := @readIpv4Addr_text ip (':' :: (toString port.toNat).toList) (by simp [toDigit])
      have htext : ((SocketAddr.v4 ip port).text .std).toList =
          ip.text ++ ':' :: (toString port.toNat).toList := by
        simp [SocketAddr.text, IpFormat.std, String.toList_append]
      simp only [readSocketAddr, readSocketAddrV4, htext, hip, readPort_numeral,
        bind_eq_bind, bind_some, some_or]
    | v6 ip port flowinfo scopeId =>
      obtain rfl := hflow _ _ _ _ rfl
      by_cases hscope : scopeId = 0
      · have htext : ((SocketAddr.v6 ip port 0 scopeId).text .std).toList =
            '[' :: (ip.text ++ ']' :: ':' :: (toString port.toNat).toList) := by
          simp [SocketAddr.text, IpFormat.std, String.toList_append, hscope]
        rw [htext, hscope]
        exact readSocketAddr_v6 (readIpv6Addr_text_append ip (by simp [StopsAddr]))
          (by simp [readScopeId, readGivenChar])
      · have hnumber := @readNumber_numeral scopeId.toNat 4294967296
          (']' :: ':' :: (toString port.toNat).toList) scopeId.toNat_lt (by simp)
        have htext : ((SocketAddr.v6 ip port 0 scopeId).text .std).toList =
            '[' :: (ip.text ++ '%' :: ((toString scopeId.toNat).toList ++
              ']' :: ':' :: (toString port.toNat).toList)) := by
          simp [SocketAddr.text, IpFormat.std, String.toList_append, hscope]
        rw [htext]
        refine readSocketAddr_v6 (readIpv6Addr_text_append ip (by simp [StopsAddr])) ?_
        simp only [readScopeId, readGivenChar, if_true, hnumber, bind_eq_bind,
          bind_some, getD_some, UInt32.ofNat_toNat]
  rw [parseSocketAddr, hread]

theorem parseSocketAddr_text_of_parse {s : String} {addr : SocketAddr}
    (h : parseSocketAddr s = some addr) : parseSocketAddr (addr.text .std) = some addr := by
  refine parseSocketAddr_text ?_
  rintro ip port flowinfo scopeId rfl
  rw [parseSocketAddr] at h
  split at h
  case h_1 addr hread =>
    cases h
    rcases or_eq_some_iff.1 hread with hread | ⟨-, hread⟩
    · simp [readSocketAddrV4, bind_eq_some_iff] at hread
    · simp only [readSocketAddrV6, bind_eq_bind, bind_eq_some_iff, some.injEq,
        Prod.mk.injEq, SocketAddr.v6.injEq] at hread
      obtain ⟨-, -, -, -, -, -, -, -, ⟨-, -, hflow, -⟩, -⟩ := hread
      exact hflow.symm
  case h_2 => cases h

end Net
