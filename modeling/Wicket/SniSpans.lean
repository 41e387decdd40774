/-
**Where the server name was found.**

The reader is written down once more with the places it computes, and a buffer is described by its
parts, with any numbers as the declared lengths.
-/

import Wicket.SniMessage

namespace Wicket

open Option Bytes HelloHead RawExtension UInt16

/-! ### The reader with its places -/

structure SniSpans where
  nameStart : ℕ
  nameEnd : ℕ
  listEnd : ℕ
  extEnd : ℕ
  extensionsEnd : ℕ
  handshakeEnd : ℕ
  recordEnd : ℕ
  deriving DecidableEq

structure SniSpans.Inside (s : SniSpans) : Prop where
  list : s.nameEnd ≤ s.listEnd
  ext : s.nameEnd ≤ s.extEnd
  extensions : s.nameEnd ≤ s.extensionsEnd
  handshake : s.nameEnd ≤ s.handshakeEnd
  record : s.nameEnd ≤ s.recordEnd

/-- The place of the name that `extract_sni` comes to, with the ends it has read on the way. -/
def sniSpans (buf : List UInt8) : Option SniSpans :=
  walkHello buf fun recordEnd handshakeEnd pos =>
    (readU16 buf pos).bind fun block =>
      walkExtensions buf (fun extStart extEnd =>
        (readU16 buf extStart).bind fun list =>
          walkNames buf (fun start stop => some ⟨start, stop, list.2 + list.1, extEnd,
            block.2 + block.1, handshakeEnd, recordEnd⟩) (list.2 + list.1) list.2)
        (block.2 + block.1) block.2

def SniSpans.text (buf : List UInt8) (s : SniSpans) : Option String :=
  fromUtf8 (slice buf s.nameStart s.nameEnd)

/-! ### The same reader -/

section Same

variable {buf : List UInt8} {α β : Type}

theorem ite_none_bind {p : Prop} [Decidable p] (x : Option α) (f : α → Option β) :
    (if p then none else x).bind f = if p then none else x.bind f := by
  split <;> rfl

variable (found : ℕ → ℕ → Option α)

theorem walkNames_bind (f : α → Option β) (listEnd pos : ℕ) :
    (walkNames buf found listEnd pos).bind f =
      walkNames buf (fun start stop => (found start stop).bind f) listEnd pos := by
  induction hleft : listEnd - pos using Nat.strongRecOn generalizing pos with
  | _ left ih =>
    by_cases hpos : pos < listEnd
    · rw [walkNames_step hpos, walkNames_step hpos, bind_assoc]
      refine bind_congr fun t ht => ?_
      rw [bind_assoc]
      refine bind_congr fun n hn => ?_
      by_cases hhost : t.1 = nameTypeHostname
      · rw [if_pos hhost, if_pos hhost, ite_none_bind, ite_none_bind]
      · rw [if_neg hhost, if_neg hhost, bind_assoc]
        refine bind_congr fun p hp => ?_
        have h₁ := readBe_pos ht
        have h₂ := readBe_pos hn
        have h₃ := skip_pos hp
        exact ih _ (by omega) p rfl
    · rw [walkNames, walkNames, if_neg hpos, if_neg hpos]
      rfl

theorem walkExtensions_bind (f : α → Option β)
    (extensionsEnd pos : ℕ) :
    (walkExtensions buf found extensionsEnd pos).bind f =
      walkExtensions buf (fun start stop => (found start stop).bind f) extensionsEnd pos := by
  induction hleft : extensionsEnd - pos using Nat.strongRecOn generalizing pos with
  | _ left ih =>
    by_cases hpos : pos < extensionsEnd
    · rw [walkExtensions_step hpos, walkExtensions_step hpos, bind_assoc]
      refine bind_congr fun t ht => ?_
      rw [bind_assoc]
      refine bind_congr fun n hn => ?_
      by_cases hname : t.1 = extServerName
      · rw [if_pos hname, if_pos hname]
      · have h₁ := readBe_pos ht
        have h₂ := readBe_pos hn
        rw [if_neg hname, if_neg hname]
        exact ih _ (by omega) _ rfl
    · rw [walkExtensions, walkExtensions, if_neg hpos, if_neg hpos]
      rfl

theorem walkHello_bind (next : ℕ → ℕ → ℕ → Option α) (f : α → Option β) :
    (walkHello buf next).bind f = walkHello buf fun r h p => (next r h p).bind f := by
  dsimp only [walkHello, walkHandshake, walkFields, bind_eq_bind]
  rw [bind_assoc]
  refine bind_congr fun contentType _ => ?_
  rw [ite_none_bind, bind_assoc]
  refine ite_congr rfl (fun _ => rfl) fun _ => ?_
  refine bind_congr fun _ _ => ?_
  rw [bind_assoc]
  refine bind_congr fun record _ => ?_
  rw [ite_none_bind, bind_assoc]
  refine ite_congr rfl (fun _ => rfl) fun _ => ?_
  refine bind_congr fun handshakeType _ => ?_
  rw [ite_none_bind, bind_assoc]
  refine ite_congr rfl (fun _ => rfl) fun _ => ?_
  refine bind_congr fun handshake _ => ?_
  rw [ite_none_bind]
  refine ite_congr rfl (fun _ => rfl) fun _ => ?_
  iterate 8
    rw [bind_assoc]
    refine bind_congr fun _ _ => ?_
  exact ite_none_bind _ f

theorem extractSni_eq_spans (buf : List UInt8) :
    extractSni buf = (sniSpans buf).bind (SniSpans.text buf) := by
  rw [extractSni, sniSpans, walkHello_bind]
  refine congrArg (walkHello buf) ?_
  funext recordEnd handshakeEnd pos
  rw [extractFromExtensions, bind_assoc]
  refine bind_congr fun block _ => ?_
  rw [extensionLoop, walkExtensions_bind]
  refine congrArg (fun found => walkExtensions buf found _ _) ?_
  funext extStart extEnd
  rw [bind_assoc]
  refine bind_congr fun list _ => ?_
  rw [serverNameLoop, walkNames_bind]
  rfl

end Same

/-! ### The parts of a buffer -/

/-- A buffer with a server name, in which the lengths are any numbers that fit their fields. -/
structure SniLayout where
  head : HelloHead
  recordLen : ℕ
  handshakeLen : ℕ
  extensionsLen : ℕ
  before : List RawExtension
  extLen : ℕ
  listLen : ℕ
  others : List NameEntry
  name : String
  rest : List UInt8
  recordLen_lt : recordLen < 65536
  handshakeLen_lt : handshakeLen < 16777216
  extensionsLen_lt : extensionsLen < 65536
  extLen_lt : extLen < 65536
  listLen_lt : listLen < 65536
  before_other : ∀ e ∈ before, e.extType.toNat ≠ extServerName
  others_other : ∀ o ∈ others, o.nameType.toNat ≠ nameTypeHostname
  name_length : (utf8Bytes name).length ≤ maxHostnameLen

namespace SniLayout

variable (l : SniLayout)

def entryBytes : List UInt8 :=
  l.others.flatMap NameEntry.encode ++ (be 1 nameTypeHostname ++ (counted 2 (utf8Bytes l.name) ++
    l.rest))

def extensionBytes : List UInt8 :=
  l.before.flatMap RawExtension.encode ++ (be 2 extServerName ++ (be 2 l.extLen ++
    (be 2 l.listLen ++ l.entryBytes)))

def bytes : List UInt8 :=
  l.head.bytes l.recordLen l.handshakeLen (be 2 l.extensionsLen ++ l.extensionBytes)

def fieldsLen : ℕ := l.head.fields.length

def beforeLen : ℕ := (l.before.flatMap RawExtension.encode).length

def othersLen : ℕ := (l.others.flatMap NameEntry.encode).length

def nameLen : ℕ := (utf8Bytes l.name).length

def spans : SniSpans where
  nameStart := 20 + l.fieldsLen + l.beforeLen + l.othersLen
  nameEnd := 20 + l.fieldsLen + l.beforeLen + l.othersLen + l.nameLen
  listEnd := 17 + l.fieldsLen + l.beforeLen + l.listLen
  extEnd := 15 + l.fieldsLen + l.beforeLen + l.extLen
  extensionsEnd := 11 + l.fieldsLen + l.extensionsLen
  handshakeEnd := 9 + l.handshakeLen
  recordEnd := 5 + l.recordLen

/-- **Each vector fits into the one around it**, from the name to the buffer. -/
structure Nested : Prop where
  name : l.othersLen + 3 + l.nameLen ≤ l.listLen
  list : 2 + l.listLen ≤ l.extLen
  ext : l.beforeLen + 4 + l.extLen ≤ l.extensionsLen
  extensions : l.fieldsLen + 2 + l.extensionsLen ≤ l.handshakeLen
  handshake : 4 + l.handshakeLen ≤ l.recordLen
  record : 5 + l.recordLen ≤ l.bytes.length

/-- What the reader asks of the lengths: an item starts before the end of the vector around it, and
the message and the record end in the buffer. -/
structure Readable : Prop where
  name : l.othersLen < l.listLen
  ext : l.beforeLen < l.extensionsLen
  extensions : l.fieldsLen < l.handshakeLen
  handshake : 9 + l.handshakeLen ≤ l.bytes.length
  record : 5 + l.recordLen ≤ l.bytes.length

theorem length_bytes : l.bytes.length =
    20 + l.fieldsLen + l.beforeLen + l.othersLen + l.nameLen + l.rest.length := by
  rw [bytes, HelloHead.length_bytes]
  simp only [extensionBytes, entryBytes, List.length_append, length_be, length_counted]
  simp only [fieldsLen, beforeLen, othersLen, nameLen]
  omega

theorem Nested.readable {l : SniLayout} (h : l.Nested) : l.Readable := by
  obtain ⟨hname, hlist, hext, hextensions, hhandshake, hrecord⟩ := h
  constructor
  all_goals omega

theorem Nested.inside {l : SniLayout} (h : l.Nested) : l.spans.Inside := by
  obtain ⟨hname, hlist, hext, hextensions, hhandshake, -⟩ := h
  constructor
  all_goals simp only [spans]
  all_goals omega

end SniLayout

/-! ### The reader on the parts -/

section Layout

variable {buf tail : List UInt8} {α : Type}

theorem sniSpans_layout (l : SniLayout) (h : l.Readable) : sniSpans l.bytes = some l.spans := by
  have hlen := l.length_bytes
  have hat := l.head.at_extensions l.recordLen l.handshakeLen
    (be 2 l.extensionsLen ++ l.extensionBytes)
  obtain ⟨hname, hext, hextensions, hhandshake, hrecord⟩ := h
  have hfields : l.head.fields.length = l.fieldsLen := rfl
  have hbefore : (l.before.flatMap encode).length = l.beforeLen := rfl
  have hothers : (l.others.flatMap NameEntry.encode).length = l.othersLen := rfl
  rw [SniLayout.bytes, length_bytes] at hlen hrecord hhandshake
  rw [SniLayout.bytes, sniSpans, walkHello_bytes _ l.recordLen_lt l.handshakeLen_lt,
    if_pos ⟨hrecord, hhandshake, hextensions⟩]
  -- from here on only what stands at the positions counts, not how the buffer is made
  have hblock := hat.after_be
  have hnames := hblock.append.after_be.after_be
  rw [readU16_at hat l.extensionsLen_lt, bind_some,
    walkExtensions_serverName hblock (fun e he => RawExtension.isOther (l.before_other e he))
      (by omega) l.extLen_lt,
    readU16_at hnames l.listLen_lt, bind_some,
    walkNames_host hnames.after_be (fun o ho => NameEntry.isOther (l.others_other o ho)) (by omega)
      (Nat.lt_of_le_of_lt l.name_length (by decide)), if_neg (Nat.not_lt.2 l.name_length)]
  simp only [hfields, hbefore, hothers, SniLayout.spans, SniLayout.nameLen, some_inj,
    SniSpans.mk.injEq, and_true]
  omega

theorem SniLayout.at_name (l : SniLayout) :
    At l.bytes l.spans.nameStart (utf8Bytes l.name ++ l.rest) := by
  have hat := l.head.at_extensions l.recordLen l.handshakeLen
    (be 2 l.extensionsLen ++ l.extensionBytes)
  have hname := hat.after_be.append.after_be.after_be.after_be.append.after_be.of_counted.after_be
  have hpos : l.spans.nameStart = 9 + l.head.fields.length + 2 +
      (l.before.flatMap encode).length + 2 + 2 + 2 +
      (l.others.flatMap NameEntry.encode).length + 1 + 2 := by
    simp only [SniLayout.spans, SniLayout.fieldsLen, SniLayout.beforeLen, SniLayout.othersLen]
    omega
  rwa [hpos]

theorem extractSni_layout (l : SniLayout) (h : l.Readable) : extractSni l.bytes = some l.name := by
  have hend : l.spans.nameEnd = l.spans.nameStart + (utf8Bytes l.name).length := rfl
  rw [extractSni_eq_spans, sniSpans_layout l h, bind_some, SniSpans.text, hend,
    l.at_name.slice_eq rfl, fromUtf8_utf8Bytes]

/-! ### The parts of what was read -/

variable {bytes : List UInt8} {extensionsEnd : ℕ}

theorem exists_uint16 (h : bytes.length = 2) :
    ∃ n : UInt16, bytes = be 2 n.toNat := by
  obtain ⟨n, hn, rfl⟩ := exists_be h
  exact ⟨ofNat n, by rw [toNat_ofNat_of_lt' hn]⟩

theorem utf8Bytes_of_fromUtf8 {s : String} (h : fromUtf8 bytes = some s) :
    utf8Bytes s = bytes := by
  unfold fromUtf8 String.fromUTF8? at h
  split at h
  · cases h
    simp [utf8Bytes, String.fromUTF8]
  · cases h

variable {a : α} {found : ℕ → ℕ → Option α} {pos : ℕ}

theorem exists_head_of_walkHello {next : ℕ → ℕ → ℕ → Option α} (h : walkHello buf next = some a) :
    ∃ (head : HelloHead) (recordLen handshakeLen : ℕ) (tail : List UInt8),
      recordLen < 65536 ∧ handshakeLen < 16777216 ∧
        buf = head.bytes recordLen handshakeLen tail := by
  obtain ⟨⟨contentType, pos₁⟩, htype, h⟩ := bind_eq_some_iff.1 h
  simp only at h
  split at h
  case isTrue => cases h
  case isFalse hcontent =>
    obtain ⟨pos₂, hrecordVersion, h⟩ := bind_eq_some_iff.1 h
    obtain ⟨⟨recordLen, pos₃⟩, hrecord, h⟩ := bind_eq_some_iff.1 h
    split at h
    case isTrue => cases h
    case isFalse =>
      obtain ⟨⟨handshakeType, pos₄⟩, hhandshake, h⟩ := bind_eq_some_iff.1 h
      simp only at h
      split at h
      case isTrue => cases h
      case isFalse hhello =>
        obtain ⟨⟨handshakeLen, pos₅⟩, hsize, h⟩ := bind_eq_some_iff.1 h
        split at h
        case isTrue => cases h
        case isFalse =>
          obtain ⟨pos₆, hversion, h⟩ := bind_eq_some_iff.1 h
          obtain ⟨pos₇, hrandom, h⟩ := bind_eq_some_iff.1 h
          obtain ⟨⟨sessionIdLen, pos₈⟩, hsessionLen, h⟩ := bind_eq_some_iff.1 h
          obtain ⟨pos₉, hsession, h⟩ := bind_eq_some_iff.1 h
          obtain ⟨⟨cipherSuitesLen, pos₁₀⟩, hciphersLen, h⟩ := bind_eq_some_iff.1 h
          obtain ⟨pos₁₁, hciphers, h⟩ := bind_eq_some_iff.1 h
          obtain ⟨⟨compressionLen, pos₁₂⟩, hmethodsLen, h⟩ := bind_eq_some_iff.1 h
          obtain ⟨pos₁₃, hmethods, -⟩ := bind_eq_some_iff.1 h
          -- what was read stands there, field by field
          obtain ⟨-, tail₁, hbuf, hat₁⟩ := (at_zero buf).readBe_inv htype
          obtain ⟨recordVersion, tail₂, hlen₂, rfl, hat₂⟩ := hat₁.skip_inv hrecordVersion
          obtain ⟨hlt₃, tail₃, rfl, hat₃⟩ := hat₂.readBe_inv hrecord
          obtain ⟨-, tail₄, rfl, hat₄⟩ := hat₃.readBe_inv hhandshake
          obtain ⟨hlt₅, tail₅, rfl, hat₅⟩ := hat₄.readBe_inv hsize
          obtain ⟨version, tail₆, hlen₆, rfl, hat₆⟩ := hat₅.skip_inv hversion
          obtain ⟨random, tail₇, hlen₇, rfl, hat₇⟩ := hat₆.skip_inv hrandom
          obtain ⟨sessionId, tail₈, -, hlen₈, rfl, hat₈⟩ := hat₇.counted_inv hsessionLen hsession
          obtain ⟨ciphers, tail₉, -, hlen₉, rfl, hat₉⟩ := hat₈.counted_inv hciphersLen hciphers
          obtain ⟨methods, tail, -, hlen, rfl, -⟩ := hat₉.counted_inv hmethodsLen hmethods
          obtain ⟨recordVersion, rfl⟩ := exists_uint16 hlen₂
          obtain ⟨version, rfl⟩ := exists_uint16 hlen₆
          refine ⟨⟨recordVersion, version, random, sessionId, ciphers, methods, hlen₇, hlen₈,
            hlen₉, hlen⟩, recordLen, handshakeLen, tail, hlt₃, hlt₅, ?_⟩
          rw [hbuf, not_not.1 hcontent, not_not.1 hhello]
          simp [bytes, fields]

theorem le_length_of_walkExtensions (h : walkExtensions buf found extensionsEnd pos = some a) :
    pos ≤ buf.length := by
  by_cases hpos : pos < extensionsEnd
  · rw [walkExtensions_step hpos] at h
    obtain ⟨⟨extType, pos₁⟩, htype, -⟩ := bind_eq_some_iff.1 h
    obtain ⟨-, -, rest, hat⟩ := at_of_readBe htype
    rw [hat.length]
    omega
  · rw [walkExtensions, if_neg hpos] at h
    cases h

theorem behind_of_walkExtensions (hat : At buf pos tail)
    (h : walkExtensions buf found extensionsEnd pos = some a) :
    Behind encode (fun e => e.extType.toNat ≠ extServerName)
      (fun pos tail => ∃ (extLen : ℕ) (rest : List UInt8), extLen < 65536 ∧
        tail = be 2 extServerName ++ (be 2 extLen ++ rest) ∧ pos < extensionsEnd ∧
        found (pos + 4) (pos + 4 + extLen) = some a) pos tail := by
  induction hleft : extensionsEnd - pos using Nat.strongRecOn generalizing pos tail with
  | _ left ih =>
    by_cases hpos : pos < extensionsEnd
    · rw [walkExtensions_step hpos] at h
      obtain ⟨⟨extType, pos₁⟩, htype, h⟩ := bind_eq_some_iff.1 h
      obtain ⟨⟨extLen, pos₂⟩, hlen, h⟩ := bind_eq_some_iff.1 h
      obtain rfl := readBe_pos htype
      obtain rfl := readBe_pos hlen
      obtain ⟨htypelt, tail₁, rfl, hat₁⟩ := hat.readBe_inv htype
      obtain ⟨hlenlt, tail₂, rfl, hat₂⟩ := hat₁.readBe_inv hlen
      by_cases hname : extType = extServerName
      · rw [if_pos hname] at h
        exact .here ⟨extLen, tail₂, hlenlt, by rw [hname], hpos, h⟩
      · rw [if_neg hname] at h
        -- the next extension was read, so this one ends in the buffer
        have hnext := le_length_of_walkExtensions h
        obtain ⟨data, tail₃, rfl, rfl, hat₃⟩ := hat₂.skip_inv
          (show skip buf _ extLen = some _ by rw [skip, if_neg (by omega)])
        have htoNat : (ofNat extType).toNat = extType := toNat_ofNat_of_lt' htypelt
        let e : RawExtension := ⟨ofNat extType, data, hlenlt⟩
        have hencode : e.encode ++ tail₃ =
            be 2 extType ++ (be 2 data.length ++ (data ++ tail₃)) := by
          simp [e, encode, counted, htoNat]
        have hsize : pos + e.encode.length = pos + 2 + 2 + data.length := by
          simp only [e.length_encode, e]
          omega
        rw [← hencode]
        refine .cons (by rw [htoNat]; exact hname) ?_
        rw [hsize]
        exact ih _ (by omega) hat₃ h rfl
    · rw [walkExtensions, if_neg hpos] at h
      cases h

theorem behind_of_walkNames {listEnd : ℕ} (hat : At buf pos tail)
    (h : walkNames buf found listEnd pos = some a) :
    Behind NameEntry.encode (fun o => o.nameType.toNat ≠ nameTypeHostname)
      (fun pos tail => ∃ data rest : List UInt8, data.length ≤ maxHostnameLen ∧
        tail = be 1 nameTypeHostname ++ (counted 2 data ++ rest) ∧ pos < listEnd ∧
        found (pos + 3) (pos + 3 + data.length) = some a) pos tail := by
  induction hleft : listEnd - pos using Nat.strongRecOn generalizing pos tail with
  | _ left ih =>
    by_cases hpos : pos < listEnd
    · rw [walkNames_step hpos] at h
      obtain ⟨⟨nameType, pos₁⟩, htype, h⟩ := bind_eq_some_iff.1 h
      obtain ⟨⟨nameLen, pos₂⟩, hlen, h⟩ := bind_eq_some_iff.1 h
      obtain rfl := readBe_pos htype
      obtain rfl := readBe_pos hlen
      obtain ⟨htypelt, tail₁, rfl, hat₁⟩ := hat.readBe_inv htype
      by_cases hname : nameType = nameTypeHostname
      · rw [if_pos hname] at h
        split at h
        case isTrue => cases h
        case isFalse hshort =>
          split at h
          case isTrue => cases h
          case isFalse hcut =>
            obtain ⟨data, rest, rfl, -, rfl, -⟩ := hat₁.counted_inv hlen
              (show skip buf _ nameLen = some _ by rw [skip, if_neg hcut])
            exact .here ⟨data, rest, by omega, by rw [hname], hpos, h⟩
      · rw [if_neg hname] at h
        obtain ⟨pos₃, hskip, h⟩ := bind_eq_some_iff.1 h
        obtain rfl := skip_pos hskip
        obtain ⟨skipped, tail₂, rfl, hlt, rfl, hat₂⟩ := hat₁.counted_inv hlen hskip
        have htoNat : (UInt8.ofNat nameType).toNat = nameType := UInt8.toNat_ofNat_of_lt' htypelt
        let o : NameEntry := ⟨UInt8.ofNat nameType, skipped, hlt⟩
        have hencode : o.encode ++ tail₂ = be 1 nameType ++ (counted 2 skipped ++ tail₂) := by
          simp [o, NameEntry.encode, htoNat]
        have hsize : pos + o.encode.length = pos + 1 + 2 + skipped.length := by
          simp only [o.length_encode, o]
          omega
        rw [← hencode]
        refine .cons (by rw [htoNat]; exact hname) ?_
        rw [hsize]
        exact ih _ (by omega) hat₂ h rfl
    · rw [walkNames, if_neg hpos] at h
      cases h

theorem extractSni_eq_some_iff {name : String} :
    extractSni buf = some name ↔ ∃ l : SniLayout, l.Readable ∧ l.bytes = buf ∧ l.name = name := by
  constructor
  · intro h
    rw [extractSni] at h
    obtain ⟨head, recordLen, handshakeLen, tail, hrecord, hhandshake, rfl⟩ :=
      exists_head_of_walkHello h
    have hat := head.at_extensions recordLen handshakeLen tail
    rw [walkHello_bytes _ hrecord hhandshake] at h
    split at h
    case isFalse => cases h
    case isTrue hends =>
      obtain ⟨⟨extensionsLen, pos⟩, hextensions, h⟩ := bind_eq_some_iff.1 h
      obtain ⟨hextensionsLen, tail, rfl, hblock⟩ := hat.readBe_inv hextensions
      rw [extensionLoop] at h
      obtain ⟨before, hbefore, _, rfl, extLen, tail, hextLen, rfl, hext, h⟩ :=
        behind_of_walkExtensions hblock h
      obtain ⟨⟨listLen, pos⟩, hlist, h⟩ := bind_eq_some_iff.1 h
      obtain ⟨hlistLen, tail, rfl, hnames⟩ := hblock.append.after_be.after_be.readBe_inv hlist
      rw [serverNameLoop] at h
      obtain ⟨others, hothers, _, rfl, data, rest, hdata, rfl, hname, h⟩ :=
        behind_of_walkNames hnames h
      rw [hnames.append.after_be.of_counted.after_be.slice_eq rfl] at h
      obtain rfl := utf8Bytes_of_fromUtf8 h
      obtain ⟨hrecordEnd, hhandshakeEnd, hfields⟩ := hends
      refine ⟨⟨head, recordLen, handshakeLen, extensionsLen, before, extLen, listLen, others, name,
        rest, hrecord, hhandshake, hextensionsLen, hextLen, hlistLen, hbefore, hothers, hdata⟩,
        ?_, rfl, rfl⟩
      constructor
      · show (others.flatMap NameEntry.encode).length < listLen
        omega
      · show (before.flatMap encode).length < extensionsLen
        omega
      · exact hfields
      · rw [SniLayout.bytes, length_bytes]
        exact hhandshakeEnd
      · rw [SniLayout.bytes, length_bytes]
        exact hrecordEnd
  · intro h
    obtain ⟨l, hreadable, rfl, rfl⟩ := h
    exact extractSni_layout l hreadable

end Layout

end Wicket
