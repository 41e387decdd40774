/-
**The server name in a ClientHello.**

The reader goes over the fields and stops at the first `server_name` extension.  It is compared with
messages that are written down field by field.
-/

import Wicket.ByteReader

namespace Wicket

open Option List Bytes

/-! ### The reader -/

def tlsHandshake : ℕ := 22

def handshakeClientHello : ℕ := 1

def extServerName : ℕ := 0

def nameTypeHostname : ℕ := 0

def maxHostnameLen : ℕ := 253

def readU8 : List UInt8 → ℕ → Option (ℕ × ℕ) := readBe 1

def readU16 : List UInt8 → ℕ → Option (ℕ × ℕ) := readBe 2

def readU24 : List UInt8 → ℕ → Option (ℕ × ℕ) := readBe 3

def fromUtf8 (bytes : List UInt8) : Option String := String.fromUTF8? bytes.toByteArray

/-- The loop over the names of a `server_name` extension, up to the first host name; what is done
with its place is `found`. -/
def walkNames {α : Type} (buf : List UInt8) (found : ℕ → ℕ → Option α) (listEnd pos : ℕ) :
    Option α :=
  if pos < listEnd then
    match _hread : readU8 buf pos with
    | none => none
    | some (nameType, pos₁) =>
      match _hread₁ : readU16 buf pos₁ with
      | none => none
      | some (nameLen, pos₂) =>
        if nameType = nameTypeHostname then
          if maxHostnameLen < nameLen then none
          else if buf.length < pos₂ + nameLen then none
          else found pos₂ (pos₂ + nameLen)
        else
          match _hskip : skip buf pos₂ nameLen with
          | none => none
          | some pos₃ => walkNames buf found listEnd pos₃
  else none
termination_by listEnd - pos
decreasing_by
  have h₁ := readBe_pos _hread
  have h₂ := readBe_pos _hread₁
  have h₃ := skip_pos _hskip
  omega

/-- The loop over the names, up to the text of the first host name. -/
def serverNameLoop (buf : List UInt8) : ℕ → ℕ → Option String :=
  walkNames buf fun start stop => fromUtf8 (slice buf start stop)

/-- The loop over the extensions, up to the first `server_name`; what is done with the place of its
contents is `found`.  An extension is passed over without a look at the end of the buffer. -/
def walkExtensions {α : Type} (buf : List UInt8) (found : ℕ → ℕ → Option α)
    (extensionsEnd pos : ℕ) : Option α :=
  if pos < extensionsEnd then
    match _hread : readU16 buf pos with
    | none => none
    | some (extType, pos₁) =>
      match _hread₁ : readU16 buf pos₁ with
      | none => none
      | some (extLen, extStart) =>
        if extType = extServerName then found extStart (extStart + extLen)
        else walkExtensions buf found extensionsEnd (extStart + extLen)
  else none
termination_by extensionsEnd - pos
decreasing_by
  have h₁ := readBe_pos _hread
  have h₂ := readBe_pos _hread₁
  omega

/-- The loop over the extensions, up to the name in the first `server_name`. -/
def extensionLoop (buf : List UInt8) : ℕ → ℕ → Option String :=
  walkExtensions buf fun start _ =>
    (readU16 buf start).bind fun list => serverNameLoop buf (list.2 + list.1) list.2

/-- The fields of the ClientHello; at the extensions the reader goes on with `next`. -/
def walkFields {α : Type} (buf : List UInt8) (next : ℕ → Option α) (handshakeEnd pos : ℕ) :
    Option α := do
  let pos ← skip buf pos 2
  let pos ← skip buf pos 32
  let (sessionIdLen, pos) ← readU8 buf pos
  let pos ← skip buf pos sessionIdLen
  let (cipherSuitesLen, pos) ← readU16 buf pos
  let pos ← skip buf pos cipherSuitesLen
  let (compressionLen, pos) ← readU8 buf pos
  let pos ← skip buf pos compressionLen
  if handshakeEnd ≤ pos then none else next pos

/-- The header of the handshake, and the fields; `next` gets the end of the handshake too. -/
def walkHandshake {α : Type} (buf : List UInt8) (next : ℕ → ℕ → Option α) (pos : ℕ) :
    Option α := do
  let (handshakeType, pos) ← readU8 buf pos
  if handshakeType ≠ handshakeClientHello then none
  else
    let (handshakeLen, pos) ← readU24 buf pos
    if buf.length < pos + handshakeLen then none
    else walkFields buf (next (pos + handshakeLen)) (pos + handshakeLen) pos

/-- The header of the record, that of the handshake, and the fields; `next` gets the ends of the
record and of the handshake too. -/
def walkHello {α : Type} (buf : List UInt8) (next : ℕ → ℕ → ℕ → Option α) : Option α := do
  let (contentType, pos) ← readU8 buf 0
  if contentType ≠ tlsHandshake then none
  else
    let pos ← skip buf pos 2
    let (recordLen, pos) ← readU16 buf pos
    if buf.length < pos + recordLen then none
    else walkHandshake buf (next (pos + recordLen)) pos

/-- The part of `extract_sni` that starts at the length of the extensions. -/
def extractFromExtensions (buf : List UInt8) (pos : ℕ) : Option String :=
  (readU16 buf pos).bind fun block => extensionLoop buf (block.2 + block.1) block.2

/-- The server name in the bytes of a ClientHello. -/
def extractSni (buf : List UInt8) : Option String :=
  walkHello buf fun _ _ pos => extractFromExtensions buf pos

/-! ### What stands before the extensions -/

/-- The fields of a ClientHello in front of its extensions, with the version of its record. -/
structure HelloHead where
  recordVersion : UInt16
  version : UInt16
  random : List UInt8
  sessionId : List UInt8
  cipherSuites : List UInt8
  compressionMethods : List UInt8
  random_length : random.length = 32
  sessionId_length : sessionId.length < 256
  cipherSuites_length : cipherSuites.length < 65536
  compressionMethods_length : compressionMethods.length < 256

/-- A head with one cipher suite and without compression. -/
def HelloHead.plain : HelloHead where
  recordVersion := 0x0301
  version := 0x0303
  random := replicate 32 0
  sessionId := []
  cipherSuites := [0x13, 0x01]
  compressionMethods := [0]
  random_length := length_replicate
  sessionId_length := by decide
  cipherSuites_length := by decide
  compressionMethods_length := by decide

def HelloHead.fields (head : HelloHead) : List UInt8 :=
  be 2 head.version.toNat ++ (head.random ++ (counted 1 head.sessionId ++
    (counted 2 head.cipherSuites ++ counted 1 head.compressionMethods)))

/-- A record with a ClientHello up to its extensions, with the two lengths in the headers, and what
follows. -/
def HelloHead.bytes (head : HelloHead) (recordLen handshakeLen : ℕ) (tail : List UInt8) :
    List UInt8 :=
  be 1 tlsHandshake ++ (be 2 head.recordVersion.toNat ++ (be 2 recordLen ++
    (be 1 handshakeClientHello ++ (be 3 handshakeLen ++ (head.fields ++ tail)))))

/-! ### ClientHello messages -/

inductive ServerName
  | hostName (name : String)
  | other (nameType : UInt8) (unknown : nameType.toNat ≠ nameTypeHostname) (data : List UInt8)

inductive Extension
  | serverName (names : List ServerName)
  | other (extType : UInt16) (unknown : extType.toNat ≠ extServerName) (data : List UInt8)

def utf8Bytes (s : String) : List UInt8 := s.toByteArray.data.toList

def ServerName.encode : ServerName → List UInt8
  | .hostName name => be 1 nameTypeHostname ++ be 2 (utf8Bytes name).length ++ utf8Bytes name
  | .other nameType _ data => be 1 nameType.toNat ++ be 2 data.length ++ data

def Extension.encode : Extension → List UInt8
  | .serverName names =>
    be 2 extServerName ++ counted 2 (counted 2 (names.flatMap ServerName.encode))
  | .other extType _ data => be 2 extType.toNat ++ counted 2 data

/-- A ClientHello in one record, with extensions that are written by `encode`. -/
structure Hello {ε : Type} (encode : ε → List UInt8) extends HelloHead where
  extensions : Option (List ε)

section Hello

variable {ε : Type} {encode : ε → List UInt8}

/-- The extensions behind their length; without extensions there is no length either. -/
def Hello.extensionBlock (hello : Hello encode) : List UInt8 :=
  match hello.extensions with
  | none => []
  | some extensions => counted 2 (extensions.flatMap encode)

def Hello.bodyLen (hello : Hello encode) : ℕ := hello.fields.length + hello.extensionBlock.length

/-- The record, with the lengths of what is in it. -/
def Hello.record (hello : Hello encode) : List UInt8 :=
  hello.bytes (4 + hello.bodyLen) hello.bodyLen hello.extensionBlock

end Hello

/-- A ClientHello within the limits of the protocol. -/
structure ClientHello extends Hello Extension.encode where
  sessionId_le : sessionId.length ≤ 32
  fits : 4 + toHello.bodyLen ≤ 16384

def ServerName.host : ServerName → Option String
  | .hostName name => some name
  | .other _ _ _ => none

def Extension.names : Extension → Option (List ServerName)
  | .serverName names => some names
  | .other _ _ _ => none

def hostNameOf (names : List ServerName) : Option String := names.findSome? ServerName.host

def serverNameOf (extensions : List Extension) : Option String :=
  (extensions.findSome? Extension.names).bind hostNameOf

def ClientHello.serverName (hello : ClientHello) : Option String :=
  serverNameOf (hello.extensions.getD [])

def isHostLength (name : String) : Bool := decide ((utf8Bytes name).length ≤ maxHostnameLen)

/-! ### Reading what was written -/

theorem fromUtf8_utf8Bytes (s : String) : fromUtf8 (utf8Bytes s) = some s := by
  have hbytes : (utf8Bytes s).toByteArray = s.toByteArray :=
    ByteArray.ext (by rw [data_toByteArray, utf8Bytes, Array.toArray_toList])
  rw [fromUtf8, hbytes, String.fromUTF8?, dif_pos s.isValidUTF8]
  rfl

section Written

variable {buf tail : List UInt8} {pos : ℕ}
  {n listEnd extensionsEnd : ℕ} {α : Type} {found : ℕ → ℕ → Option α} {data : List UInt8}

theorem readU8_at (h : At buf pos (be 1 n ++ tail)) (hn : n < 256) :
    readU8 buf pos = some (n, pos + 1) := h.readBe hn

theorem readU16_at (h : At buf pos (be 2 n ++ tail)) (hn : n < 65536) :
    readU16 buf pos = some (n, pos + 2) := h.readBe hn

theorem readU24_at (h : At buf pos (be 3 n ++ tail)) (hn : n < 16777216) :
    readU24 buf pos = some (n, pos + 3) := h.readBe hn

theorem walkNames_step (hpos : pos < listEnd) :
    walkNames buf found listEnd pos =
      (readU8 buf pos).bind fun t => (readU16 buf t.2).bind fun n =>
        if t.1 = nameTypeHostname then
          if maxHostnameLen < n.1 then none
          else if buf.length < n.2 + n.1 then none
          else found n.2 (n.2 + n.1)
        else (skip buf n.2 n.1).bind (walkNames buf found listEnd) := by
  rw [walkNames, if_pos hpos]
  split
  case h_1 hread => rw [hread, bind_none]
  case h_2 t p hread =>
    rw [hread, bind_some]
    split
    case h_1 hread₁ => rw [hread₁, bind_none]
    case h_2 n p hread₁ =>
      rw [hread₁, bind_some]
      refine if_congr Iff.rfl rfl ?_
      split
      case h_1 hskip => rw [hskip, bind_none]
      case h_2 p hskip => rw [hskip, bind_some]

variable {nameType extType : ℕ}

theorem walkNames_entry (h : At buf pos (be 1 nameType ++ (counted 2 data ++ tail)))
    (hpos : pos < listEnd) (htype : nameType < 256) (hdata : data.length < 65536) :
    walkNames buf found listEnd pos =
      if nameType = nameTypeHostname then
        if maxHostnameLen < data.length then none
        else found (pos + 3) (pos + 3 + data.length)
      else walkNames buf found listEnd (pos + 3 + data.length) := by
  have h₁ : At buf (pos + 1) (be 2 data.length ++ (data ++ tail)) := h.after_be.of_counted
  have h₂ : At buf (pos + 3) (data ++ tail) := h₁.after_be
  have hlen := h₂.length
  rw [length_append] at hlen
  rw [walkNames_step hpos, readU8_at h htype, bind_some, readU16_at h₁ hdata,
    bind_some, h₂.skip rfl, bind_some, if_neg (show ¬buf.length < _ by omega)]

/-- What the loops pass over: a type that is not `tag`, and data behind its length. -/
def IsOther (width tag : ℕ) (bytes : List UInt8) : Prop :=
  ∃ type data, bytes = be width type ++ counted 2 data ∧ type ≠ tag ∧ type < 256 ^ width ∧
    data.length < 65536

variable {ε : Type} {encode : ε → List UInt8} {others : List ε}

theorem walkNames_others (h : At buf pos (others.flatMap encode ++ tail))
    (hothers : ∀ o ∈ others, IsOther 1 nameTypeHostname (encode o))
    (hend : pos + (others.flatMap encode).length ≤ listEnd) :
    walkNames buf found listEnd pos =
      walkNames buf found listEnd (pos + (others.flatMap encode).length) := by
  induction others generalizing pos with
  | nil => rfl
  | cons o others ih =>
    obtain ⟨type, data, hencode, htype, hlt, hdata⟩ := hothers o mem_cons_self
    simp only [flatMap_cons, hencode, append_assoc, length_append, length_be,
      length_counted] at h hend ⊢
    have hnext : At buf (pos + 3 + data.length) (others.flatMap encode ++ tail) :=
      h.after_be.after_counted
    rw [walkNames_entry h (by omega) hlt hdata, if_neg htype,
      ih hnext (fun o' ho' => hothers o' (mem_cons_of_mem _ ho')) (by omega)]
    congr 1
    omega

/-- **The first host name is found**, behind entries of other types. -/
theorem walkNames_host (h : At buf pos (others.flatMap encode ++
      (be 1 nameTypeHostname ++ (counted 2 data ++ tail))))
    (hothers : ∀ o ∈ others, IsOther 1 nameTypeHostname (encode o))
    (hend : pos + (others.flatMap encode).length < listEnd) (hdata : data.length < 65536) :
    walkNames buf found listEnd pos =
      if maxHostnameLen < data.length then none
      else found (pos + (others.flatMap encode).length + 3)
        (pos + (others.flatMap encode).length + 3 + data.length) := by
  rw [walkNames_others h hothers (Nat.le_of_lt hend),
    walkNames_entry h.append hend (by decide) hdata, if_pos rfl]

theorem ServerName.isOther {n : ServerName} (hhost : n.host = none)
    (hlen : n.encode.length < 65536) : IsOther 1 nameTypeHostname n.encode := by
  cases n with
  | hostName name => cases hhost
  | other nameType unknown data =>
    simp only [ServerName.encode, length_append, length_be] at hlen
    exact ⟨_, data, append_assoc .., unknown, nameType.toNat_lt, by omega⟩

theorem length_encode_lt {es : List ε} (hlen : (es.flatMap encode).length < 65536) :
    ∀ e ∈ es, (encode e).length < 65536 := by
  intro e he
  obtain ⟨before, after, rfl⟩ := append_of_mem he
  simp only [flatMap_append, flatMap_cons, length_append] at hlen
  omega

theorem serverNameLoop_names {names : List ServerName}
    (h : At buf pos (names.flatMap ServerName.encode ++ tail))
    (hend : listEnd = pos + (names.flatMap ServerName.encode).length)
    (hlen : (names.flatMap ServerName.encode).length < 65536) :
    serverNameLoop buf listEnd pos = (hostNameOf names).filter isHostLength := by
  have hsmall := length_encode_lt hlen
  rw [serverNameLoop]
  cases hhost : hostNameOf names with
  | none =>
    have hothers := findSome?_eq_none_iff.1 hhost
    rw [walkNames_others h (fun n hn => ServerName.isOther (hothers n hn) (hsmall n hn))
      (Nat.le_of_eq hend.symm),
      walkNames, if_neg (by omega)]
    rfl
  | some name =>
    obtain ⟨others, n, later, rfl, hn, hothers⟩ := findSome?_eq_some_iff.1 hhost
    cases n with
    | other => cases hn
    | hostName name' =>
      cases hn
      simp only [flatMap_append, flatMap_cons, ServerName.encode, append_assoc, length_append,
        length_be] at h hend hlen
      have hat : At buf pos (others.flatMap ServerName.encode ++ (be 1 nameTypeHostname ++
        (counted 2 (utf8Bytes name) ++ (later.flatMap ServerName.encode ++ tail)))) := by
        simpa [counted] using h
      rw [walkNames_host hat (fun n hn => ServerName.isOther (hothers n hn)
        (hsmall n (mem_append_left _ hn))) (by omega) (by omega),
        hat.append.after_be.of_counted.after_be.slice_eq rfl, fromUtf8_utf8Bytes]
      by_cases hlong : maxHostnameLen < (utf8Bytes name).length
      · have hno : isHostLength name = false := by simpa [isHostLength] using hlong
        rw [if_pos hlong, filter_some_neg (by simp [hno])]
      · have hyes : isHostLength name = true := by simpa [isHostLength] using hlong
        rw [if_neg hlong, filter_some_pos hyes]

theorem walkExtensions_step (hpos : pos < extensionsEnd) :
    walkExtensions buf found extensionsEnd pos =
      (readU16 buf pos).bind fun t => (readU16 buf t.2).bind fun n =>
        if t.1 = extServerName then found n.2 (n.2 + n.1)
        else walkExtensions buf found extensionsEnd (n.2 + n.1) := by
  rw [walkExtensions, if_pos hpos]
  split
  case h_1 hread => rw [hread, bind_none]
  case h_2 t p hread =>
    rw [hread, bind_some]
    split
    case h_1 hread₁ => rw [hread₁, bind_none]
    case h_2 n p hread₁ => rw [hread₁, bind_some]

theorem walkExtensions_entry {extLen : ℕ} (h : At buf pos (be 2 extType ++ (be 2 extLen ++ tail)))
    (hpos : pos < extensionsEnd) (htype : extType < 65536) (hlen : extLen < 65536) :
    walkExtensions buf found extensionsEnd pos =
      if extType = extServerName then found (pos + 4) (pos + 4 + extLen)
      else walkExtensions buf found extensionsEnd (pos + 4 + extLen) := by
  rw [walkExtensions_step hpos, readU16_at h htype, bind_some,
    readU16_at h.after_be hlen, bind_some]

theorem walkExtensions_others (h : At buf pos (others.flatMap encode ++ tail))
    (hothers : ∀ o ∈ others, IsOther 2 extServerName (encode o))
    (hend : pos + (others.flatMap encode).length ≤ extensionsEnd) :
    walkExtensions buf found extensionsEnd pos =
      walkExtensions buf found extensionsEnd (pos + (others.flatMap encode).length) := by
  induction others generalizing pos with
  | nil => rfl
  | cons o others ih =>
    obtain ⟨type, data, hencode, htype, hlt, hdata⟩ := hothers o mem_cons_self
    simp only [flatMap_cons, hencode, append_assoc, length_append, length_be,
      length_counted] at h hend ⊢
    have hnext : At buf (pos + 4 + data.length) (others.flatMap encode ++ tail) :=
      h.after_be.after_counted
    rw [walkExtensions_entry h (by omega) hlt hdata, if_neg htype,
      ih hnext (fun o' ho' => hothers o' (mem_cons_of_mem _ ho')) (by omega)]
    congr 1
    omega

/-- **The first `server_name` is found**, behind extensions of other types. -/
theorem walkExtensions_serverName {extLen : ℕ}
    (h : At buf pos (others.flatMap encode ++ (be 2 extServerName ++ (be 2 extLen ++ tail))))
    (hothers : ∀ o ∈ others, IsOther 2 extServerName (encode o))
    (hend : pos + (others.flatMap encode).length < extensionsEnd) (hlen : extLen < 65536) :
    walkExtensions buf found extensionsEnd pos =
      found (pos + (others.flatMap encode).length + 4)
        (pos + (others.flatMap encode).length + 4 + extLen) := by
  rw [walkExtensions_others h hothers (Nat.le_of_lt hend),
    walkExtensions_entry h.append hend (by decide) hlen, if_pos rfl]

theorem Extension.isOther {e : Extension} (hnames : e.names = none)
    (hlen : e.encode.length < 65536) : IsOther 2 extServerName e.encode := by
  cases e with
  | serverName names => cases hnames
  | other extType unknown data =>
    simp only [Extension.encode, length_append, length_be, length_counted] at hlen
    exact ⟨_, data, rfl, unknown, extType.toNat_lt, by omega⟩

theorem extensionLoop_extensions {extensions : List Extension}
    (h : At buf pos (extensions.flatMap Extension.encode ++ tail))
    (hend : extensionsEnd = pos + (extensions.flatMap Extension.encode).length)
    (hlen : (extensions.flatMap Extension.encode).length < 65536) :
    extensionLoop buf extensionsEnd pos = (serverNameOf extensions).filter isHostLength := by
  have hsmall := length_encode_lt hlen
  rw [extensionLoop, serverNameOf]
  cases hnames : extensions.findSome? Extension.names with
  | none =>
    have hothers := findSome?_eq_none_iff.1 hnames
    rw [walkExtensions_others h (fun e he => Extension.isOther (hothers e he) (hsmall e he))
      (Nat.le_of_eq hend.symm), walkExtensions, if_neg (by omega)]
    rfl
  | some names =>
    obtain ⟨others, e, later, rfl, he, hothers⟩ := findSome?_eq_some_iff.1 hnames
    cases e with
    | other => cases he
    | serverName names' =>
      cases he
      simp only [flatMap_append, flatMap_cons, Extension.encode, append_assoc, length_append,
        length_be, length_counted] at h hend hlen
      -- the names stand behind their length, which stands behind that of the extension
      have hlist := h.append.after_be.of_counted.after_be.of_counted
      rw [counted, append_assoc] at h
      rw [walkExtensions_serverName h (fun e he => Extension.isOther (hothers e he)
        (hsmall e (mem_append_left _ he))) (by omega) (by rw [length_counted]; omega),
        readU16_at hlist (by omega), bind_some, serverNameLoop_names hlist.after_be rfl (by omega)]
      rfl

end Written

theorem HelloHead.length_bytes (head : HelloHead) (recordLen handshakeLen : ℕ) (tail : List UInt8) :
    (head.bytes recordLen handshakeLen tail).length = 9 + head.fields.length + tail.length := by
  simp only [HelloHead.bytes, length_append, length_be]
  omega

theorem HelloHead.at_bytes (head : HelloHead) (recordLen handshakeLen : ℕ) (tail : List UInt8) :
    At (head.bytes recordLen handshakeLen tail) 0 (be 1 tlsHandshake ++
      (be 2 head.recordVersion.toNat ++ (be 2 recordLen ++ (be 1 handshakeClientHello ++
        (be 3 handshakeLen ++ (head.fields ++ tail)))))) :=
  at_zero _

theorem HelloHead.at_extensions (head : HelloHead) (recordLen handshakeLen : ℕ)
    (tail : List UInt8) :
    At (head.bytes recordLen handshakeLen tail) (9 + head.fields.length) tail :=
  (head.at_bytes recordLen handshakeLen tail).after_be.after_be.after_be.after_be.after_be.append

/-- **What the reader does with the headers and the fields.** -/
theorem walkHello_bytes {α : Type} (head : HelloHead) {recordLen handshakeLen : ℕ}
    (hrecord : recordLen < 65536) (hhandshake : handshakeLen < 16777216) (tail : List UInt8)
    (next : ℕ → ℕ → ℕ → Option α) :
    walkHello (head.bytes recordLen handshakeLen tail) next =
      if 5 + recordLen ≤ 9 + head.fields.length + tail.length ∧
          9 + handshakeLen ≤ 9 + head.fields.length + tail.length ∧
          head.fields.length < handshakeLen then
        next (5 + recordLen) (9 + handshakeLen) (9 + head.fields.length)
      else none := by
  have htype := head.at_bytes recordLen handshakeLen tail
  rw [← head.length_bytes recordLen handshakeLen tail]
  generalize head.bytes recordLen handshakeLen tail = buf at htype ⊢
  have hversion := htype.after_be
  have hlength := hversion.after_be
  have hshake := hlength.after_be
  have hsize := hshake.after_be
  have hfields := hsize.after_be
  simp only [HelloHead.fields, append_assoc] at hfields
  have hhello := hfields.after_be
  have hrandom : At buf (0 + 1 + 2 + 2 + 1 + 3 + 2 + 32) _ := head.random_length ▸ hhello.append
  have hsession := hrandom.of_counted
  have hciphers := hrandom.after_counted.of_counted
  have hmethods := hrandom.after_counted.after_counted.of_counted
  have hlen : 0 + 1 + 2 + 2 + 1 + 3 + 2 + 32 + 1 + head.sessionId.length + 2 +
      head.cipherSuites.length + 1 + head.compressionMethods.length = 9 + head.fields.length := by
    simp only [HelloHead.fields, length_append, length_be, length_counted, head.random_length]
    omega
  rw [walkHello]
  simp only [walkHandshake, walkFields, readU8_at htype (by decide), hversion.skip (length_be ..),
    readU16_at hlength hrecord, readU8_at hshake (by decide), readU24_at hsize hhandshake,
    hfields.skip (length_be ..), hhello.skip head.random_length,
    readU8_at hsession head.sessionId_length, hsession.after_be.skip rfl,
    readU16_at hciphers head.cipherSuites_length, hciphers.after_be.skip rfl,
    readU8_at hmethods head.compressionMethods_length, hmethods.after_be.skip rfl,
    bind_eq_bind, bind_some, ne_eq, not_true_eq_false, if_false, hlen]
  by_cases hfits : 5 + recordLen ≤ buf.length
  · rw [if_neg (by omega)]
    by_cases hfits' : 9 + handshakeLen ≤ buf.length
    · rw [if_neg (by omega)]
      by_cases hmore : head.fields.length < handshakeLen
      · rw [if_neg (by omega), if_pos ⟨hfits, hfits', hmore⟩]
      · rw [if_pos (by omega), if_neg (by omega)]
    · rw [if_pos (by omega), if_neg (by omega)]
  · rw [if_pos (by omega), if_neg (by omega)]

section Hello

variable {ε : Type} {encode : ε → List UInt8}

theorem Hello.length_record (hello : Hello encode) : hello.record.length = 9 + hello.bodyLen := by
  rw [Hello.record, hello.length_bytes, Hello.bodyLen, Nat.add_assoc]

theorem Hello.record_append (hello : Hello encode) (rest : List UInt8) :
    hello.record ++ rest =
      hello.bytes (4 + hello.bodyLen) hello.bodyLen (hello.extensionBlock ++ rest) := by
  simp [Hello.record, HelloHead.bytes]

theorem Hello.at_extensions_record {hello : Hello encode} {extensions : List ε}
    (hext : hello.extensions = some extensions) (rest : List UInt8) :
    At (hello.record ++ rest) (9 + hello.fields.length)
      (be 2 (extensions.flatMap encode).length ++ (extensions.flatMap encode ++ rest)) := by
  have hat := hello.at_extensions (4 + hello.bodyLen) hello.bodyLen (hello.extensionBlock ++ rest)
  rw [← hello.record_append, Hello.extensionBlock, hext] at hat
  exact hat.of_counted

/-- **From a record that fits its length the reader comes to the extensions**, whatever follows. -/
theorem extractSni_hello (hello : Hello encode) (hfits : 4 + hello.bodyLen < 65536)
    (rest : List UInt8) :
    extractSni (hello.record ++ rest) =
      hello.extensions.elim none fun extensions =>
        extensionLoop (hello.record ++ rest)
          (9 + hello.fields.length + 2 + (extensions.flatMap encode).length)
          (9 + hello.fields.length + 2) := by
  have hlen : hello.bodyLen = hello.fields.length + hello.extensionBlock.length := rfl
  rw [hello.record_append, extractSni, walkHello_bytes _ (by omega) (by omega),
    length_append, ← hello.record_append]
  cases hext : hello.extensions with
  | none =>
    rw [Hello.extensionBlock, hext, length_nil] at hlen
    rw [if_neg (by omega)]
    rfl
  | some extensions =>
    rw [Hello.extensionBlock, hext, length_counted] at hlen
    rw [if_pos (by rw [Hello.extensionBlock, hext, length_counted]; omega), extractFromExtensions,
      readU16_at (Hello.at_extensions_record hext rest) (by omega)]
    rfl

end Hello

/-- **From a complete record the reader gets the name**, unless it is longer than a host name can
be, whatever follows the record. -/
theorem extractSni_record (hello : ClientHello) (rest : List UInt8) :
    extractSni (hello.record ++ rest) = hello.serverName.filter isHostLength := by
  have hfits := hello.fits
  rw [extractSni_hello hello.toHello (by omega), ClientHello.serverName]
  cases hext : hello.extensions with
  | none => rfl
  | some extensions =>
    rw [Option.getD_some]
    refine extensionLoop_extensions (Hello.at_extensions_record hext rest).after_be rfl ?_
    rw [Hello.bodyLen, Hello.extensionBlock, hext, length_counted] at hfits
    omega

theorem length_le_of_extractSni {buf : List UInt8} {name : String}
    (h : extractSni buf = some name) :
    ∃ recordLen, readU16 buf 3 = some (recordLen, 5) ∧ 5 + recordLen ≤ buf.length := by
  obtain ⟨⟨contentType, pos⟩, htype, h⟩ := bind_eq_some_iff.1 h
  simp only at h
  split at h
  case isTrue => cases h
  case isFalse =>
    obtain ⟨pos₁, hskip, h⟩ := bind_eq_some_iff.1 h
    obtain ⟨⟨recordLen, pos₂⟩, hrecord, h⟩ := bind_eq_some_iff.1 h
    have hp := readBe_pos htype
    have hp₁ := skip_pos hskip
    have hp₂ := readBe_pos hrecord
    subst hp hp₁ hp₂
    split at h
    case isTrue => cases h
    case isFalse hlen => exact ⟨recordLen, hrecord, by omega⟩

theorem extractSni_truncated (hello : ClientHello) {buf : List UInt8} (hpre : buf <+: hello.record)
    (hlt : buf.length < hello.record.length) : extractSni buf = none := by
  rw [eq_none_iff_forall_ne_some]
  intro name hname
  obtain ⟨recordLen, hread, hle⟩ := length_le_of_extractSni hname
  -- the length in the header is that of the whole record
  have hwhole := readBe_extend hpre hread
  have hheader := hello.at_bytes (4 + hello.bodyLen) hello.bodyLen hello.extensionBlock
  have hrecord := readU16_at hheader.after_be.after_be (by have := hello.fits; omega)
  rw [show readU16 = readBe 2 from rfl, ← Hello.record, hwhole] at hrecord
  have hlength := hello.length_record
  cases hrecord
  omega

end Wicket
