/-
**Every well-formed ClientHello.**

Extensions and entries are a type with any bytes behind it; only the lengths have to be right, and
nothing is asked of what stands behind the first host name.
-/

import Wicket.Sni

namespace Wicket

open List Bytes

/-! ### Messages on the wire -/

structure NameEntry where
  nameType : UInt8
  data : List UInt8
  data_length : data.length < 65536

structure RawExtension where
  extType : UInt16
  data : List UInt8
  data_length : data.length < 65536

def NameEntry.encode (entry : NameEntry) : List UInt8 :=
  be 1 entry.nameType.toNat ++ counted 2 entry.data

def RawExtension.encode (ext : RawExtension) : List UInt8 :=
  be 2 ext.extType.toNat ++ counted 2 ext.data

@[simp] theorem NameEntry.length_encode (entry : NameEntry) :
    entry.encode.length = 3 + entry.data.length := by
  rw [NameEntry.encode, length_append, length_be, length_counted]
  omega

@[simp] theorem RawExtension.length_encode (ext : RawExtension) :
    ext.encode.length = 4 + ext.data.length := by
  rw [RawExtension.encode, length_append, length_be, length_counted]
  omega

theorem NameEntry.isOther {entry : NameEntry} (h : entry.nameType.toNat ≠ nameTypeHostname) :
    IsOther 1 nameTypeHostname entry.encode :=
  ⟨_, entry.data, rfl, h, entry.nameType.toNat_lt, entry.data_length⟩

theorem RawExtension.isOther {ext : RawExtension} (h : ext.extType.toNat ≠ extServerName) :
    IsOther 2 extServerName ext.encode :=
  ⟨_, ext.data, rfl, h, ext.extType.toNat_lt, ext.data_length⟩

/-- A ClientHello in one record.  Every part of it fits the field that says how long it is. -/
structure HelloMessage extends Hello RawExtension.encode where
  fits : 4 + toHello.bodyLen < 65536

def FirstHostEntry (name : String) (entries : List NameEntry) : Prop :=
  ∃ others host rest, entries = others ++ host :: rest ∧
    (∀ o ∈ others, o.nameType.toNat ≠ nameTypeHostname) ∧
    host.nameType.toNat = nameTypeHostname ∧ host.data = utf8Bytes name

def HelloMessage.FirstHostName (hello : HelloMessage) (name : String) : Prop :=
  ∃ before ext after entries, hello.extensions = some (before ++ ext :: after) ∧
    (∀ e ∈ before, e.extType.toNat ≠ extServerName) ∧ ext.extType.toNat = extServerName ∧
    ext.data = counted 2 (entries.flatMap NameEntry.encode) ∧ FirstHostEntry name entries

def HelloMessage.NoServerName (hello : HelloMessage) : Prop :=
  ∀ extensions ∈ hello.extensions, ∀ e ∈ extensions, e.extType.toNat ≠ extServerName

/-! ### The reader on a message -/

/-- **The reader finds the first host name** of every well-formed ClientHello, whatever follows. -/
theorem extractSni_message (hello : HelloMessage) (rest : List UInt8) :
    (∀ name, hello.FirstHostName name → (utf8Bytes name).length ≤ 253 →
      extractSni (hello.record ++ rest) = some name) ∧
    (hello.NoServerName → extractSni (hello.record ++ rest) = none) := by
  rw [extractSni_hello hello.toHello hello.fits]
  constructor
  · intro name hfirst hname
    obtain ⟨before, ext, after, entries, hext, hbefore, htype, hdata, hentries⟩ := hfirst
    obtain ⟨others, host, later, rfl, hothers, hhost, hbytes⟩ := hentries
    have hlen := ext.data_length
    have hat := (Hello.at_extensions_record hext rest).after_be
    rw [hext, Option.elim_some, extensionLoop]
    simp only [List.flatMap_append, List.flatMap_cons, List.append_assoc, List.length_append,
      RawExtension.encode, NameEntry.encode, htype, hdata, hhost, hbytes, length_be,
      length_counted] at hat hlen ⊢
    -- the extension says how long it is, and then the list does
    have hext' := hat
    rw [counted, List.append_assoc, length_counted] at hext'
    have hlist := hat.append.after_be.of_counted.after_be.of_counted
    simp only [List.append_assoc, List.length_append, length_be, length_counted] at hext' hlist
    have hnames := hlist.after_be
    rw [walkExtensions_serverName hext' (fun e he => RawExtension.isOther (hbefore e he)) (by omega)
        (by omega), readU16_at hlist (by omega), Option.bind_some, serverNameLoop,
      walkNames_host hnames (fun o ho => NameEntry.isOther (hothers o ho)) (by omega) (by omega),
      if_neg (show ¬maxHostnameLen < _ from Nat.not_lt.2 hname)]
    have hname' := hnames.append.after_be.of_counted.after_be
    rw [hname'.slice_eq rfl, fromUtf8_utf8Bytes]
  · intro hnone
    cases hext : hello.extensions with
    | none => rfl
    | some extensions =>
      have hat := (Hello.at_extensions_record hext rest).after_be
      -- behind the last extension the loop ends
      rw [Option.elim_some, extensionLoop, walkExtensions_others hat
        (fun e he => RawExtension.isOther (hnone extensions hext e he)) (Nat.le_refl _),
        walkExtensions, if_neg (by omega)]

def mailEntries : List NameEntry :=
  [⟨7, [1, 2], by decide⟩, ⟨0, utf8Bytes "mail.example.com", by decide⟩]

def mailHello : HelloMessage where
  toHelloHead := { HelloHead.plain with sessionId := [4, 2], sessionId_length := by decide }
  extensions := some [⟨0x002b, [2, 3, 4], by decide⟩,
    ⟨0, counted 2 (mailEntries.flatMap NameEntry.encode), by decide⟩, ⟨0, [9], by decide⟩]
  fits := by decide

theorem mailHello_found : mailHello.FirstHostName "mail.example.com" ∧
    extractSni (mailHello.record ++ [22, 3]) = some "mail.example.com" := by
  have hentries : FirstHostEntry "mail.example.com" mailEntries :=
    ⟨[⟨7, [1, 2], by decide⟩], _, [], rfl, by decide, rfl, rfl⟩
  have hfirst : mailHello.FirstHostName "mail.example.com" :=
    ⟨[⟨0x002b, [2, 3, 4], by decide⟩], _, [⟨0, [9], by decide⟩], mailEntries, rfl, by decide, rfl,
      rfl, hentries⟩
  exact ⟨hfirst, (extractSni_message mailHello [22, 3]).1 _ hfirst (by decide)⟩

end Wicket
