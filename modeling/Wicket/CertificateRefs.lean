/-
**The certificate references of a listener.**

The check of a name limits each label to 63 bytes.  The API server does not, so a Secret can exist
and be loaded, and its listener is reported as invalid all the same.
-/

import Wicket.Grammar
import Wicket.SecretMounts
import Wicket.Sni

namespace Wicket

open List Text

/-! ### The check of a name -/

/-- The closure `is_alnum`: a lower-case letter or a digit. -/
def isAlnumByte (b : UInt8) : Bool :=
  (decide (0x61 ≤ b) && decide (b ≤ 0x7a)) || (decide (0x30 ≤ b) && decide (b ≤ 0x39))

def isLabelByte (b : UInt8) : Bool := isAlnumByte b || b == 0x2d

/-- The closure over the labels of a name.  The two bytes that are read by index are there, since
the label is not empty. -/
def isValidK8sDnsLabel (label : String) : Bool :=
  if label.isEmpty || decide (63 < label.utf8ByteSize) then false
  else
    let bytes := utf8Bytes label
    bytes[0]?.any isAlnumByte && bytes[bytes.length - 1]?.any isAlnumByte && bytes.all isLabelByte

def isValidK8sDnsSubdomain (name : String) : Bool :=
  if name.isEmpty || decide (253 < name.utf8ByteSize) then false
  else (split name '.').all isValidK8sDnsLabel

/-! ### The names the API server accepts -/

/-- Letters, digits and inner hyphens. -/
def dnsLabel : Language UInt8 := Grammar.ended isAlnumByte isLabelByte

def dnsSubdomain : Language UInt8 := Grammar.separated 0x2e dnsLabel

@[mk_iff] structure SecretNameAccepted (name : String) : Prop where
  subdomain : utf8Bytes name ∈ dnsSubdomain
  size : name.utf8ByteSize ≤ 253

theorem mem_dnsLabel {w : List UInt8} :
    w ∈ dnsLabel ↔ w.head?.any isAlnumByte = true ∧ w.getLast?.any isAlnumByte = true ∧
      w.all isLabelByte = true :=
  Grammar.mem_ended_iff fun b hb => by rw [isLabelByte, hb, Bool.true_or]

theorem mem_dnsSubdomain {w : List UInt8} :
    w ∈ dnsSubdomain ↔ ∀ part ∈ w.splitOn 0x2e, part ∈ dnsLabel := by
  refine Grammar.mem_separated_iff fun part hpart hdot => ?_
  exact absurd (all_eq_true.1 (mem_dnsLabel.1 hpart).2.2 _ hdot) (by decide)

theorem toNat_of_mem_utf8EncodeChar {c : Char} {b : UInt8} (hb : b.toNat < 128)
    (h : b ∈ String.utf8EncodeChar c) : c.val.toNat = b.toNat := by
  have hnat : ∀ n, b = UInt8.ofNat n → b.toNat = n % 256 := by
    rintro n rfl
    exact UInt8.toNat_ofNat'
  simp only [String.utf8EncodeChar] at h
  -- the bytes of the longer encodings are at least 128
  split_ifs at h <;> simp only [mem_cons, not_mem_nil, or_false] at h
  · have := hnat _ h
    omega
  · rcases h with h | h <;> have := hnat _ h <;> omega
  · rcases h with h | h | h <;> have := hnat _ h <;> omega
  · rcases h with h | h | h | h <;> have := hnat _ h <;> omega

theorem utf8Bytes_eq (s : String) : utf8Bytes s = s.toList.flatMap String.utf8EncodeChar := by
  rw [utf8Bytes, ← String.utf8Encode_toList, utf8Encode]
  simp

theorem splitOn_utf8Bytes (name : String) :
    (utf8Bytes name).splitOn 0x2e = (split name '.').map utf8Bytes := by
  have hdot : ∀ c : Char, (0x2e : UInt8) ∈ String.utf8EncodeChar c → c = '.' := by
    intro c hc
    exact Char.ext (UInt32.toNat_inj.1 (toNat_of_mem_utf8EncodeChar (by decide) hc))
  have hself : String.utf8EncodeChar '.' = [0x2e] := by decide
  rw [utf8Bytes_eq, Grammar.splitOn_flatMap hself hdot, split, map_map]
  refine map_congr_left fun part _ => ?_
  rw [Function.comp_apply, utf8Bytes_eq, String.toList_ofList]

theorem isValidK8sDnsLabel_iff {label : String} :
    isValidK8sDnsLabel label = true ↔ utf8Bytes label ∈ dnsLabel ∧ label.utf8ByteSize ≤ 63 := by
  rw [isValidK8sDnsLabel, mem_dnsLabel, head?_eq_getElem?, getLast?_eq_getElem?]
  by_cases hempty : label = ""
  · subst hempty
    decide
  · simp [hempty, and_assoc, and_comm]

theorem isValidK8sDnsSubdomain_iff {name : String} :
    isValidK8sDnsSubdomain name = true ↔
      SecretNameAccepted name ∧ ∀ label ∈ split name '.', label.utf8ByteSize ≤ 63 := by
  have hcheck : isValidK8sDnsSubdomain name = true ↔
      name.utf8ByteSize ≤ 253 ∧ ∀ label ∈ split name '.', isValidK8sDnsLabel label = true := by
    by_cases hempty : name = ""
    · subst hempty
      decide
    · simp [isValidK8sDnsSubdomain, hempty]
  have haccepted : SecretNameAccepted name ↔ name.utf8ByteSize ≤ 253 ∧
      ∀ label ∈ split name '.', utf8Bytes label ∈ dnsLabel := by
    rw [secretNameAccepted_iff, mem_dnsSubdomain, splitOn_utf8Bytes, forall_mem_map, and_comm]
  rw [hcheck, haccepted, and_assoc, ← forall₂_and]
  simp only [isValidK8sDnsLabel_iff]

/-! ### The references of a listener -/

def PlannerSnapshot.tlsSecret (s : PlannerSnapshot) (ns name : String) : Option (String × String) :=
  s.tlsSecrets.lookup (GatewayState.key ns name)

def certificateRefInvalid (gatewayNamespace : String) (snapshot : PlannerSnapshot)
    (certRef : SecretObjectReference) : Bool :=
  certRef.group != "" || certRef.kind != "Secret" || !isValidK8sDnsSubdomain certRef.name ||
    (snapshot.tlsSecret (certRef.ns.getD gatewayNamespace) certRef.name).isNone

def listenerCertificateRefsInvalid (listener : Listener) (gateway : Gateway)
    (snapshot : PlannerSnapshot) : Bool :=
  match listener.tls with
  | none => false
  | some tls =>
    tls.certificateRefs.any (certificateRefInvalid (gateway.metadata.ns.getD "") snapshot)

def listenerStatusIntentsWithAttachmentWithTlsValidation (gateway : Gateway)
    (attachmentPlan : Option AttachmentPlan) (tlsSnapshot : Option PlannerSnapshot) :
    List ListenerStatusIntent :=
  let intents := listenerStatusIntentsWithAttachment gateway attachmentPlan
  match tlsSnapshot with
  | none => intents
  | some snapshot =>
    (gateway.spec.listeners.zip intents).map fun (listener, intent) =>
      if intent.resolvedRefs && listenerCertificateRefsInvalid listener gateway snapshot then
        { intent with resolvedRefs := false, resolvedRefsReason := some "InvalidCertificateRef" }
      else intent

structure SecretObjectReference.Loaded (gateway : Gateway) (snapshot : PlannerSnapshot)
    (certRef : SecretObjectReference) : Prop where
  group : certRef.group = ""
  kind : certRef.kind = "Secret"
  name : SecretNameAccepted certRef.name
  present : (snapshot.tlsSecret (certRef.ns.getD (gateway.metadata.ns.getD ""))
    certRef.name).isSome = true

section Listener

variable {l : Listener} {gateway : Gateway} {snapshot : PlannerSnapshot}

theorem certificateRefInvalid_eq_false {certRef : SecretObjectReference} :
    certificateRefInvalid (gateway.metadata.ns.getD "") snapshot certRef = false ↔
      certRef.Loaded gateway snapshot ∧
        ∀ label ∈ split certRef.name '.', label.utf8ByteSize ≤ 63 := by
  simp only [certificateRefInvalid, Bool.or_eq_false_iff, bne_eq_false_iff_eq, Bool.not_eq_false',
    isValidK8sDnsSubdomain_iff, Option.isNone_eq_false_iff]
  constructor
  · rintro ⟨⟨⟨hgroup, hkind⟩, hname, hshort⟩, hpresent⟩
    exact ⟨⟨hgroup, hkind, hname, hpresent⟩, hshort⟩
  · rintro ⟨h, hshort⟩
    exact ⟨⟨⟨h.group, h.kind⟩, h.name, hshort⟩, h.present⟩

theorem listenerCertificateRefsInvalid_eq_false :
    listenerCertificateRefsInvalid l gateway snapshot = false ↔
      ∀ certRef ∈ l.certificateRefs, certRef.Loaded gateway snapshot ∧
        ∀ label ∈ split certRef.name '.', label.utf8ByteSize ≤ 63 := by
  simp only [← certificateRefInvalid_eq_false]
  cases htls : l.tls <;> simp [listenerCertificateRefsInvalid, Listener.certificateRefs, htls]

/-- They are invalid unless all of them are to loaded Secrets, and then no status says so. -/
structure CertificateRefsJudged (l : Listener) (gateway : Gateway) (snapshot : PlannerSnapshot) :
    Prop where
  exact : listenerCertificateRefsInvalid l gateway snapshot = false ↔
    ∀ certRef ∈ l.certificateRefs, certRef.Loaded gateway snapshot
  reported : (∀ certRef ∈ l.certificateRefs, certRef.Loaded gateway snapshot) →
    ∀ (attachmentPlan : Option AttachmentPlan) (k : ℕ) (intent : ListenerStatusIntent),
      gateway.spec.listeners[k]? = some l →
      (listenerStatusIntentsWithAttachmentWithTlsValidation gateway attachmentPlan
        (some snapshot))[k]? = some intent →
      intent.resolvedRefsReason ≠ some "InvalidCertificateRef"

theorem resolvedRefsReason_ne {attachmentPlan : Option AttachmentPlan}
    {intent : ListenerStatusIntent}
    (h : intent ∈ listenerStatusIntentsWithAttachment gateway attachmentPlan) :
    intent.resolvedRefsReason ≠ some "InvalidCertificateRef" := by
  have hbase : ∀ intent ∈ listenerStatusIntents gateway,
      intent.resolvedRefsReason ≠ some "InvalidCertificateRef" := by
    intro intent hintent
    obtain ⟨l, -, rfl⟩ := mem_map.1 hintent
    unfold listenerStatusIntent
    split_ifs <;> simp
  cases attachmentPlan with
  | none => exact hbase intent h
  | some ap =>
    obtain ⟨base, hmem, rfl⟩ := mem_map.1 h
    have hne := hbase base hmem
    unfold ListenerStatusIntent.withAttachment
    cases ap.listenerSummary base.name <;> dsimp only <;> split_ifs <;> simp [hne]

/-- **The references of a listener are judged as they should be** exactly when, if they are all to
loaded Secrets, no label of their names is longer than 63 bytes. -/
theorem certificateRefs_judged_iff (l : Listener) (gateway : Gateway) (snapshot : PlannerSnapshot) :
    CertificateRefsJudged l gateway snapshot ↔
      ((∀ certRef ∈ l.certificateRefs, certRef.Loaded gateway snapshot) →
        ∀ certRef ∈ l.certificateRefs, ∀ label ∈ split certRef.name '.',
          label.utf8ByteSize ≤ 63) := by
  have hvalid := @listenerCertificateRefsInvalid_eq_false l gateway snapshot
  constructor
  · intro h hloaded certRef hmem
    exact (hvalid.1 (h.exact.2 hloaded) certRef hmem).2
  · intro hshort
    have hexact : (∀ certRef ∈ l.certificateRefs, certRef.Loaded gateway snapshot) →
        listenerCertificateRefsInvalid l gateway snapshot = false :=
      fun h => hvalid.2 fun certRef hmem => ⟨h certRef hmem, hshort h certRef hmem⟩
    refine ⟨⟨fun h certRef hmem => (hvalid.1 h certRef hmem).1, hexact⟩, ?_⟩
    intro hloaded attachmentPlan k intent hl hintent
    simp only [listenerStatusIntentsWithAttachmentWithTlsValidation, List.getElem?_map,
      Option.map_eq_some_iff, List.getElem?_zip_eq_some, Prod.exists] at hintent
    obtain ⟨l', base, ⟨hl', hbase⟩, rfl⟩ := hintent
    obtain rfl : l = l' := Option.some.inj (hl.symm.trans hl')
    rw [hexact hloaded, Bool.and_false]
    exact resolvedRefsReason_ne (List.mem_of_getElem? hbase)

end Listener

/-! ### A name with a long label -/

def longLabel : String := String.ofList (List.replicate 64 'a')

def wideListener : Listener where
  name := "https"
  port := 443
  protocol := .HTTPS
  tls := some { certificateRefs := [{ name := longLabel }] }

def wideSnapshot : PlannerSnapshot where
  tlsSecrets := KeyMap.collect [(GatewayState.key "team" longLabel, ("/tls/a.crt", "/tls/a.key"))]

theorem longLabel_accepted : SecretNameAccepted longLabel where
  subdomain := by
    rw [mem_dnsSubdomain]
    simp only [mem_dnsLabel]
    decide
  size := by decide

theorem longLabel_loaded :
    SecretObjectReference.Loaded (soloGateway "edge" [wideListener]) wideSnapshot
      { name := longLabel } where
  group := rfl
  kind := rfl
  name := longLabel_accepted
  present := by decide

theorem wideListener_misjudged :
    (∀ certRef ∈ wideListener.certificateRefs,
      certRef.Loaded (soloGateway "edge" [wideListener]) wideSnapshot) ∧
    (listenerStatusIntentsWithAttachmentWithTlsValidation (soloGateway "edge" [wideListener]) none
        (some wideSnapshot)).map ListenerStatusIntent.resolvedRefsReason =
      [some "InvalidCertificateRef"] ∧
    ¬CertificateRefsJudged wideListener (soloGateway "edge" [wideListener]) wideSnapshot := by
  have hloaded : ∀ certRef ∈ wideListener.certificateRefs,
      certRef.Loaded (soloGateway "edge" [wideListener]) wideSnapshot := by
    intro certRef hmem
    rw [List.mem_singleton.1 hmem]
    exact longLabel_loaded
  have hinvalid : listenerCertificateRefsInvalid wideListener (soloGateway "edge" [wideListener])
      wideSnapshot = true := by decide
  refine ⟨hloaded, by decide, fun h => ?_⟩
  rw [h.exact.2 hloaded] at hinvalid
  cases hinvalid

end Wicket
