/-
**A certificate whose saving stops halfway.**

The three files are replaced one after the other, and nothing in them says that they belong
together.  Writing the description as JSON is a parameter, with the law that it is read back.
-/

import Mathlib.Logic.Equiv.Nat
import Wicket.AcmeProvider
import Wicket.FileOps
import Wicket.JsonReader
import Wicket.Sni

namespace Wicket

open JsonText CertFiles
open Files (Directory Op Replacement AgreeOff)

/-! ### Saving and reading -/

/-- A format of the description that reads back what it has written, as serde_json does. -/
structure MetaCodec where
  write : CertMeta → Int → String
  read : List UInt8 → Except String CertMeta
  read_write : ∀ (m : CertMeta) (createdAt : Int), read (utf8Bytes (write m createdAt)) = .ok m

def StoredCert.certMeta (cert : StoredCert) : CertMeta := ⟨cert.expiry, cert.domains⟩

def tempPath (fileName : String) : String := "." ++ fileName ++ ".tmp"

def atomicWrite (fileName : String) (data : List UInt8) : Replacement :=
  ⟨tempPath fileName, fileName, data⟩

variable (codec : MetaCodec)

def saveCertWrites (cert : StoredCert) (createdAt : Int) : List Replacement :=
  [atomicWrite "cert.pem" (utf8Bytes cert.certPem),
   atomicWrite "key.pem" (utf8Bytes cert.keyPem),
   atomicWrite "meta.json" (utf8Bytes (codec.write cert.certMeta createdAt))]

def saveCertOps (cert : StoredCert) (createdAt : Int) : List Op :=
  Files.replaceOps (saveCertWrites codec cert createdAt)

def readToString (d : Directory) (name : String) : Except StorageError String :=
  match d name with
  | none => .error (.Io "No such file or directory (os error 2)")
  | some content =>
    match fromUtf8 content with
    | none => .error (.Io "stream did not contain valid UTF-8")
    | some text => .ok text

def readMeta (d : Directory) (name : String) : Except StorageError CertMeta :=
  match d name with
  | none => .error (.Io "No such file or directory (os error 2)")
  | some content => (codec.read content).mapError .Json

def loadCertFrom (d : Directory) : Except StorageError (Option StoredCert) := do
  if (d "cert.pem").isNone || (d "key.pem").isNone || (d "meta.json").isNone then
    return none
  let certPem ← readToString d "cert.pem"
  let keyPem ← readToString d "key.pem"
  let m ← readMeta codec d "meta.json"
  return some ⟨certPem, keyPem, m.expiry, m.domains⟩

/-! ### The files of a directory -/

structure CertFiles.Holds (d : Directory) (files : CertFiles) : Prop where
  certPem : d "cert.pem" = files.certPem.map utf8Bytes
  keyPem : d "key.pem" = files.keyPem.map utf8Bytes
  certMeta : (d "meta.json").map codec.read = files.certMeta.map .ok

def tempFiles : Set String :=
  {name | name = tempPath "cert.pem" ∨ name = tempPath "key.pem" ∨ name = tempPath "meta.json"}

theorem not_mem_tempFiles {name : String}
    (h : name = "cert.pem" ∨ name = "key.pem" ∨ name = "meta.json") : name ∉ tempFiles := by
  rcases h with rfl | rfl | rfl <;> simp only [tempFiles, tempPath, Set.mem_ofPred_eq] <;> decide

variable {codec}

variable {d : Directory} {files : CertFiles}

theorem CertFiles.Holds.of_agreeOff {e : Directory} (h : files.Holds codec e)
    (hagree : AgreeOff tempFiles d e) : files.Holds codec d where
  certPem := by rw [hagree _ (not_mem_tempFiles (.inl rfl)), h.certPem]
  keyPem := by rw [hagree _ (not_mem_tempFiles (.inr (.inl rfl))), h.keyPem]
  certMeta := by rw [hagree _ (not_mem_tempFiles (.inr (.inr rfl))), h.certMeta]

theorem readToString_of_eq {name text : String} (h : d name = some (utf8Bytes text)) :
    readToString d name = .ok text := by
  simp only [readToString, h, fromUtf8_utf8Bytes]

theorem CertFiles.Holds.loadCertFrom_eq (h : files.Holds codec d) :
    loadCertFrom codec d = .ok files.stored := by
  obtain ⟨certPem, keyPem, certMeta⟩ := files
  obtain ⟨hcert, hkey, hmeta⟩ := h
  cases certPem with
  | none => simp [loadCertFrom, hcert, stored, pure, Except.pure]
  | some certPem =>
    cases keyPem with
    | none => simp [loadCertFrom, hkey, stored, pure, Except.pure]
    | some keyPem =>
      cases certMeta with
      | none =>
        have hmissing : d "meta.json" = none := by simpa using hmeta
        simp [loadCertFrom, hmissing, stored, pure, Except.pure]
      | some m =>
        obtain ⟨content, hcontent, hread⟩ : ∃ content, d "meta.json" = some content ∧
            codec.read content = .ok m := by simpa using hmeta
        have hloaded : readMeta codec d "meta.json" = .ok m := by
          simp only [readMeta, hcontent, hread, Except.mapError]
        simp [loadCertFrom, hcert, hkey, hcontent, hloaded, readToString_of_eq hcert,
          readToString_of_eq hkey, stored, pure, Except.pure, bind, Except.bind]

theorem CertFiles.Holds.loadCert_eq (h : files.Holds codec d) :
    loadCertFrom codec d = loadCert files .found := by
  rw [h.loadCertFrom_eq]
  cases hstored : files.stored <;> simp only [loadCert, hstored]

theorem CertFiles.Holds.replaced (h : files.Holds codec d) (cert : StoredCert) (createdAt : Int)
    {n : ℕ} (hn : n ≤ 3) :
    (files.write cert n).Holds codec
      (Files.replaced d ((saveCertWrites codec cert createdAt).take n)) := by
  obtain ⟨hcert, hkey, hmeta⟩ := h
  -- the names of the files differ, so a replacement leaves the other two alone
  match n, hn with
  | 0, _ => exact ⟨hcert, hkey, hmeta⟩
  | 1, _ => exact ⟨rfl, hkey, hmeta⟩
  | 2, _ => exact ⟨rfl, rfl, hmeta⟩
  | 3, _ => exact ⟨rfl, rfl, congrArg some (codec.read_write cert.certMeta createdAt)⟩

theorem temp_mem_tempFiles (cert : StoredCert) (createdAt : Int) :
    ∀ r ∈ saveCertWrites codec cert createdAt, r.temp ∈ tempFiles := by
  simp [saveCertWrites, atomicWrite, tempFiles]

theorem CertFiles.Holds.stopped (h : files.Holds codec d) (cert : StoredCert) (createdAt : Int)
    (k : ℕ) :
    ∃ n ≤ 3, (files.write cert n).Holds codec
      (Files.run d ((saveCertOps codec cert createdAt).take k)) := by
  obtain ⟨n, hn, hagree⟩ := Files.run_replaceOps_take (saveCertWrites codec cert createdAt)
    (temp_mem_tempFiles cert createdAt) d k
  exact ⟨n, hn, (h.replaced cert createdAt hn).of_agreeOff hagree⟩

theorem CertFiles.Holds.exists_stop (h : files.Holds codec d) (cert : StoredCert)
    (createdAt : Int) {n : ℕ} (hn : n ≤ 3) :
    ∃ k, (files.write cert n).Holds codec
      (Files.run d ((saveCertOps codec cert createdAt).take k)) := by
  obtain ⟨k, hagree⟩ := Files.exists_take_replaceOps (saveCertWrites codec cert createdAt)
    (temp_mem_tempFiles cert createdAt) d n
  exact ⟨k, (h.replaced cert createdAt hn).of_agreeOff hagree⟩

/-! ### Nothing, the old certificate, or the new one -/

variable (codec)

/-- Wherever the saving of a certificate stops, what is read afterwards is nothing, what was read
before, or the certificate. -/
def ConsistentSave (d : Directory) (cert : StoredCert) : Prop :=
  ∀ (createdAt : Int) (k : ℕ),
    let after := loadCertFrom codec (Files.run d ((saveCertOps codec cert createdAt).take k))
    after = .ok none ∨ after = loadCertFrom codec d ∨ after = .ok (some cert)

variable {codec}

/-- How many files of a directory a certificate changes; a file that is missing is changed. -/
def CertFiles.differing (files : CertFiles) (cert : StoredCert) : ℕ :=
  (if files.certPem = some cert.certPem then 0 else 1) +
  (if files.keyPem = some cert.keyPem then 0 else 1) +
  (if files.certMeta = some cert.certMeta then 0 else 1)

/-- What the first files of a certificate make up with what is there is consistent. -/
def CertFiles.MayStop (files : CertFiles) (cert : StoredCert) (n : ℕ) : Prop :=
  (files.write cert n).stored = none ∨ (files.write cert n).stored = files.stored ∨
    (files.write cert n).stored = some cert

theorem CertFiles.Holds.consistentSave_iff_mayStop (h : files.Holds codec d) (cert : StoredCert) :
    ConsistentSave codec d cert ↔ ∀ n ≤ 3, files.MayStop cert n := by
  constructor
  · intro hsave n hn
    obtain ⟨k, hk⟩ := h.exists_stop cert 0 hn
    have hstop := hsave 0 k
    rw [hk.loadCertFrom_eq, h.loadCertFrom_eq] at hstop
    simpa only [CertFiles.MayStop, Except.ok.injEq] using hstop
  · intro hstop createdAt k
    obtain ⟨n, hn, hk⟩ := h.stopped cert createdAt k
    have hstop := hstop n hn
    rw [hk.loadCertFrom_eq, h.loadCertFrom_eq]
    simpa only [CertFiles.MayStop, Except.ok.injEq] using hstop

theorem CertFiles.mayStop_zero (files : CertFiles) (cert : StoredCert) : files.MayStop cert 0 :=
  .inr (.inl rfl)

theorem CertFiles.mayStop_one_iff (files : CertFiles) (cert : StoredCert) :
    files.MayStop cert 1 ↔ files.keyPem = none ∨ files.certMeta = none ∨
      files.certPem = some cert.certPem ∨
        (files.keyPem = some cert.keyPem ∧ files.certMeta = some cert.certMeta) := by
  obtain ⟨certPem, keyPem, certMeta⟩ := files
  obtain ⟨newCert, newKey, expiry, domains⟩ := cert
  rcases keyPem with _ | keyPem <;> rcases certMeta with _ | ⟨oldExpiry, oldDomains⟩ <;>
    rcases certPem with _ | certPem <;>
    simp [MayStop, write, StoredCert.writes, stored, StoredCert.certMeta, eq_comm]

theorem CertFiles.mayStop_two_iff (files : CertFiles) (cert : StoredCert) :
    files.MayStop cert 2 ↔ files.certMeta = none ∨ files.certMeta = some cert.certMeta ∨
        (files.certPem = some cert.certPem ∧ files.keyPem = some cert.keyPem) := by
  obtain ⟨certPem, keyPem, certMeta⟩ := files
  obtain ⟨newCert, newKey, expiry, domains⟩ := cert
  rcases keyPem with _ | keyPem <;> rcases certMeta with _ | ⟨oldExpiry, oldDomains⟩ <;>
    rcases certPem with _ | certPem <;>
    simp [MayStop, write, StoredCert.writes, stored, StoredCert.certMeta, eq_comm, or_comm]

theorem CertFiles.mayStop_three (files : CertFiles) (cert : StoredCert) : files.MayStop cert 3 :=
  .inr (.inr rfl)

/-- **A stopped saving does not mix two certificates** exactly when there is no description yet, or
no key and the new description, or the saving changes one file at most. -/
theorem consistentSave_iff (codec : MetaCodec) (d : Directory) (files : CertFiles)
    (h : files.Holds codec d) (cert : StoredCert) :
    ConsistentSave codec d cert ↔ files.certMeta = none ∨
      (files.keyPem = none ∧ files.certMeta = some cert.certMeta) ∨
      files.differing cert ≤ 1 := by
  have hsteps : (∀ n ≤ 3, files.MayStop cert n) ↔ files.MayStop cert 1 ∧ files.MayStop cert 2 := by
    constructor
    · intro hall
      exact ⟨hall 1 (by omega), hall 2 (by omega)⟩
    · intro hsteps n hn
      match n, hn with
      | 0, _ => exact files.mayStop_zero cert
      | 1, _ => exact hsteps.1
      | 2, _ => exact hsteps.2
      | 3, _ => exact files.mayStop_three cert
  rw [h.consistentSave_iff_mayStop cert, hsteps, files.mayStop_one_iff cert,
    files.mayStop_two_iff cert, CertFiles.differing]
  -- the files that are there, and those of them that the certificate does not change
  by_cases hcert : files.certPem = some cert.certPem <;>
    by_cases hkey : files.keyPem = some cert.keyPem <;>
    by_cases hmeta : files.certMeta = some cert.certMeta <;>
    simp +contextual [hcert, hkey, hmeta]

/-! ### Certificates on a disk -/

/-- The fields that serde_json writes.  It writes indented lines and the times as texts of RFC 3339;
for a format of which only the round trip counts, numbers on one line will do. -/
def metaJson (m : CertMeta) (createdAt : Int) : List Char :=
  object
    [("expiry", number (Equiv.intEquivNat m.expiry)),
     ("domains", array (m.domains.map quote)),
     ("created_at", number (Equiv.intEquivNat createdAt))]

theorem metaJson_inj {m m' : CertMeta} {createdAt createdAt' : Int}
    (h : metaJson m createdAt = metaJson m' createdAt') : m = m' := by
  obtain ⟨expiry, domains⟩ := m
  have hdomains : ∀ ds : List String, IsJson (array (ds.map quote)) :=
    fun ds => .array (List.forall_mem_map.2 fun d _ => .quote d)
  have hmembers := object_inj (by simp [IsJson.number, hdomains])
    (by simp [IsJson.number, hdomains]) h
  have hitems := array_map_injective (fun d => IsJson.quote d)
    (fun _ _ => quote_inj.1)
  simp only [List.cons.injEq, Prod.mk.injEq, true_and, number_inj,
    Equiv.apply_eq_iff_eq] at hmembers
  rw [hmembers.1, hitems hmembers.2.1]

theorem utf8Bytes_injective : Function.Injective utf8Bytes := by
  intro s t h
  have hread : fromUtf8 (utf8Bytes s) = fromUtf8 (utf8Bytes t) := by rw [h]
  rwa [fromUtf8_utf8Bytes, fromUtf8_utf8Bytes, Option.some.injEq] at hread

open Classical in
noncomputable def jsonCodec : MetaCodec where
  write m createdAt := String.ofList (metaJson m createdAt)
  read content :=
    if h : ∃ m createdAt, content = utf8Bytes (String.ofList (metaJson m createdAt)) then
      .ok h.choose
    else .error "expected value at line 1 column 1"
  read_write m createdAt := by
    have h : ∃ m' createdAt', utf8Bytes (String.ofList (metaJson m createdAt)) =
        utf8Bytes (String.ofList (metaJson m' createdAt')) := ⟨m, createdAt, rfl⟩
    rw [dif_pos h]
    obtain ⟨createdAt', hwritten⟩ := h.choose_spec
    have htext := String.ofList_injective (utf8Bytes_injective hwritten)
    rw [← metaJson_inj htext]

def emptyDirectory : Directory := fun _ => none

theorem holds_emptyDirectory (codec : MetaCodec) : CertFiles.Holds codec emptyDirectory {} :=
  ⟨rfl, rfl, rfl⟩

def firstCert : StoredCert := ⟨"cert-1", "key-1", 1000, ["example.com"]⟩

def renewedCert : StoredCert := ⟨"cert-2", "key-2", 2000, ["example.com"]⟩

theorem firstCert_consistentSave : ConsistentSave jsonCodec emptyDirectory firstCert :=
  (consistentSave_iff jsonCodec emptyDirectory {} (holds_emptyDirectory jsonCodec) firstCert).2
    (.inl rfl)

noncomputable def firstDirectory : Directory :=
  Files.run emptyDirectory (saveCertOps jsonCodec firstCert 0)

theorem holds_firstDirectory : CertFiles.Holds jsonCodec firstDirectory (write {} firstCert 3) :=
  ((holds_emptyDirectory jsonCodec).replaced firstCert 0 (Nat.le_refl 3)).of_agreeOff
    (Files.run_replaceOps _ (temp_mem_tempFiles firstCert 0) emptyDirectory)

theorem renewedCert_not_consistentSave :
    (∃ createdAt k, loadCertFrom jsonCodec
        (Files.run firstDirectory ((saveCertOps jsonCodec renewedCert createdAt).take k)) =
      .ok (some ⟨"cert-2", "key-1", 1000, ["example.com"]⟩)) ∧
    ¬ ConsistentSave jsonCodec firstDirectory renewedCert := by
  obtain ⟨k, hk⟩ := holds_firstDirectory.exists_stop renewedCert 0 (show 1 ≤ 3 by omega)
  refine ⟨⟨0, k, hk.loadCertFrom_eq⟩, ?_⟩
  rw [holds_firstDirectory.consistentSave_iff_mayStop]
  intro hstops
  have hstop := hstops 1 (by omega)
  rw [CertFiles.mayStop_one_iff] at hstop
  revert hstop
  decide

end Wicket
