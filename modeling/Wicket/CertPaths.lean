/-
**The directories of two domains.**

A directory is named after its domain, with underscores for slashes, backslashes and zero
characters.  So `.` and `..` lead elsewhere, and domains that differ only in these characters share
one.
-/

import Wicket.CrashedSave

namespace Wicket

open List

open Files (Directory)

/-! ### Where a path leads -/

/-- One part of a path, from a directory that is given by the names on the way to it. -/
def enter (dir : List String) (part : String) : List String :=
  if part = "" ∨ part = "." then dir else if part = ".." then dir.dropLast else dir ++ [part]

def resolvePath (dir : List String) (path : String) : List String :=
  (Text.split path '/').foldl enter dir

def certsDir (base : List String) (staging : Bool) : List String :=
  base ++ ["certs", envName staging]

variable {base : List String} {staging : Bool} {domain domain' : String}

theorem resolvePath_certPath :
    resolvePath base (certPath staging domain) =
      enter (certsDir base staging) (safeDomain domain) := by
  have hparts : ∀ part ∈ ["certs".toList, (envName staging).toList, (safeDomain domain).toList],
      '/' ∉ part := by
    simp only [mem_cons, not_mem_nil, or_false]
    rintro part (rfl | rfl | rfl)
    · decide
    · cases staging <;> decide
    · rw [safeDomain, String.toList_ofList, mem_map]
      rintro ⟨a, -, ha⟩
      split_ifs at ha with hslash
      · exact absurd ha (by decide)
      · exact hslash (.inl ha)
  have hpath : (certPath staging domain).toList = ['/'].intercalate
      ["certs".toList, (envName staging).toList, (safeDomain domain).toList] := by
    simp [certPath, envName, safeDomain, String.toList_append, intercalate]
  have hsplit : Text.split (certPath staging domain) '/' =
      ["certs", envName staging, safeDomain domain] := by
    rw [Text.split, hpath, splitOn_intercalate '/' hparts (by simp)]
    simp
  rw [resolvePath, hsplit, certsDir]
  cases staging <;> simp [enter, envName]

theorem safeDomain_eq_iff {text : String} (hunderscore : '_' ∉ text.toList)
    (hfixed : safeDomain text = text) : safeDomain domain = text ↔ domain = text := by
  constructor
  · intro h
    rw [← h, eq_comm, ← String.toList_inj, safeDomain, String.toList_ofList]
    refine (map_congr_left fun c hc => ?_).trans (map_id _)
    have hmem := mem_map_of_mem (f := fun c : Char =>
      if c = '/' ∨ c = '\\' ∨ c = '\x00' then '_' else c) hc
    rw [← String.toList_inj, safeDomain, String.toList_ofList] at h
    rw [h] at hmem
    split_ifs at hmem ⊢
    · exact absurd hmem hunderscore
    · rfl
  · rintro rfl
    exact hfixed

theorem resolvePath_certPath_eq_child {name : String} :
    resolvePath base (certPath staging domain) = certsDir base staging ++ [name] ↔
      domain ∉ ["", ".", ".."] ∧ safeDomain domain = name := by
  have hempty := @safeDomain_eq_iff domain "" (by decide) rfl
  have hdot := @safeDomain_eq_iff domain "." (by decide) rfl
  have hdots := @safeDomain_eq_iff domain ".." (by decide) rfl
  simp only [mem_cons, not_mem_nil, or_false, ← hempty, ← hdot, ← hdots,
    resolvePath_certPath, enter]
  split_ifs with hhere habove
  · refine iff_of_false ?_ fun h => h.1 (hhere.imp_right .inl)
    intro h
    simpa using congrArg length h
  · refine iff_of_false ?_ fun h => h.1 (.inr (.inr habove))
    intro h
    have hlength := congrArg length h
    simp only [length_dropLast, length_append, length_singleton] at hlength
    omega
  · have hother : ¬(safeDomain domain = "" ∨ safeDomain domain = "." ∨ safeDomain domain = "..") :=
      fun h => h.elim (hhere ∘ .inl) fun h => h.elim (hhere ∘ .inr) habove
    simp [hother]

/-! ### What saving touches -/

abbrev CertDisk : Type := List String → Directory

/-- Saves a certificate in a directory, up to some operation. -/
def saveCertAt (codec : MetaCodec) (disk : CertDisk) (dir : List String) (cert : StoredCert)
    (createdAt : Int) (k : ℕ) : CertDisk :=
  Function.update disk dir (Files.run (disk dir) ((saveCertOps codec cert createdAt).take k))

/-- The directories stand below that of the environment, and saving the one leaves the files of the
other alone. -/
structure KeptApart (base : List String) (staging : Bool) (domain domain' : String) : Prop where
  child : ∃ name, resolvePath base (certPath staging domain) = certsDir base staging ++ [name]
  child' : ∃ name, resolvePath base (certPath staging domain') = certsDir base staging ++ [name]
  dirs : resolvePath base (certPath staging domain) ≠ resolvePath base (certPath staging domain')
  files : ∀ codec disk cert createdAt k,
    saveCertAt codec disk (resolvePath base (certPath staging domain)) cert createdAt k
        (resolvePath base (certPath staging domain')) =
      disk (resolvePath base (certPath staging domain'))

/-- **Two domains are kept apart** exactly when neither is empty, `.` or `..`, and they differ after
the replacement. -/
theorem certPaths_apart_iff (base : List String) (staging : Bool) (domain domain' : String) :
    KeptApart base staging domain domain' ↔
      domain ∉ ["", ".", ".."] ∧ domain' ∉ ["", ".", ".."] ∧
        safeDomain domain ≠ safeDomain domain' := by
  constructor
  · intro h
    obtain ⟨name, hname⟩ := h.child
    obtain ⟨name', hname'⟩ := h.child'
    refine ⟨(resolvePath_certPath_eq_child.1 hname).1, (resolvePath_certPath_eq_child.1 hname').1,
      fun hsafe => h.dirs ?_⟩
    rw [resolvePath_certPath, hsafe, resolvePath_certPath]
  · rintro ⟨hdomain, hdomain', hsafe⟩
    have hchild := (@resolvePath_certPath_eq_child base staging _ _).2 ⟨hdomain, rfl⟩
    have hchild' := (@resolvePath_certPath_eq_child base staging _ _).2 ⟨hdomain', rfl⟩
    have hdirs : resolvePath base (certPath staging domain) ≠
        resolvePath base (certPath staging domain') := by
      rw [hchild, hchild']
      simpa using hsafe
    exact ⟨⟨_, hchild⟩, ⟨_, hchild'⟩, hdirs, fun _ _ _ _ _ => Function.update_of_ne hdirs.symm _ _⟩

/-- The domain `..` leads out of the directory, and a slash is not told from an underscore: the one
domain's certificate replaces the other's. -/
theorem slash_shares_directory :
    resolvePath ["acme"] (certPath false "..") = ["acme", "certs"] ∧
      resolvePath ["acme"] (certPath false "a/b") = resolvePath ["acme"] (certPath false "a_b") ∧
      ¬KeptApart ["acme"] false ".." "a_b" ∧ ¬KeptApart ["acme"] false "a/b" "a_b" ∧
      saveCertAt jsonCodec (fun _ => emptyDirectory) (resolvePath ["acme"] (certPath false "a/b"))
          firstCert 0 (saveCertOps jsonCodec firstCert 0).length
          (resolvePath ["acme"] (certPath false "a_b")) "cert.pem" =
        some (utf8Bytes firstCert.certPem) := by
  have hshared : resolvePath ["acme"] (certPath false "a/b") =
      resolvePath ["acme"] (certPath false "a_b") := by
    rw [resolvePath_certPath, resolvePath_certPath, show safeDomain "a/b" = "a_b" by decide]
    rfl
  refine ⟨resolvePath_certPath, hshared, ?_, fun h => h.dirs hshared, ?_⟩
  · rintro ⟨⟨name, hname⟩, -, -, -⟩
    exact absurd (resolvePath_certPath_eq_child.1 hname).1 (by decide)
  · rw [hshared, saveCertAt, Function.update_self, List.take_length]
    exact holds_firstDirectory.certPem

end Wicket
