/-
**DNS challenges of an ACME order.**

Under the name of a challenge everything is deleted, then one record is created.  A domain and its
wildcard have the same name, so the second deletes the record of the first.
-/

import Wicket.AcmeProvider

namespace Wicket

open List KeyMap

/-! ### The zone -/

structure TxtRecord where
  id : ℕ
  name : String
  content : String
  deriving DecidableEq

/-- The TXT records of a zone.  A new record gets an identifier that was never used before. -/
structure DnsZone where
  records : List TxtRecord
  nextId : ℕ
  fresh : ∀ r ∈ records, r.id < nextId
  distinct : (records.map TxtRecord.id).Nodup

namespace DnsZone

def empty : DnsZone where
  records := []
  nextId := 0
  fresh := by simp
  distinct := by simp

def listTxtRecords (zone : DnsZone) (name : String) : List ℕ :=
  (zone.records.filter fun r => r.name == name).map TxtRecord.id

def deleteTxtRecord (zone : DnsZone) (id : ℕ) : DnsZone where
  records := zone.records.filter fun r => decide (r.id ≠ id)
  nextId := zone.nextId
  fresh r hr := zone.fresh r (List.mem_of_mem_filter hr)
  distinct := zone.distinct.sublist (List.filter_sublist.map TxtRecord.id)

def createTxtRecord (zone : DnsZone) (name content : String) : DnsZone × ℕ :=
  ({ records := zone.records ++ [⟨zone.nextId, name, content⟩]
     nextId := zone.nextId + 1
     fresh := by
       intro r hr
       rcases List.mem_append.1 hr with hr | hr
       · exact Nat.lt_succ_of_lt (zone.fresh r hr)
       · rw [List.mem_singleton.1 hr]
         exact Nat.lt_succ_self _
     distinct := by
       rw [List.map_append, List.map_singleton, ← List.concat_eq_append]
       refine List.Nodup.concat ?_ zone.distinct
       intro hmem
       obtain ⟨r, hr, heq⟩ := List.mem_map.1 hmem
       exact absurd heq (Nat.ne_of_lt (zone.fresh r hr)) },
    zone.nextId)

def valuesAt (zone : DnsZone) (name : String) : List String :=
  (zone.records.filter fun r => r.name == name).map TxtRecord.content

theorem mem_valuesAt {zone : DnsZone} {name value : String} :
    value ∈ zone.valuesAt name ↔ ∃ r ∈ zone.records, r.name = name ∧ r.content = value := by
  simp [valuesAt, and_assoc]

theorem records_foldl_delete (zone : DnsZone) (ids : List ℕ) :
    (ids.foldl deleteTxtRecord zone).records =
      zone.records.filter fun r => decide (r.id ∉ ids) := by
  induction ids generalizing zone with
  | nil => simp
  | cons id ids ih =>
    rw [foldl_cons, ih, deleteTxtRecord, filter_filter]
    refine filter_congr ?_
    intro r _
    by_cases hid : r.id = id
    · simp [hid]
    · simp [hid]

theorem mem_listTxtRecords {zone : DnsZone} {name : String} {r : TxtRecord}
    (hr : r ∈ zone.records) :
    r.id ∈ zone.listTxtRecords name ↔ r.name = name := by
  simp only [listTxtRecords, mem_map, mem_filter, beq_iff_eq]
  constructor
  · rintro ⟨r', ⟨hr', hname⟩, hid⟩
    rw [← inj_on_of_nodup_map zone.distinct hr' hr hid]
    exact hname
  · intro hname
    exact ⟨r, ⟨hr, hname⟩, rfl⟩

theorem valuesAt_replace (zone : DnsZone) (name content other : String) :
    (((zone.listTxtRecords name).foldl deleteTxtRecord zone).createTxtRecord name
      content).1.valuesAt other = if name = other then [content] else zone.valuesAt other := by
  have hrecords : ((zone.listTxtRecords name).foldl deleteTxtRecord zone).records =
      zone.records.filter fun r => decide (r.name ≠ name) := by
    rw [records_foldl_delete]
    refine filter_congr ?_
    intro r hr
    exact decide_eq_decide.2 (not_congr (mem_listTxtRecords hr))
  simp only [valuesAt, createTxtRecord, hrecords, filter_append, filter_filter]
  by_cases hname : name = other
  · subst hname
    simp
  · have hsame : (zone.records.filter fun r => r.name == other && decide (r.name ≠ name)) =
        zone.records.filter fun r => r.name == other := by
      refine filter_congr ?_
      intro r _
      by_cases hr : r.name = other
      · simp [hr, Ne.symm hname]
      · simp [hr]
    rw [hsame]
    simp [hname]

end DnsZone

/-! ### The loop -/

inductive AuthorizationStatus
  | Pending
  | Valid
  | Invalid
  | Revoked
  | Expired
  | Deactivated
  deriving DecidableEq

inductive AcmeIdentifier
  | Dns (domain : String)
  | Unsupported (description : String)
  deriving DecidableEq

/-- An authorization of an order.  For a wildcard `*.d` the identifier is `d`. -/
structure Authorization where
  status : AuthorizationStatus
  identifier : AcmeIdentifier
  /-- The value of the TXT record for the DNS challenge, if there is one. -/
  dns01 : Option String
  deriving DecidableEq

def dnsIdentifier : AcmeIdentifier → Except AcmeError String
  | .Dns domain => .ok domain
  | .Unsupported description => .error (.Config ("unsupported ACME identifier: " ++ description))

def txtName (domain : String) : String := "_acme-challenge." ++ domain

/-- The state of the zone, the records created so far, and what the call returns. -/
structure Challenges where
  zone : DnsZone
  recordIds : List (String × ℕ)
  outcome : Except AcmeError Unit := .ok ()

def createDnsChallengeRecords : List (Except AcmeError Authorization) → DnsZone →
    List (String × ℕ) → Challenges
  | [], zone, recordIds => ⟨zone, recordIds, .ok ()⟩
  | .error error :: _, zone, recordIds => ⟨zone, recordIds, .error error⟩
  | .ok authz :: rest, zone, recordIds =>
    if authz.status = .Valid then createDnsChallengeRecords rest zone recordIds
    else
      match dnsIdentifier authz.identifier, authz.dns01 with
      | .error error, _ => ⟨zone, recordIds, .error error⟩
      | .ok _, none => ⟨zone, recordIds, .error .NoChallenge⟩
      | .ok domain, some value =>
        -- stale records of previous attempts are deleted
        let created := ((zone.listTxtRecords (txtName domain)).foldl DnsZone.deleteTxtRecord
          zone).createTxtRecord (txtName domain) value
        createDnsChallengeRecords rest created.1 (recordIds ++ [(txtName domain, created.2)])

def Authorization.Asks (authz : Authorization) (domain value : String) : Prop :=
  authz.status ≠ .Valid ∧ authz.identifier = .Dns domain ∧ authz.dns01 = some value

def ChallengesPresent (order : List (Except AcmeError Authorization)) (zone : DnsZone) : Prop :=
  ∀ authz, .ok authz ∈ order → ∀ domain value, authz.Asks domain value →
    ∃ r ∈ zone.records, r.name = txtName domain ∧ r.content = value

def ValuesAgree (order : List (Except AcmeError Authorization)) : Prop :=
  ∀ authz, .ok authz ∈ order → ∀ authz', .ok authz' ∈ order → ∀ domain value value',
    authz.Asks domain value → authz'.Asks domain value' → value = value'

def asked (order : List (Except AcmeError Authorization)) : List (String × String) :=
  order.filterMap fun a =>
    match a with
    | .ok ⟨status, .Dns domain, some value⟩ =>
      if status = .Valid then none else some (txtName domain, value)
    | _ => none

variable {order : List (Except AcmeError Authorization)} {value domain : String}

theorem mem_asked {name : String} :
    (name, value) ∈ asked order ↔
      ∃ authz, .ok authz ∈ order ∧ ∃ domain, name = txtName domain ∧ authz.Asks domain value := by
  simp only [asked, mem_filterMap]
  constructor
  · rintro ⟨a, ha, hsome⟩
    split at hsome
    · rename_i status domain v
      split at hsome
      · cases hsome
      · rename_i hstatus
        simp only [Option.some_inj, Prod.mk.injEq] at hsome
        exact ⟨_, ha, domain, hsome.1.symm, hstatus, rfl, congrArg some hsome.2⟩
    · cases hsome
  · rintro ⟨⟨status, identifier, dns01⟩, ha, domain, rfl, hstatus, hid, hdns⟩
    subst hid hdns
    exact ⟨_, ha, by simp [hstatus]⟩

variable {status : AuthorizationStatus} {domain' : String} {zone : DnsZone}
  {recordIds : List (String × ℕ)}

theorem asked_cons_valid (h : status = .Valid) (identifier : AcmeIdentifier)
    (dns01 : Option String) (rest : List (Except AcmeError Authorization)) :
    asked (.ok ⟨status, identifier, dns01⟩ :: rest) = asked rest := by
  cases identifier <;> cases dns01 <;> simp [asked, h]

theorem asked_cons_of_asks (h : status ≠ .Valid) (domain value : String)
    (rest : List (Except AcmeError Authorization)) :
    asked (.ok ⟨status, .Dns domain, some value⟩ :: rest) =
      (txtName domain, value) :: asked rest := by
  simp [asked, h]

theorem txtName_inj (h : txtName domain = txtName domain') : domain = domain' :=
  (String.append_right_inj _).1 h

theorem valuesAt_createDnsChallengeRecords
    (h : (createDnsChallengeRecords order zone recordIds).outcome = .ok ()) (name : String) :
    (createDnsChallengeRecords order zone recordIds).zone.valuesAt name =
      ((lastWrite (asked order) name).map fun value => [value]).getD (zone.valuesAt name) := by
  induction order generalizing zone recordIds with
  | nil => rfl
  | cons a rest ih =>
    cases a with
    | error e => cases h
    | ok authz =>
      obtain ⟨status, identifier, dns01⟩ := authz
      rw [createDnsChallengeRecords] at h ⊢
      by_cases hvalid : status = .Valid
      · rw [if_pos hvalid] at h ⊢
        rw [ih h, asked_cons_valid hvalid]
      · rw [if_neg hvalid] at h ⊢
        cases identifier with
        | Unsupported description => cases h
        | Dns domain =>
          cases dns01 with
          | none => cases h
          | some value =>
            simp only [dnsIdentifier] at h ⊢
            rw [ih h, asked_cons_of_asks hvalid, lastWrite_cons, DnsZone.valuesAt_replace]
            cases lastWrite (asked rest) name with
            | some last => rfl
            | none =>
              by_cases hname : txtName domain = name
              · simp [hname]
              · simp [hname]

theorem exists_last_value (h : (createDnsChallengeRecords order zone recordIds).outcome = .ok ())
    {authz : Authorization} (hmem : .ok authz ∈ order) (hasks : authz.Asks domain value) :
    ∃ last, lastWrite (asked order) (txtName domain) = some last ∧
      ∀ value', (∃ r ∈ (createDnsChallengeRecords order zone recordIds).zone.records,
        r.name = txtName domain ∧ r.content = value') ↔ value' = last := by
  have hasked := mem_asked.2 ⟨authz, hmem, domain, rfl, hasks⟩
  cases hw : lastWrite (asked order) (txtName domain) with
  | none => exact absurd rfl (lastWrite_eq_none.1 hw _ hasked)
  | some last =>
    refine ⟨last, rfl, ?_⟩
    intro value'
    rw [← DnsZone.mem_valuesAt, valuesAt_createDnsChallengeRecords h, hw, Option.map_some,
      Option.getD_some, mem_singleton]

/-- **All records are present** exactly when authorizations for the same domain ask for the same
value. -/
theorem challengesPresent_iff {order : List (Except AcmeError Authorization)} {zone : DnsZone}
    {recordIds : List (String × ℕ)}
    (h : (createDnsChallengeRecords order zone recordIds).outcome = .ok ()) :
    ChallengesPresent order (createDnsChallengeRecords order zone recordIds).zone ↔
      ValuesAgree order := by
  constructor
  · intro hall authz hmem authz' hmem' domain value value' hasks hasks'
    obtain ⟨last, -, hlast⟩ := exists_last_value h hmem hasks
    rw [(hlast value).1 (hall authz hmem domain value hasks),
      (hlast value').1 (hall authz' hmem' domain value' hasks')]
  · intro hagree authz hmem domain value hasks
    obtain ⟨last, hw, hlast⟩ := exists_last_value h hmem hasks
    refine (hlast value).2 ?_
    -- the last value is asked for by an authorization for the same domain
    obtain ⟨authz', hmem', domain', hname, hasks'⟩ := mem_asked.1 (mem_of_lastWrite hw)
    rw [← txtName_inj hname] at hasks'
    exact hagree authz hmem authz' hmem' domain value last hasks hasks'

def pendingFor (domain value : String) : Authorization :=
  ⟨.Pending, .Dns domain, some value⟩

theorem pendingFor_asks {value' : String} :
    (pendingFor domain value).Asks domain' value' ↔ domain = domain' ∧ value = value' := by
  simp [pendingFor, Authorization.Asks]

theorem two_domains_present :
    ChallengesPresent [.ok (pendingFor "example.com" "v1"), .ok (pendingFor "example.org" "v2")]
      (createDnsChallengeRecords
        [.ok (pendingFor "example.com" "v1"), .ok (pendingFor "example.org" "v2")]
        DnsZone.empty []).zone := by
  refine (challengesPresent_iff rfl).2 ?_
  intro authz hmem authz' hmem' domain value value' hasks hasks'
  simp only [List.mem_cons, Except.ok.injEq, List.not_mem_nil, or_false] at hmem hmem'
  rcases hmem with rfl | rfl
  · obtain ⟨rfl, rfl⟩ := pendingFor_asks.1 hasks
    rcases hmem' with rfl | rfl
    · exact (pendingFor_asks.1 hasks').2
    · exact absurd (pendingFor_asks.1 hasks').1 (by decide)
  · obtain ⟨rfl, rfl⟩ := pendingFor_asks.1 hasks
    rcases hmem' with rfl | rfl
    · exact absurd (pendingFor_asks.1 hasks').1 (by decide)
    · exact (pendingFor_asks.1 hasks').2

/-- A certificate for `example.com` and `*.example.com`: both authorizations have the identifier
`example.com`, and the record of the first one is gone in the end. -/
theorem wildcard_record_missing :
    (createDnsChallengeRecords
      [.ok (pendingFor "example.com" "v1"), .ok (pendingFor "example.com" "v2")]
      DnsZone.empty []).outcome = .ok () ∧
    ¬ChallengesPresent [.ok (pendingFor "example.com" "v1"), .ok (pendingFor "example.com" "v2")]
      (createDnsChallengeRecords
        [.ok (pendingFor "example.com" "v1"), .ok (pendingFor "example.com" "v2")]
        DnsZone.empty []).zone := by
  refine ⟨rfl, ?_⟩
  intro h
  have hmem := DnsZone.mem_valuesAt.2 (h _ List.mem_cons_self "example.com" "v1"
    ⟨by decide, rfl, rfl⟩)
  revert hmem
  decide +kernel

end Wicket
