/-
**The challenge records of a failed issuance.**

Each call is an input, with its failure.  Errors up to the notification are caught and the records
are deleted; later errors are passed on with `?`, and the records stay.
-/

import Wicket.DnsChallenge

namespace Wicket

open List

/-! ### What happens during an issuance -/

inductive CreateOutcome
  | created
  | refused (error : String)
  /-- The record is created, but the answer cannot be read. -/
  | lost (error : String)

structure AuthorizationCalls where
  authz : Except AcmeError Authorization
  listed : Bool := true
  /-- Which of the deletions of old records take effect. -/
  deleted : ℕ → Bool := fun _ => true
  created : CreateOutcome := .created

structure NotifyCalls where
  authz : Except AcmeError Authorization
  setReady : Except AcmeError Unit := .ok ()

inductive OrderStatus
  | Pending
  | Ready
  | Processing
  | Valid
  | Invalid
  deriving DecidableEq

structure IssueCalls where
  account : Except AcmeError Unit := .ok ()
  apiToken : Except String String := .ok ""
  dnsClient : Except String Unit := .ok ()
  zoneId : Except String String := .ok ""
  newOrder : Except String Unit := .ok ()
  challenges : List AuthorizationCalls
  notifications : List NotifyCalls := []
  pollReady : Except String OrderStatus := .ok .Ready
  summary : Except String String := .ok ""
  /-- The private key for the request. -/
  generateCsr : Except AcmeError String := .ok ""
  finalizeCsr : Except String Unit := .ok ()
  pollCertificate : Except String String := .ok ""
  /-- Which of the deletions in the end take effect. -/
  cleanup : ℕ → Bool := fun _ => true
  expiry : Option Int := none
  now : Int := 0

/-! ### The records and the log -/

inductive DnsCall
  | created (id : ℕ)
  | delete (id : ℕ)
  deriving DecidableEq

structure DnsState where
  zone : DnsZone
  log : List DnsCall := []

namespace DnsState

def deleteTxtRecord (effective : ℕ → Bool) (s : DnsState) (id : ℕ) : DnsState where
  zone := if effective id then s.zone.deleteTxtRecord id else s.zone
  log := s.log ++ [.delete id]

def createTxtRecord (s : DnsState) (name value : String) : DnsState × ℕ :=
  let created := s.zone.createTxtRecord name value
  (⟨created.1, s.log ++ [.created created.2]⟩, created.2)

def deleteAll (effective : ℕ → Bool) (s : DnsState) (ids : List ℕ) : DnsState :=
  ids.foldl (deleteTxtRecord effective) s

variable (effective : ℕ → Bool) (s : DnsState) (ids : List ℕ)

theorem log_deleteAll : (s.deleteAll effective ids).log = s.log ++ ids.map .delete := by
  induction ids generalizing s with
  | nil => exact (append_nil _).symm
  | cons id ids ih =>
    rw [deleteAll, foldl_cons, ← deleteAll, ih, deleteTxtRecord, map_cons,
      append_assoc, singleton_append]

theorem nextId_deleteAll : (s.deleteAll effective ids).zone.nextId = s.zone.nextId := by
  induction ids generalizing s with
  | nil => rfl
  | cons id ids ih =>
    rw [deleteAll, foldl_cons, ← deleteAll, ih, deleteTxtRecord]
    split <;> rfl

theorem id_create (name value : String) :
    ((s.deleteAll effective ids).createTxtRecord name value).2 = s.zone.nextId :=
  nextId_deleteAll effective s ids

theorem log_create (name value : String) :
    ((s.deleteAll effective ids).createTxtRecord name value).1.log =
      s.log ++ ids.map .delete ++ [.created s.zone.nextId] := by
  rw [← nextId_deleteAll effective s ids, ← log_deleteAll effective s ids]
  rfl

theorem nextId_create (name value : String) :
    ((s.deleteAll effective ids).createTxtRecord name value).1.zone.nextId = s.zone.nextId + 1 := by
  rw [← nextId_deleteAll effective s ids]
  rfl

theorem zone_deleteAll_of_effective :
    (s.deleteAll (fun _ => true) ids).zone = ids.foldl DnsZone.deleteTxtRecord s.zone := by
  induction ids generalizing s with
  | nil => rfl
  | cons id ids ih =>
    rw [deleteAll, foldl_cons, ← deleteAll, ih]
    rfl

end DnsState

/-- The records created so far, and what the call returns. -/
structure Records where
  dns : DnsState
  recordIds : List (String × ℕ) := []
  outcome : Except AcmeError Unit := .ok ()

def nextRecord (c : AuthorizationCalls) (st : Records) : Records :=
  match c.authz with
  | .error error => { st with outcome := .error error }
  | .ok authz =>
    if authz.status = .Valid then st
    else
      match dnsIdentifier authz.identifier, authz.dns01 with
      | .error error, _ => { st with outcome := .error error }
      | .ok _, none => { st with outcome := .error .NoChallenge }
      | .ok domain, some value =>
        -- stale records of previous attempts; what fails here is only logged
        let stale := if c.listed then st.dns.zone.listTxtRecords (txtName domain) else []
        let dns := st.dns.deleteAll c.deleted stale
        match c.created with
        | .refused error => { st with dns := dns, outcome := .error (.Cloudflare error) }
        | .lost error =>
          { st with
            dns := (dns.createTxtRecord (txtName domain) value).1
            outcome := .error (.Cloudflare error) }
        | .created =>
          { st with
            dns := (dns.createTxtRecord (txtName domain) value).1
            recordIds := st.recordIds ++
              [(txtName domain, (dns.createTxtRecord (txtName domain) value).2)] }

/-- The records for the challenges of an order are created; the first error ends the loop. -/
def createRecords : List AuthorizationCalls → Records → Records
  | [], st => st
  | c :: rest, st =>
    match (nextRecord c st).outcome with
    | .error _ => nextRecord c st
    | .ok () => createRecords rest (nextRecord c st)

def NotifyCalls.result (n : NotifyCalls) : Except AcmeError Unit := do
  let authz ← n.authz
  if authz.status = .Valid then return
  let _ ← dnsIdentifier authz.identifier
  match authz.dns01 with
  | none => throw .NoChallenge
  | some _ => n.setReady

def notifyDnsChallengesReady : List NotifyCalls → Except AcmeError Unit
  | [] => .ok ()
  | n :: rest => do
    n.result
    notifyDnsChallengesReady rest

def cleanupDnsRecords (calls : IssueCalls) (st : Records) : DnsState :=
  st.dns.deleteAll calls.cleanup (st.recordIds.map Prod.snd)

/-! ### The issuance -/

def prepareOrder (group : AcmeCertConfig) (calls : IssueCalls) : Except AcmeError Unit := do
  if group.domains.isEmpty then throw (.Config "no domains specified")
  calls.account
  let _ ← calls.apiToken.mapError .Config
  calls.dnsClient.mapError .Cloudflare
  let _ ← match group.dns.zoneId with
    | some id => pure id
    | none => calls.zoneId.mapError .Cloudflare
  calls.newOrder.mapError .Acme

/-- What comes after the order is ready: the request is sent and the certificate awaited. -/
def finishOrder (calls : IssueCalls) : Except AcmeError (String × String) := do
  let keyPem ← calls.generateCsr
  calls.finalizeCsr.mapError .Acme
  let certPem ← calls.pollCertificate.mapError .Acme
  return (certPem, keyPem)

def issueCert (group : AcmeCertConfig) (calls : IssueCalls) (zone : DnsZone) :
    DnsState × Except AcmeError Issued :=
  match prepareOrder group calls with
  | .error error => (⟨zone, []⟩, .error error)
  | .ok () =>
    let st := createRecords calls.challenges { dns := ⟨zone, []⟩ }
    match st.outcome.bind fun _ => notifyDnsChallengesReady calls.notifications with
    | .error error => (cleanupDnsRecords calls st, .error error)
    | .ok () =>
      match calls.pollReady with
      | .error error => (st.dns, .error (.Acme error))
      | .ok status =>
        if status = .Invalid then
          let details := match calls.summary with
            | .ok summary => summary
            | .error error => "failed to fetch authorization details: " ++ error
          (cleanupDnsRecords calls st, .error (.OrderFailed ("Invalid: " ++ details)))
        else
          match finishOrder calls with
          | .error error => (st.dns, .error error)
          | .ok (certPem, keyPem) =>
            (cleanupDnsRecords calls st,
              .ok ⟨certPem, keyPem, calls.expiry.getD (calls.now + 90 * 86400)⟩)

def obtainCertRun (files : CertFiles) (env : GroupEnv) (group : AcmeCertConfig)
    (calls : IssueCalls) (zone : DnsZone) : DnsState × CertFiles × Except AcmeError StoredCert :=
  let issued := issueCert group calls zone
  (issued.1, AcmeProvider.obtainCert files { env with issue := issued.2 } group)

/-! ### A turn of the loop -/

namespace AuthorizationCalls

def Wants (c : AuthorizationCalls) : Prop :=
  ∃ authz domain value, c.authz = .ok authz ∧ authz.Asks domain value

def IsValid (c : AuthorizationCalls) : Prop := ∃ authz, c.authz = .ok authz ∧ authz.status = .Valid

def Passes (c : AuthorizationCalls) : Prop := c.IsValid ∨ (c.Wants ∧ c.created = .created)

def LosesAnswer (c : AuthorizationCalls) : Prop := c.Wants ∧ ∃ error, c.created = .lost error

theorem Wants.not_isValid {c : AuthorizationCalls} (h : c.Wants) : ¬ c.IsValid := by
  rintro ⟨authz, hauthz, hstatus⟩
  obtain ⟨authz', domain, value, hauthz', hasks⟩ := h
  rw [hauthz, Except.ok.injEq] at hauthz'
  exact hasks.1 (hauthz' ▸ hstatus)

end AuthorizationCalls

inductive Turn (c : AuthorizationCalls) (st : Records) : Records → Prop
  | valid (h : c.IsValid) : Turn c st st
  | failed (h : ¬ c.Passes) (hlost : ¬ c.LosesAnswer) (effective : ℕ → Bool) (ids : List ℕ)
      (error : AcmeError) :
      Turn c st { st with dns := st.dns.deleteAll effective ids, outcome := .error error }
  | lost (h : c.LosesAnswer) (effective : ℕ → Bool) (ids : List ℕ) (name value : String)
      (error : AcmeError) :
      Turn c st
        { st with
          dns := ((st.dns.deleteAll effective ids).createTxtRecord name value).1
          outcome := .error error }
  | created (h : c.Wants) (hcreated : c.created = .created) (effective : ℕ → Bool)
      (ids : List ℕ) (name value : String) :
      Turn c st
        { st with
          dns := ((st.dns.deleteAll effective ids).createTxtRecord name value).1
          recordIds := st.recordIds ++ [(name, st.dns.zone.nextId)] }

theorem dnsIdentifier_eq_ok {identifier : AcmeIdentifier} {domain : String} :
    dnsIdentifier identifier = .ok domain ↔ identifier = .Dns domain := by
  cases identifier <;> simp [dnsIdentifier]

variable {c : AuthorizationCalls} {st : Records} {cs : List AuthorizationCalls} {log : List DnsCall}

theorem AuthorizationCalls.wants_iff {authz : Authorization} (hauthz : c.authz = .ok authz)
    (h : authz.status ≠ .Valid) :
    c.Wants ↔ ∃ domain value, dnsIdentifier authz.identifier = .ok domain ∧
      authz.dns01 = some value := by
  simp only [Wants, hauthz, Except.ok.injEq, Authorization.Asks, dnsIdentifier_eq_ok]
  constructor
  · rintro ⟨_, domain, value, rfl, -, hdomain, hvalue⟩
    exact ⟨domain, value, hdomain, hvalue⟩
  · rintro ⟨domain, value, hdomain, hvalue⟩
    exact ⟨authz, domain, value, rfl, h, hdomain, hvalue⟩

theorem Turn.of_not_wants (hvalid : ¬ c.IsValid) (h : ¬ c.Wants) (error : AcmeError) :
    Turn c st { st with outcome := .error error } := by
  refine .failed ?_ (fun hlost => h hlost.1) (fun _ => true) [] error
  rintro (hpass | hpass)
  · exact hvalid hpass
  · exact h hpass.1

theorem turn_nextRecord (c : AuthorizationCalls) (st : Records) : Turn c st (nextRecord c st) := by
  unfold nextRecord
  cases hauthz : c.authz with
  | error error =>
    refine Turn.of_not_wants ?_ ?_ error
    · simp [AuthorizationCalls.IsValid, hauthz]
    · simp [AuthorizationCalls.Wants, hauthz]
  | ok authz =>
    dsimp only
    by_cases hstatus : authz.status = .Valid
    · rw [if_pos hstatus]
      exact .valid ⟨authz, hauthz, hstatus⟩
    · rw [if_neg hstatus]
      have hwants := AuthorizationCalls.wants_iff hauthz hstatus
      have hvalid : ¬ c.IsValid := by simp [AuthorizationCalls.IsValid, hauthz, hstatus]
      cases hdomain : dnsIdentifier authz.identifier with
      | error error => exact Turn.of_not_wants hvalid (by simp [hwants, hdomain]) error
      | ok domain =>
        cases hvalue : authz.dns01 with
        | none => exact Turn.of_not_wants hvalid (by simp [hwants, hvalue]) .NoChallenge
        | some value =>
          have hwants : c.Wants := hwants.2 ⟨domain, value, hdomain, hvalue⟩
          cases hcreated : c.created with
          | created =>
            dsimp only
            rw [DnsState.id_create]
            exact .created hwants hcreated c.deleted _ (txtName domain) value
          | refused error =>
            refine .failed ?_ ?_ c.deleted _ _
            · simp [AuthorizationCalls.Passes, hcreated, hvalid]
            · simp [AuthorizationCalls.LosesAnswer, hcreated]
          | lost error => exact .lost ⟨hwants, error, hcreated⟩ c.deleted _ _ _ _

theorem Turn.outcome_iff {st' : Records} (h : Turn c st st') (hst : st.outcome = .ok ()) :
    st'.outcome = .ok () ↔ c.Passes := by
  cases h with
  | valid hvalid => exact iff_of_true hst (.inl hvalid)
  | failed hpass => exact iff_of_false (by simp) hpass
  | lost hlost =>
    obtain ⟨hwants, error, hcreated⟩ := hlost
    simp [AuthorizationCalls.Passes, hcreated, hwants.not_isValid]
  | created hwants hcreated => exact iff_of_true hst (.inr ⟨hwants, hcreated⟩)

/-! ### The whole loop -/

structure Records.Known (st : Records) : Prop where
  known : ∀ id, .created id ∈ st.dns.log → id ∈ st.recordIds.map Prod.snd
  below : ∀ id ∈ st.recordIds.map Prod.snd, id < st.dns.zone.nextId

theorem Turn.known {st' : Records} (h : Turn c st st') (hst : st.Known)
    (hanswer : ¬ c.LosesAnswer) : st'.Known := by
  cases h with
  | valid _ => exact hst
  | failed _ _ effective ids error =>
    refine ⟨?_, ?_⟩
    · intro id hid
      rw [DnsState.log_deleteAll] at hid
      exact hst.known id (by simpa using hid)
    · intro id hid
      rw [DnsState.nextId_deleteAll]
      exact hst.below id hid
  | lost hlost => exact absurd hlost hanswer
  | created _ _ effective ids name value =>
    refine ⟨?_, ?_⟩
    · intro id hid
      rw [DnsState.log_create] at hid
      rw [map_append, mem_append]
      rcases mem_append.1 hid with hid | hid
      · exact .inl (hst.known id (by simpa using hid))
      · exact .inr (by simpa using hid)
    · intro id hid
      rw [DnsState.nextId_create]
      rw [map_append, mem_append] at hid
      rcases hid with hid | hid
      · exact Nat.lt_succ_of_lt (hst.below id hid)
      · rw [mem_singleton.1 hid]
        exact Nat.lt_succ_self _

def AnswerLost (cs : List AuthorizationCalls) : Prop :=
  ∃ before c after, cs = before ++ c :: after ∧ (∀ b ∈ before, b.Passes) ∧ c.LosesAnswer

theorem not_answerLost_nil : ¬ AnswerLost [] := by
  rintro ⟨before, c, after, h, -⟩
  simp at h

theorem answerLost_cons {rest : List AuthorizationCalls} :
    AnswerLost (c :: rest) ↔ c.LosesAnswer ∨ (c.Passes ∧ AnswerLost rest) := by
  constructor
  · rintro ⟨before, d, after, heq, hpass, hlost⟩
    cases before with
    | nil =>
      obtain ⟨rfl, -⟩ := cons.inj heq
      exact .inl hlost
    | cons b before =>
      obtain ⟨rfl, rfl⟩ := cons.inj heq
      exact .inr ⟨hpass c mem_cons_self, before, d, after, rfl,
        fun b hb => hpass b (mem_cons_of_mem _ hb), hlost⟩
  · rintro (hlost | ⟨hpass, before, d, after, rfl, hbefore, hlost⟩)
    · exact ⟨[], c, rest, rfl, by simp, hlost⟩
    · exact ⟨c :: before, d, after, rfl, forall_mem_cons.2 ⟨hpass, hbefore⟩, hlost⟩

theorem createRecords_outcome (st : Records) (hst : st.outcome = .ok ()) :
    (createRecords cs st).outcome = .ok () ↔ ∀ c ∈ cs, c.Passes := by
  induction cs generalizing st with
  | nil => simpa [createRecords] using hst
  | cons c rest ih =>
    have hturn := (turn_nextRecord c st).outcome_iff hst
    rw [createRecords, forall_mem_cons, ← hturn]
    cases hnext : (nextRecord c st).outcome with
    | error error => simp [hnext]
    | ok _ => simp [ih _ hnext]

theorem createRecords_known (st : Records) (hst : st.outcome = .ok ()) (hknown : st.Known)
    (hanswer : ¬ AnswerLost cs) :
    (createRecords cs st).Known := by
  induction cs generalizing st with
  | nil => exact hknown
  | cons c rest ih =>
    rw [answerLost_cons, not_or] at hanswer
    have hturn := turn_nextRecord c st
    have hnext := hturn.known hknown hanswer.1
    rw [createRecords]
    cases hout : (nextRecord c st).outcome with
    | error error => exact hnext
    | ok _ =>
      exact ih _ hout hnext fun hrest => hanswer.2 ⟨(hturn.outcome_iff hst).1 hout, hrest⟩

theorem createRecords_lost (st : Records) (hst : st.outcome = .ok ()) (hknown : st.Known)
    (hlost : AnswerLost cs) :
    (createRecords cs st).outcome ≠ .ok () ∧
      ∃ log id, (createRecords cs st).dns.log = log ++ [.created id] ∧
        id ∉ (createRecords cs st).recordIds.map Prod.snd := by
  induction cs generalizing st with
  | nil => exact absurd hlost not_answerLost_nil
  | cons c rest ih =>
    have hturn := turn_nextRecord c st
    rw [createRecords]
    by_cases hc : c.LosesAnswer
    · -- the turn fails, and its record has the next identifier, which is not known yet
      generalize nextRecord c st = st' at hturn
      cases hturn with
      | valid hvalid => exact absurd hvalid hc.1.not_isValid
      | failed _ hnot => exact absurd hc hnot
      | lost _ effective ids name value error =>
        refine ⟨by simp, _, _, DnsState.log_create effective st.dns ids name value, ?_⟩
        intro hid
        exact absurd (hknown.below _ hid) (Nat.lt_irrefl _)
      | created _ hcreated =>
        obtain ⟨-, error, hlost⟩ := hc
        cases hcreated.symm.trans hlost
    · obtain ⟨hpass, hrest⟩ := (answerLost_cons.1 hlost).resolve_left hc
      have hout := (hturn.outcome_iff hst).2 hpass
      rw [hout]
      exact ih _ hout (hturn.known hknown hc) hrest

theorem nextRecord_eq_self (hpass : c.Passes) (h : ¬ c.Wants) (st : Records) :
    nextRecord c st = st := by
  obtain ⟨authz, hauthz, hstatus⟩ := hpass.resolve_right fun hcreated => h hcreated.1
  simp only [nextRecord, hauthz, hstatus, if_true]

theorem createRecords_eq_self (st : Records) (hst : st.outcome = .ok ())
    (hpass : ∀ c ∈ cs, c.Passes) (h : ∀ c ∈ cs, ¬ c.Wants) :
    createRecords cs st = st := by
  induction cs with
  | nil => rfl
  | cons c rest ih =>
    rw [forall_mem_cons] at hpass h
    rw [createRecords, nextRecord_eq_self hpass.1 h.1, hst]
    exact ih hpass.2 h.2

theorem createRecords_last (st : Records) (hst : st.outcome = .ok ()) (hpass : ∀ c ∈ cs, c.Passes)
    (h : ∃ c ∈ cs, c.Wants) :
    ∃ log id, (createRecords cs st).dns.log = log ++ [.created id] := by
  induction cs generalizing st with
  | nil => simp at h
  | cons c rest ih =>
    rw [forall_mem_cons] at hpass
    have hturn := turn_nextRecord c st
    have hout := (hturn.outcome_iff hst).2 hpass.1
    rw [createRecords, hout]
    -- the last authorization that wants a record leaves the creation at the end of the log
    by_cases hrest : ∃ d ∈ rest, d.Wants
    · exact ih _ hout hpass.2 hrest
    · have hnone : ∀ d ∈ rest, ¬ d.Wants := fun d hd hwants => hrest ⟨d, hd, hwants⟩
      have hwants : c.Wants := by
        obtain ⟨d, hd, hwants⟩ := h
        rcases mem_cons.1 hd with rfl | hd
        · exact hwants
        · exact absurd hwants (hnone d hd)
      rw [createRecords_eq_self _ hout hpass.2 hnone]
      generalize nextRecord c st = st' at hturn hout
      cases hturn with
      | valid hvalid => exact absurd hvalid hwants.not_isValid
      | failed hnot => exact absurd hpass.1 hnot
      | lost => simp at hout
      | created _ _ effective ids name value =>
        exact ⟨_, _, DnsState.log_create effective st.dns ids name value⟩

theorem createRecords_eq {order : List (Except AcmeError Authorization)} {zone : DnsZone}
    {recordIds : List (String × ℕ)} :
    let st := createRecords (order.map fun authz => { authz := authz })
      ⟨⟨zone, log⟩, recordIds, .ok ()⟩
    (⟨st.dns.zone, st.recordIds, st.outcome⟩ : Challenges) =
      createDnsChallengeRecords order zone recordIds := by
  induction order generalizing zone log recordIds with
  | nil => rfl
  | cons a rest ih =>
    cases a with
    | error error => rfl
    | ok authz =>
      rw [map_cons, createRecords, createDnsChallengeRecords]
      by_cases hstatus : authz.status = .Valid
      · simp only [nextRecord, hstatus, if_true]
        exact ih
      · simp only [nextRecord, hstatus, if_false]
        cases dnsIdentifier authz.identifier with
        | error error => rfl
        | ok domain =>
          cases authz.dns01 with
          | none => rfl
          | some value =>
            dsimp only
            rw [← DnsState.zone_deleteAll_of_effective ⟨zone, log⟩]
            exact ih

/-! ### What is left in the end -/

def EachDeleted (log : List DnsCall) : Prop :=
  ∀ before id after, log = before ++ .created id :: after → .delete id ∈ after

theorem eachDeleted_nil : EachDeleted [] := by
  intro before id after h
  simp at h

theorem eachDeleted_append {ids : List ℕ} (h : ∀ id, .created id ∈ log → id ∈ ids) :
    EachDeleted (log ++ ids.map .delete) := by
  intro before id after heq
  rcases append_eq_append_iff.1 heq with ⟨mid, rfl, hids⟩ | ⟨mid, hlog, hafter⟩
  · -- no record is created among the deletions
    have hmem : DnsCall.created id ∈ ids.map DnsCall.delete := by
      rw [hids]
      exact mem_append_right _ mem_cons_self
    simp at hmem
  · cases mid with
    | nil =>
      have hmem : DnsCall.created id ∈ ids.map DnsCall.delete := by
        rw [nil_append] at hafter
        rw [← hafter]
        exact mem_cons_self
      simp at hmem
    | cons call mid =>
      obtain ⟨rfl, rfl⟩ := cons.inj hafter
      refine mem_append_right _ (mem_map.2 ⟨id, h id ?_, rfl⟩)
      rw [hlog]
      exact mem_append_right _ mem_cons_self

theorem not_eachDeleted_append {id : ℕ} {ids : List ℕ} (h : id ∉ ids) :
    ¬ EachDeleted (log ++ [.created id] ++ ids.map .delete) := by
  intro heach
  have hmem := heach log id (ids.map .delete) (by rw [append_assoc, singleton_append])
  simp [h] at hmem

variable (calls : IssueCalls)

theorem log_cleanupDnsRecords (st : Records) :
    (cleanupDnsRecords calls st).log = st.dns.log ++ (st.recordIds.map Prod.snd).map .delete :=
  DnsState.log_deleteAll _ _ _

namespace IssueCalls

def OrderPlaced (calls : IssueCalls) (group : AcmeCertConfig) : Prop :=
  group.domains ≠ [] ∧ calls.account = .ok () ∧ (∃ token, calls.apiToken = .ok token) ∧
    calls.dnsClient = .ok () ∧ (group.dns.zoneId ≠ none ∨ ∃ id, calls.zoneId = .ok id) ∧
    calls.newOrder = .ok ()

def FailsUncaught (calls : IssueCalls) : Prop :=
  (∃ error, calls.pollReady = .error error) ∨
  (calls.pollReady ≠ .ok .Invalid ∧
    ((∃ error, calls.generateCsr = .error error) ∨ (∃ error, calls.finalizeCsr = .error error) ∨
      ∃ error, calls.pollCertificate = .error error))

end IssueCalls

/-- The authority is told about an authorization, or does not need to be. -/
def NotifyCalls.Passes (n : NotifyCalls) : Prop :=
  ∃ authz, n.authz = .ok authz ∧
    (authz.status = .Valid ∨ (∃ domain value, authz.Asks domain value) ∧ n.setReady = .ok ())

theorem NotifyCalls.result_eq_ok (n : NotifyCalls) : n.result = .ok () ↔ n.Passes := by
  unfold NotifyCalls.result NotifyCalls.Passes
  cases n.authz with
  | error error => simp [bind, Except.bind]
  | ok authz =>
    obtain ⟨status, identifier, dns01⟩ := authz
    by_cases hstatus : status = .Valid
    · simp [bind, Except.bind, pure, Except.pure, hstatus]
    · cases identifier <;> cases dns01 <;>
        simp [bind, Except.bind, throw, throwThe, MonadExceptOf.throw, dnsIdentifier,
          Authorization.Asks, hstatus]

theorem notifyDnsChallengesReady_eq_ok (ns : List NotifyCalls) :
    notifyDnsChallengesReady ns = .ok () ↔ ∀ n ∈ ns, n.Passes := by
  induction ns with
  | nil => simp [notifyDnsChallengesReady]
  | cons n rest ih =>
    rw [forall_mem_cons, ← n.result_eq_ok, ← ih, notifyDnsChallengesReady]
    cases n.result <;> simp [bind, Except.bind]

theorem prepareOrder_eq_ok (group : AcmeCertConfig) (calls : IssueCalls) :
    prepareOrder group calls = .ok () ↔ calls.OrderPlaced group := by
  unfold prepareOrder IssueCalls.OrderPlaced
  cases hdomains : group.domains with
  | nil => simp [throw, throwThe, MonadExceptOf.throw, bind, Except.bind]
  | cons domain domains =>
    cases hzone : group.dns.zoneId with
    | some id => simp [Check.bind_eq_ok, Check.mapError_eq_ok, Unique.exists_iff]
    | none => simp [Check.bind_eq_ok, Check.mapError_eq_ok, Unique.exists_iff]

theorem finishOrder_eq_error :
    (∃ error, finishOrder calls = .error error) ↔
      ((∃ error, calls.generateCsr = .error error) ∨ (∃ error, calls.finalizeCsr = .error error) ∨
        ∃ error, calls.pollCertificate = .error error) := by
  unfold finishOrder
  cases calls.generateCsr with
  | error error => simp [bind, Except.bind]
  | ok keyPem =>
    cases calls.finalizeCsr with
    | error error => simp [bind, Except.bind, Except.mapError]
    | ok _ =>
      cases calls.pollCertificate <;> simp [bind, Except.bind, pure, Except.pure, Except.mapError]

theorem IssueCalls.failsUncaught_iff {status : OrderStatus}
    (hpoll : calls.pollReady = .ok status) (hstatus : status ≠ .Invalid) :
    calls.FailsUncaught ↔ ∃ error, finishOrder calls = .error error := by
  rw [finishOrder_eq_error, FailsUncaught, hpoll]
  simp [hstatus]

def IssueCalls.records (calls : IssueCalls) (zone : DnsZone) : Records :=
  createRecords calls.challenges { dns := ⟨zone, []⟩ }

theorem known_start (zone : DnsZone) : Records.Known { dns := ⟨zone, []⟩ } :=
  ⟨by simp, by simp⟩

theorem eachDeleted_cleanup_iff (zone : DnsZone) :
    EachDeleted (cleanupDnsRecords calls (calls.records zone)).log ↔
      ¬ AnswerLost calls.challenges := by
  rw [log_cleanupDnsRecords]
  constructor
  · intro heach hlost
    obtain ⟨-, log, id, hlog, hid⟩ := createRecords_lost _ rfl (known_start zone) hlost
    rw [IssueCalls.records, hlog] at heach
    exact not_eachDeleted_append hid heach
  · intro hanswer
    exact eachDeleted_append (createRecords_known _ rfl (known_start zone) hanswer).known

theorem eachDeleted_records_iff {calls : IssueCalls} (zone : DnsZone)
    (hpass : ∀ c ∈ calls.challenges, c.Passes) :
    EachDeleted (calls.records zone).dns.log ↔ ¬ ∃ c ∈ calls.challenges, c.Wants := by
  constructor
  · intro heach hwants
    obtain ⟨log, id, hlog⟩ := createRecords_last { dns := ⟨zone, []⟩ } rfl hpass hwants
    rw [IssueCalls.records, hlog] at heach
    exact not_eachDeleted_append not_mem_nil (by simpa using heach)
  · intro hnone
    rw [IssueCalls.records, createRecords_eq_self _ rfl hpass
      fun c hc hwants => hnone ⟨c, hc, hwants⟩]
    exact eachDeleted_nil

theorem not_answerLost_of_passes (hpass : ∀ c ∈ cs, c.Passes) : ¬ AnswerLost cs := by
  intro hlost
  exact (createRecords_lost _ rfl (known_start .empty) hlost).1
    ((createRecords_outcome _ rfl).2 hpass)

def IssueCalls.Notified (calls : IssueCalls) : Prop :=
  (∀ c ∈ calls.challenges, c.Passes) ∧ ∀ n ∈ calls.notifications, n.Passes

theorem notified_iff (zone : DnsZone) :
    ((calls.records zone).outcome.bind fun _ =>
      notifyDnsChallengesReady calls.notifications) = .ok () ↔ calls.Notified := by
  rw [IssueCalls.Notified, ← createRecords_outcome { dns := ⟨zone, []⟩ } rfl,
    ← notifyDnsChallengesReady_eq_ok, ← IssueCalls.records]
  cases (calls.records zone).outcome <;> simp [Except.bind]

theorem eachDeleted_issueCert_iff (group : AcmeCertConfig) (calls : IssueCalls) (zone : DnsZone) :
    EachDeleted (issueCert group calls zone).1.log ↔
      (calls.OrderPlaced group → ¬ AnswerLost calls.challenges ∧
        ((∃ c ∈ calls.challenges, c.Wants) → calls.Notified → ¬ calls.FailsUncaught)) := by
  rw [issueCert, ← prepareOrder_eq_ok]
  cases prepareOrder group calls with
  | error error => simp [eachDeleted_nil]
  | ok _ =>
    have hcleanup := eachDeleted_cleanup_iff calls zone
    dsimp only
    rw [← IssueCalls.records]
    cases hnotified : (calls.records zone).outcome.bind fun _ =>
        notifyDnsChallengesReady calls.notifications with
    | error error =>
      have hnot : ¬ calls.Notified := by
        rw [← notified_iff calls zone, hnotified]
        simp
      simp [hcleanup, hnot]
    | ok _ =>
      have hpass := (notified_iff calls zone).1 hnotified
      have hrecords := eachDeleted_records_iff zone hpass.1
      have hanswer := not_answerLost_of_passes hpass.1
      cases hpoll : calls.pollReady with
      | error error => simp [IssueCalls.FailsUncaught, hpoll, hrecords, hanswer, hpass]
      | ok status =>
        by_cases hinvalid : status = .Invalid
        · simp [IssueCalls.FailsUncaught, hpoll, hinvalid, hcleanup, hanswer]
        · dsimp only
          rw [if_neg hinvalid, calls.failsUncaught_iff hpoll hinvalid]
          cases finishOrder calls with
          | error error => simp [hrecords, hanswer, hpass]
          | ok issued => simp [hcleanup, hanswer]

/-- **All records of a request are deleted** exactly when there is no order; or when no answer to a
creation is lost and no call after the notification fails but by an invalid order. -/
theorem eachDeleted_obtainCertRun_iff (files : CertFiles) (env : GroupEnv)
    (group : AcmeCertConfig) (calls : IssueCalls) (zone : DnsZone) :
    EachDeleted (obtainCertRun files env group calls zone).1.log ↔
      (calls.OrderPlaced group → ¬ AnswerLost calls.challenges ∧
        ((∃ c ∈ calls.challenges, c.Wants) → calls.Notified → ¬ calls.FailsUncaught)) :=
  eachDeleted_issueCert_iff group calls zone

def timedOut : IssueCalls where
  challenges := [{ authz := .ok (pendingFor "example.com" "v1") }]
  notifications := [{ authz := .ok (pendingFor "example.com" "v1") }]
  pollReady := .error "timeout"

def exampleGroup : AcmeCertConfig := ⟨["example.com"], { provider := "cloudflare" }⟩

theorem timedOut_not_eachDeleted :
    (obtainCertRun {} { now := 0, issue := .error .NoCertificates } exampleGroup timedOut
      DnsZone.empty).1.log = [.created 0] ∧
    ¬ EachDeleted (obtainCertRun {} { now := 0, issue := .error .NoCertificates } exampleGroup
      timedOut DnsZone.empty).1.log := by
  have hlog : (obtainCertRun {} { now := 0, issue := .error .NoCertificates } exampleGroup timedOut
      DnsZone.empty).1.log = [.created 0] := by rfl
  refine ⟨hlog, ?_⟩
  intro heach
  exact absurd (heach [] 0 [] rfl) List.not_mem_nil

end Wicket
