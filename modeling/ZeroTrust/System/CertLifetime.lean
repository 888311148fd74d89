/-
# `ZeroTrust.System.CertLifetime` — the certificates of the workloads, over time

A workload's certificate is good for five minutes.  The controller, and any number of
connectors and agents that renew what they have, step in any order while time passes:

    controller   enrolments, heartbeats, deletions, restarts (`ControlPlane.Renewal`)
    service      sleeping → calling → answered → sleeping …
                 a call may fail at any point, and a process may start again with what
                 it saved

The results, for every run:

    `always_valid`            with clocks, wake-ups and failures inside a `Schedule`, a
                              service's certificate is valid at every moment
    `identity_kept`           whatever the controller's registry has become, a service keeps
                              the SPIFFE ID and the CA of the enrolment it started with
    `workspace_agent_lapses`  an agent of a workspace never gets a second certificate

The save of a new certificate is one step; `Connector.SavedEnrollment` has what a crash
between its files does.
-/
import ZeroTrust.Lib.Interleave
import ZeroTrust.Connector.CertRenewal
import ZeroTrust.System.Staleness

namespace ZeroTrust.System.CertLifetime

open Lib
open ControlPlane.Renewal (Settings Enrolment EnrollRequest EnrollResponse WorkloadCert renew
  renewalIssuer issueWorkloadCert enrol enrollConnector enrollTunneler workloadTTL)
open ControlPlane.SpiffeIds (Role spiffeID validDomain extractAndVerifySPIFFE)
open Controller.EnrolmentTokens (validId)
open Connector.CertRenewal (CertStore EnrollResult PemCerts certValidity wholeSeconds
  nextRenewalDelay minDelay extractSpiffeId enrolled renewed)
open Staleness (Shows)

structure Config (CA Key D : Type) where
  server : Settings CA Key
  /-- The trust domains that the interceptor takes besides its own. -/
  validator : Option (String → Bool)
  /-- The controller's TLS takes the certificate, when the clock shows this. -/
  handshake : WorkloadCert CA Key → SystemTime → Bool
  pemCertToDer : PemCerts D
  /-- How far a clock may be from the time. -/
  drift : Duration

/-! ## Enrolments -/

variable {CA Key D : Type}

/-- A CA goes with the text of its certificate, and the trust domain is one. -/
structure Sound (cfg : Config CA Key D) (caDer : CA → D) : Prop where
  net : cfg.server.net.Keeps
  domain : validDomain cfg.server.trustDomain = true
  own : cfg.pemCertToDer cfg.server.caPEM = some (caDer cfg.server.ca)
  loaded : ∀ cert key ca, cfg.server.loadCA cert key = .ok ca →
    cfg.pemCertToDer cert = some (caDer ca)

/-- What the controller gives out at an enrolment, at this reading of its clock. -/
structure Minted (cfg : Config CA Key D) (caDer : CA → D) (en : Enrolment CA Key)
    (issued : SystemTime) : Prop where
  id : validId en.id = true
  named : ∃ domain, validDomain domain = true ∧ en.spiffeID = spiffeID domain en.role en.id
  commonName : en.response.certificate.commonName = en.spiffeID
  uris : ∃ url, cfg.server.net.parse en.spiffeID = some url ∧ en.response.certificate.uris = [url]
  notBefore : en.response.certificate.notBefore = issued - 60 * nanosPerSec
  notAfter : en.response.certificate.notAfter = issued + workloadTTL
  ca : cfg.pemCertToDer en.response.caCertificate = some (caDer en.response.certificate.issuer)

theorem issueWorkloadCert_eq {server : Settings CA Key} {ca : CA} {spiffeID : String}
    {pubKey : Key} {ttl : Duration} {dnsNames ipAddrs : List String} {now : SystemTime}
    {cert : WorkloadCert CA Key}
    (h : issueWorkloadCert server ca spiffeID pubKey ttl dnsNames ipAddrs now = .ok cert) :
    ∃ url, server.net.parse spiffeID = some url ∧
      cert = { issuer := ca, commonName := spiffeID, uris := [url], dnsNames,
               ipAddresses := ipAddrs, notBefore := now - 60 * nanosPerSec,
               notAfter := now + ttl, publicKey := pubKey } := by
  unfold issueWorkloadCert at h
  split at h
  · cases h
  next url hparse =>
    simp only at h
    split at h
    · cases h
      exact ⟨url, hparse, rfl⟩
    · cases h

/-- The role of an enrolment says which of the two calls it was. -/
def enrolEvent : Role → EnrollRequest → SystemTime → ControlPlane.Renewal.Event
  | .connector => .enrollConnector
  | .tunneler => .enrollTunneler

section Enrolments

variable {cfg : Config CA Key D} {caDer : CA → D} {c c' : ControlPlane.Renewal.State CA Key}

/-- The trust domains of the workspaces. -/
def ValidDomains (c : ControlPlane.Renewal.State CA Key) : Prop :=
  ∀ ws ∈ c.workspaces.rows, validDomain ws.trustDomain = true

theorem mem_enrol (hsound : Sound cfg caDer) (hdomains : ValidDomains c) (role : Role)
    {req : EnrollRequest} (hid : validId req.id = true) (pubKey : Key) (ipAddrs : List String)
    (now : SystemTime) :
    ∀ en ∈ (enrol cfg.server c role req pubKey ipAddrs now).1.enrolments,
      en ∈ c.enrolments ∨ en.role = role ∧ en.id = req.id ∧ Minted cfg caDer en now := by
  unfold enrol
  split
  · exact fun en hen => Or.inl hen
  next tokens workspaceID htoken =>
    simp only
    split
    · exact fun en hen => Or.inl hen
    next issuerCA issuerCAPEM trustDomain hissuer =>
      split
      · exact fun en hen => Or.inl hen
      next certificate hcert =>
        intro en hen
        rcases List.mem_append.mp hen with hold | hnew
        · exact Or.inl hold
        obtain rfl := List.mem_singleton.mp hnew
        obtain ⟨url, hparse, rfl⟩ := issueWorkloadCert_eq hcert
        have hissuer' : validDomain trustDomain = true ∧
            cfg.pemCertToDer issuerCAPEM = some (caDer issuerCA) := by
          unfold ControlPlane.Renewal.enrolmentIssuer at hissuer
          split at hissuer
          · cases hissuer
            exact ⟨hsound.domain, hsound.own⟩
          split at hissuer
          · cases hissuer
          next ws hws =>
            split at hissuer
            · cases hissuer
            next ca hca =>
              cases hissuer
              exact ⟨hdomains ws (Table.mem_of_get hws).1, hsound.loaded _ _ _ hca⟩
        exact Or.inr ⟨rfl, rfl, hid, ⟨trustDomain, hissuer'.1, rfl⟩, rfl, ⟨url, hparse, rfl⟩, rfl,
          rfl, hissuer'.2⟩

theorem mem_enrollConnector (hsound : Sound cfg caDer) (hdomains : ValidDomains c)
    (req : EnrollRequest) (now : SystemTime) :
    ∀ en ∈ (enrollConnector cfg.server c req now).1.enrolments,
      en ∈ c.enrolments ∨ en.role = .connector ∧ en.id = req.id ∧ Minted cfg caDer en now := by
  unfold enrollConnector
  split
  · exact fun en hen => Or.inl hen
  next hid =>
    split
    · exact fun en hen => Or.inl hen
    split
    · exact fun en hen => Or.inl hen
    split
    · exact fun en hen => Or.inl hen
    next pubKey hkey =>
      have hmem := mem_enrol hsound hdomains .connector (by simpa using hid) pubKey
        (cfg.server.parseIP req.privateIp).toList now
      split
      next hresult => rwa [hresult] at hmem
      next hresult => rwa [hresult] at hmem

theorem mem_enrollTunneler (hsound : Sound cfg caDer) (hdomains : ValidDomains c)
    (req : EnrollRequest) (now : SystemTime) :
    ∀ en ∈ (enrollTunneler cfg.server c req now).1.enrolments,
      en ∈ c.enrolments ∨ en.role = .tunneler ∧ en.id = req.id ∧ Minted cfg caDer en now := by
  unfold enrollTunneler
  split
  · exact fun en hen => Or.inl hen
  next hid =>
    split
    · exact fun en hen => Or.inl hen
    split
    · exact fun en hen => Or.inl hen
    next pubKey hkey =>
      have hmem := mem_enrol hsound hdomains .tunneler (by simpa using hid) pubKey [] now
      split
      next hresult => rwa [hresult] at hmem
      next hresult => rwa [hresult] at hmem

/-- An enrolment in the controller's list is from before, or was just minted. -/
theorem minted_step (hsound : Sound cfg caDer) (hdomains : ValidDomains c)
    {ev : ControlPlane.Renewal.Event}
    (h : ControlPlane.Renewal.step cfg.server c ev = some c') :
    ∀ en ∈ c'.enrolments, en ∈ c.enrolments ∨ ∃ req issued,
      ev = enrolEvent en.role req issued ∧ en.id = req.id ∧ Minted cfg caDer en issued := by
  cases ev with
  | enrollConnector req now =>
      cases h
      intro en hen
      rcases mem_enrollConnector hsound hdomains req now en hen with hold | ⟨hrole, hid, hminted⟩
      · exact Or.inl hold
      · exact Or.inr ⟨req, now, by rw [hrole]; rfl, hid, hminted⟩
  | enrollTunneler req now =>
      cases h
      intro en hen
      rcases mem_enrollTunneler hsound hdomains req now en hen with hold | ⟨hrole, hid, hminted⟩
      · exact Or.inl hold
      · exact Or.inr ⟨req, now, by rw [hrole]; rfl, hid, hminted⟩
  | renew caller req now =>
      obtain rfl := ControlPlane.Renewal.renew_step h
      exact fun en hen => Or.inl hen
  | heartbeat | request | deleteNetwork | restart | createToken | deleteTokens | createWorkspace =>
      cases h
      exact fun en hen => Or.inl hen

theorem enrolments_kept {ev : ControlPlane.Renewal.Event}
    (h : ControlPlane.Renewal.step cfg.server c ev = some c') :
    c.enrolments <+: c'.enrolments := by
  cases ev with
  | enrollConnector req now =>
      cases h
      rcases (ControlPlane.Renewal.enrollConnector_spec cfg.server c req now).2 with
        ⟨hsame, -⟩ | ⟨en, hnew, -⟩
      · exact hsame ▸ List.prefix_rfl
      · exact hnew ▸ List.prefix_append _ _
  | enrollTunneler req now =>
      cases h
      rcases (ControlPlane.Renewal.enrollTunneler_spec cfg.server c req now).2.2 with
        hsame | ⟨en, hnew, -⟩
      · exact hsame ▸ List.prefix_rfl
      · exact hnew ▸ List.prefix_append _ _
  | renew caller req now =>
      obtain rfl := ControlPlane.Renewal.renew_step h
      exact List.prefix_rfl
  | heartbeat | request | deleteNetwork | restart | createToken | deleteTokens | createWorkspace =>
      cases h
      exact List.prefix_rfl

/-- New workspaces have a trust domain that is one. -/
def NamesDomains : ControlPlane.Renewal.Event → Prop
  | .createWorkspace ws => validDomain ws.trustDomain = true
  | _ => True

theorem validDomains_step (hdomains : ValidDomains c) {ev : ControlPlane.Renewal.Event}
    (hnames : NamesDomains ev) (h : ControlPlane.Renewal.step cfg.server c ev = some c') :
    ValidDomains c' := by
  cases ev with
  | enrollConnector req now =>
      cases h
      rwa [ValidDomains, (ControlPlane.Renewal.enrollConnector_spec cfg.server c req now).1]
  | enrollTunneler req now =>
      cases h
      rwa [ValidDomains, (ControlPlane.Renewal.enrollTunneler_spec cfg.server c req now).1]
  | createWorkspace row =>
      cases h
      intro ws hws
      cases hinsert : c.workspaces.insert row with
      | none =>
          rw [hinsert] at hws
          exact hdomains ws hws
      | some workspaces =>
          rw [hinsert] at hws
          obtain ⟨-, rfl⟩ := Table.insert_eq_some hinsert
          rcases Table.mem_rows_put.mp hws with rfl | ⟨hold, -⟩
          · exact hnames
          · exact hdomains ws hold
  | renew caller req now =>
      obtain rfl := ControlPlane.Renewal.renew_step h
      exact hdomains
  | heartbeat | request | deleteNetwork | restart | createToken | deleteTokens =>
      cases h
      exact hdomains

end Enrolments

/-! ## The system -/

/-- Where the renewal loop stands. -/
inductive Stage (CA Key : Type) where
  | sleeping
  | calling
  | answered (answer : Except String (EnrollResponse CA Key))

/-- A connector or an agent.  `wakeAt` is when the latest sleep ends or ended. -/
structure Service (CA Key : Type) where
  /-- The number of the enrolment that it started with. -/
  enrolment : Nat
  id : String
  spiffeId : String
  caPem : String
  store : CertStore CA Key
  saved : Option (EnrollResult CA Key)
  wakeAt : SystemTime
  stage : Stage CA Key

structure State (CA Key : Type) where
  now : SystemTime
  controller : ControlPlane.Renewal.State CA Key
  services : List (Service CA Key)

inductive Event where
  | tick (d : Duration)
  | controller (e : ControlPlane.Renewal.Event)
  /-- The process that enrolled goes on with the controller's answer. -/
  | start (enrolment : Nat) (persisted : Bool) (reading : SystemTime)
  /-- A service's process is started again, and finds what was saved. -/
  | restart (j : Nat) (reading : SystemTime)
  | call (j : Nat)
  | answer (j : Nat) (publicKey : ByteArray) (reading : SystemTime)
  | finish (j : Nat) (persisted : Bool) (reading : SystemTime)
  /-- The call comes to nothing. -/
  | fail (j : Nat) (reading : SystemTime)

/-- The top of the loop. -/
def Service.sleep (service : Service CA Key) (now reading : SystemTime) : Service CA Key :=
  { service with
    wakeAt := now + nextRenewalDelay service.store.notAfter service.store.totalTtl reading
    stage := .sleeping }

@[simp] theorem Service.sleep_store (service : Service CA Key) (now reading : SystemTime) :
    (service.sleep now reading).store = service.store := rfl

/-- A sleep is ten seconds at least. -/
theorem Service.minDelay_le_sleep (service : Service CA Key) (now reading : SystemTime) :
    now + minDelay ≤ (service.sleep now reading).wakeAt :=
  Int.add_le_add_left (Int.ofNat_le.mpr (Connector.CertRenewal.minDelay_le _ _ _)) now

def launch (enrolment : Nat) (id : String) (r : EnrollResult CA Key)
    (saved : Option (EnrollResult CA Key)) (now reading : SystemTime) : Service CA Key :=
  Service.sleep { enrolment, id, spiffeId := r.spiffeId, caPem := r.caPem, store := .ofCert r.cert,
                  saved, wakeAt := now, stage := .sleeping } now reading

def State.setService (s : State CA Key) (j : Nat) (service : Service CA Key) : State CA Key :=
  { s with services := s.services.set j service }

/-! ## The controller's answer -/

/-- The interceptor, and the handler behind it. -/
def serve (cfg : Config CA Key D) (controller : ControlPlane.Renewal.State CA Key)
    (service : Service CA Key) (publicKey : ByteArray) (reading : SystemTime) :
    Except String (EnrollResponse CA Key) :=
  match extractAndVerifySPIFFE cfg.server.net cfg.validator
      ⟨true, true, [⟨service.store.cert.uris⟩]⟩ cfg.server.trustDomain ["connector", "tunneler"] with
  | .error e => .error e
  | .ok (spiffeID, role) =>
      (renew cfg.server controller ⟨some spiffeID, some role⟩ { id := service.id, publicKey }
        reading).mapError Prod.snd

section Answers

variable {cfg : Config CA Key D} {caDer : CA → D} {c : ControlPlane.Renewal.State CA Key}
  {en : Enrolment CA Key}

/-- The certificate names the workload of the enrolment. -/
structure Names (en : Enrolment CA Key) (cert : WorkloadCert CA Key) : Prop where
  commonName : cert.commonName = en.spiffeID
  uris : cert.uris = en.response.certificate.uris

theorem Minted.url {issued : SystemTime} (hsound : Sound cfg caDer)
    (h : Minted cfg caDer en issued) :
    ∃ url domain, en.response.certificate.uris = [url] ∧
      cfg.server.net.parse en.spiffeID = some url ∧ url.scheme = "spiffe" ∧ url.host = domain ∧
      url.path = "/" ++ en.role.name ++ "/" ++ en.id ∧
      cfg.server.net.string url = en.spiffeID := by
  obtain ⟨domain, hdomain, hspiffe⟩ := h.named
  obtain ⟨url, hparse, huris⟩ := h.uris
  obtain ⟨url', hparse', hscheme, hhost, hpath, hstring⟩ :=
    hsound.net domain en.role en.id hdomain h.id
  rw [← hspiffe] at hparse' hstring
  obtain rfl := Option.some.inj (hparse.symm.trans hparse')
  exact ⟨url, domain, huris, hparse, hscheme, hhost, hpath, hstring⟩

/-- The workload reads its own SPIFFE ID in such a certificate. -/
theorem extractSpiffeId_names {issued : SystemTime} (hsound : Sound cfg caDer)
    (h : Minted cfg caDer en issued) {cert : WorkloadCert CA Key} (hcert : Names en cert) :
    extractSpiffeId cfg.server.net cert = .ok en.spiffeID := by
  obtain ⟨url, -, huris, -, -, -, -, hstring⟩ := h.url hsound
  obtain ⟨domain, -, hspiffe⟩ := h.named
  have hscheme : "spiffe://".toList.isPrefixOf en.spiffeID.toList = true := by
    rw [List.isPrefixOf_iff_prefix, hspiffe, ControlPlane.SpiffeIds.toList_spiffeID]
    exact List.prefix_append _ _
  simp only [extractSpiffeId, hcert.uris, huris, List.map_cons, List.map_nil, hstring,
    List.filter_cons, hscheme, if_true, List.filter_nil]

/-- The interceptor finds the workload in such a certificate, if it takes its domain. -/
theorem context_names {issued : SystemTime} (hsound : Sound cfg caDer)
    (h : Minted cfg caDer en issued) {cert : WorkloadCert CA Key} (hcert : Names en cert)
    {found : String × String}
    (hfound : extractAndVerifySPIFFE cfg.server.net cfg.validator ⟨true, true, [⟨cert.uris⟩]⟩
      cfg.server.trustDomain ["connector", "tunneler"] = .ok found) :
    found = (en.spiffeID, en.role.name) := by
  obtain ⟨url, domain, huris, -, hscheme, hhost, hpath, hstring⟩ := h.url hsound
  rw [hcert.uris, huris] at hfound
  have hminted := ControlPlane.SpiffeIds.extractAndVerifySPIFFE_minted cfg.server.net h.id hscheme
    hhost hpath cfg.validator [] cfg.server.trustDomain ["connector", "tunneler"]
  have hrole : en.role.name ∈ ["connector", "tunneler"] := by
    cases en.role <;> decide
  by_cases htrusted : domain = cfg.server.trustDomain ∨ cfg.validator.any (· domain) = true
  · rw [hminted.mpr ⟨htrusted, Or.inr hrole⟩, hstring] at hfound
    exact (Except.ok.inj hfound).symm
  · obtain ⟨hother, hinvalid⟩ := not_or.mp htrusted
    simp [extractAndVerifySPIFFE, hscheme, hhost, hother, hinvalid] at hfound

theorem renew_dates {server : Settings CA Key} {ctx : ControlPlane.SpiffeIds.IdentityContext}
    {req : EnrollRequest} {reading : SystemTime} {resp : EnrollResponse CA Key}
    (h : renew server c ctx req reading = .ok resp) :
    resp.certificate.notBefore = reading - 60 * nanosPerSec ∧
      resp.certificate.notAfter = reading + workloadTTL := by
  unfold renew at h
  split at h
  · cases h
  split at h
  · cases h
  split at h
  · cases h
  split at h
  · cases h
  simp only at h
  split at h
  · cases h
  next certificate hcert =>
    obtain ⟨url, -, rfl⟩ := issueWorkloadCert_eq hcert
    cases h
    exact ⟨rfl, rfl⟩

/-- A renewal is for the workload, and from the CA that the controller finds for it. -/
structure Renews (cfg : Config CA Key D) (c : ControlPlane.Renewal.State CA Key)
    (en : Enrolment CA Key) (reading : SystemTime) (resp : EnrollResponse CA Key) : Prop where
  names : Names en resp.certificate
  issuer : (resp.certificate.issuer, resp.caCertificate) =
    renewalIssuer cfg.server c en.role.name en.id
  notBefore : resp.certificate.notBefore = reading - 60 * nanosPerSec
  notAfter : resp.certificate.notAfter = reading + workloadTTL

theorem serve_ok {issued : SystemTime} (hsound : Sound cfg caDer) (h : Minted cfg caDer en issued)
    {service : Service CA Key} (hid : service.id = en.id) (hcert : Names en service.store.cert)
    {publicKey : ByteArray} {reading : SystemTime} {resp : EnrollResponse CA Key}
    (hresp : serve cfg c service publicKey reading = .ok resp) : Renews cfg c en reading resp := by
  unfold serve at hresp
  split at hresp
  · cases hresp
  next spiffeId role hfound =>
    obtain ⟨rfl, rfl⟩ := Prod.mk.inj (context_names hsound h hcert hfound)
    rw [hid] at hresp
    cases hrenew : renew cfg.server c ⟨some en.spiffeID, some en.role.name⟩
        { id := en.id, publicKey } reading with
    | error err =>
        rw [hrenew] at hresp
        cases hresp
    | ok resp' =>
        rw [hrenew] at hresp
        obtain rfl := Except.ok.inj hresp
        obtain ⟨hname, ⟨url, hparse, huris⟩, hissuer⟩ := ControlPlane.Renewal.renew_ok hrenew
        obtain ⟨url', hparse', huris'⟩ := h.uris
        obtain rfl := Option.some.inj (hparse.symm.trans hparse')
        obtain ⟨hbefore, hafter⟩ := renew_dates hrenew
        exact ⟨⟨hname, huris.trans huris'.symm⟩, hissuer, hbefore, hafter⟩

/-- The CA that is found goes with its text. -/
theorem issuer_sound (hsound : Sound cfg caDer) (role : Role) (id : String) :
    cfg.pemCertToDer (renewalIssuer cfg.server c role.name id).2 =
      some (caDer (renewalIssuer cfg.server c role.name id).1) := by
  rcases ControlPlane.Renewal.renewalIssuer_cases cfg.server c role id with hbroken |
    ⟨rfl, r, ws, ca, hr, hnamed, hws, hca⟩
  · rw [hbroken]
    exact hsound.own
  · rw [ControlPlane.Renewal.renewalIssuer_of_entry hr hnamed hws hca]
    exact hsound.loaded _ _ _ hca

end Answers

/-! ## The steps -/

variable [DecidableEq D]

/-- What the loop does with an answer. -/
def Service.take (cfg : Config CA Key D) (service : Service CA Key)
    (answer : Except String (EnrollResponse CA Key)) (persisted : Bool) : Service CA Key :=
  match answer with
  | .error _ => service
  | .ok resp =>
      match renewed cfg.pemCertToDer cfg.server.net service.caPem resp with
      | .error _ => service
      | .ok r =>
          { service with
            store := .ofCert r.cert, saved := if persisted then some r else service.saved }

def step (cfg : Config CA Key D) (s : State CA Key) : Event → Option (State CA Key)
  | .tick d => some { s with now := s.now + d }
  | .controller e =>
      (ControlPlane.Renewal.step cfg.server s.controller e).map fun controller =>
        { s with controller }
  | .start enrolment persisted reading =>
      match s.controller.enrolments[enrolment]? with
      | none => none
      | some e =>
          match enrolled cfg.server.net e.response with
          | .error _ => none
          | .ok r =>
              if Shows cfg.drift s.now reading then
                let saved := if persisted then some r else none
                some { s with
                  services := s.services ++ [launch enrolment e.id r saved s.now reading] }
              else none
  | .restart j reading =>
      match s.services[j]? with
      | none => none
      | some service =>
          match service.saved with
          | none => none
          | some r =>
              -- a certificate that has expired is not read
              if Shows cfg.drift s.now reading ∧ reading < (certValidity r.cert).2 then
                some (s.setService j
                  (launch service.enrolment service.id r service.saved s.now reading))
              else none
  | .call j =>
      match s.services[j]? with
      | none => none
      | some service =>
          match service.stage with
          | .sleeping =>
              if service.wakeAt ≤ s.now then
                some (s.setService j { service with stage := .calling })
              else none
          | _ => none
  | .answer j publicKey reading =>
      match s.services[j]? with
      | none => none
      | some service =>
          match service.stage with
          | .calling =>
              if Shows cfg.drift s.now reading ∧
                  cfg.handshake service.store.cert reading = true then
                let answer := serve cfg s.controller service publicKey reading
                some (s.setService j { service with stage := .answered answer })
              else none
          | _ => none
  | .finish j persisted reading =>
      match s.services[j]? with
      | none => none
      | some service =>
          match service.stage with
          | .answered answer =>
              if Shows cfg.drift s.now reading then
                some (s.setService j ((service.take cfg answer persisted).sleep s.now reading))
              else none
          | _ => none
  | .fail j reading =>
      match s.services[j]? with
      | none => none
      | some service =>
          match service.stage with
          | .sleeping => none
          | _ =>
              if Shows cfg.drift s.now reading then
                some (s.setService j (service.sleep s.now reading))
              else none

/-! ## What a step is -/

/-- The service that steps. -/
def Event.service : Event → Option Nat
  | .restart j _ => some j
  | .call j => some j
  | .answer j _ _ => some j
  | .finish j _ _ => some j
  | .fail j _ => some j
  | _ => none

/-- The steps of one service. -/
inductive Acts (cfg : Config CA Key D) (s : State CA Key) :
    Event → Service CA Key → Service CA Key → Prop
  | restart {j : Nat} {reading : SystemTime} {service : Service CA Key} {r : EnrollResult CA Key} :
      service.saved = some r → Shows cfg.drift s.now reading →
      reading < (certValidity r.cert).2 →
      Acts cfg s (.restart j reading) service
        (launch service.enrolment service.id r service.saved s.now reading)
  | call {j : Nat} {service : Service CA Key} :
      service.stage = .sleeping → service.wakeAt ≤ s.now →
      Acts cfg s (.call j) service { service with stage := .calling }
  | answer {j : Nat} {publicKey : ByteArray} {reading : SystemTime} {service : Service CA Key} :
      service.stage = .calling → Shows cfg.drift s.now reading →
      cfg.handshake service.store.cert reading = true →
      Acts cfg s (.answer j publicKey reading) service
        { service with stage := .answered (serve cfg s.controller service publicKey reading) }
  | finish {j : Nat} {persisted : Bool} {reading : SystemTime} {service : Service CA Key}
      {answer : Except String (EnrollResponse CA Key)} :
      service.stage = .answered answer → Shows cfg.drift s.now reading →
      Acts cfg s (.finish j persisted reading) service
        ((service.take cfg answer persisted).sleep s.now reading)
  | fail {j : Nat} {reading : SystemTime} {service : Service CA Key} :
      service.stage ≠ .sleeping → Shows cfg.drift s.now reading →
      Acts cfg s (.fail j reading) service (service.sleep s.now reading)

/-- A service that has just started. -/
def Started (cfg : Config CA Key D) (s : State CA Key) (e : Event) (service : Service CA Key) :
    Prop :=
  ∃ i persisted reading en r, e = .start i persisted reading ∧
    s.controller.enrolments[i]? = some en ∧ enrolled cfg.server.net en.response = .ok r ∧
    Shows cfg.drift s.now reading ∧
    service = launch i en.id r (if persisted then some r else none) s.now reading

variable {cfg : Config CA Key D} {s s' : State CA Key} {e : Event}

theorem step_cases (h : step cfg s e = some s') :
    (∃ d, e = .tick d ∧ s' = { s with now := s.now + d }) ∨
    (∃ ev controller, e = .controller ev ∧
      ControlPlane.Renewal.step cfg.server s.controller ev = some controller ∧
      s' = { s with controller }) ∨
    (∃ service, Started cfg s e service ∧ s' = { s with services := s.services ++ [service] }) ∨
    ∃ j old new, e.service = some j ∧ s.services[j]? = some old ∧ Acts cfg s e old new ∧
      s' = s.setService j new := by
  cases e with
  | tick d => exact Or.inl ⟨d, rfl, (Option.some.inj h).symm⟩
  | controller ev =>
      obtain ⟨controller, hstep, rfl⟩ := Option.map_eq_some_iff.mp h
      exact Or.inr (Or.inl ⟨ev, controller, rfl, hstep, rfl⟩)
  | start i persisted reading =>
      simp only [step] at h
      split at h
      · cases h
      next en hen =>
        split at h
        · cases h
        next r hr =>
          split at h
          next hshows =>
            cases h
            refine Or.inr (Or.inr (Or.inl ⟨_, ?_, rfl⟩))
            exact ⟨i, persisted, reading, en, r, rfl, hen, hr, hshows, rfl⟩
          · cases h
  | restart j reading =>
      simp only [step] at h
      split at h
      · cases h
      next service hservice =>
        split at h
        · cases h
        next r hsaved =>
          split at h
          next hok =>
            cases h
            exact Or.inr (Or.inr (Or.inr ⟨j, service, _, rfl, hservice,
              .restart hsaved hok.1 hok.2, rfl⟩))
          · cases h
  | call j =>
      simp only [step] at h
      split at h
      · cases h
      next service hservice =>
        split at h
        next hstage =>
          split at h
          next hwake =>
            cases h
            exact Or.inr (Or.inr (Or.inr ⟨j, service, _, rfl, hservice, .call hstage hwake, rfl⟩))
          · cases h
        · cases h
  | answer j publicKey reading =>
      simp only [step] at h
      split at h
      · cases h
      next service hservice =>
        split at h
        next hstage =>
          split at h
          next hok =>
            cases h
            exact Or.inr (Or.inr (Or.inr ⟨j, service, _, rfl, hservice,
              .answer hstage hok.1 hok.2, rfl⟩))
          · cases h
        · cases h
  | finish j persisted reading =>
      simp only [step] at h
      split at h
      · cases h
      next service hservice =>
        split at h
        next answer hstage =>
          split at h
          next hshows =>
            cases h
            exact Or.inr (Or.inr (Or.inr ⟨j, service, _, rfl, hservice,
              .finish hstage hshows, rfl⟩))
          · cases h
        · cases h
  | fail j reading =>
      simp only [step] at h
      split at h
      · cases h
      next service hservice =>
        split at h
        · cases h
        next hstage =>
          split at h
          next hshows =>
            cases h
            exact Or.inr (Or.inr (Or.inr ⟨j, service, _, rfl, hservice,
              .fail hstage hshows, rfl⟩))
          · cases h

/-- A service after a step: it is as before, or it made the step, or it is new. -/
theorem service_step (h : step cfg s e = some s') {j : Nat} {new : Service CA Key}
    (hnew : s'.services[j]? = some new) :
    (s.services[j]? = some new ∧ e.service ≠ some j) ∨
    (∃ old, s.services[j]? = some old ∧ e.service = some j ∧ Acts cfg s e old new ∧
      s'.now = s.now ∧ s'.controller = s.controller) ∨
    (s.services.length = j ∧ Started cfg s e new ∧ s'.now = s.now ∧
      s'.controller = s.controller) := by
  obtain ⟨d, rfl, rfl⟩ | ⟨ev, controller, rfl, -, rfl⟩ | ⟨service, hstarted, rfl⟩ |
    ⟨k, old, service, hk, hold, hacts, rfl⟩ := step_cases h
  · exact Or.inl ⟨hnew, nofun⟩
  · exact Or.inl ⟨hnew, nofun⟩
  · rcases lt_trichotomy j s.services.length with hlt | heq | hgt
    · rw [List.getElem?_append_left hlt] at hnew
      obtain ⟨i, persisted, reading, -, -, rfl, -⟩ := hstarted
      exact Or.inl ⟨hnew, nofun⟩
    · rw [heq, List.getElem?_concat_length] at hnew
      obtain rfl := Option.some.inj hnew
      exact Or.inr (Or.inr ⟨heq.symm, hstarted, rfl, rfl⟩)
    · rw [List.getElem?_eq_none (by simpa using hgt)] at hnew
      cases hnew
  · by_cases hj : k = j
    · subst hj
      rw [State.setService, List.getElem?_set_self (List.getElem?_eq_some_iff.mp hold).1] at hnew
      obtain rfl := Option.some.inj hnew
      exact Or.inr (Or.inl ⟨old, hold, hk, hacts, rfl, rfl⟩)
    · rw [State.setService, List.getElem?_set_ne hj] at hnew
      exact Or.inl ⟨hnew, fun heq => hj (Option.some.inj (hk.symm.trans heq))⟩

/-- The answer brings a certificate that the service takes. -/
def Service.takes (cfg : Config CA Key D) (service : Service CA Key)
    (answer : Except String (EnrollResponse CA Key)) : Bool :=
  match answer with
  | .error _ => false
  | .ok resp => (renewed cfg.pemCertToDer cfg.server.net service.caPem resp).isOk

/-- An answer changes the certificate only if it comes with the service's own CA. -/
theorem take_cases (cfg : Config CA Key D) (service : Service CA Key)
    (answer : Except String (EnrollResponse CA Key)) (persisted : Bool) :
    service.takes cfg answer = false ∧ service.take cfg answer persisted = service ∨
      service.takes cfg answer = true ∧ ∃ resp r, answer = .ok resp ∧
        renewed cfg.pemCertToDer cfg.server.net service.caPem resp = .ok r ∧
        service.take cfg answer persisted =
          { service with
            store := .ofCert r.cert, saved := if persisted then some r else service.saved } := by
  cases answer with
  | error err => exact Or.inl ⟨rfl, rfl⟩
  | ok resp =>
      cases hr : renewed cfg.pemCertToDer cfg.server.net service.caPem resp with
      | error err => exact Or.inl ⟨by rw [Service.takes, hr]; rfl, by rw [Service.take, hr]⟩
      | ok r =>
          exact Or.inr ⟨by rw [Service.takes, hr]; rfl, resp, r, rfl, hr, by rw [Service.take, hr]⟩

/-! ## Identity -/

/-- Before the first enrolment. -/
def State.start (now : SystemTime) (control : ControlPlane.Revocation.State)
    (tokens : Controller.EnrolmentTokens.Tokens)
    (workspaces : Table ControlPlane.Renewal.WorkspaceRow.id) : State CA Key where
  now := now
  controller := .start control tokens workspaces
  services := []

section Identity

variable {caDer : CA → D} {en : Enrolment CA Key} {issued : SystemTime}

/-- An agent whose enrolment was from the CA of a workspace. -/
def OfWorkspace (cfg : Config CA Key D) (caDer : CA → D) (en : Enrolment CA Key) : Prop :=
  en.role = .tunneler ∧ caDer en.response.certificate.issuer ≠ caDer cfg.server.ca

/-- A certificate that the workload of the enrolment may hold. -/
structure Holds (cfg : Config CA Key D) (caDer : CA → D) (en : Enrolment CA Key)
    (cert : WorkloadCert CA Key) : Prop where
  names : Names en cert
  issuer : caDer cert.issuer = caDer en.response.certificate.issuer
  first : OfWorkspace cfg caDer en → cert = en.response.certificate

structure Credentials (cfg : Config CA Key D) (caDer : CA → D) (en : Enrolment CA Key)
    (r : EnrollResult CA Key) : Prop where
  cert : Holds cfg caDer en r.cert
  spiffeId : r.spiffeId = en.spiffeID
  ca : cfg.pemCertToDer r.caPem = some (caDer en.response.certificate.issuer)

/-- The service is the workload of the enrolment. -/
structure Has (cfg : Config CA Key D) (caDer : CA → D) (en : Enrolment CA Key)
    (service : Service CA Key) : Prop where
  id : service.id = en.id
  spiffeId : service.spiffeId = en.spiffeID
  ca : cfg.pemCertToDer service.caPem = some (caDer en.response.certificate.issuer)
  cert : Holds cfg caDer en service.store.cert
  store : service.store = .ofCert service.store.cert
  saved : ∀ r, service.saved = some r → Credentials cfg caDer en r
  answered : ∀ resp, service.stage = .answered (.ok resp) →
    ∃ c reading, Renews cfg c en reading resp

omit [DecidableEq D] in
theorem Minted.credentials (hsound : Sound cfg caDer) (h : Minted cfg caDer en issued)
    {r : EnrollResult CA Key} (hr : enrolled cfg.server.net en.response = .ok r) :
    Credentials cfg caDer en r := by
  obtain ⟨hid, hcert, hca⟩ := Connector.CertRenewal.enrolled_ok hr
  have hnames : Names en en.response.certificate := ⟨h.commonName, rfl⟩
  refine ⟨?_, ?_, hca ▸ h.ca⟩
  · rw [hcert]
    exact ⟨hnames, rfl, fun _ => rfl⟩
  · rw [extractSpiffeId_names hsound h hnames] at hid
    exact (Except.ok.inj hid).symm

/-- The answer that a service takes is from its own CA. -/
theorem Renews.credentials (hsound : Sound cfg caDer) (h : Minted cfg caDer en issued)
    {c : ControlPlane.Renewal.State CA Key} {reading : SystemTime}
    {resp : EnrollResponse CA Key} (hrenews : Renews cfg c en reading resp) {caPem : String}
    (hca : cfg.pemCertToDer caPem = some (caDer en.response.certificate.issuer))
    {r : EnrollResult CA Key}
    (hr : renewed cfg.pemCertToDer cfg.server.net caPem resp = .ok r) :
    Credentials cfg caDer en r := by
  obtain ⟨⟨d, hown, hsent⟩, hid, hcert, hpem⟩ := Connector.CertRenewal.renewed_ok hr
  have hissuer : resp.certificate.issuer = (renewalIssuer cfg.server c en.role.name en.id).1 :=
    congrArg Prod.fst hrenews.issuer
  have htext : resp.caCertificate = (renewalIssuer cfg.server c en.role.name en.id).2 :=
    congrArg Prod.snd hrenews.issuer
  have hfound := issuer_sound (c := c) hsound en.role en.id
  rw [← hissuer, ← htext, hsent] at hfound
  have hsame : caDer resp.certificate.issuer = caDer en.response.certificate.issuer := by
    rw [hca] at hown
    exact (Option.some.inj hfound).symm.trans (Option.some.inj hown).symm
  refine ⟨?_, ?_, ?_⟩
  · rw [hcert]
    refine ⟨hrenews.names, hsame, fun ⟨hrole, hother⟩ => absurd ?_ hother⟩
    -- agents are renewed by the global CA
    have hglobal : renewalIssuer cfg.server c en.role.name en.id =
        (cfg.server.ca, cfg.server.caPEM) := by
      rw [hrole]
      exact if_neg (by decide)
    rw [← hsame, hissuer, hglobal]
  · rw [extractSpiffeId_names hsound h hrenews.names] at hid
    exact (Except.ok.inj hid).symm
  · rw [hpem, hsent, hfound, hsame]

omit [DecidableEq D] in
theorem Has.sleep {service : Service CA Key} (h : Has cfg caDer en service)
    (now reading : SystemTime) : Has cfg caDer en (service.sleep now reading) :=
  ⟨h.id, h.spiffeId, h.ca, h.cert, h.store, h.saved, nofun⟩

omit [DecidableEq D] in
theorem Credentials.has {r : EnrollResult CA Key} (h : Credentials cfg caDer en r) {id : String}
    (hid : id = en.id) {saved : Option (EnrollResult CA Key)}
    (hsaved : ∀ r, saved = some r → Credentials cfg caDer en r) (enrolment : Nat)
    (now reading : SystemTime) : Has cfg caDer en (launch enrolment id r saved now reading) :=
  ⟨hid, h.spiffeId, h.ca, h.cert, rfl, hsaved, nofun⟩

/-- The steps of a service keep it the workload of its enrolment. -/
theorem Has.acts (hsound : Sound cfg caDer) (hminted : Minted cfg caDer en issued)
    {old new : Service CA Key} (h : Has cfg caDer en old) (hacts : Acts cfg s e old new) :
    Has cfg caDer en new := by
  cases hacts with
  | restart hsaved _ _ => exact (h.saved _ hsaved).has h.id h.saved _ _ _
  | call _ _ => exact ⟨h.id, h.spiffeId, h.ca, h.cert, h.store, h.saved, nofun⟩
  | answer hstage _ _ =>
      refine ⟨h.id, h.spiffeId, h.ca, h.cert, h.store, h.saved, fun resp hresp => ?_⟩
      exact ⟨_, _, serve_ok hsound hminted h.id h.cert.names (Stage.answered.inj hresp)⟩
  | @finish _ persisted _ _ answer hstage _ =>
      refine Has.sleep ?_ _ _
      rcases take_cases cfg old answer persisted with ⟨-, hsame⟩ | ⟨-, resp, r, rfl, hr, htake⟩
      · rwa [hsame]
      · obtain ⟨c, reading, hrenews⟩ := h.answered resp hstage
        have hnew := hrenews.credentials hsound hminted h.ca hr
        rw [htake]
        refine ⟨h.id, h.spiffeId, h.ca, hnew.cert, rfl, fun r' hr' => ?_, h.answered⟩
        cases persisted with
        | true => exact Option.some.inj hr' ▸ hnew
        | false => exact h.saved r' hr'
  | fail _ _ => exact h.sleep _ _

theorem Acts.enrolment {old new : Service CA Key} (h : Acts cfg s e old new) :
    new.enrolment = old.enrolment := by
  cases h with
  | @finish _ persisted _ _ answer _ _ =>
      show (old.take cfg answer persisted).enrolment = old.enrolment
      rcases take_cases cfg old answer persisted with ⟨-, hsame⟩ | ⟨-, resp, r, -, -, htake⟩
      · rw [hsame]
      · rw [htake]
  | restart | call | answer | fail => rfl

/-! ## Runs -/

/-- The enrolment was minted in the course of the events, when its id asked for it. -/
def MintedIn (cfg : Config CA Key D) (caDer : CA → D) (es : List Event) (en : Enrolment CA Key) :
    Prop :=
  ∃ req issued, Event.controller (enrolEvent en.role req issued) ∈ es ∧ en.id = req.id ∧
    Minted cfg caDer en issued

/-- The service started with the enrolment, in the course of the events. -/
def StartedWith (es : List Event) (c : ControlPlane.Renewal.State CA Key)
    (service : Service CA Key) (en : Enrolment CA Key) : Prop :=
  c.enrolments[service.enrolment]? = some en ∧
    ∃ persisted reading, Event.start service.enrolment persisted reading ∈ es

/-- What holds in every state: each service is the workload of the enrolment that it started
with, and the enrolments were minted in the course of the events. -/
structure Inv (cfg : Config CA Key D) (caDer : CA → D) (es : List Event) (s : State CA Key) :
    Prop where
  domains : ValidDomains s.controller
  minted : ∀ en ∈ s.controller.enrolments, MintedIn cfg caDer es en
  services : ∀ service ∈ s.services, ∃ en, StartedWith es s.controller service en ∧
    Has cfg caDer en service

omit [DecidableEq D] in
theorem MintedIn.append {es : List Event} (h : MintedIn cfg caDer es en) (e : Event) :
    MintedIn cfg caDer (es ++ [e]) en := by
  obtain ⟨req, issued, hmem, hrest⟩ := h
  exact ⟨req, issued, List.mem_append_left _ hmem, hrest⟩

omit [DecidableEq D] in
theorem Inv.mintedIn {es : List Event} (h : Inv cfg caDer es s) {service : Service CA Key}
    (hstarted : StartedWith es s.controller service en) : MintedIn cfg caDer es en :=
  h.minted en (List.mem_of_getElem? hstarted.1)

/-- Enrolments keep their numbers. -/
theorem StartedWith.append {es : List Event} {c c' : ControlPlane.Renewal.State CA Key}
    {service : Service CA Key} (h : StartedWith es c service en)
    (hkept : c.enrolments <+: c'.enrolments) (e : Event) :
    StartedWith (es ++ [e]) c' service en := by
  obtain ⟨hen, persisted, reading, hmem⟩ := h
  obtain ⟨new, hnew⟩ := hkept
  have hlt := (List.getElem?_eq_some_iff.mp hen).1
  refine ⟨?_, persisted, reading, List.mem_append_left _ hmem⟩
  rw [← hnew, List.getElem?_append_left hlt, hen]

omit [DecidableEq D] in
theorem inv_controller (hsound : Sound cfg caDer) {es : List Event} (hinv : Inv cfg caDer es s)
    {ev : ControlPlane.Renewal.Event} (hnames : NamesDomains ev)
    {controller : ControlPlane.Renewal.State CA Key}
    (hstep : ControlPlane.Renewal.step cfg.server s.controller ev = some controller) :
    Inv cfg caDer (es ++ [.controller ev]) { s with controller } := by
  refine ⟨validDomains_step hinv.domains hnames hstep, ?_, ?_⟩
  · intro en hen
    rcases minted_step hsound hinv.domains hstep en hen with hold | ⟨req, issued, rfl, hminted⟩
    · exact (hinv.minted en hold).append _
    · exact ⟨req, issued, by simp, hminted⟩
  · intro service hservice
    obtain ⟨en, hstarted, hhas⟩ := hinv.services service hservice
    exact ⟨en, hstarted.append (enrolments_kept hstep) _, hhas⟩

theorem inv_step (hsound : Sound cfg caDer) {es : List Event} (hinv : Inv cfg caDer es s)
    (hnames : ∀ ev, e = .controller ev → NamesDomains ev) (h : step cfg s e = some s') :
    Inv cfg caDer (es ++ [e]) s' := by
  by_cases hcontroller : ∃ ev, e = .controller ev
  · obtain ⟨ev, rfl⟩ := hcontroller
    obtain ⟨controller, hstep, rfl⟩ := Option.map_eq_some_iff.mp h
    exact inv_controller hsound hinv (hnames ev rfl) hstep
  · have hkept : s'.controller = s.controller := by
      obtain ⟨d, rfl, rfl⟩ | ⟨ev, controller, rfl, -, rfl⟩ | ⟨service, -, rfl⟩ |
        ⟨k, old, service, -, -, -, rfl⟩ := step_cases h
      · rfl
      · exact absurd ⟨ev, rfl⟩ hcontroller
      · rfl
      · rfl
    refine ⟨hkept ▸ hinv.domains, fun en hen => (hinv.minted en (hkept ▸ hen)).append e, ?_⟩
    intro service hservice
    have hordered : s.controller.enrolments <+: s.controller.enrolments := List.prefix_rfl
    rw [hkept]
    obtain ⟨j, hj⟩ := List.mem_iff_getElem?.mp hservice
    rcases service_step h hj with ⟨hold, -⟩ | ⟨old, hold, -, hacts, -⟩ | ⟨-, hstarted, -⟩
    · obtain ⟨en, hstarted, hhas⟩ := hinv.services service (List.mem_of_getElem? hold)
      exact ⟨en, hstarted.append hordered e, hhas⟩
    · obtain ⟨en, hstarted, hhas⟩ := hinv.services old (List.mem_of_getElem? hold)
      obtain ⟨-, issued, -, -, hminted⟩ := hinv.mintedIn hstarted
      refine ⟨en, ?_, hhas.acts hsound hminted hacts⟩
      rw [StartedWith, hacts.enrolment]
      exact hstarted.append hordered e
    · obtain ⟨i, persisted, reading, en, r, rfl, hen, hr, -, rfl⟩ := hstarted
      obtain ⟨-, issued, -, -, hminted⟩ := hinv.minted en (List.mem_of_getElem? hen)
      have hcredentials := hminted.credentials hsound hr
      refine ⟨en, ⟨hen, persisted, reading, ?_⟩,
        hcredentials.has rfl (fun r' hr' => ?_) _ _ _⟩
      · exact List.mem_append_right _ (List.mem_singleton_self _)
      cases persisted with
      | true => exact Option.some.inj hr' ▸ hcredentials
      | false => cases hr'

variable {now : SystemTime} {control : ControlPlane.Revocation.State}
  {tokens : Controller.EnrolmentTokens.Tokens}
  {workspaces : Table ControlPlane.Renewal.WorkspaceRow.id} {es : List Event}

theorem inv_run (hsound : Sound cfg caDer)
    (hdomains : ∀ ws ∈ workspaces.rows, validDomain ws.trustDomain = true)
    (hrun : run (step cfg) (.start now control tokens workspaces) es = some s) :
    (∀ ev, .controller ev ∈ es → NamesDomains ev) → Inv cfg caDer es s := by
  refine run_history (motive := fun es s =>
    (∀ ev, .controller ev ∈ es → NamesDomains ev) → Inv cfg caDer es s) ?_ ?_ hrun
  · intro _
    refine ⟨hdomains, fun en hen => ?_, fun service hservice => ?_⟩
    · exact absurd hen List.not_mem_nil
    · exact absurd hservice List.not_mem_nil
  · intro es s e s' _ ih hstep hnames
    refine inv_step hsound (ih fun ev hev => hnames ev (List.mem_append_left _ hev)) ?_ hstep
    rintro ev rfl
    exact hnames ev (by simp)

end Identity

/-- **A workload stays who it is.**  Whatever the controller's registry and workspaces have
become, in every run a service has a certificate for the SPIFFE ID of the enrolment that it
started with, and from the CA of that enrolment, which is the one it trusts itself. -/
theorem identity_kept (cfg : Config CA Key D) (caDer : CA → D) (hsound : Sound cfg caDer)
    (now : SystemTime) (control : ControlPlane.Revocation.State)
    (tokens : Controller.EnrolmentTokens.Tokens)
    (workspaces : Table ControlPlane.Renewal.WorkspaceRow.id)
    (hdomains : ∀ ws ∈ workspaces.rows, validDomain ws.trustDomain = true) (es : List Event)
    (hnames : ∀ ev, .controller ev ∈ es → NamesDomains ev) (s : State CA Key)
    (hrun : run (step cfg) (.start now control tokens workspaces) es = some s)
    (service : Service CA Key) (hservice : service ∈ s.services) :
    ∃ en, StartedWith es s.controller service en ∧ service.id = en.id ∧
      service.spiffeId = en.spiffeID ∧
      extractSpiffeId cfg.server.net service.store.cert = .ok en.spiffeID ∧
      caDer service.store.cert.issuer = caDer en.response.certificate.issuer ∧
      cfg.pemCertToDer service.caPem = some (caDer service.store.cert.issuer) := by
  have hinv := inv_run hsound hdomains hrun hnames
  obtain ⟨en, hstarted, hhas⟩ := hinv.services service hservice
  obtain ⟨-, issued, -, -, hminted⟩ := hinv.mintedIn hstarted
  refine ⟨en, hstarted, hhas.id, hhas.spiffeId,
    extractSpiffeId_names hsound hminted hhas.cert.names, hhas.cert.issuer, ?_⟩
  rw [hhas.cert.issuer, hhas.ca]

/-- **An agent of a workspace lapses.**  The controller renews every agent from the global CA,
and the agent takes certificates from the CA of its enrolment only: in no run does it get a
second one, and five minutes after its enrolment it has none that is valid. -/
theorem workspace_agent_lapses (cfg : Config CA Key D) (caDer : CA → D) (hsound : Sound cfg caDer)
    (now : SystemTime) (control : ControlPlane.Revocation.State)
    (tokens : Controller.EnrolmentTokens.Tokens)
    (workspaces : Table ControlPlane.Renewal.WorkspaceRow.id)
    (hdomains : ∀ ws ∈ workspaces.rows, validDomain ws.trustDomain = true) (es : List Event)
    (hnames : ∀ ev, .controller ev ∈ es → NamesDomains ev) (s : State CA Key)
    (hrun : run (step cfg) (.start now control tokens workspaces) es = some s)
    (service : Service CA Key) (hservice : service ∈ s.services) :
    ∃ en, StartedWith es s.controller service en ∧ service.id = en.id ∧
      service.spiffeId = en.spiffeID ∧
      (en.role = .tunneler → caDer en.response.certificate.issuer ≠ caDer cfg.server.ca →
        service.store.cert = en.response.certificate ∧
        ∃ (req : EnrollRequest) (issued : SystemTime),
          .controller (.enrollTunneler req issued) ∈ es ∧ en.id = req.id ∧
          Minted cfg caDer en issued ∧
          ∀ reading, issued + workloadTTL ≤ reading → service.store.notAfter ≤ reading) := by
  have hinv := inv_run hsound hdomains hrun hnames
  obtain ⟨en, hstarted, hhas⟩ := hinv.services service hservice
  obtain ⟨req, issued, hmem, hid, hminted⟩ := hinv.mintedIn hstarted
  refine ⟨en, hstarted, hhas.id, hhas.spiffeId, fun hrole hother => ?_⟩
  have hfirst := hhas.cert.first ⟨hrole, hother⟩
  rw [hrole] at hmem
  refine ⟨hfirst, req, issued, hmem, hid, hminted, fun reading hlate => ?_⟩
  have hdate : service.store.notAfter = wholeSeconds (issued + workloadTTL) := by
    rw [hhas.store, hfirst, ← hminted.notAfter]
    rfl
  rw [hdate]
  exact (Connector.CertRenewal.wholeSeconds_le _).trans hlate

/-! ## Time -/

/-- How far the certificate's dates are apart: a minute before the issue, five after it. -/
theorem ofCert_dates {cert : WorkloadCert CA Key} {t : SystemTime}
    (hbefore : cert.notBefore = t - 60 * nanosPerSec) (hafter : cert.notAfter = t + workloadTTL) :
    (certValidity cert).1 ≤ t - 60 * nanosPerSec ∧
      t + 299 * nanosPerSec < (CertStore.ofCert cert).notAfter ∧
      (CertStore.ofCert cert).totalTtl = 360 * nanosPerSec := by
  have hfirst : (certValidity cert).1 = wholeSeconds t + (-60) * nanosPerSec := by
    rw [← Connector.CertRenewal.wholeSeconds_add_mul, certValidity, hbefore]
    rfl
  have hlast : (certValidity cert).2 = wholeSeconds t + 300 * nanosPerSec := by
    rw [← Connector.CertRenewal.wholeSeconds_add_mul, certValidity, hafter]
    rfl
  have hnotAfter : (CertStore.ofCert cert).notAfter = (certValidity cert).2 := rfl
  have hle := Connector.CertRenewal.wholeSeconds_le t
  have hlt := Connector.CertRenewal.lt_wholeSeconds_add t
  refine ⟨by rw [hfirst]; linarith, by rw [hnotAfter, hlast]; linarith, ?_⟩
  have htotal : (CertStore.ofCert cert).totalTtl = Connector.CertRenewal.durationSince
      (certValidity cert).2 (certValidity cert).1 (3600 * nanosPerSec) := rfl
  have hspan : (certValidity cert).2 - (certValidity cert).1 = (360 * nanosPerSec : Nat) := by
    rw [hfirst, hlast]
    push_cast
    ring
  have hordered : (certValidity cert).1 ≤ (certValidity cert).2 := by
    rw [← Int.sub_nonneg, hspan]
    exact Int.natCast_nonneg _
  rw [htotal, Connector.CertRenewal.durationSince, if_pos hordered, hspan, Int.toNat_natCast]

/-- 30% of six minutes. -/
def margin : Duration := 108 * nanosPerSec

/-- What clocks, computers and networks are to keep to: how far a clock is from the time,
how long it takes at most from the end of a sleep to the end of the call, and how many
calls fail in a row at most. -/
structure Schedule (drift : Duration) where
  late : Duration
  failures : Nat
  drift_small : 2 * drift ≤ 60 * nanosPerSec
  feasible : failures * (late + minDelay) + late + 2 * drift < margin

/-- The failures since the last success. -/
def failuresInRow (calls : List Bool) : Nat := (calls.reverse.takeWhile fun ok => !ok).length

theorem failuresInRow_concat (calls : List Bool) (ok : Bool) :
    failuresInRow (calls ++ [ok]) = if ok then 0 else failuresInRow calls + 1 := by
  cases ok <;> simp [failuresInRow]

/-- How the call of service `j` ended, if this event ends one. -/
def calls (cfg : Config CA Key D) (j : Nat) (s : State CA Key) : Event → List Bool
  | .finish k _ _ =>
      if k = j then
        match s.services[j]? with
        | some service =>
            match service.stage with
            | .answered answer => [service.takes cfg answer]
            | _ => []
        | none => []
      else []
  | .fail k _ => if k = j then [false] else []
  | .restart k _ => if k = j then [false] else []
  | _ => []

theorem calls_of_ne {j : Nat} (h : e.service ≠ some j) : calls cfg j s e = [] := by
  cases e with
  | finish k persisted reading => exact if_neg fun heq => h (congrArg some heq)
  | fail k reading => exact if_neg fun heq => h (congrArg some heq)
  | restart k reading => exact if_neg fun heq => h (congrArg some heq)
  | _ => rfl

/-- For service `j` the event is on schedule: no time passes over the end of its call, it
starts with two minutes left, and it starts again with the certificate that it had. -/
def OnTime {drift : Duration} (schedule : Schedule drift) (j : Nat) (s : State CA Key) :
    Event → Prop
  | .tick d => ∀ service, s.services[j]? = some service →
      s.now + d ≤ service.wakeAt + schedule.late
  | .start i _ _ => s.services.length = j → ∀ en, s.controller.enrolments[i]? = some en →
      (certValidity en.response.certificate).1 + drift ≤ s.now ∧
        s.now + 120 * nanosPerSec ≤ (certValidity en.response.certificate).2
  | .restart k _ => k = j → ∀ service r, s.services[j]? = some service →
      service.saved = some r → r.cert = service.store.cert
  | _ => True

section Time

variable {caDer : CA → D} {en : Enrolment CA Key} {issued : SystemTime}
  (schedule : Schedule cfg.drift)

/-- After `n` failures: the sleep ends in time for the calls that may still fail. -/
structure Timely (n : Nat) (now : SystemTime) (service : Service CA Key) : Prop where
  ttl : service.store.totalTtl = 360 * nanosPerSec
  begun : (certValidity service.store.cert).1 + cfg.drift ≤ now
  wake : service.wakeAt ≤ service.store.notAfter - margin + cfg.drift +
    (n * (schedule.late + minDelay) : Nat)
  onTime : now ≤ service.wakeAt + schedule.late
  awake : service.stage ≠ .sleeping → service.wakeAt ≤ now
  answered : ∀ resp, service.stage = .answered (.ok resp) → ∃ u reading,
    service.wakeAt ≤ u ∧ u ≤ now ∧ Shows cfg.drift u reading ∧
    resp.certificate.notBefore = reading - 60 * nanosPerSec ∧
    resp.certificate.notAfter = reading + workloadTTL

omit [DecidableEq D] in
/-- A sleep ends ten seconds from now, or when 30% of the time are left. -/
theorem sleep_wakeAt {service : Service CA Key} (httl : service.store.totalTtl = 360 * nanosPerSec)
    {now reading bound : SystemTime} (hshows : Shows cfg.drift now reading)
    (hnow : now + minDelay ≤ bound)
    (hdate : service.store.notAfter - margin + cfg.drift ≤ bound) :
    (service.sleep now reading).wakeAt ≤ bound := by
  have hne : service.store.totalTtl ≠ 0 := by
    rw [httl]
    decide
  have hmargin : service.store.totalTtl * 30 / 100 = margin := by
    rw [httl]
    rfl
  have hwakes := Connector.CertRenewal.wakes_in_time hne service.store.notAfter reading
  rw [hmargin] at hwakes
  have hslow := hshows.2
  show now + nextRenewalDelay service.store.notAfter service.store.totalTtl reading ≤ bound
  rcases hwakes with hsoon | hlater <;> linarith

omit [DecidableEq D] in
/-- The sleep that begins now has not ended late. -/
theorem sleep_onTime (service : Service CA Key) (now reading : SystemTime) :
    now ≤ (service.sleep now reading).wakeAt + schedule.late := by
  calc now ≤ now + minDelay := Int.le_add_of_nonneg_right (Int.natCast_nonneg _)
    _ ≤ (service.sleep now reading).wakeAt := service.minDelay_le_sleep now reading
    _ ≤ (service.sleep now reading).wakeAt + schedule.late :=
      Int.le_add_of_nonneg_right (Int.natCast_nonneg _)

omit [DecidableEq D] in
/-- A service that goes to sleep with the certificate that it had before. -/
theorem Timely.sleep {n : Nat} {now reading : SystemTime} {service : Service CA Key}
    (h : Timely schedule n now service) (hshows : Shows cfg.drift now reading) :
    Timely schedule (n + 1) now (service.sleep now reading) := by
  have hwake := h.wake
  have hon := h.onTime
  have hmore : ((n + 1) * (schedule.late + minDelay) : Nat) =
      (n * (schedule.late + minDelay) : Nat) + ((schedule.late : Int) + minDelay) := by
    push_cast
    ring
  have hzero : (0 : Int) ≤ (n * (schedule.late + minDelay) : Nat) := Int.natCast_nonneg _
  have hlate : (0 : Int) ≤ schedule.late := Int.natCast_nonneg _
  have hdelay : (0 : Int) ≤ minDelay := Int.natCast_nonneg _
  refine ⟨h.ttl, h.begun, ?_, sleep_onTime schedule service now reading,
    fun hstage => absurd rfl hstage, nofun⟩
  rw [Service.sleep_store, hmore]
  exact sleep_wakeAt h.ttl hshows (by linarith) (by linarith)

omit [DecidableEq D] in
/-- A service that starts again with the certificate that it had before. -/
theorem Timely.launch {n : Nat} {now reading : SystemTime} {service : Service CA Key}
    (h : Timely schedule n now service) (hshows : Shows cfg.drift now reading)
    {r : EnrollResult CA Key} (hstore : service.store = .ofCert r.cert) (enrolment : Nat)
    (id : String) (saved : Option (EnrollResult CA Key)) :
    Timely schedule (n + 1) now (launch enrolment id r saved now reading) := by
  have hslept := h.sleep schedule hshows
  unfold CertLifetime.launch
  rw [← hstore]
  exact ⟨hslept.ttl, hslept.begun, hslept.wake, hslept.onTime, hslept.awake,
    fun resp hresp => hslept.answered resp hresp⟩

omit [DecidableEq D] in
/-- A service that goes to sleep with enough time left. -/
theorem timely_of_left {now reading : SystemTime} {service : Service CA Key}
    (httl : service.store.totalTtl = 360 * nanosPerSec)
    (hbegun : (certValidity service.store.cert).1 + cfg.drift ≤ now)
    (hleft : now + minDelay ≤ service.store.notAfter - margin + cfg.drift)
    (hshows : Shows cfg.drift now reading) (n : Nat) :
    Timely schedule n now (service.sleep now reading) := by
  have hzero : (0 : Int) ≤ (n * (schedule.late + minDelay) : Nat) := Int.natCast_nonneg _
  refine ⟨httl, hbegun, ?_, sleep_onTime schedule service now reading,
    fun hstage => absurd rfl hstage, nofun⟩
  rw [Service.sleep_store]
  exact sleep_wakeAt httl hshows (by linarith) (by linarith)

omit [DecidableEq D] in
/-- A certificate that was issued in the course of the call leaves enough time. -/
theorem left_of_issued {cert : WorkloadCert CA Key} {u now wakeAt reading : SystemTime}
    (hbefore : cert.notBefore = reading - 60 * nanosPerSec)
    (hafter : cert.notAfter = reading + workloadTTL) (hshows : Shows cfg.drift u reading)
    (hwake : wakeAt ≤ u) (hu : u ≤ now) (hnow : now ≤ wakeAt + schedule.late) :
    (certValidity cert).1 + cfg.drift ≤ now ∧
      now + minDelay ≤ (CertStore.ofCert cert).notAfter - margin + cfg.drift := by
  obtain ⟨hfirst, hlast, -⟩ := ofCert_dates hbefore hafter
  have hsmall : 2 * (cfg.drift : Int) ≤ 60 * nanosPerSec := by
    exact_mod_cast schedule.drift_small
  have hlate : (schedule.late : Int) ≤ margin := by
    have hbound : schedule.late ≤ schedule.failures * (schedule.late + minDelay) + schedule.late +
        2 * cfg.drift :=
      (Nat.le_add_left _ _).trans (Nat.le_add_right _ _)
    exact_mod_cast hbound.trans schedule.feasible.le
  obtain ⟨hfast, hslow⟩ := hshows
  have hmargin : (margin : Int) = 108 * nanosPerSec := rfl
  have hdelay : (minDelay : Int) = 10 * nanosPerSec := rfl
  have hpos : (0 : Int) ≤ nanosPerSec := Int.natCast_nonneg _
  constructor <;> linarith

/-- The steps of a service keep it timely. -/
theorem Timely.acts (hsound : Sound cfg caDer) (hminted : Minted cfg caDer en issued)
    {old new : Service CA Key} (hhas : Has cfg caDer en old) {cs : List Bool}
    (h : Timely schedule (failuresInRow cs) s.now old) {j : Nat} (hj : e.service = some j)
    (hold : s.services[j]? = some old) (hon : OnTime schedule j s e)
    (hacts : Acts cfg s e old new) :
    Timely schedule (failuresInRow (cs ++ calls cfg j s e)) s.now new := by
  cases hacts with
  | @restart k reading _ r hsaved hshows hvalid =>
      obtain rfl : k = j := Option.some.inj hj
      have hsame : r.cert = old.store.cert := hon rfl old r hold hsaved
      rw [calls, if_pos rfl, failuresInRow_concat, if_neg (by decide)]
      exact h.launch schedule hshows (by rw [hhas.store, hsame]) _ _ _
  | @call k _ hstage hwake =>
      have hnone : calls cfg j s (.call k) = [] := rfl
      rw [hnone, List.append_nil]
      exact ⟨h.ttl, h.begun, h.wake, h.onTime, fun _ => hwake, nofun⟩
  | @answer k publicKey reading _ hstage hshows hhandshake =>
      have hnone : calls cfg j s (.answer k publicKey reading) = [] := rfl
      rw [hnone, List.append_nil]
      have hawake : old.wakeAt ≤ s.now := h.awake (by rw [hstage]; nofun)
      refine ⟨h.ttl, h.begun, h.wake, h.onTime, fun _ => hawake, fun resp hresp => ?_⟩
      have hrenews := serve_ok hsound hminted hhas.id hhas.cert.names (Stage.answered.inj hresp)
      exact ⟨s.now, reading, hawake, le_rfl, hshows, hrenews.notBefore, hrenews.notAfter⟩
  | @finish k persisted reading _ answer hstage hshows =>
      obtain rfl : k = j := Option.some.inj hj
      simp only [calls, if_true, hold, hstage, failuresInRow_concat]
      rcases take_cases cfg old answer persisted with
        ⟨hfails, hsame⟩ | ⟨htakes, resp, r, rfl, hr, htake⟩
      · rw [hfails, hsame, if_neg (by decide)]
        exact h.sleep schedule hshows
      · obtain ⟨u, issue, hwake, hu, hissue, hbefore, hafter⟩ := h.answered resp hstage
        have hcert : r.cert = resp.certificate := (Connector.CertRenewal.renewed_ok hr).2.2.1
        obtain ⟨hbegun, hleft⟩ :=
          left_of_issued schedule hbefore hafter hissue hwake hu h.onTime
        rw [htakes, htake, hcert, if_pos rfl]
        refine timely_of_left schedule ?_ ?_ ?_ hshows 0
        · exact (ofCert_dates hbefore hafter).2.2
        · exact hbegun
        · exact hleft
  | @fail k reading _ hstage hshows =>
      obtain rfl : k = j := Option.some.inj hj
      rw [calls, if_pos rfl, failuresInRow_concat, if_neg (by decide)]
      exact h.sleep schedule hshows

omit [DecidableEq D] in
variable {schedule} in
theorem Timely.later {n : Nat} {now now' : SystemTime} {service : Service CA Key}
    (h : Timely schedule n now service) (hle : now ≤ now')
    (hon : now' ≤ service.wakeAt + schedule.late) : Timely schedule n now' service := by
  refine ⟨h.ttl, h.begun.trans hle, h.wake, hon, fun hstage => (h.awake hstage).trans hle, ?_⟩
  intro resp hresp
  obtain ⟨u, reading, hwake, hu, hrest⟩ := h.answered resp hresp
  exact ⟨u, reading, hwake, hu.trans hle, hrest⟩

theorem now_step (h : step cfg s e = some s') :
    (∃ d, e = .tick d ∧ s'.now = s.now + (d : Duration)) ∨ s'.now = s.now := by
  obtain ⟨d, rfl, rfl⟩ | ⟨ev, controller, -, -, rfl⟩ | ⟨service, -, rfl⟩ |
    ⟨k, old, service, -, -, -, rfl⟩ := step_cases h
  · exact Or.inl ⟨d, rfl, rfl⟩
  · exact Or.inr rfl
  · exact Or.inr rfl
  · exact Or.inr rfl

theorem timely_step (hsound : Sound cfg caDer) {es : List Event} (hinv : Inv cfg caDer es s)
    {cs : List Bool} {j : Nat}
    (h : ∀ service, s.services[j]? = some service →
      Timely schedule (failuresInRow cs) s.now service)
    (hon : OnTime schedule j s e) (hstep : step cfg s e = some s') :
    ∀ service, s'.services[j]? = some service →
      Timely schedule (failuresInRow (cs ++ calls cfg j s e)) s'.now service := by
  intro new hnew
  rcases service_step hstep hnew with ⟨hold, hother⟩ | ⟨old, hold, hj, hacts, hnow, -⟩ |
    ⟨hlength, hstarted, hnow, -⟩
  · have hbefore := h new hold
    rw [calls_of_ne hother, List.append_nil]
    rcases now_step hstep with ⟨d, rfl, hnow⟩ | hnow
    · rw [hnow]
      have hd : (0 : Int) ≤ d := Int.natCast_nonneg _
      exact hbefore.later (by linarith) (hon new hold)
    · rw [hnow]
      exact hbefore
  · obtain ⟨en, hstarted, hhas⟩ := hinv.services old (List.mem_of_getElem? hold)
    obtain ⟨-, issued, -, -, hminted⟩ := hinv.mintedIn hstarted
    rw [hnow]
    exact (h old hold).acts schedule hsound hminted hhas hj hold hon hacts
  · obtain ⟨i, persisted, reading, en, r, rfl, hen, hr, hshows, rfl⟩ := hstarted
    obtain ⟨-, issued, -, -, hminted⟩ := hinv.minted en (List.mem_of_getElem? hen)
    obtain ⟨hbegun, hleft⟩ := hon hlength en hen
    have hcert : r.cert = en.response.certificate :=
      (Connector.CertRenewal.enrolled_ok hr).2.1
    rw [← hcert] at hbegun hleft
    have httl := (ofCert_dates (hcert ▸ hminted.notBefore) (hcert ▸ hminted.notAfter)).2.2
    rw [hnow]
    refine timely_of_left schedule ?_ ?_ ?_ hshows _
    · exact httl
    · exact hbegun
    have hmargin : (margin : Int) = 108 * nanosPerSec := rfl
    have hdelay : (minDelay : Int) = 10 * nanosPerSec := rfl
    have hdrift : (0 : Int) ≤ cfg.drift := Int.natCast_nonneg _
    have hpos : (0 : Int) ≤ nanosPerSec := Int.natCast_nonneg _
    show s.now + minDelay ≤ (certValidity r.cert).2 - margin + cfg.drift
    linarith

variable {now : SystemTime} {control : ControlPlane.Revocation.State}
  {tokens : Controller.EnrolmentTokens.Tokens}
  {workspaces : Table ControlPlane.Renewal.WorkspaceRow.id} {es : List Event}

theorem timely_run (hsound : Sound cfg caDer)
    (hdomains : ∀ ws ∈ workspaces.rows, validDomain ws.trustDomain = true) (j : Nat)
    (hrun : run (step cfg) (.start now control tokens workspaces) es = some s) :
    (∀ ev, .controller ev ∈ es → NamesDomains ev) →
    Meets (step cfg) (OnTime schedule j) (.start now control tokens workspaces) es →
    ∀ service, s.services[j]? = some service →
      Timely schedule (failuresInRow (outputs (step cfg) (calls cfg j)
        (.start now control tokens workspaces) es)) s.now service := by
  refine run_history (motive := fun es s => (∀ ev, .controller ev ∈ es → NamesDomains ev) →
    Meets (step cfg) (OnTime schedule j) (.start now control tokens workspaces) es →
    ∀ service, s.services[j]? = some service →
      Timely schedule (failuresInRow (outputs (step cfg) (calls cfg j)
        (.start now control tokens workspaces) es)) s.now service) ?_ ?_ hrun
  · intro _ _ service hservice
    simp [State.start] at hservice
  · intro es s e s' hrun ih hstep hnames hmeets
    obtain ⟨hbefore, hlast⟩ := meets_append.mp hmeets
    have hnames' : ∀ ev, .controller ev ∈ es → NamesDomains ev :=
      fun ev hev => hnames ev (List.mem_append_left _ hev)
    rw [outputs_concat hrun]
    exact timely_step schedule hsound (inv_run hsound hdomains hrun hnames')
      (ih hnames' hbefore) (hlast s hrun).1 hstep

end Time

/-- **A certificate is always valid.**  Take any run that is on schedule for one service, with
no more failures in a row at its end than the schedule has.  Then by every clock the service's
certificate is valid: begun, and not at its end. -/
theorem always_valid (cfg : Config CA Key D) (caDer : CA → D) (hsound : Sound cfg caDer)
    (schedule : Schedule cfg.drift) (now : SystemTime) (control : ControlPlane.Revocation.State)
    (tokens : Controller.EnrolmentTokens.Tokens)
    (workspaces : Table ControlPlane.Renewal.WorkspaceRow.id)
    (hdomains : ∀ ws ∈ workspaces.rows, validDomain ws.trustDomain = true) (es : List Event)
    (hnames : ∀ ev, .controller ev ∈ es → NamesDomains ev) (s : State CA Key)
    (hrun : run (step cfg) (.start now control tokens workspaces) es = some s) (j : Nat)
    (hontime : Meets (step cfg) (OnTime schedule j) (.start now control tokens workspaces) es)
    (hfailures : failuresInRow (outputs (step cfg) (calls cfg j)
      (.start now control tokens workspaces) es) ≤ schedule.failures)
    (service : Service CA Key) (hservice : s.services[j]? = some service) (reading : SystemTime)
    (hclock : Shows cfg.drift s.now reading) :
    (certValidity service.store.cert).1 ≤ reading ∧
      reading < (certValidity service.store.cert).2 := by
  have hinv := inv_run hsound hdomains hrun hnames
  obtain ⟨en, -, hhas⟩ := hinv.services service (List.mem_of_getElem? hservice)
  have htimely := timely_run schedule hsound hdomains j hrun hnames hontime service hservice
  have hdate : service.store.notAfter = (certValidity service.store.cert).2 := by
    rw [hhas.store]
    rfl
  obtain ⟨hfast, hslow⟩ := hclock
  have hbegun := htimely.begun
  have hwake := htimely.wake
  have hon := htimely.onTime
  have hretries := Nat.mul_le_mul_right (schedule.late + minDelay) hfailures
  have hfeasible := (Nat.add_le_add_right (Nat.add_le_add_right hretries schedule.late)
    (2 * cfg.drift)).trans_lt schedule.feasible
  generalize failuresInRow _ * (schedule.late + minDelay) = retries at hwake hfeasible
  have hroom : (retries : Int) + schedule.late + 2 * cfg.drift < margin := by
    exact_mod_cast hfeasible
  exact ⟨by linarith, by linarith⟩

/-! ## An agent without a workspace, and one with -/

namespace Example

open ControlPlane.Renewal (exampleSettings noTables acme)

/-- No clock is off, and TLS looks at the issuer and the dates. -/
def config : Config String Unit String where
  server := exampleSettings
  validator := some fun domain => domain = "acme.zt.example"
  handshake cert reading :=
    exampleSettings.clientCAs cert.issuer ∧ cert.notBefore ≤ reading ∧ reading ≤ cert.notAfter
  pemCertToDer := some
  drift := 0

theorem sound : Sound config id where
  net := ControlPlane.SpiffeIds.NetUrl.plain_keeps
  domain := by decide
  own := rfl
  loaded cert key ca h := by
    cases h
    rfl

/-- Ten seconds for a call, and two failures. -/
def schedule : Schedule config.drift where
  late := 10 * nanosPerSec
  failures := 2
  drift_small := by decide
  feasible := by decide

def agentRequest : EnrollRequest := { id := "agent-1", token := "t" }

/-- It enrols, sleeps for 70% of the time, and calls. -/
def enrols (workspaceId : String) : List Event :=
  [.controller (.createWorkspace acme),
    .controller (.createToken ⟨"t", "", 3600, false, workspaceId⟩),
    .controller (.enrollTunneler agentRequest 0), .start 0 true 0,
    .tick (192 * nanosPerSec), .call 0]

/-- Without a workspace it gets an answer, and sleeps again. -/
def renews : List Event :=
  enrols "" ++ [.answer 0 .empty (192 * nanosPerSec), .finish 0 true (192 * nanosPerSec)]

/-- In a workspace it does not come through TLS. -/
def lapses : List Event := enrols "ws_1" ++ [.fail 0 (192 * nanosPerSec)]

abbrev start : State String Unit := .start 0 noTables ∅ ∅

theorem enrols_names (workspaceId : String) :
    ∀ ev, .controller ev ∈ enrols workspaceId → NamesDomains ev := by
  intro ev hev
  simp only [enrols, List.mem_cons, Event.controller.injEq, reduceCtorEq, or_false,
    List.not_mem_nil] at hev
  rcases hev with rfl | rfl | rfl
  · show validDomain "acme.zt.example" = true
    decide
  · trivial
  · trivial

theorem renews_names : ∀ ev, .controller ev ∈ renews → NamesDomains ev := by
  intro ev hev
  rcases List.mem_append.mp hev with henrols | hrest
  · exact enrols_names "" ev henrols
  · rcases List.mem_pair.mp hrest with heq | heq <;> cases heq

theorem lapses_names : ∀ ev, .controller ev ∈ lapses → NamesDomains ev := by
  intro ev hev
  rcases List.mem_append.mp hev with henrols | hfail
  · exact enrols_names "ws_1" ev henrols
  · cases List.mem_singleton.mp hfail

/-- More than a minute after the end of the first certificate. -/
def outlives : List Event := renews ++ [.tick (200 * nanosPerSec)]

theorem outlives_names : ∀ ev, .controller ev ∈ outlives → NamesDomains ev := by
  intro ev hev
  rcases List.mem_append.mp hev with hrenews | htick
  · exact renews_names ev hrenews
  · cases List.mem_singleton.mp htick

theorem outlives_onTime : Meets (step config) (OnTime schedule 0) start outlives := by
  refine meets_cons trivial rfl (meets_cons trivial rfl (meets_cons trivial rfl ?_))
  refine meets_cons ?_ rfl (meets_cons ?_ rfl ?_)
  · intro _ en hen
    cases hen
    exact ⟨by decide, by decide⟩
  · intro service hservice
    cases hservice
    decide
  · refine meets_cons trivial rfl (meets_cons trivial rfl (meets_cons trivial rfl ?_))
    refine meets_cons ?_ rfl trivial
    intro service hservice
    cases hservice
    decide

end Example

theorem outlives_always_valid : ∃ s service,
    run (step Example.config) Example.start Example.outlives = some s ∧
    s.now = 392 * nanosPerSec ∧ s.services[0]? = some service ∧
    (certValidity service.store.cert).1 ≤ 392 * nanosPerSec ∧
    392 * nanosPerSec < (certValidity service.store.cert).2 := by
  obtain ⟨s, hrun, hnow, service, hservice⟩ : ∃ s,
      run (step Example.config) Example.start Example.outlives = some s ∧
      s.now = 392 * nanosPerSec ∧ ∃ service, s.services[0]? = some service :=
    ⟨_, rfl, rfl, _, rfl⟩
  have hfailures : failuresInRow (outputs (step Example.config) (calls Example.config 0)
      Example.start Example.outlives) ≤ Example.schedule.failures := Nat.zero_le 2
  refine ⟨s, service, hrun, hnow, hservice, ?_⟩
  refine always_valid Example.config id Example.sound Example.schedule 0
    ControlPlane.Renewal.noTables ∅ ∅ (fun ws hws => ?_) Example.outlives Example.outlives_names s
    hrun 0 Example.outlives_onTime hfailures service hservice (392 * nanosPerSec) ?_
  · cases hws
  · rw [hnow]
    exact ⟨by decide, by decide⟩

theorem renewed_agent_identity : ∃ s service,
    run (step Example.config) Example.start Example.renews = some s ∧ service ∈ s.services ∧
    ∃ en, StartedWith Example.renews s.controller service en ∧
      extractSpiffeId ControlPlane.SpiffeIds.NetUrl.plain service.store.cert = .ok en.spiffeID ∧
      some service.caPem = some service.store.cert.issuer := by
  obtain ⟨s, hrun, service, hservice⟩ : ∃ s,
      run (step Example.config) Example.start Example.renews = some s ∧
      ∃ service, service ∈ s.services :=
    ⟨_, rfl, _, List.mem_singleton_self _⟩
  obtain ⟨en, hstarted, -, -, hid, -, hca⟩ := identity_kept Example.config id Example.sound 0
    ControlPlane.Renewal.noTables ∅ ∅ (fun ws hws => absurd hws List.not_mem_nil) Example.renews
    Example.renews_names s hrun service hservice
  exact ⟨s, service, hrun, hservice, en, hstarted, hid, hca⟩

/-- Its call at 192 seconds has brought it nothing. -/
theorem workspace_agent_lapsed : ∃ s service,
    run (step Example.config) Example.start Example.lapses = some s ∧
    service ∈ s.services ∧ ∃ en, StartedWith Example.lapses s.controller service en ∧
      en.role = .tunneler ∧ service.store.cert = en.response.certificate ∧
      ∀ reading : SystemTime, workloadTTL ≤ reading → service.store.notAfter ≤ reading := by
  obtain ⟨s, hrun, service, hservice, hagents⟩ : ∃ s,
      run (step Example.config) Example.start Example.lapses = some s ∧
      ∃ service, service ∈ s.services ∧ ∀ en ∈ s.controller.enrolments,
        en.role = .tunneler ∧ en.response.certificate.issuer ≠ "global CA" := by
    refine ⟨_, rfl, _, List.mem_singleton_self _, ?_⟩
    intro en hen
    obtain rfl := List.mem_singleton.mp hen
    exact ⟨rfl, by decide⟩
  obtain ⟨en, hstarted, -, -, hlapses⟩ := workspace_agent_lapses Example.config id Example.sound 0
    ControlPlane.Renewal.noTables ∅ ∅ (fun ws hws => absurd hws List.not_mem_nil) Example.lapses
    Example.lapses_names s hrun service hservice
  obtain ⟨hrole, hother⟩ := hagents en (List.mem_of_getElem? hstarted.1)
  obtain ⟨hcert, req, issued, henrols, -, -, hlate⟩ := hlapses hrole hother
  obtain rfl : issued = 0 := by
    simp only [Example.lapses, Example.enrols, List.cons_append, List.nil_append, List.mem_cons,
      Event.controller.injEq, reduceCtorEq, or_false,
      ControlPlane.Renewal.Event.enrollTunneler.injEq, List.not_mem_nil, false_or] at henrols
    exact henrols.2
  refine ⟨s, service, hrun, hservice, en, hstarted, hrole, hcert, fun reading hreading => ?_⟩
  exact hlate reading (by rwa [Int.zero_add])

end ZeroTrust.System.CertLifetime
