/-
# `ZeroTrust.Connector.CertRenewal` — when a certificate is renewed

`renewal.rs`, `enroll.rs` and `tls/cert_store.rs`, which connector and agent share.  The
loop sleeps until 30% of the certificate's time are left, asks for a new one, and sleeps
again: ten seconds at least, also after a failure.

    now ........................ not_after - 30% ............ not_after
     └── the delay ──────────────────┘ └─ retries, 10 s each ─┘

`wakes_in_time` is the bound on the delay that everything else rests on.  The answer to a
renewal is only taken if the CA that comes with it is the CA of the enrolment.
-/
import Mathlib.Tactic.Linarith
import ZeroTrust.ControlPlane.Renewal

namespace ZeroTrust.Connector.CertRenewal

open ControlPlane.Renewal (WorkloadCert EnrollResponse)
open ControlPlane.SpiffeIds (NetUrl)

variable {CA Key : Type}

/-! ## Dates -/

/-- A date of a certificate: whole seconds. -/
def wholeSeconds (t : SystemTime) : SystemTime := t / nanosPerSec * nanosPerSec

def certValidity (cert : WorkloadCert CA Key) : SystemTime × SystemTime :=
  (wholeSeconds cert.notBefore, wholeSeconds cert.notAfter)

/-- `t.duration_since(earlier).unwrap_or(default)`. -/
def durationSince (t earlier : SystemTime) (default : Duration) : Duration :=
  if earlier ≤ t then (t - earlier).toNat else default

theorem wholeSeconds_le (t : SystemTime) : wholeSeconds t ≤ t :=
  Int.ediv_mul_le t (by decide)

theorem lt_wholeSeconds_add (t : SystemTime) : t < wholeSeconds t + nanosPerSec := by
  have hpos : (0 : Int) < nanosPerSec := by decide
  have hlt := Int.lt_ediv_add_one_mul_self t hpos
  rwa [Int.add_mul, Int.one_mul] at hlt

/-- Dates that are whole seconds apart stay as far apart. -/
theorem wholeSeconds_add_mul (t : SystemTime) (k : Int) :
    wholeSeconds (t + k * nanosPerSec) = wholeSeconds t + k * nanosPerSec := by
  have hne : (nanosPerSec : Int) ≠ 0 := by decide
  rw [wholeSeconds, wholeSeconds, Int.add_mul_ediv_right t k hne, Int.add_mul]

/-! ## The store -/

/-- The key belongs to the certificate, and is left out. -/
structure CertStore (CA Key : Type) where
  cert : WorkloadCert CA Key
  notAfter : SystemTime
  totalTtl : Duration

/-- `CertStore::new` and `update`, with the dates of the certificate. -/
def CertStore.ofCert (cert : WorkloadCert CA Key) : CertStore CA Key :=
  let (notBefore, notAfter) := certValidity cert
  { cert, notAfter, totalTtl := durationSince notAfter notBefore (3600 * nanosPerSec) }

@[simp] theorem CertStore.ofCert_cert (cert : WorkloadCert CA Key) :
    (CertStore.ofCert cert).cert = cert := rfl

/-! ## The delay -/

/-- Ten seconds. -/
def minDelay : Duration := 10 * nanosPerSec

def nextRenewalDelay (notAfter : SystemTime) (totalTtl : Duration) (now : SystemTime) : Duration :=
  let remaining := durationSince notAfter now 0
  if remaining = 0 then minDelay
  else
    let ttl := if totalTtl = 0 then remaining else totalTtl
    -- Renew at 70% of TTL (i.e. 30% before expiry)
    let renewOffset := ttl * 30 / 100
    let renewAt := notAfter - renewOffset
    let delay := durationSince renewAt now 0
    if delay < minDelay then minDelay else delay

theorem toNat_durationSince (t earlier : SystemTime) :
    durationSince t earlier 0 = (t - earlier).toNat := by
  unfold durationSince
  split
  · rfl
  next hlate => exact (Int.toNat_of_nonpos (by linarith)).symm

theorem le_ite_lt (a b : Duration) : a ≤ if b < a then a else b := by
  split
  · exact Nat.le_refl a
  next hlong => exact Nat.le_of_not_lt hlong

theorem minDelay_le (notAfter : SystemTime) (totalTtl : Duration) (now : SystemTime) :
    minDelay ≤ nextRenewalDelay notAfter totalTtl now := by
  unfold nextRenewalDelay
  dsimp only
  split
  · exact Nat.le_refl minDelay
  · exact le_ite_lt _ _

/-- The next attempt is ten seconds away, or begins when 30% of the time are left. -/
theorem wakes_in_time {totalTtl : Duration} (httl : totalTtl ≠ 0) (notAfter now : SystemTime) :
    now + nextRenewalDelay notAfter totalTtl now ≤ now + minDelay ∨
      now + nextRenewalDelay notAfter totalTtl now ≤ notAfter - (totalTtl * 30 / 100 : Nat) := by
  unfold nextRenewalDelay
  simp only [if_neg httl, toNat_durationSince]
  split
  · exact Or.inl le_rfl
  split
  · exact Or.inl le_rfl
  next hlong =>
    have hpos : 0 < (notAfter - (totalTtl * 30 / 100 : Nat) - now).toNat :=
      lt_of_lt_of_le (by decide) (not_lt.mp hlong)
    have hleft := Int.toNat_of_nonneg (Int.lt_toNat.mp hpos).le
    right
    rw [hleft]
    linarith

/-! ## The answer -/

/-- What the two programs use of the PEM library: the first certificate of a text. -/
abbrev PemCerts (D : Type) := String → Option D

def caPemEqual {D : Type} [DecidableEq D] (pemCertToDer : PemCerts D) (a b : String) : Bool :=
  match pemCertToDer a, pemCertToDer b with
  | some a, some b => a = b
  | _, _ => false

def extractSpiffeId (N : NetUrl) (cert : WorkloadCert CA Key) : Except String String :=
  match (cert.uris.map N.string).filter fun uri => "spiffe://".toList.isPrefixOf uri.toList with
  | [uri] => .ok uri
  | uris => .error ("certificate must contain exactly one SPIFFE URI SAN, found " ++
      toString uris.length)

structure EnrollResult (CA Key : Type) where
  cert : WorkloadCert CA Key
  caPem : String
  spiffeId : String

/-- What `renew` makes of the controller's answer. -/
def renewed {D : Type} [DecidableEq D] (pemCertToDer : PemCerts D) (N : NetUrl) (caPem : String)
    (resp : EnrollResponse CA Key) : Except String (EnrollResult CA Key) :=
  if resp.caCertificate = "" then .error "empty CA certificate in renewal response"
  else if !caPemEqual pemCertToDer caPem resp.caCertificate then
    .error "internal CA mismatch during renewal"
  else do
    let spiffeId ← extractSpiffeId N resp.certificate
    .ok { cert := resp.certificate, caPem := resp.caCertificate, spiffeId }

/-- What `enroll` makes of it. -/
def enrolled (N : NetUrl) (resp : EnrollResponse CA Key) : Except String (EnrollResult CA Key) :=
  if resp.caCertificate = "" then .error "controller returned empty CA certificate"
  else do
    let spiffeId ← extractSpiffeId N resp.certificate
    .ok { cert := resp.certificate, caPem := resp.caCertificate, spiffeId }

theorem caPemEqual_iff {D : Type} [DecidableEq D] {pemCertToDer : PemCerts D} {a b : String} :
    caPemEqual pemCertToDer a b = true ↔ ∃ d, pemCertToDer a = some d ∧ pemCertToDer b = some d := by
  unfold caPemEqual
  split
  next x y hx hy => simp [hx, hy, eq_comm]
  next hnone =>
    simp only [Bool.false_eq_true, false_iff, not_exists, not_and]
    intro d ha hb
    exact hnone d d ha hb

theorem renewed_ok {D : Type} [DecidableEq D] {pemCertToDer : PemCerts D} {N : NetUrl}
    {caPem : String} {resp : EnrollResponse CA Key} {r : EnrollResult CA Key}
    (h : renewed pemCertToDer N caPem resp = .ok r) :
    (∃ d, pemCertToDer caPem = some d ∧ pemCertToDer resp.caCertificate = some d) ∧
      extractSpiffeId N resp.certificate = .ok r.spiffeId ∧
      r.cert = resp.certificate ∧ r.caPem = resp.caCertificate := by
  unfold renewed at h
  split at h
  · cases h
  split at h
  · cases h
  next hequal =>
    cases hid : extractSpiffeId N resp.certificate with
    | error e =>
        rw [hid] at h
        cases h
    | ok spiffeId =>
        rw [hid] at h
        cases h
        refine ⟨caPemEqual_iff.mp ?_, rfl, rfl, rfl⟩
        simpa using hequal

theorem enrolled_ok {N : NetUrl} {resp : EnrollResponse CA Key} {r : EnrollResult CA Key}
    (h : enrolled N resp = .ok r) :
    extractSpiffeId N resp.certificate = .ok r.spiffeId ∧
      r.cert = resp.certificate ∧ r.caPem = resp.caCertificate := by
  unfold enrolled at h
  split at h
  · cases h
  cases hid : extractSpiffeId N resp.certificate with
  | error e =>
      rw [hid] at h
      cases h
  | ok spiffeId =>
      rw [hid] at h
      cases h
      exact ⟨rfl, rfl, rfl⟩

end ZeroTrust.Connector.CertRenewal
