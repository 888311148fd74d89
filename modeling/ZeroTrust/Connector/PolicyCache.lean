/-
# `ZeroTrust.Connector.PolicyCache` — the connector's policy decision point

`policy/cache.rs`: the indexes a snapshot is turned into, the check of its
signature, and the decision.  A cache is the triple of the source's struct: the
indexes behind one lock (`Inner`), the signing key behind another, and the stale
grace; each operation holds a lock for its whole effect, so an operation is one
step of a cache value.

The wall clock is an argument.  `valid_until + stale_grace` panics when it
overflows; the two operations that compute it answer `none` there.  A panic in
`replace_snapshot` unwinds the connector's main task and ends the process.

`Libraries` holds what is not in the repository: IP address and network
parsing, HMAC-SHA256, the Unicode tables.
-/
import Mathlib.Data.List.AList
import Mathlib.Data.Finset.Insert
import ZeroTrust.Clock
import ZeroTrust.Connector.Types

namespace ZeroTrust.Connector

open Lib (hexEncode hexDecode)

structure Libraries where
  unicode : UnicodeData
  IpAddr : Type
  decEqIpAddr : DecidableEq IpAddr
  /-- `str::parse::<IpAddr>`. -/
  parseIpAddr : String → Option IpAddr
  parseIpAddr_empty : parseIpAddr "" = none
  IpNet : Type
  /-- `str::parse::<IpNet>`. -/
  parseIpNet : String → Option IpNet
  /-- `IpNet::contains`. -/
  contains : IpNet → IpAddr → Bool
  hmacSha256 : List UInt8 → ByteArray → List UInt8

instance (L : Libraries) : DecidableEq L.IpAddr := L.decEqIpAddr

/-- The libraries as they answer where no text is an IP address or a network and
one digest is asked for. -/
def Libraries.recorded (digest : List UInt8) : Libraries where
  unicode := .ascii
  IpAddr := UInt32
  decEqIpAddr := inferInstance
  parseIpAddr := fun _ => none
  parseIpAddr_empty := rfl
  IpNet := UInt32 × UInt8
  parseIpNet := fun _ => none
  contains := fun net ip => decide (net.1 = ip)
  hmacSha256 := fun _ _ => digest

/-- The indexes.  `aclTable` holds the keys `identity::resource_id`. -/
structure Inner (L : Libraries) where
  byId : AList fun _ : String => PolicyResource
  byDns : AList fun _ : String => List String
  byIp : AList fun _ : L.IpAddr => List String
  cidrList : List (L.IpNet × List String)
  internetIds : List String
  aclTable : Finset String
  validUntil : Option SystemTime
  hasSnapshot : Bool

def Inner.default (L : Libraries) : Inner L where
  byId := ∅
  byDns := ∅
  byIp := ∅
  cidrList := []
  internetIds := []
  aclTable := ∅
  validUntil := none
  hasSnapshot := false

structure PolicyCache (L : Libraries) where
  inner : Inner L
  signingKey : List UInt8
  staleGrace : Duration

variable {L : Libraries}

/-- `s.trim().to_lowercase()`: how addresses, types and destinations are compared. -/
def normalize (L : Libraries) (s : String) : String := L.unicode.toLowercase (trim s)

def PolicyCache.new (L : Libraries) (signingKey : List UInt8) (staleGrace : Duration) :
    PolicyCache L :=
  { inner := .default L, signingKey, staleGrace }

namespace PolicyCache

def setSigningKey (c : PolicyCache L) (key : List UInt8) : PolicyCache L :=
  if key.isEmpty then { c with signingKey := [] } else { c with signingKey := key }

def clear (c : PolicyCache L) : PolicyCache L := { c with inner := .default L }

/-! ## The signature -/

/-- The byte-wise comparison that does not stop at the first difference. -/
def constantTimeEq (provided want : List UInt8) : Bool :=
  if provided.length ≠ want.length then false
  else (provided.zip want).foldl (fun diff ab => diff ||| (ab.1 ^^^ ab.2)) 0 = 0

/-- The snapshot without its signature: what is signed. -/
def unsigned (snap : PolicySnapshot) : PolicySnapshot :=
  { snap with snapshotMeta := { snap.snapshotMeta with signature := "" } }

/-- The signature's bytes: blanks and an optional `sha256:` stripped, then hex. -/
def providedSignature (snap : PolicySnapshot) : Option (List UInt8) :=
  hexDecode (dropLeading "sha256:" (trim snap.snapshotMeta.signature)).toList

def verifySnapshot (c : PolicyCache L) (snap : PolicySnapshot) : Bool :=
  if c.signingKey.isEmpty then false
  else
    let computed := hexEncode (L.hmacSha256 c.signingKey (toVec (unsigned snap)))
    match providedSignature snap, hexDecode computed with
    | some provided, some want => constantTimeEq provided want
    | _, _ => false

/-! ## Indexing a snapshot -/

/-- `entry(k).or_default().push(v)`. -/
def pushEntry {κ : Type} [DecidableEq κ] (m : AList fun _ : κ => List String) (k : κ)
    (v : String) : AList fun _ : κ => List String :=
  m.insert k ((m.lookup k).getD [] ++ [v])

/-- `format!("{}::{}", identity, resource_id)`. -/
def aclKey (identity resourceId : String) : String := identity ++ "::" ++ resourceId

/-- The three ways a resource's type decides its index. -/
def indexAddress (w : Inner L) (res : PolicyResource) : Inner L :=
  let addr := normalize L res.address
  let resourceType := normalize L res.resourceType
  if resourceType = "internet" then
    { w with internetIds := w.internetIds ++ [res.resourceId] }
  else if resourceType = "cidr" then
    match L.parseIpNet addr with
    | some net => { w with cidrList := w.cidrList ++ [(net, [res.resourceId])] }
    | none => w
  else if addr.isEmpty then w
  else
    let w := { w with byDns := pushEntry w.byDns addr res.resourceId }
    match L.parseIpAddr addr with
    | some ip => { w with byIp := pushEntry w.byIp ip res.resourceId }
    | none => w

/-- One round of the loop over `snap.resources`. -/
def indexResource (w : Inner L) (res : PolicyResource) : Inner L :=
  let w := { w with byId := w.byId.insert res.resourceId res }
  let w := indexAddress w res
  res.allowedIdentities.foldl
    (fun w identity =>
      if identity.isEmpty then w
      else { w with aclTable := insert (aclKey identity res.resourceId) w.aclTable })
    w

/-- The indexes of an accepted snapshot. -/
def indexSnapshot (L : Libraries) (snap : PolicySnapshot) (validUntil : SystemTime) : Inner L :=
  snap.resources.foldl indexResource
    { Inner.default L with validUntil := some validUntil, hasSnapshot := true }

/-- `none` is the panic in `valid_until + stale_grace`. -/
def replaceSnapshot (c : PolicyCache L) (snap : PolicySnapshot) (now : SystemTime) :
    Option (PolicyCache L × Bool) :=
  if !c.verifySnapshot snap then some (c.clear, false)
  else
    match parseRfc3339 snap.snapshotMeta.validUntil with
    | none => some (c.clear, false)
    | some validUntil =>
        match addDuration validUntil c.staleGrace with
        | none => none
        | some expiry =>
            if now > expiry then some (c.clear, false)
            else some ({ c with inner := indexSnapshot L snap validUntil }, true)

/-! ## The decision -/

def portMatches (res : PolicyResource) (port : UInt16) : Bool :=
  match res.portFrom, res.portTo with
  | none, none => res.port = 0 || port = res.port
  | portFrom, portTo =>
      let start := portFrom.getD 0
      let stop := portTo.getD start
      if start = 0 && stop = 0 then true
      else
        let stop := if stop = 0 then start else stop
        port ≥ start && port ≤ stop

/-- The ids indexed under an IP destination and under the networks around it. -/
def idsByAddress (r : Inner L) (key : String) : List String :=
  match L.parseIpAddr key with
  | some ip =>
      (r.byIp.lookup ip).getD [] ++
        r.cidrList.flatMap fun entry => if L.contains entry.1 ip then entry.2 else []
  | none => []

/-- The ids to consider for a destination: by address and network, else by name,
else the internet resources. -/
def resourceIdsFor (r : Inner L) (dest : String) : List String :=
  let key := normalize L dest
  let resourceIds := idsByAddress r key
  let resourceIds :=
    if resourceIds.isEmpty && !key.isEmpty then (r.byDns.lookup key).getD [] else resourceIds
  if resourceIds.isEmpty && !r.internetIds.isEmpty then r.internetIds else resourceIds

/-- Does this resource admit the protocol and the port? -/
def resourceMatches (res : PolicyResource) (protocol : String) (port : UInt16) : Bool :=
  (res.protocol.isEmpty || protocol.isEmpty || eqIgnoreAsciiCase res.protocol protocol) &&
    portMatches res port

/-- The loop over the ids: the first one not seen before whose resource matches
and whose ACL entry is there. -/
def firstAllowed (r : Inner L) (identityId protocol : String) (port : UInt16) :
    Finset String → List String → Option String
  | _, [] => none
  | seen, id :: ids =>
      if id ∈ seen then firstAllowed r identityId protocol port seen ids
      else
        match r.byId.lookup id with
        | none => firstAllowed r identityId protocol port (insert id seen) ids
        | some res =>
            if resourceMatches res protocol port && aclKey identityId id ∈ r.aclTable then some id
            else firstAllowed r identityId protocol port (insert id seen) ids

/-- The decision on the indexes of a snapshot that is still valid. -/
def decideOn (r : Inner L) (identityId dest protocol : String) (port : UInt16) :
    Bool × String × String :=
  let resourceIds := resourceIdsFor r dest
  if resourceIds.isEmpty then (false, "", "resource_not_found")
  else
    match firstAllowed r identityId protocol port ∅ resourceIds with
    | some id => (true, id, "allowed")
    | none => (false, "", "not_allowed")

/-- Answers (allowed, resource_id, reason); `none` is the panic in
`valid_until + stale_grace`. -/
def allowed (c : PolicyCache L) (identityId dest protocol : String) (port : UInt16)
    (now : SystemTime) : Option (Bool × String × String) :=
  if !c.inner.hasSnapshot then some (false, "", "no_snapshot")
  else
    match c.inner.validUntil with
    | none => some (decideOn c.inner identityId dest protocol port)
    | some validUntil =>
        match addDuration validUntil c.staleGrace with
        | none => none
        | some expiry =>
            if now > expiry then some (false, "", "snapshot_expired")
            else some (decideOn c.inner identityId dest protocol port)

/-! ## What an operation can do -/

/-- A snapshot is accepted: its signature verifies, its expiry parses and, with
the grace, is not past. -/
structure Accepts (c : PolicyCache L) (snap : PolicySnapshot) (now : SystemTime)
    (validUntil : SystemTime) : Prop where
  verified : c.verifySnapshot snap = true
  parsed : parseRfc3339 snap.snapshotMeta.validUntil = some validUntil
  fits : addDuration validUntil c.staleGrace = some (validUntil + c.staleGrace)
  current : now ≤ validUntil + c.staleGrace

theorem replaceSnapshot_cases {c c' : PolicyCache L} {snap : PolicySnapshot} {now : SystemTime}
    {accepted : Bool} (h : c.replaceSnapshot snap now = some (c', accepted)) :
    (accepted = false ∧ c' = c.clear) ∨
    (accepted = true ∧ ∃ validUntil, c.Accepts snap now validUntil ∧
      c' = { c with inner := indexSnapshot L snap validUntil }) := by
  have rejected : some (c.clear, false) = some (c', accepted) →
      accepted = false ∧ c' = c.clear := by
    intro h
    cases h
    exact ⟨rfl, rfl⟩
  unfold replaceSnapshot at h
  split at h
  · exact Or.inl (rejected h)
  next hverified =>
    split at h
    · exact Or.inl (rejected h)
    next validUntil hparsed =>
      split at h
      · cases h
      next expiry hexpiry =>
        obtain rfl := addDuration_eq_some hexpiry
        split at h
        · exact Or.inl (rejected h)
        next hnow =>
          cases h
          exact Or.inr ⟨rfl, validUntil,
            ⟨by simpa using hverified, hparsed, hexpiry, Int.not_lt.mp hnow⟩, rfl⟩

theorem replaceSnapshot_of_accepts {c : PolicyCache L} {snap : PolicySnapshot}
    {now validUntil : SystemTime} (h : c.Accepts snap now validUntil) :
    c.replaceSnapshot snap now =
      some ({ c with inner := indexSnapshot L snap validUntil }, true) := by
  have hlate : ¬ now > validUntil + c.staleGrace := Int.not_lt.mpr h.current
  simp only [replaceSnapshot, h.verified, h.parsed, h.fits, if_neg hlate, Bool.not_true,
    Bool.false_eq_true, if_false]

/-- A positive answer comes from the indexes of a snapshot that has not expired. -/
theorem allowed_eq_true {c : PolicyCache L} {identity dest protocol rid reason : String}
    {port : UInt16} {now : SystemTime}
    (h : c.allowed identity dest protocol port now = some (true, rid, reason)) :
    c.inner.hasSnapshot = true ∧
      (∀ validUntil, c.inner.validUntil = some validUntil → now ≤ validUntil + c.staleGrace) ∧
      decideOn c.inner identity dest protocol port = (true, rid, reason) := by
  unfold allowed at h
  split at h
  · cases h
  next hsnap =>
    refine ⟨by simpa using hsnap, ?_⟩
    split at h
    next hnone => exact ⟨by simp [hnone], Option.some.inj h⟩
    next validUntil hsome =>
      split at h
      · cases h
      next expiry hexpiry =>
        obtain rfl := addDuration_eq_some hexpiry
        split at h
        · cases h
        next hnow =>
          refine ⟨?_, Option.some.inj h⟩
          intro t ht
          rw [hsome, Option.some.injEq] at ht
          exact ht ▸ Int.not_lt.mp hnow

end PolicyCache

end ZeroTrust.Connector
