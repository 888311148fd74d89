/-
# `ZeroTrust.Connector.AclKeys` — one string for an identity and a resource

The cache keeps the pairs of a snapshot, who may use what, as joined keys
`identity::resource_id`, and a decision looks the caller's key up.  Joining is not
injective: the identity `a::b` on the resource `c` and the identity `a` on the resource
`b::c` have one key.  `Decision` shows that plain identities are safe; here nothing is
assumed of the strings.

    `Collides`         the caller's key is another pair's
    `decideOn_first`   the resource that is named is the first one with its key listed
    `namesGrant_iff`   every allow decision names a resource that lists the caller iff no
                       resource whose key collides comes before all that do list the caller
-/
import ZeroTrust.Connector.Decision

namespace ZeroTrust.Connector

open PolicyCache

variable {L : Libraries}

/-! ## Colliding keys -/

/-- The key of the pair is in the ACL table of the resources. -/
def KeyListed (resources : List PolicyResource) (identity : String) (r : PolicyResource) : Prop :=
  ∃ s ∈ resources, ∃ i ∈ s.allowedIdentities, i ≠ "" ∧
    aclKey identity r.resourceId = aclKey i s.resourceId

/-- The resource does not list the caller, but some resource lists an identity with the
same key. -/
structure Collides (resources : List PolicyResource) (identity : String) (r : PolicyResource) :
    Prop where
  unlisted : identity ∉ r.allowedIdentities
  listed : KeyListed resources identity r

/-- The resource lists the caller, and the key is there. -/
structure ListsCaller (resources : List PolicyResource) (identity : String)
    (r : PolicyResource) : Prop where
  member : identity ∈ r.allowedIdentities
  listed : KeyListed resources identity r

/-- Only the empty identity has no key. -/
theorem listsCaller_iff {resources : List PolicyResource} {identity : String}
    {r : PolicyResource} (hr : r ∈ resources) (hid : identity ≠ "") :
    ListsCaller resources identity r ↔ identity ∈ r.allowedIdentities :=
  ⟨ListsCaller.member, fun hmem => ⟨hmem, r, hr, identity, hmem, hid, rfl⟩⟩

/-- Among the candidates that match the protocol and the port, every one whose key collides
comes after one that lists the caller. -/
def NoFalseKey (resources candidates : List PolicyResource) (identity protocol : String)
    (port : UInt16) : Prop :=
  ∀ before r after, candidates = before ++ r :: after →
    resourceMatches r protocol port = true → Collides resources identity r →
    ∃ q ∈ before, resourceMatches q protocol port = true ∧ ListsCaller resources identity q

/-- Whenever the answer is yes, the resource named lists the caller. -/
def NamesGrant (c : PolicyCache L) (snap : PolicySnapshot) (identity dest protocol : String)
    (port : UInt16) : Prop :=
  ∀ now rid reason, c.allowed identity dest protocol port now = some (true, rid, reason) →
    ∃ r ∈ snap.resources, r.resourceId = rid ∧ identity ∈ r.allowedIdentities

/-! ## Decisions on an accepted snapshot -/

section Accepted

variable {snap : PolicySnapshot} {identity dest protocol : String} {port : UInt16}

theorem admits_indexSnapshot {validUntil : SystemTime}
    (hnodup : (snap.resources.map PolicyResource.resourceId).Nodup) {r : PolicyResource}
    (hr : r ∈ snap.resources) :
    Admits (indexSnapshot L snap validUntil) identity protocol port r.resourceId ↔
      resourceMatches r protocol port = true ∧ KeyListed snap.resources identity r := by
  have hkey : aclKey identity r.resourceId ∈ (indexSnapshot L snap validUntil).aclTable ↔
      KeyListed snap.resources identity r := by
    rw [indexSnapshot, mem_aclTable_index]
    simp [Inner.default, KeyListed]
  unfold Admits
  rw [hkey]
  constructor
  · rintro ⟨res, hres, hmatch, hlisted⟩
    rw [indexSnapshot, byId_index hnodup r hr, Option.some.injEq] at hres
    exact ⟨hres ▸ hmatch, hlisted⟩
  · rintro ⟨hmatch, hlisted⟩
    exact ⟨r, byId_index hnodup r hr, hmatch, hlisted⟩

/-- A yes names the first candidate that matches and has its key listed. -/
theorem decideOn_first {validUntil : SystemTime}
    (hnodup : (snap.resources.map PolicyResource.resourceId).Nodup) {rid reason : String}
    (h : decideOn (indexSnapshot L snap validUntil) identity dest protocol port =
      (true, rid, reason)) :
    ∃ before r after, candidates L snap.resources dest = before ++ r :: after ∧
      r.resourceId = rid ∧ resourceMatches r protocol port = true ∧
      KeyListed snap.resources identity r ∧
      ∀ q ∈ before, resourceMatches q protocol port = true →
        ¬ KeyListed snap.resources identity q := by
  have hids : resourceIdsFor (indexSnapshot L snap validUntil) dest =
      (candidates L snap.resources dest).map PolicyResource.resourceId :=
    resourceIdsFor_index snap.resources _ rfl rfl rfl rfl dest
  obtain ⟨idsBefore, idsAfter, hsplit, hadmits, hfirst⟩ := decideOn_yes h
  rw [hids] at hsplit
  obtain ⟨before, rest, hcandidates, hbefore, hrest⟩ := List.map_eq_append_iff.mp hsplit
  obtain ⟨r, after, rfl, hid, -⟩ := List.map_eq_cons_iff.mp hrest
  have hmem : ∀ q ∈ before ++ r :: after, q ∈ snap.resources := by
    rw [← hcandidates]
    exact candidates_subset _ _
  have hr : r ∈ snap.resources := hmem r (by simp)
  rw [← hid, admits_indexSnapshot hnodup hr] at hadmits
  refine ⟨before, r, after, hcandidates, hid, hadmits.1, hadmits.2, ?_⟩
  intro q hq hmatch hlisted
  have hidq : q.resourceId ∈ idsBefore := hbefore ▸ List.mem_map_of_mem hq
  refine hfirst _ hidq ((admits_indexSnapshot hnodup (hmem q ?_)).mpr ⟨hmatch, hlisted⟩)
  exact List.mem_append_left _ hq

/-- Of two places in one list, an element before the one is before the other, or after it. -/
theorem mem_before_of_split {α : Type} {before after before' after' : List α} {a b : α}
    (h : before ++ a :: after = before' ++ b :: after') (hne : a ≠ b) :
    a ∈ before' ∨ b ∈ before := by
  rcases List.append_eq_append_iff.mp h with ⟨l, rfl, hrest⟩ | ⟨l, rfl, hrest⟩
  · cases l with
    | nil => exact absurd (List.cons.inj hrest).1 hne
    | cons x l =>
        obtain ⟨rfl, -⟩ := List.cons.inj hrest
        exact Or.inl (by simp)
  · cases l with
    | nil => exact absurd (List.cons.inj hrest).1.symm hne
    | cons x l =>
        obtain ⟨rfl, -⟩ := List.cons.inj hrest
        exact Or.inr (by simp)

theorem decideOn_of_candidate (validUntil : SystemTime)
    (hnodup : (snap.resources.map PolicyResource.resourceId).Nodup) {r : PolicyResource}
    (hr : r ∈ candidates L snap.resources dest) (hmatch : resourceMatches r protocol port = true)
    (hlisted : KeyListed snap.resources identity r) :
    ∃ rid reason, decideOn (indexSnapshot L snap validUntil) identity dest protocol port =
      (true, rid, reason) := by
  have hids : resourceIdsFor (indexSnapshot L snap validUntil) dest =
      (candidates L snap.resources dest).map PolicyResource.resourceId :=
    resourceIdsFor_index snap.resources _ rfl rfl rfl rfl dest
  have hadmits : Admits (indexSnapshot L snap validUntil) identity protocol port r.resourceId :=
    (admits_indexSnapshot hnodup (candidates_subset _ _ r hr)).mpr ⟨hmatch, hlisted⟩
  have hyes :
      (decideOn (indexSnapshot L snap validUntil) identity dest protocol port).1 = true := by
    rw [decideOn_eq_true, hids]
    exact ⟨_, List.mem_map_of_mem hr, hadmits⟩
  exact ⟨_, _, Prod.ext hyes rfl⟩

end Accepted

/-- **Soundness of the joined keys**, for all identities and resource ids: after a snapshot
with distinct ids was accepted, an allow decision always names a resource that lists the
caller iff no false key comes first. -/
theorem namesGrant_iff (c c' : PolicyCache L) (snap : PolicySnapshot) (received : SystemTime)
    (haccepted : c.replaceSnapshot snap received = some (c', true))
    (hnodup : (snap.resources.map PolicyResource.resourceId).Nodup)
    (identity dest protocol : String) (port : UInt16) :
    NamesGrant c' snap identity dest protocol port ↔
      NoFalseKey snap.resources (candidates L snap.resources dest) identity protocol port := by
  rcases replaceSnapshot_cases haccepted with ⟨hfalse, -⟩ | ⟨-, validUntil, haccepts, rfl⟩
  · cases hfalse
  have hsame : ∀ r ∈ snap.resources, ∀ s ∈ snap.resources, r.resourceId = s.resourceId → r = s :=
    fun r hr s hs => List.inj_on_of_nodup_map hnodup hr hs
  constructor
  · intro hnames before r after hsplit hmatch hcollides
    have hr : r ∈ candidates L snap.resources dest := by
      rw [hsplit]
      simp
    obtain ⟨rid, reason, hyes⟩ :=
      decideOn_of_candidate validUntil hnodup hr hmatch hcollides.listed
    obtain ⟨before', f, after', hsplit', hid, hmatch', hlisted', hfirst⟩ :=
      decideOn_first hnodup hyes
    have hnow : ¬ received > validUntil + c.staleGrace := Int.not_lt.mpr haccepts.current
    have hallowed : ({ c with inner := indexSnapshot L snap validUntil } :
        PolicyCache L).allowed identity dest protocol port received = some (true, rid, reason) := by
      simp only [allowed, hasSnapshot_indexSnapshot, validUntil_indexSnapshot, haccepts.fits,
        if_neg hnow, hyes, Bool.not_true, Bool.false_eq_true, if_false]
    obtain ⟨g, hg, hgid, hmember⟩ := hnames received rid reason hallowed
    have hf : f ∈ snap.resources := candidates_subset snap.resources dest f (by
      rw [hsplit']
      simp)
    obtain rfl := hsame g hg f hf (hgid.trans hid.symm)
    have hne : r ≠ g := by
      rintro rfl
      exact hcollides.unlisted hmember
    rcases mem_before_of_split (hsplit.symm.trans hsplit') hne with hbefore | hbefore
    · exact absurd hcollides.listed (hfirst r hbefore hmatch)
    · exact ⟨g, hbefore, hmatch', hmember, hlisted'⟩
  · intro hno now rid reason hallowed
    obtain ⟨-, -, hyes⟩ := allowed_eq_true hallowed
    obtain ⟨before, r, after, hsplit, hid, hmatch, hlisted, hfirst⟩ := decideOn_first hnodup hyes
    have hr : r ∈ snap.resources := candidates_subset snap.resources dest r (by
      rw [hsplit]
      simp)
    refine ⟨r, hr, hid, ?_⟩
    by_contra hunlisted
    obtain ⟨q, hq, hqmatch, hqlists⟩ := hno before r after hsplit hmatch ⟨hunlisted, hlisted⟩
    exact hfirst q hq hqmatch hqlists.listed

/-- Plain identities do not collide. -/
theorem not_collides_of_plain {resources : List PolicyResource} {identity : String}
    (hnodup : (resources.map PolicyResource.resourceId).Nodup)
    (hplain : ∀ r ∈ resources, ∀ i ∈ r.allowedIdentities, PlainIdentity i)
    (hidentity : PlainIdentity identity) {r : PolicyResource} (hr : r ∈ resources) :
    ¬ Collides resources identity r := by
  rintro ⟨hunlisted, s, hs, i, hi, -, hkey⟩
  obtain ⟨rfl, hid⟩ := aclKey_injective hidentity (hplain s hs i hi) hkey
  obtain rfl := List.inj_on_of_nodup_map hnodup hr hs hid
  exact hunlisted hi

/-! ## An identity with a colon -/

/-- A host that everybody reaches at every port. -/
def hostResource : PolicyResource where
  resourceId := ""
  resourceType := "dns"
  address := ""
  port := 0
  protocol := "TCP"
  portFrom := none
  portTo := none
  allowedIdentities := []
  firewallStatus := "unprotected"

/-- `a::b` may use `c`; nobody called `a` may use anything. -/
def joinedSnapshot : PolicySnapshot where
  snapshotMeta := {
    connectorId := "con_1"
    policyVersion := 1
    compiledAt := "2025-01-01T00:00:00Z"
    validUntil := "2025-01-01T00:10:00Z"
    signature := "f3f405c02867c9c7637bb07208803b83c2d2b0dcd4539432162052c511388e9b" }
  resources := [
    { hostResource with resourceId := "c", address := "c.internal", allowedIdentities := ["a::b"] },
    { hostResource with resourceId := "b::c", address := "db.internal", allowedIdentities := [] }]

/-- HMAC-SHA256 of `joinedSnapshot` without its signature, under the key `k`. -/
def joinedDigest : List UInt8 :=
  [243, 244, 5, 192, 40, 103, 201, 199, 99, 123, 176, 114, 8, 128, 59, 131, 194,
    210, 176, 220, 212, 83, 148, 50, 22, 32, 82, 197, 17, 56, 142, 155]

def joinedCache : PolicyCache (.recorded joinedDigest) := new _ [107] (300 * nanosPerSec)

/-- `joinedCache` once `joinedSnapshot` was accepted. -/
def joinedCacheLoaded : PolicyCache (.recorded joinedDigest) :=
  { joinedCache with inner := indexSnapshot _ joinedSnapshot (1735690200 * nanosPerSec) }

theorem replaceSnapshot_joinedSnapshot :
    joinedCache.replaceSnapshot joinedSnapshot (1735689600 * nanosPerSec) =
      some (joinedCacheLoaded, true) :=
  replaceSnapshot_of_accepts ⟨by decide, by decide, by decide, by decide⟩

theorem listed_identity_named :
    NamesGrant joinedCacheLoaded joinedSnapshot "a::b" "c.internal" "tcp" 5432 := by
  refine (namesGrant_iff joinedCache joinedCacheLoaded joinedSnapshot (1735689600 * nanosPerSec)
    replaceSnapshot_joinedSnapshot (by decide) "a::b" "c.internal" "tcp" 5432).mpr ?_
  have hlist : ∀ r ∈ candidates (.recorded joinedDigest) joinedSnapshot.resources "c.internal",
      "a::b" ∈ r.allowedIdentities := by decide
  intro before r after hsplit _ hcollides
  exact absurd (hlist r (by simp [hsplit])) hcollides.unlisted

/-- The caller `a` is let through to `b::c`, which lists nobody. -/
theorem joined_key_admits :
    joinedCache.replaceSnapshot joinedSnapshot (1735689600 * nanosPerSec) =
        some (joinedCacheLoaded, true) ∧
      joinedCacheLoaded.allowed "a" "db.internal" "tcp" 5432 (1735690000 * nanosPerSec) =
        some (true, "b::c", "allowed") ∧
      ¬ NamesGrant joinedCacheLoaded joinedSnapshot "a" "db.internal" "tcp" 5432 := by
  have hallowed : joinedCacheLoaded.allowed "a" "db.internal" "tcp" 5432
      (1735690000 * nanosPerSec) = some (true, "b::c", "allowed") := by decide
  refine ⟨replaceSnapshot_joinedSnapshot, hallowed, fun hnames => ?_⟩
  have hlists := hnames _ _ _ hallowed
  revert hlists
  decide

end ZeroTrust.Connector
