/-
# `ZeroTrust.Connector.FailClosed` — no policy, no access

A cache starts without a policy, its key may change at any time, snapshots
arrive in any order, signed or forged, early or late, and queries come in
between.  The result is about all such runs: a query is answered yes only by the
snapshot of the *last* `replace_snapshot`, and only if that call accepted it.

    `verifySnapshot_iff`    a snapshot verifies iff it carries the HMAC of its
                            signature-less form under a non-empty key
    `Reflects`              the indexes are those the last `replace_snapshot` left
    `allowed_isSome`        a query never panics
    `allowed_only_accepted` fail-closed, over whole runs

`lastReplacement` reads the last `replace_snapshot` off a list of calls, with the
calls before it; what the cache held when that snapshot came in is then the
state after a prefix of the run.
-/
import ZeroTrust.Lib.Run
import ZeroTrust.Connector.Decision

namespace ZeroTrust.Connector

open Lib

variable {L : Libraries}

namespace PolicyCache

/-! ## The signature check -/

theorem foldl_xor_eq_zero (pairs : List (UInt8 × UInt8)) (diff : UInt8) :
    pairs.foldl (fun diff ab => diff ||| (ab.1 ^^^ ab.2)) diff = 0 ↔
      diff = 0 ∧ ∀ ab ∈ pairs, ab.1 = ab.2 := by
  induction pairs generalizing diff with
  | nil => simp
  | cons ab pairs ih =>
      rw [List.foldl_cons, ih, UInt8.or_eq_zero_iff, UInt8.xor_eq_zero_iff, and_assoc,
        List.forall_mem_cons]

theorem zip_all_eq : ∀ {xs ys : List UInt8}, xs.length = ys.length →
    (∀ ab ∈ xs.zip ys, ab.1 = ab.2) → xs = ys
  | [], [], _, _ => rfl
  | x :: xs, y :: ys, hlen, h => by
      rw [List.zip_cons_cons, List.forall_mem_cons] at h
      have hhead : x = y := h.1
      rw [hhead, zip_all_eq (Nat.succ.inj hlen) h.2]

/-- The constant-time comparison is equality. -/
theorem constantTimeEq_iff {xs ys : List UInt8} : constantTimeEq xs ys = true ↔ xs = ys := by
  unfold constantTimeEq
  constructor
  · intro h
    split at h
    · cases h
    next hlen =>
      rw [decide_eq_true_eq, foldl_xor_eq_zero] at h
      exact zip_all_eq (not_not.mp hlen) h.2
  · rintro rfl
    have hzip : ∀ ab ∈ xs.zip xs, ab.1 = ab.2 := by
      rintro ⟨a, b⟩ hab
      rw [List.zip_eq_zipWith, List.zipWith_self, List.mem_map] at hab
      obtain ⟨x, -, hx⟩ := hab
      rw [Prod.mk.injEq] at hx
      exact hx.1.symm.trans hx.2
    rw [if_neg (not_not.mpr rfl), decide_eq_true_eq, foldl_xor_eq_zero]
    exact ⟨rfl, hzip⟩

theorem verifySnapshot_iff {c : PolicyCache L} {snap : PolicySnapshot} :
    c.verifySnapshot snap = true ↔ c.signingKey ≠ [] ∧
      providedSignature snap = some (L.hmacSha256 c.signingKey (toVec (unsigned snap))) := by
  unfold verifySnapshot
  by_cases hkey : c.signingKey = []
  · simp [hkey]
  · have hne : ¬ c.signingKey.isEmpty = true := fun h => hkey (List.isEmpty_iff.mp h)
    simp only [if_neg hne, hexDecode_hexEncode, ne_eq, hkey, not_false_eq_true, true_and]
    cases providedSignature snap with
    | none => simp
    | some provided => simp [constantTimeEq_iff]

/-! ## Runs -/

/-- The calls on a cache. -/
inductive Call where
  | setSigningKey (key : List UInt8)
  | replaceSnapshot (snap : PolicySnapshot) (now : SystemTime)
  | allowed (identity dest protocol : String) (port : UInt16) (now : SystemTime)

/-- `none` is a panic. -/
def step (c : PolicyCache L) : Call → Option (PolicyCache L)
  | .setSigningKey key => some (c.setSigningKey key)
  | .replaceSnapshot snap now => (c.replaceSnapshot snap now).map Prod.fst
  | .allowed identity dest protocol port now =>
      (c.allowed identity dest protocol port now).map fun _ => c

/-- The last `replace_snapshot`: the calls before it, its snapshot and its time. -/
def lastReplacement : List Call → Option (List Call × PolicySnapshot × SystemTime)
  | [] => none
  | call :: calls =>
      match lastReplacement calls with
      | some (before, snap, now) => some (call :: before, snap, now)
      | none =>
          match call with
          | .replaceSnapshot snap now => some ([], snap, now)
          | _ => none

theorem lastReplacement_concat_replaceSnapshot (snap : PolicySnapshot) (now : SystemTime) :
    ∀ calls, lastReplacement (calls ++ [.replaceSnapshot snap now]) = some (calls, snap, now)
  | [] => rfl
  | call :: calls => by
      simp only [List.cons_append, lastReplacement,
        lastReplacement_concat_replaceSnapshot snap now calls]

theorem lastReplacement_concat_other {call : Call}
    (h : ∀ snap now, call ≠ .replaceSnapshot snap now) :
    ∀ calls, lastReplacement (calls ++ [call]) = lastReplacement calls
  | [] => by
      cases call with
      | setSigningKey key => rfl
      | replaceSnapshot snap now => exact absurd rfl (h snap now)
      | allowed => rfl
  | first :: calls => by
      simp only [List.cons_append, lastReplacement, lastReplacement_concat_other h calls]

/-- The indexes after the calls are those the last `replace_snapshot` left. -/
def Reflects (start : PolicyCache L) (calls : List Call) (c : PolicyCache L) : Prop :=
  c.staleGrace = start.staleGrace ∧
    match lastReplacement calls with
    | none => c.inner = start.inner
    | some (before, snap, now) => ∃ c₀ c₁ accepted, run step start before = some c₀ ∧
        c₀.staleGrace = start.staleGrace ∧
        c₀.replaceSnapshot snap now = some (c₁, accepted) ∧ c.inner = c₁.inner

theorem setSigningKey_inner (c : PolicyCache L) (key : List UInt8) :
    (c.setSigningKey key).inner = c.inner ∧ (c.setSigningKey key).staleGrace = c.staleGrace := by
  unfold setSigningKey
  split <;> exact ⟨rfl, rfl⟩

theorem replaceSnapshot_staleGrace {c c' : PolicyCache L} {snap : PolicySnapshot}
    {now : SystemTime} {accepted : Bool} (h : c.replaceSnapshot snap now = some (c', accepted)) :
    c'.staleGrace = c.staleGrace := by
  rcases replaceSnapshot_cases h with ⟨-, rfl⟩ | ⟨-, _, -, rfl⟩ <;> rfl

/-- A call other than `replace_snapshot` keeps what the cache reflects. -/
theorem Reflects.keep {start c c' : PolicyCache L} {calls : List Call} {call : Call}
    (h : Reflects start calls c) (hcall : ∀ snap now, call ≠ .replaceSnapshot snap now)
    (hinner : c'.inner = c.inner) (hgrace : c'.staleGrace = c.staleGrace) :
    Reflects start (calls ++ [call]) c' := by
  unfold Reflects
  rw [lastReplacement_concat_other hcall, hinner, hgrace]
  exact h

theorem reflects_run {start c : PolicyCache L} {calls : List Call}
    (h : run step start calls = some c) : Reflects start calls c := by
  refine run_history ⟨rfl, rfl⟩ ?_ h
  intro calls c call c' hrun hreflects hstep
  cases call with
  | setSigningKey key =>
      obtain rfl := Option.some.inj hstep
      obtain ⟨hinner, hgrace⟩ := setSigningKey_inner c key
      exact hreflects.keep (by simp) hinner hgrace
  | replaceSnapshot snap now =>
      obtain ⟨⟨c₁, accepted⟩, hreplace, rfl⟩ := Option.map_eq_some_iff.mp hstep
      unfold Reflects
      rw [lastReplacement_concat_replaceSnapshot]
      exact ⟨(replaceSnapshot_staleGrace hreplace).trans hreflects.1,
        c, c₁, accepted, hrun, hreflects.1, hreplace, rfl⟩
  | allowed identity dest protocol port now =>
      obtain ⟨-, -, rfl⟩ := Option.map_eq_some_iff.mp hstep
      exact hreflects.keep (by simp) rfl rfl

/-! ## Fail-closed -/

/-- What the indexes hold is nothing, or all and only what one snapshot says,
with an expiry that can be computed. -/
def OfSnapshot (grace : Duration) (inner : Inner L) : Prop :=
  inner = .default L ∨ ∃ snap validUntil, inner = indexSnapshot L snap validUntil ∧
    addDuration validUntil grace = some (validUntil + grace)

theorem replaceSnapshot_ofSnapshot {c c' : PolicyCache L} {snap : PolicySnapshot}
    {now : SystemTime} {accepted : Bool} (h : c.replaceSnapshot snap now = some (c', accepted)) :
    OfSnapshot c.staleGrace c'.inner := by
  rcases replaceSnapshot_cases h with ⟨-, rfl⟩ | ⟨-, validUntil, haccepts, rfl⟩
  · exact Or.inl rfl
  · exact Or.inr ⟨snap, validUntil, rfl, haccepts.fits⟩

theorem Reflects.ofSnapshot {key : List UInt8} {grace : Duration} {c : PolicyCache L}
    {calls : List Call} (h : Reflects (new L key grace) calls c) :
    OfSnapshot grace c.inner := by
  obtain ⟨-, h⟩ := h
  split at h
  · exact Or.inl h
  · obtain ⟨c₀, c₁, accepted, -, hgrace, hreplace, hinner⟩ := h
    have := replaceSnapshot_ofSnapshot hreplace
    rwa [← hinner, hgrace] at this

/-- A query never panics. -/
theorem allowed_isSome {key : List UInt8} {grace : Duration} {c : PolicyCache L}
    {calls : List Call} (h : Reflects (new L key grace) calls c)
    (identity dest protocol : String) (port : UInt16) (now : SystemTime) :
    ∃ ok rid reason, c.allowed identity dest protocol port now = some (ok, rid, reason) := by
  have hgrace : c.staleGrace = grace := h.1
  unfold allowed
  rcases h.ofSnapshot with hdefault | ⟨snap, validUntil, hindex, hfits⟩
  · simp [hdefault, Inner.default]
  · simp only [hindex, hgrace, hasSnapshot_indexSnapshot, validUntil_indexSnapshot, hfits,
      Bool.not_true, Bool.false_eq_true, if_false]
    split
    · exact ⟨_, _, _, rfl⟩
    · exact ⟨_, _, _, rfl⟩

/-- The snapshot was accepted by the cache as it then was: the call returned true,
the signature is the HMAC of the signature-less snapshot under the cache's
non-empty key, and the expiry parsed. -/
structure AcceptedBy (c₀ : PolicyCache L) (snap : PolicySnapshot) (now validUntil : SystemTime) :
    Prop where
  returned : ∃ c₁, c₀.replaceSnapshot snap now = some (c₁, true)
  keyed : c₀.signingKey ≠ []
  signed : providedSignature snap = some (L.hmacSha256 c₀.signingKey (toVec (unsigned snap)))
  parsed : parseRfc3339 snap.snapshotMeta.validUntil = some validUntil

theorem Accepts.acceptedBy {c₀ : PolicyCache L} {snap : PolicySnapshot}
    {now validUntil : SystemTime} (h : c₀.Accepts snap now validUntil) :
    c₀.AcceptedBy snap now validUntil where
  returned := ⟨_, replaceSnapshot_of_accepts h⟩
  keyed := (verifySnapshot_iff.mp h.verified).1
  signed := (verifySnapshot_iff.mp h.verified).2
  parsed := h.parsed

/-- A positive answer from a snapshot's indexes names one of its resources. -/
theorem decideOn_resource {snap : PolicySnapshot} {validUntil : SystemTime}
    {identity dest protocol rid reason : String} {port : UInt16}
    (h : decideOn (indexSnapshot L snap validUntil) identity dest protocol port =
      (true, rid, reason)) :
    ∃ r ∈ snap.resources, r.resourceId = rid := by
  obtain ⟨hmem, -⟩ := decideOn_id h
  rw [indexSnapshot, resourceIdsFor_index snap.resources _ rfl rfl rfl rfl dest] at hmem
  obtain ⟨r, hr, hrid⟩ := List.mem_map.mp hmem
  exact ⟨r, candidates_subset _ _ r hr, hrid⟩

/-- **Fail-closed.**  After any calls, a query is answered; it is answered yes only
if there was a `replace_snapshot`, the last one accepted its snapshot under the key
then set, the indexes are those of that snapshot alone, its expiry with the grace
is not past, and the resource named is one of its resources.  If the last
`replace_snapshot` rejected its snapshot, every query is denied. -/
theorem allowed_only_accepted (key : List UInt8) (grace : Duration) (calls : List Call)
    (c : PolicyCache L) (hrun : run step (new L key grace) calls = some c)
    (identity dest protocol : String) (port : UInt16) (t : SystemTime) :
    ∃ ok rid reason, c.allowed identity dest protocol port t = some (ok, rid, reason) ∧
      (ok = true → ∃ before snap now c₀ validUntil,
        lastReplacement calls = some (before, snap, now) ∧
        run step (new L key grace) before = some c₀ ∧
        c₀.AcceptedBy snap now validUntil ∧
        c.inner = indexSnapshot L snap validUntil ∧
        t ≤ validUntil + grace ∧
        ∃ r ∈ snap.resources, r.resourceId = rid) ∧
      (∀ before snap now c₀ c₁, lastReplacement calls = some (before, snap, now) →
        run step (new L key grace) before = some c₀ →
        c₀.replaceSnapshot snap now = some (c₁, false) → ok = false) := by
  have hreflects := reflects_run hrun
  obtain ⟨ok, rid, reason, hanswer⟩ := allowed_isSome hreflects identity dest protocol port t
  refine ⟨ok, rid, reason, hanswer, ?_, ?_⟩
  · rintro rfl
    obtain ⟨hsnap, hexpiry, hdecided⟩ := allowed_eq_true hanswer
    obtain ⟨hgrace, hlast⟩ := hreflects
    split at hlast
    · -- no snapshot came in: the indexes are still the initial ones
      rw [hlast] at hsnap
      cases hsnap
    next before snap now heq =>
      obtain ⟨c₀, c₁, accepted, hbefore, -, hreplace, hinner⟩ := hlast
      rw [hinner] at hsnap hexpiry hdecided
      rcases replaceSnapshot_cases hreplace with ⟨-, rfl⟩ | ⟨-, validUntil, haccepts, rfl⟩
      · cases hsnap
      · refine ⟨before, snap, now, c₀, validUntil, heq, hbefore, haccepts.acceptedBy, hinner, ?_,
          decideOn_resource hdecided⟩
        have := hexpiry validUntil (validUntil_indexSnapshot snap validUntil)
        rwa [hgrace] at this
  · intro before snap now c₀ c₁ hlast hbefore hreplace
    obtain ⟨-, hreflects⟩ := hreflects
    rw [hlast] at hreflects
    obtain ⟨c₀', c₁', accepted, hbefore', -, hreplace', hinner⟩ := hreflects
    obtain rfl : c₀ = c₀' := Option.some.inj (hbefore.symm.trans hbefore')
    rw [hreplace] at hreplace'
    cases hreplace'
    rcases replaceSnapshot_cases hreplace with ⟨-, rfl⟩ | ⟨htrue, -⟩
    · rw [allowed, hinner] at hanswer
      cases hanswer
      rfl
    · cases htrue

/-- The calls of a first snapshot, a first query and a key change. -/
def hostCalls : List Call :=
  [.replaceSnapshot hostSnapshot (1735689600 * nanosPerSec),
    .allowed "identity-1" "DB.internal " "tcp" 5432 (1735690500 * nanosPerSec),
    .setSigningKey [107]]

theorem hostCalls_accepted :
    ∃ before snap now c₀ validUntil, lastReplacement hostCalls = some (before, snap, now) ∧
      run step hostCache before = some c₀ ∧ c₀.AcceptedBy snap now validUntil ∧
      ∃ r ∈ snap.resources, r.resourceId = "res_db" := by
  have hrun : run step hostCache hostCalls = some hostCacheLoaded := by
    simp only [hostCalls, run, step, replaceSnapshot_hostSnapshot, allowed_hostCacheLoaded,
      Option.map_some, Option.bind_some]
    rfl
  obtain ⟨ok, rid, reason, hanswer, haccepted, -⟩ :=
    allowed_only_accepted [107] (300 * nanosPerSec) hostCalls hostCacheLoaded hrun
      "identity-1" "DB.internal " "tcp" 5432 (1735690500 * nanosPerSec)
  rw [allowed_hostCacheLoaded] at hanswer
  cases hanswer
  obtain ⟨before, snap, now, c₀, validUntil, hlast, hbefore, hby, -, -, hresource⟩ := haccepted rfl
  exact ⟨before, snap, now, c₀, validUntil, hlast, hbefore, hby, hresource⟩

end PolicyCache

end ZeroTrust.Connector
