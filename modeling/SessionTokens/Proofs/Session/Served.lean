import SessionTokens.Proofs.Host.Calm
import SessionTokens.Proofs.Session.Exchange
import SessionTokens.Proofs.Token.Window

/-! What the operations on sessions of users come to on a host on which nothing goes wrong, while
its clock stands still. -/

namespace SessionTokens

open Program Operation

/-- A time to live of a second at least that does not lead off the calendar. -/
def Span.Fits (ttl : Span) (now : Instant) : Prop :=
  1000000000 ≤ ttl.nanos ∧ ∃ u, now.plus? ttl = some u

namespace Claims

variable {k : TokenKind} {now : Instant} {ttl : Span}

/-- The claims of a token that is made now. -/
def issued (k : TokenKind) (subject : Uuid) (roles : k.Roles) (j : Jti) (now : Instant)
    (ttl : Span) : Claims k :=
  ⟨subject, roles, j, now.unix, (now.plusClamped ttl).unix⟩

/-- Its token is good at `now`: the codec reads it then, and a registry keeps a record of it. -/
structure Good (c : Claims k) (codec : Codec) (now : Instant) : Prop where
  read : codec.parse k now.unix (codec.sign c) = .ok c
  ahead : c.entry.Ahead now

theorem good_issued (codec : Codec) (subject : Uuid) (roles : k.Roles) (j : Jti)
    (hnow : (codec.leeway : Int) ≤ now.unix) (hfits : ttl.Fits now) :
    (issued k subject roles j now ttl).Good codec now := by
  obtain ⟨hsecond, u, hu⟩ := hfits
  obtain ⟨hnanos, hrange⟩ := Instant.plus?_eq_some hu
  have hend : now.plusClamped ttl = u := by rw [Instant.plusClamped, hu, Option.getD_some]
  have hlast := (Instant.inRange_iff.mp hrange).2
  have hcalendar := Instant.unix_lt_endSecond hlast
  have hstart : 0 ≤ now.nanos := by
    simp only [Instant.unix] at hnow
    omega
  have hin : now.inRange = true := Instant.inRange_of_nonneg hstart (by omega)
  have hnext : now.unix + 1 ≤ u.unix := by
    simp only [Instant.unix]
    omega
  have hclaims : (issued k subject roles j now ttl).expiresAt = u.unix := by rw [issued, hend]
  have hexpiry : (issued k subject roles j now ttl).expiry.nanos = u.unix * 1000000000 := by
    rw [expiry, hclaims]
    refine Instant.nanos_ofSecondsOrFirst ?_ hcalendar
    simp only [Instant.firstSecond]
    omega
  have hread : codec.parse k now.unix (codec.sign (issued k subject roles j now ttl)) =
      .ok (issued k subject roles j now ttl) := by
    have hauthentic := Codec.authentic_sign codec (issued k subject roles j now ttl)
      (Instant.isSigned_unix hin) (hclaims ▸ Instant.isSigned_unix hrange)
    have hend : now.unix + codec.leeway < Word.signedBound := by
      simp only [Instant.endSecond] at hcalendar
      simp only [Word.signedBound]
      omega
    refine Codec.read_of_times hauthentic hnow hend ?_ ?_ ?_
    · rw [hclaims]
      omega
    · rw [hclaims]
      omega
    · simp only [issued]
      omega
  have hseconds : u.unix * 1000000000 ≤ u.nanos := by
    simp only [Instant.unix]
    omega
  refine ⟨hread, hin, ?_, ?_⟩
  · change (issued k subject roles j now ttl).expiry.inRange = true
    exact Instant.inRange_of_nonneg (by omega) (by omega)
  · change now.nanos < (issued k subject roles j now ttl).expiry.nanos
    rw [hexpiry]
    simp only [Instant.unix] at hnext ⊢
    omega

end Claims

/-- What is known after an issue. -/
def View.issue (v : View) (g : Host) : View :=
  (v.draw.draw.mark (g.source v.drawn) .active).mark (g.source (v.drawn + 1)) .active

variable {g : Host} {v : View} {i : Issuer}

namespace View

@[simp] theorem drawn_issue (v : View) (g : Host) : (v.issue g).drawn = v.drawn + 2 := rfl

theorem state_issue (v : View) (g : Host) (j : Jti) : (v.issue g).state j =
    if j = g.source (v.drawn + 1) ∨ j = g.source v.drawn then .active else v.state j := by
  simp only [issue, state_mark, state_draw]
  split
  · rw [if_pos (.inl ‹_›)]
  · simp only [*, false_or]

end View

namespace Issuer

section Issue

variable {bearer refresh : TokenKind} {subject : Uuid} {roles : bearer.Roles}
  {refreshRoles : refresh.Roles}

def issuedSet (i : Issuer) (bearer refresh : TokenKind) (subject : Uuid) (roles : bearer.Roles)
    (refreshRoles : refresh.Roles) (g : Host) (n : Nat) : TokenSet :=
  ⟨i.token (.issued bearer subject roles (g.source n) g.clock i.bearerTtl),
    i.token (.issued refresh subject refreshRoles (g.source (n + 1)) g.clock i.refreshTtl)⟩

theorem turns_claims {k : TokenKind} {roles : k.Roles} {ttl : Span} (hfits : ttl.Fits g.clock) :
    (claims k subject roles g.clock ttl).run.Turns g v
      (.ok (.issued k subject roles (g.source v.drawn) g.clock ttl)) v.draw := by
  obtain ⟨-, u, hu⟩ := hfits
  refine turns_ok_bind turns_drawJti ?_
  simp only [expiry, hu, Claims.issued, Instant.plusClamped, Option.getD_some]
  exact turns_ok_bind (turns_done _) (turns_done _)

variable (hbearer : i.bearerTtl.Fits g.clock) (hrefresh : i.refreshTtl.Fits g.clock)
include hbearer hrefresh

theorem turns_mint : (i.mint bearer refresh subject roles refreshRoles).run.Turns g v
    (.ok (i.issuedSet bearer refresh subject roles refreshRoles g v.drawn)) v.draw.draw := by
  refine turns_ok_bind turns_now ?_
  refine turns_ok_bind (turns_claims hbearer) ?_
  exact turns_ok_bind (turns_claims hrefresh) (turns_done _)

theorem turns_issue {note : TokenSet → Log.Event} (hnow : (i.codec.leeway : Int) ≤ g.clock.unix)
    (hfresh : ∀ n, v.drawn ≤ n → v.state (g.source n) ≠ .revoked) :
    (i.issue bearer refresh subject roles refreshRoles note).run.Turns g v
      (.ok (i.issuedSet bearer refresh subject roles refreshRoles g v.drawn)) (v.issue g) := by
  refine turns_ok_bind (turns_mint hbearer hrefresh) ?_
  have hb := (Claims.good_issued i.codec subject roles (g.source v.drawn) hnow hbearer).ahead
  have hr := (Claims.good_issued i.codec subject refreshRoles (g.source (v.drawn + 1)) hnow
    hrefresh).ahead
  have hrecord : (recordSet (i.issuedSet bearer refresh subject roles refreshRoles g
      v.drawn)).run.Turns g v.draw.draw (.ok ()) (v.issue g) := by
    refine turns_ok_bind (Ledger.turns_record hb (hfresh _ (Nat.le_refl _))) ?_
    refine Ledger.turns_record hr ?_
    have hsecond := hfresh (v.drawn + 1) (Nat.le_succ _)
    rw [View.state_mark]
    split
    · nofun
    · exact hsecond
  exact turns_ok_bind hrecord (turns_ok_bind (turns_emit _) (turns_done _))

end Issue

section Read

variable {k : TokenKind} {c : Claims k}

theorem turns_parse (hc : c.Good i.codec g.clock) :
    (i.parse k (i.codec.sign c)).run.Turns g v (.ok c) v := by
  refine turns_ok_bind turns_now ?_
  rw [hc.read]
  exact turns_done _

theorem turns_validate (hc : c.Good i.codec g.clock) (hactive : v.state c.jti = .active) :
    (i.validate k (i.codec.sign c)).run.Turns g v (.ok c) v := by
  refine turns_ok_bind (turns_parse hc) ?_
  have hensure : (Ledger.ensureActive c.jti).run.Turns g v (.ok ()) v := by
    refine turns_ok_bind (Ledger.turns_state c.jti) ?_
    rw [if_pos hactive]
    exact turns_done _
  exact turns_ok_bind hensure (turns_done _)

theorem still_validate (k : TokenKind) (token : String) : (i.validate k token).run.Still g v := by
  have hparse : (i.parse k token).run.Still g v :=
    ⟨_, turns_ok_bind turns_now (turns_done _)⟩
  refine still_bind hparse fun c => still_bind ?_ fun _ => ⟨_, turns_done _⟩
  refine still_bind ⟨_, Ledger.turns_state c.jti⟩ fun x => ?_
  by_cases hx : x = .active
  · rw [if_pos hx]
    exact ⟨_, turns_done _⟩
  · rw [if_neg hx]
    exact ⟨_, turns_ok_bind (turns_emit _) (turns_done _)⟩

end Read

end Issuer

namespace User

variable {old : RefreshClaims}

def issuedSet (i : Issuer) (user : Uuid) (roles : List String) (g : Host) (n : Nat) : TokenSet :=
  i.issuedSet .userAccess .userRefresh user roles () g n

section Rotate

variable (hbearer : i.bearerTtl.Fits g.clock) (hrefresh : i.refreshTtl.Fits g.clock)
  (hnow : (i.codec.leeway : Int) ≤ g.clock.unix)
  (hfresh : ∀ n, v.drawn ≤ n → v.state (g.source n) ≠ .revoked)
include hbearer hrefresh hnow hfresh

theorem turns_issue (user : Uuid) (roles : List String) :
    (issue i user roles).run.Turns g v (.ok (issuedSet i user roles g v.drawn)) (v.issue g) :=
  Issuer.turns_issue hbearer hrefresh hnow hfresh

/-- A rotation of a token that is active hands out the next set and revokes the token. -/
theorem turns_rotate (hold : old.Good i.codec g.clock) (hactive : v.state old.jti = .active) :
    (rotate i (i.codec.sign old)).run.Turns g v
      (.ok (issuedSet i old.subject (g.roles.rolesOf old.subject) g v.drawn))
      ((v.issue g).mark old.jti .revoked) := by
  refine turns_ok_bind (Issuer.turns_parse hold) ?_
  have hunused : (Issuer.ensureUnused old (i.codec.sign old)).run.Turns g v (.ok ()) v := by
    have hrotatable : (Ledger.ensureRotatable old.jti).run.Turns g v (.ok ()) v := by
      refine turns_ok_bind (Ledger.turns_state old.jti) ?_
      rw [hactive]
      exact turns_done _
    exact turns_ok_bind (turns_lift hrotatable) (turns_done _)
  have hrenew : (renewal i old.subject).run.Turns g v
      (.ok (issuedSet i old.subject (g.roles.rolesOf old.subject) g v.drawn)) (v.issue g) :=
    turns_ok_bind (turns_rolesOf old.subject)
      (turns_issue hbearer hrefresh hnow hfresh old.subject _)
  have hstill : (v.issue g).state old.jti = .active := by
    rw [View.state_issue, hactive, ite_self]
  have hretire : (Ledger.retire old.entry).run.Turns g (v.issue g) (.ok .retired)
      ((v.issue g).mark old.jti .revoked) :=
    turns_ok_bind (turns_lift (Ledger.turns_revoke hold.ahead hstill)) (turns_done _)
  refine turns_ok_bind hunused (turns_ok_bind hrenew (turns_ok_bind hretire ?_))
  exact turns_ok_bind (turns_emit _) (turns_done _)

end Rotate

/-- A token that is revoked is reported as used before, and nothing changes. -/
theorem turns_rotate_revoked (hold : old.Good i.codec g.clock)
    (hrevoked : v.state old.jti = .revoked) :
    (rotate i (i.codec.sign old)).run.Turns g v (.error .reuseDetected) v := by
  refine turns_ok_bind (Issuer.turns_parse hold) (turns_error_bind ?_)
  have hrotatable : (Ledger.ensureRotatable old.jti).run.Turns g v (.error .reuseDetected) v := by
    refine turns_ok_bind (Ledger.turns_state old.jti) ?_
    rw [hrevoked]
    exact turns_done _
  exact turns_ok_bind (turns_lift hrotatable) (turns_ok_bind (turns_emit _) (turns_done _))

end User

end SessionTokens
