import SessionTokens.Proofs.Host.Journal
import SessionTokens.Proofs.Host.Progress
import SessionTokens.Proofs.Session.Exchange
import SessionTokens.Proofs.Session.FailClosed
import SessionTokens.Proofs.Session.Services
import SessionTokens.Proofs.Token.RoundTrip

/-! Attacks are reported once each. A session operation logs one line for those who watch for
attacks if it fails because a token was used before or because two tokens are of two holders, and
none otherwise. -/

namespace SessionTokens

open Program Operation

theorem Hex.ofBytes_take (n : Nat) (bs : List UInt8) :
    ofBytes (bs.take n) = (ofBytes bs).take (2 * n) := by
  induction n generalizing bs with
  | zero => rfl
  | succ n ih =>
    cases bs with
    | nil => rfl
    | cons b bs =>
      have hcons : ∀ us, ofBytes (b :: us) = ofNat 2 b.toNat ++ ofBytes us := fun us => rfl
      have hlen : (ofNat 2 b.toNat).length = 2 := rfl
      have hlong : (ofNat 2 b.toNat).take (2 * (n + 1)) = ofNat 2 b.toNat :=
        List.take_of_length_le (by rw [hlen]; omega)
      rw [List.take_succ_cons, hcons, hcons, ih, List.take_append, hlong, hlen,
        show 2 * (n + 1) - 2 = 2 * n by omega]

namespace Log

/-- The first twelve hex digits of the digest of a token. -/
def shortDigest (token : String) : Detail :=
  .text (String.ofList ((Hex.ofBytes (Sha256.digest (Utf8.encode token.toList))).take 12))

def reuseLine (k : TokenKind) (subject : Uuid) (jti : Jti) (token : String) : Line :=
  ⟨.warn, .security, "rotated refresh token presented again",
    [("event", .text "refresh_reuse"), ("kind", .text k.name), ("subject", .text subject.text),
      ("jti", .text jti.text), ("fingerprint", shortDigest token)]⟩

def mismatchLine (k : TokenKind) (expected presented : Uuid) (token : String) : Line :=
  ⟨.warn, .security, "paired tokens name different subjects",
    [("event", .text "subject_mismatch"), ("kind", .text k.name),
      ("expected", .text expected.text), ("presented", .text presented.text),
      ("fingerprint", shortDigest token)]⟩

theorem shortDigest_eq (token : String) : shortDigest token = .text (fingerprint token) := by
  rw [shortDigest, fingerprint, Hex.ofBytes_take]

theorem alarms_refreshReuse (k : TokenKind) (subject : Uuid) (jti : Jti) (token : String) :
    alarms [.refreshReuse k subject jti token] = [reuseLine k subject jti token] := by
  rw [reuseLine, shortDigest_eq]
  rfl

theorem alarms_subjectMismatch (k : TokenKind) (expected presented : Uuid) (token : String) :
    alarms [.subjectMismatch k expected presented token] =
      [mismatchLine k expected presented token] := by
  rw [mismatchLine, shortDigest_eq]
  rfl

end Log

/-- The failures that someone else than the holder of a token may be behind. -/
def SessionError.isAttack : SessionError → Bool
  | reuseDetected => true
  | subjectMismatch => true
  | _ => false

namespace SessionError

@[simp] theorem isAttack_ofCodec (e : CodecError) : (ofCodec e).isAttack = false := by
  cases e <;> rfl

@[simp] theorem isAttack_ofRegistry (e : RegistryError) : (ofRegistry e).isAttack = false := by
  cases e <;> rfl

@[simp] theorem isAttack_ofRoles (e : RoleError) : (ofRoles e).isAttack = false := by
  cases e <;> rfl

end SessionError

/-- Nothing is reported, and there is nothing to report. -/
structure Uneventful {α : Type} (os : List Occurrence) (r : Except SessionError α) : Prop where
  silent : alarms os = []
  harmless : ∀ e, r = .error e → e.isAttack = false

variable {os : List Occurrence} {α : Type}

theorem Uneventful.of_error {e : SessionError} (h : alarms os = []) (he : e.isAttack = false) :
    Uneventful os (.error e : Except SessionError α) where
  silent := h
  harmless _ h := Except.error.inj h ▸ he

theorem Uneventful.of_ok {a : α} (h : alarms os = []) :
    Uneventful os (.ok a : Except SessionError α) := ⟨h, nofun⟩

theorem Uneventful.map {β : Type} {r : Except SessionError α} (h : Uneventful os r) (f : α → β) :
    Uneventful os (r.map f) where
  silent := h.silent
  harmless e he := by
    cases r with
    | error e' => exact h.harmless e (congrArg Except.error (Except.error.inj he))
    | ok a => exact nomatch he

@[simp] theorem alarms_recording {e : Entry} {x : Except RegistryError Unit} :
    alarms (e.recording x :: os) = alarms os := rfl

@[simp] theorem alarms_revocation {e : Entry} {x : Except RegistryError RevokeOutcome} :
    alarms (e.revocation x :: os) = alarms os := rfl

theorem alarms_attempted {e : Entry} {note : SessionError → Log.Event}
    (hnote : ∀ e, (note e).line.channel = .service) (x : Except RegistryError RevokeOutcome) :
    alarms (Ledger.attempted e note x) = [] := by
  cases x with
  | ok o => rfl
  | error f => simp [Ledger.attempted, Ledger.failureNote, Log.alarms, hnote]

namespace Issuer

variable {i : Issuer} {bearer refresh k : TokenKind} {subject : Uuid} {roles : bearer.Roles}
  {refreshRoles : refresh.Roles}

theorem uneventful_mints {r : Except SessionError TokenSet}
    (h : Mints i bearer refresh subject roles refreshRoles os r) : Uneventful os r := by
  cases h with
  | bearerOutOfRange | refreshOutOfRange => exact .of_error rfl rfl
  | minted => exact .of_ok rfl

theorem uneventful_issue {note : TokenSet → Log.Event} {r : Except SessionError TokenSet}
    (hnote : ∀ set, (note set).line.channel = .service)
    (h : Gives (i.issue bearer refresh subject roles refreshRoles note) os r) :
    Uneventful os r := by
  cases gives_issue h with
  | unminted hm => exact uneventful_mints hm
  | bearerUnrecorded e hm | refreshUnrecorded e hm =>
    exact .of_error (by simp [(uneventful_mints hm).silent]) (SessionError.isAttack_ofRegistry e)
  | issued hm => exact .of_ok (by simp [(uneventful_mints hm).silent, Log.alarms, hnote])

theorem uneventful_validate {token : String} {r : Except SessionError (Claims k)}
    (h : Gives (i.validate k token) os r) : Uneventful os r := by
  cases gives_validate h with
  | unread => exact .of_error rfl (SessionError.isAttack_ofCodec _)
  | refused _ hs =>
    cases hs with
    | inactive => exact .of_error rfl rfl
    | failed e => exact .of_error rfl (SessionError.isAttack_ofRegistry e)
  | accepted => exact .of_ok rfl

theorem uneventful_revokePair {a b : Entry} {r : Except SessionError Unit}
    (h : Gives (Ledger.revokePair a b) os r) : Uneventful os r := by
  obtain ⟨x, y, rfl, rfl⟩ := Ledger.gives_revokePair h
  cases x with
  | error e => exact .of_error rfl (SessionError.isAttack_ofRegistry e)
  | ok _ =>
    cases y with
    | error e => exact .of_error rfl (SessionError.isAttack_ofRegistry e)
    | ok _ => exact .of_ok rfl

/-- An exchange of a refresh token reports its reuse, whether the registry knows of it at first or
only when the token is revoked. -/
theorem alarms_exchange {old : Claims k} {token : String} {renew : Operation TokenSet}
    {finish : TokenSet → Operation Unit} {r : Except SessionError TokenSet}
    (hrenew : ∀ {us r}, Gives renew us r → Uneventful us r)
    (hfinish : ∀ {set us r}, Gives (finish set) us r → Uneventful us r)
    (h : Gives (exchange old token renew finish) os r) :
    Uneventful os r ∨ r = .error .reuseDetected ∧
      alarms os = [Log.reuseLine k old.subject old.jti token] := by
  have hreport : alarms [reuseReport old token] = [Log.reuseLine k old.subject old.jti token] :=
    Log.alarms_refreshReuse ..
  have hretired : ∀ x, alarms (Ledger.attempted old.entry (.retireFailed old.jti) x) = [] :=
    alarms_attempted fun _ => rfl
  cases gives_exchange h with
  | @refused a e ha =>
    match a with
    | .ok .active => exact nomatch ha
    | .ok .unknown => obtain rfl := Except.error.inj ha; exact .inl (.of_error rfl rfl)
    | .ok .revoked => obtain rfl := Except.error.inj ha; exact .inr ⟨rfl, hreport⟩
    | .error f =>
      obtain rfl := Except.error.inj ha
      exact .inl (.of_error rfl (SessionError.isAttack_ofRegistry f))
  | unrenewed hn =>
    have hquiet := hrenew hn
    exact .inl ⟨by simp [hquiet.silent], fun e he => hquiet.harmless e he⟩
  | @lost us set x y hn =>
    have hset : alarms (withdrawal set x y) = [] := by
      rw [withdrawal, alarms_append, alarms_attempted (fun _ => rfl),
        alarms_attempted (fun _ => rfl), List.append_nil]
    refine .inr ⟨rfl, ?_⟩
    rw [alarms_called, alarms_append, (hrenew hn).silent, List.nil_append, alarms_revocation]
    rw [← List.singleton_append, alarms_append, hset, List.append_nil, hreport]
  | unfinished x hn _ hf =>
    exact .inl ⟨by simp [(hrenew hn).silent, hretired, (hfinish hf).silent],
      fun e he => (hfinish hf).harmless e (congrArg _ (Except.error.inj he))⟩
  | won x hn _ hf => exact .inl (.of_ok (by simp [(hrenew hn).silent, hretired, (hfinish hf).silent]))

theorem alarms_shown {holder : Log.Holder} {shown : Option String} {x : Option (String × Claims k)}
    (h : Shows i k holder shown os x) : alarms os = [] := by
  cases h <;> rfl

theorem alarms_logout {holder : Log.Holder} {c : Claims bearer} {shown : Option String}
    {r : Except SessionError Unit} (h : Gives (i.logout holder k c shown) os r) :
    Uneventful os r ∨ ∃ token rc audience, shown = some token ∧
      i.codec.authentic k token = .ok (rc, audience) ∧ rc.subject ≠ c.subject ∧
      r = .error .subjectMismatch ∧
      alarms os = [Log.mismatchLine k c.subject rc.subject token] := by
  cases gives_logout h with
  | @mismatch us token rc hs hm =>
    have hsilent := alarms_shown hs
    cases hs with
    | read hr =>
      refine .inr ⟨token, rc, false, rfl, Codec.authentic_of_parse hr, hm, rfl, ?_⟩
      rw [alarms_append, hsilent, List.nil_append]
      exact Log.alarms_subjectMismatch ..
  | failedPair x y hs _ he =>
    refine .inl (.of_error (by simp [alarms_shown hs]) ?_)
    cases x with
    | error e => exact Except.error.inj he ▸ SessionError.isAttack_ofRegistry e
    | ok _ =>
      cases y with
      | error e => exact Except.error.inj he ▸ SessionError.isAttack_ofRegistry e
      | ok _ => exact nomatch he
  | pair x y hs => exact .inl (.of_ok (by simp [alarms_shown hs, Log.alarms, Log.Event.line]))
  | failedBearer e hs =>
    exact .inl (.of_error (by simp [alarms_shown hs]) (SessionError.isAttack_ofRegistry e))
  | bearer x hs => exact .inl (.of_ok (by simp [alarms_shown hs, Log.alarms, Log.Event.line]))

end Issuer

theorem User.uneventful_issue {i : Issuer} {user : Uuid} {roles : List String}
    {r : Except SessionError TokenSet} (h : Gives (User.issue i user roles) os r) :
    Uneventful os r :=
  Issuer.uneventful_issue (fun _ => rfl) h

theorem User.alarms_rotate {i : Issuer} {token : String} {r : Except SessionError TokenSet}
    (h : Gives (User.rotate i token) os r) :
    Uneventful os r ∨ ∃ old audience, i.codec.authentic .userRefresh token = .ok (old, audience) ∧
      r = .error .reuseDetected ∧
      alarms os = [Log.reuseLine .userRefresh old.subject old.jti token] := by
  obtain ⟨t, us, rfl, ⟨e, -, rfl, rfl⟩ | ⟨old, hold, hx⟩⟩ := gives_rotate.mp h
  · exact .inl (.of_error rfl (SessionError.isAttack_ofCodec e))
  have hrenew : ∀ {us r}, Gives (renewal i old.subject) us r → Uneventful us r := by
    intro us r hr
    rcases gives_rolesOf_bind.mp hr with ⟨e, rfl, rfl⟩ | ⟨roles, vs, rfl, hi⟩
    · exact .of_error rfl (SessionError.isAttack_ofRoles e)
    · exact ⟨(uneventful_issue hi).silent, (uneventful_issue hi).harmless⟩
  have hfinish : ∀ {set us r}, Gives (rotationNote old set) us r → Uneventful us r := by
    intro set us r hr
    obtain ⟨rfl, rfl⟩ := gives_emit.mp hr
    exact .of_ok rfl
  rcases Issuer.alarms_exchange hrenew hfinish hx with hq | ⟨hr, ha⟩
  · exact .inl ⟨hq.silent, hq.harmless⟩
  · exact .inr ⟨old, false, Codec.authentic_of_parse hold, hr, ha⟩

theorem Device.uneventful_issue {i : Issuer} {device : Uuid} {r : Except SessionError TokenSet}
    (h : Gives (Device.issue i device) os r) : Uneventful os r :=
  Issuer.uneventful_issue (fun _ => rfl) h

/-- The tokens of a pair that are of two devices. -/
structure Device.Mismatch (i : Issuer) (connection refresh : String) (c : ConnectionClaims)
    (r : DeviceRefreshClaims) : Prop where
  connection : ∃ audience, i.codec.authentic .deviceConnection connection = .ok (c, audience)
  refresh : ∃ audience, i.codec.authentic .deviceRefresh refresh = .ok (r, audience)
  subjects : c.subject ≠ r.subject

theorem Device.alarms_rotate {i : Issuer} {connection token : String}
    {r : Except SessionError TokenSet} (h : Gives (Device.rotate i connection token) os r) :
    Uneventful os r ∨
      (∃ old audience, i.codec.authentic .deviceRefresh token = .ok (old, audience) ∧
        r = .error .reuseDetected ∧
        alarms os = [Log.reuseLine .deviceRefresh old.subject old.jti token]) ∨
      ∃ c old, Mismatch i connection token c old ∧ r = .error .subjectMismatch ∧
        alarms os = [Log.mismatchLine .deviceRefresh c.subject old.subject token] := by
  rcases gives_rotate h with ⟨e, hp, rfl⟩ | ⟨us, vs, c, old, rfl, hp, hx⟩
  · cases hp with
    | refreshUnread | connectionUnread | expired =>
      exact .inl (.of_error rfl (SessionError.isAttack_ofCodec _))
    | @mismatch _ _ old c hr hc hm =>
      refine .inr (.inr ⟨c, old, ⟨⟨_, Codec.authentic_of_parseAllowExpired hc⟩,
        ⟨_, Codec.authentic_of_parseAllowExpired hr⟩, hm⟩, rfl, ?_⟩)
      exact Log.alarms_subjectMismatch ..
  · have hfinish : ∀ {set us r}, Gives (rotationEnd c old set) us r → Uneventful us r := by
      intro set us r hr
      rcases gives_bind.mp hr with ⟨e, hq, rfl⟩ | ⟨us, vs, _, rfl, hq, hn⟩
      · obtain ⟨_, -, hq⟩ := Ledger.gives_revokeQuietly hq
        exact nomatch hq
      · obtain ⟨y, rfl, -⟩ := Ledger.gives_revokeQuietly hq
        obtain ⟨rfl, rfl⟩ := gives_emit.mp hn
        refine .of_ok ?_
        rw [alarms_append, alarms_attempted fun _ => rfl]
        rfl
    cases hp with
    | read hr _ _ _ =>
      rcases Issuer.alarms_exchange uneventful_issue hfinish hx with hq | ⟨hr', ha⟩
      · exact .inl ⟨hq.silent, hq.harmless⟩
      · exact .inr (.inl ⟨old, false, Codec.authentic_of_parseAllowExpired hr, hr', ha⟩)

namespace Services

variable {v : Services}

/-- What a request has to report when it has come to an answer. -/
inductive Reports (v : Services) : Request → Except SessionError Reply → List Log.Line → Prop
  | reuse {s : Side} {companion : s.Companion} {token : String} {c : Claims s.refresh}
    {audience : Bool} : (v.issuer s).codec.authentic s.refresh token = .ok (c, audience) →
    Reports v (.rotate s companion token) (.error .reuseDetected)
      [Log.reuseLine s.refresh c.subject c.jti token]
  | pairMismatch {connection token : String} {c : ConnectionClaims} {r : DeviceRefreshClaims} :
    Device.Mismatch v.devices connection token c r →
    Reports v (.rotate .device connection token) (.error .subjectMismatch)
      [Log.mismatchLine .deviceRefresh c.subject r.subject token]
  | logoutMismatch {s : Side} {c : Claims s.bearer} {token : String} {r : Claims s.refresh}
    {audience : Bool} : (v.issuer s).codec.authentic s.refresh token = .ok (r, audience) →
    r.subject ≠ c.subject →
    Reports v (.logout s c (some token)) (.error .subjectMismatch)
      [Log.mismatchLine s.refresh c.subject r.subject token]
  | nothing {q : Request} {a : Except SessionError Reply} : a ≠ .error .reuseDetected →
    a ≠ .error .subjectMismatch → Reports v q a []

theorem reports_of_uneventful {q : Request} {a : Except SessionError Reply}
    (h : Uneventful os a) : v.Reports q a (alarms os) := by
  rw [h.silent]
  refine .nothing ?_ ?_
  · rintro rfl
    exact absurd (h.harmless _ rfl) (by decide)
  · rintro rfl
    exact absurd (h.harmless _ rfl) (by decide)

theorem reports_of_yields {q : Request} {a : Except SessionError Reply}
    (h : (v.serve q).Yields os a) : v.Reports q a (alarms os) := by
  have hg : Gives (v.operation q) os a := h
  cases q with
  | issue s subject roles =>
    cases s <;> obtain ⟨r, hr, rfl⟩ := gives_map.mp hg
    · exact reports_of_uneventful ((User.uneventful_issue hr).map _)
    · exact reports_of_uneventful ((Device.uneventful_issue hr).map _)
  | validate s token =>
    cases s <;> obtain ⟨r, hr, rfl⟩ := gives_map.mp hg <;>
      exact reports_of_uneventful ((Issuer.uneventful_validate hr).map _)
  | rotate s companion token =>
    cases s <;> obtain ⟨r, hr, rfl⟩ := gives_map.mp hg
    · rcases User.alarms_rotate hr with hq | ⟨old, audience, ha, rfl, hl⟩
      · exact reports_of_uneventful (hq.map _)
      · rw [hl]
        exact .reuse (s := .user) ha
    · rcases Device.alarms_rotate hr with hq | ⟨old, audience, ha, rfl, hl⟩ | ⟨c, old, hm, rfl, hl⟩
      · exact reports_of_uneventful (hq.map _)
      · rw [hl]
        exact .reuse (s := .device) ha
      · rw [hl]
        exact .pairMismatch hm
  | revoke s bearer refresh =>
    cases s <;> obtain ⟨r, hr, rfl⟩ := gives_map.mp hg <;>
      exact reports_of_uneventful ((Issuer.uneventful_revokePair hr).map _)
  | logout s c shown =>
    cases s
    all_goals
      obtain ⟨r, hr, rfl⟩ := gives_map.mp hg
      rcases Issuer.alarms_logout hr with hq | ⟨token, rc, audience, rfl, ha, hm, rfl, hl⟩
      · exact reports_of_uneventful (hq.map _)
      · exact hl ▸ Reports.logoutMismatch ha hm
  | stats =>
    obtain ⟨r, hr, rfl⟩ := gives_map.mp hg
    obtain ⟨x, rfl, rfl⟩ := gives_call.mp hr
    refine reports_of_uneventful (Uneventful.map ?_ _)
    cases x with
    | error e => exact .of_error rfl (SessionError.isAttack_ofRegistry e)
    | ok n => exact .of_ok rfl

/-- Attacks are reported exactly, once each: whatever a request meets with on its way to its
answer; in the journal of a host on which it runs alone, with any faults; and among any others. -/
theorem attacks_reported_exactly (v : Services) :
    (∀ q os a, (v.serve q).Yields os a → v.Reports q a (alarms os)) ∧
      (∀ q s h, ∃ ls, Log.alarms ((v.serve q).run s h).2.2.journal = Log.alarms h.journal ++ ls ∧
        v.Reports q ((v.serve q).run s h).1 ls) ∧
      ∀ allowed g ls u, System.Run v.serve allowed (.start g) ls u →
        Log.alarms u.host.journal = Log.alarms g.journal ++ alarms (turnsIn ls) ∧
          ∀ i q a, u.Ended i q a → v.Reports q a (alarms (turnsOf i ls)) := by
  refine ⟨fun _ _ _ h => reports_of_yields h, fun q s h => ?_, fun allowed g ls u hrun => ?_⟩
  · exact ⟨_, (v.serve q).alarms_run s h, reports_of_yields ((v.serve q).yields_course s h)⟩
  · exact ⟨hrun.alarms_eq, fun i q a he => reports_of_yields (hrun.yields he).2⟩

/-- A refresh token that the registry calls revoked is reported, with what it says of itself. -/
theorem reuse_reported :
    let v := sample
    let token := v.users.codec.sign sampleRefresh
    let h : Host := { Host.fresh ⟨0⟩ ⟨.ofSeconds 60, .ofSeconds 0⟩ with faults := [.state .revoked] }
    ((v.serve (.rotate .user () token)).run .patient h).1 = .error .reuseDetected ∧
      Log.alarms ((v.serve (.rotate .user () token)).run .patient h).2.2.journal =
        [Log.reuseLine .userRefresh default ⟨""⟩ token] := by
  intro v token h
  have ha : v.users.codec.authentic .userRefresh token = .ok (sampleRefresh, false) :=
    Codec.authentic_sign _ sampleRefresh (by decide) (by decide)
  have hparse : v.users.codec.parse .userRefresh h.clock.unix token = .ok sampleRefresh :=
    Codec.read_eq_ok.mpr ⟨ha, by decide, by decide, by decide⟩
  have hread : Program.run (v.users.parse .userRefresh token).run .patient h =
      (.ok sampleRefresh, .patient, h) := by
    change ((v.users.codec.parse .userRefresh h.clock.unix token).mapError _, _, _) = _
    rw [hparse]
    rfl
  obtain ⟨s', h', hrotate⟩ : ∃ s' h', Program.run (User.rotate v.users token).run .patient h =
      (.error .reuseDetected, s', h') :=
    ⟨_, _, (Operation.run_bind_of_ok hread).trans rfl⟩
  have hanswer : ((v.serve (.rotate .user () token)).run .patient h).1 =
      .error .reuseDetected := by
    have hmap : v.operation (.rotate .user () token) =
        User.rotate v.users token >>= fun set => pure (.issued set) := (bind_pure_comp ..).symm
    rw [serve, hmap, Operation.run_bind_of_error hrotate]
  obtain ⟨ls, hjournal, hreports⟩ :=
    (attacks_reported_exactly v).2.1 (.rotate .user () token) .patient h
  rw [hanswer] at hreports
  rw [hjournal]
  refine ⟨hanswer, ?_⟩
  cases hreports with
  | reuse hc =>
    obtain ⟨rfl, -⟩ := Prod.mk.inj (Except.ok.inj (hc.symm.trans ha))
    rfl
  | nothing hno => exact absurd rfl hno

end Services

end SessionTokens
