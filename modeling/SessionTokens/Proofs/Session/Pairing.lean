import SessionTokens.Proofs.Host.Alone
import SessionTokens.Proofs.Session.AllOrNothing
import SessionTokens.Proofs.Session.FailClosed
import SessionTokens.Proofs.Token.Window

/-! A device has to show two tokens of its own before anything else is looked at. What the pair is
refused for depends on the tokens and the clock alone: that one cannot be read, then that they
name two devices, then that the refresh token has expired. The new tokens can be read at once, as
long as the sum of time and leeway fits a word. -/

namespace SessionTokens

open Program

namespace Issuer

variable {i : Issuer} {k bearer refresh : TokenKind} {subject : Uuid} {t u : Instant} {ttl : Span}

/-- A token is accepted at the time at which it is made, unless that is before 1970. -/
theorem parseAllowExpired_sign (codec : Codec) (roles : k.Roles) (j : Jti)
    (hend : t.plus? ttl = some u) (ht : 0 ≤ t.nanos)
    (hleeway : t.unix + codec.leeway < Word.signedBound) :
    codec.parseAllowExpired k t.unix (codec.sign ⟨subject, roles, j, t.unix, u.unix⟩) =
      .ok ⟨subject, roles, j, t.unix, u.unix⟩ := by
  obtain ⟨hnanos, hu⟩ := Instant.plus?_eq_some hend
  have hlast := (Instant.inRange_iff.mp hu).2
  have hnow : t.inRange = true := Instant.inRange_of_nonneg ht (by omega)
  have hstart : 0 ≤ t.unix := by
    simp only [Instant.unix]
    omega
  have hexpiry : 0 ≤ u.unix := by
    simp only [Instant.unix]
    omega
  have hahead : ¬ codec.issuedAhead t.unix t.unix = true := by
    rw [Codec.issuedAhead_iff hstart hleeway]
    omega
  rw [Codec.parseAllowExpired, Codec.read_sign codec _ false t.unix (Instant.isSigned_unix hnow)
    (Instant.isSigned_unix hu)]
  simp only [Bool.false_eq_true, false_and, if_false]
  rw [if_neg (by omega), if_neg hahead]

theorem made_at_of_issue {roles : bearer.Roles} {refreshRoles : refresh.Roles}
    {note : TokenSet → Log.Event} {set : TokenSet} {os : List Occurrence}
    (h : Gives (i.issue bearer refresh subject roles refreshRoles note) os (.ok set)) :
    ∃ t, .clock t ∈ os ∧ i.MadeAt bearer refresh subject roles refreshRoles t set := by
  cases gives_issue h with
  | issued hm =>
    cases hm with
    | minted hm => exact ⟨_, List.mem_append_left _ List.mem_cons_self, hm⟩

/-- Both tokens of the set are accepted at `t`, as tokens of the subject. -/
def Honours (i : Issuer) (bearer refresh : TokenKind) (t : Instant) (subject : Uuid)
    (set : TokenSet) : Prop :=
  (∃ b, i.codec.parseAllowExpired bearer t.unix set.bearer.text = .ok b ∧ b.subject = subject) ∧
    ∃ r, i.codec.parseAllowExpired refresh t.unix set.refresh.text = .ok r ∧ r.subject = subject

theorem MadeAt.honoured {roles : bearer.Roles} {refreshRoles : refresh.Roles} {set : TokenSet}
    (h : i.MadeAt bearer refresh subject roles refreshRoles t set) (ht : 0 ≤ t.nanos)
    (hleeway : t.unix + i.codec.leeway < Word.signedBound) :
    i.Honours bearer refresh t subject set := by
  obtain ⟨b, r, bearerEnd, refreshEnd, hb, hr, rfl⟩ := h
  exact ⟨⟨_, parseAllowExpired_sign i.codec roles b hb ht hleeway, rfl⟩,
    ⟨_, parseAllowExpired_sign i.codec refreshRoles r hr ht hleeway, rfl⟩⟩

end Issuer

namespace Device

variable {i : Issuer} {connection refresh : String} {s : Scope} {h : Host}

/-- The claims of a pair of tokens that a codec accepts, whether or not they have expired. -/
structure Reads (codec : Codec) (now : Int) (connection refresh : String) (c : ConnectionClaims)
    (r : DeviceRefreshClaims) : Prop where
  connection : codec.parseAllowExpired .deviceConnection now connection = .ok c
  refresh : codec.parseAllowExpired .deviceRefresh now refresh = .ok r

theorem run_parseAllowExpired (k : TokenKind) (token : String) :
    Program.run (i.parseAllowExpired k token).run s h =
      ((i.codec.parseAllowExpired k h.clock.unix token).mapError .ofCodec, s, h) := rfl

section Reads

variable {c : ConnectionClaims} {r : DeviceRefreshClaims}
  (hread : Reads i.codec h.clock.unix connection refresh c r)
include hread

theorem run_bind_of_reads {α : Type} (f : DeviceRefreshClaims → ConnectionClaims → Operation α) :
    Program.run (do
      let r ← i.parseAllowExpired .deviceRefresh refresh
      let c ← i.parseAllowExpired .deviceConnection connection
      f r c : Operation α).run s h = Program.run (f r c).run s h := by
  have hrefresh := run_parseAllowExpired (i := i) (s := s) (h := h) .deviceRefresh refresh
  have hconnection := run_parseAllowExpired (i := i) (s := s) (h := h) .deviceConnection connection
  rw [hread.refresh] at hrefresh
  rw [hread.connection] at hconnection
  rw [Operation.run_bind_of_ok hrefresh, Operation.run_bind_of_ok hconnection]

theorem run_parsePair_of_mismatch (hs : c.subject ≠ r.subject) :
    Program.run (parsePair i connection refresh).run s h =
      (.error .subjectMismatch, s,
        h.log [.subjectMismatch .deviceRefresh c.subject r.subject refresh]) := by
  rw [parsePair, run_bind_of_reads hread]
  simp only [hs, ne_eq, not_false_eq_true, if_true]
  rfl

theorem run_parsePair_of_same (hs : c.subject = r.subject) :
    Program.run (parsePair i connection refresh).run s h =
      (((i.codec.checkExpiry h.clock.unix r).mapError .ofCodec).map fun _ => (c, r), s, h) := by
  rw [parsePair, run_bind_of_reads hread]
  simp only [hs, ne_eq, not_true, if_false]
  have hnow : Program.run (Operation.now).run s h = (.ok h.clock, s, h) := rfl
  rw [Operation.run_bind_of_ok hnow]
  cases i.codec.checkExpiry h.clock.unix r <;> rfl

end Reads

theorem checkExpiry_of_late {codec : Codec} {k : TokenKind} {c : Claims k} {now : Int}
    (h : c.expiresAt + codec.leeway < now) : codec.checkExpiry now c = .error .expired := by
  have hexpired : codec.expired now c.expiresAt = true := by
    by_contra hlive
    have hle := Codec.le_of_not_expired (Bool.not_eq_true _ ▸ hlive)
    omega
  rw [Codec.checkExpiry, if_pos hexpired]

theorem run_parsePair_of_not_reads
    (hno : ∀ c r, ¬ Reads i.codec h.clock.unix connection refresh c r) :
    ∃ e : CodecError, Program.run (parsePair i connection refresh).run s h =
      (.error (.ofCodec e), s, h) := by
  have hrefresh := run_parseAllowExpired (i := i) (s := s) (h := h) .deviceRefresh refresh
  have hconnection := run_parseAllowExpired (i := i) (s := s) (h := h) .deviceConnection connection
  cases hr : i.codec.parseAllowExpired .deviceRefresh h.clock.unix refresh with
  | error e =>
    rw [hr] at hrefresh
    exact ⟨e, by rw [parsePair, Operation.run_bind_of_error hrefresh]⟩
  | ok r =>
    rw [hr] at hrefresh
    cases hc : i.codec.parseAllowExpired .deviceConnection h.clock.unix connection with
    | error e =>
      rw [hc] at hconnection
      refine ⟨e, ?_⟩
      rw [parsePair, Operation.run_bind_of_ok hrefresh, Operation.run_bind_of_error hconnection]
    | ok c => exact absurd ⟨hc, hr⟩ (hno c r)

/-- What becomes of a pair that a device shows to have it rotated. -/
structure PairFirst (i : Issuer) (connection refresh : String) (s : Scope) (h : Host)
    (out : Except SessionError TokenSet × Scope × Host) : Prop where
  unread : (∀ c r, ¬ Reads i.codec h.clock.unix connection refresh c r) →
    ∃ e : CodecError, out = (.error (.ofCodec e), s, h)
  /-- A pair of two devices is reported, whatever else is wrong with it. -/
  mismatched {c : ConnectionClaims} {r : DeviceRefreshClaims} :
    Reads i.codec h.clock.unix connection refresh c r → c.subject ≠ r.subject →
    let report : Log.Event := .subjectMismatch .deviceRefresh c.subject r.subject refresh
    out = (.error .subjectMismatch, s, h.log [report]) ∧ report.line.channel = .security
  expired {c : ConnectionClaims} {r : DeviceRefreshClaims} :
    Reads i.codec h.clock.unix connection refresh c r → c.subject = r.subject →
    r.expiresAt + i.codec.leeway < h.clock.unix → out = (.error .expiredToken, s, h)
  /-- A new set is for the device that both tokens name. No system clock is before 1970. -/
  granted {set : TokenSet} : out.1 = .ok set →
    ∃ c r, Reads i.codec h.clock.unix connection refresh c r ∧ c.subject = r.subject ∧
      h.clock.unix ≤ r.expiresAt + i.codec.leeway ∧ s.Hears h (.state r.jti) (.ok .active) ∧
      (0 ≤ h.clock.nanos → h.clock.unix + i.codec.leeway < Word.signedBound →
        i.Honours .deviceConnection .deviceRefresh h.clock r.subject set)

theorem hears_of_call {j : Jti} (ha : .ok .active = (s.call h (.state j)).1) :
    s.Hears h (.state j) (.ok .active) := by
  have hmet := s.met_call h (.state j)
  rw [← ha] at hmet
  exact (verdict_met_eq_ok hmet).mp rfl

theorem made_of_granted {set : TokenSet}
    (hset : (Program.run (rotate i connection refresh).run s h).1 = .ok set) :
    ∃ c r, Reads i.codec h.clock.unix connection refresh c r ∧ c.subject = r.subject ∧
      h.clock.unix ≤ r.expiresAt + i.codec.leeway ∧ s.Hears h (.state r.jti) (.ok .active) ∧
      i.MadeAt .deviceConnection .deviceRefresh r.subject () () h.clock set := by
  have hgives : Gives (rotate i connection refresh)
      ((rotate i connection refresh).run.course s h) (.ok set) :=
    hset ▸ (rotate i connection refresh).run.yields_course s h
  rcases gives_rotate hgives with ⟨e, -, he⟩ | ⟨us, vs, c, r, hcourse, hpair, hx⟩
  · exact nomatch he
  have hclock : ∀ t, .clock t ∈ us ++ vs → t = h.clock := by
    rw [← hcourse]
    exact fun t => Program.clock_of_course
  cases hpair with
  | @read t u v _ _ hr hc hs hexp =>
    -- the clock stands still, so both tokens and the expiry are checked at one time
    obtain rfl := hclock t (by simp)
    obtain rfl := hclock u (by simp)
    obtain rfl := hclock v (by simp)
    have hlive := Codec.le_of_not_expired (Codec.checkExpiry_eq_ok.mp hexp)
    refine ⟨c, r, ⟨hc, hr⟩, hs, hlive, ?_⟩
    cases Issuer.gives_exchange hx with
    | won x hn _ _ =>
      refine ⟨hears_of_call (Program.call_of_course hcourse (by simp)), ?_⟩
      obtain ⟨t, ht, hmade⟩ := Issuer.made_at_of_issue hn
      obtain rfl := hclock t (by simp [ht])
      exact hmade

theorem rotate_pairFirst (i : Issuer) (connection refresh : String) (s : Scope) (h : Host) :
    PairFirst i connection refresh s h (Program.run (rotate i connection refresh).run s h) := by
  constructor
  case unread =>
    intro hno
    obtain ⟨e, hpair⟩ := run_parsePair_of_not_reads (s := s) hno
    exact ⟨e, by rw [rotate, Operation.run_bind_of_error hpair]⟩
  case mismatched =>
    intro c r hread hs
    refine ⟨?_, rfl⟩
    rw [rotate, Operation.run_bind_of_error (run_parsePair_of_mismatch hread hs)]
  case expired =>
    intro c r hread hs hlate
    have hpair := run_parsePair_of_same (s := s) hread hs
    rw [checkExpiry_of_late hlate] at hpair
    rw [rotate, Operation.run_bind_of_error hpair]
    rfl
  case granted =>
    intro set hset
    obtain ⟨c, r, hread, hs, hlive, hactive, hmade⟩ := made_of_granted hset
    exact ⟨c, r, hread, hs, hlive, hactive, hmade.honoured⟩

/-- A pair that can be read and has not expired is rotated on a host on which nothing fails. -/
theorem rotated_of_active {m : MemoryRegistry} {c : ConnectionClaims} {r : DeviceRefreshClaims}
    (hread : Reads i.codec h.clock.unix connection refresh c r) (hsame : c.subject = r.subject)
    (hlive : i.codec.expired h.clock.unix r.expiresAt = false) (hs : Smooth s h)
    (hm : h.registry = .memory m) (hactive : m.state h.clock r.jti = .active)
    (hfits : i.Fits h.clock) (hold : ∀ n, h.drawn ≤ n → h.source n ≠ r.jti) :
    ∃ set, (Program.run (rotate i connection refresh).run s h).1 = .ok set := by
  let v : Services := ⟨i, i⟩
  have hadmits : v.Admits h.clock .device connection refresh r :=
    ⟨hread.refresh, Codec.checkExpiry_eq_ok.mpr hlive, c, hread.connection, hsame⟩
  obtain ⟨set, -, hset, -⟩ := Services.issued_of_active hs hm hadmits hactive hfits hold
  have hmap : ((v.rotation .device connection refresh).run s h).1 =
      (Program.run (rotate i connection refresh).run s h).1.map Services.Reply.issued :=
    Operation.run_map _ _ s h
  cases hr : (Program.run (rotate i connection refresh).run s h).1 with
  | error e =>
    rw [hset, hr] at hmap
    exact nomatch hmap
  | ok set => exact ⟨set, rfl⟩

/-! Both tokens of a device, made at the beginning of 1970 and shown a quarter of an hour later on
a host that has the refresh token on record. -/

def sampleConnection : ConnectionClaims := ⟨default, (), ⟨"c"⟩, 0, 3600⟩

def sampleRefresh : DeviceRefreshClaims := ⟨default, (), ⟨""⟩, 0, 86400⟩

def sampleHost : Host := .recording (.ofUnix 900 0) ⟨.zero, .zero⟩ (.ofUnix 86400 0)

/-- The issuer of the sample with another leeway. -/
def sampleIssuer (leeway : Nat) : Issuer :=
  { Services.sample.devices with codec := { Services.sample.devices.codec with leeway } }

section Sample

variable {leeway : Nat} (hahead : (sampleIssuer leeway).codec.issuedAhead 900 0 = false)
include hahead

theorem reads_sample :
    Reads (sampleIssuer leeway).codec sampleHost.clock.unix
      ((sampleIssuer leeway).codec.sign sampleConnection)
      ((sampleIssuer leeway).codec.sign sampleRefresh) sampleConnection sampleRefresh where
  connection := Codec.read_eq_ok.mpr ⟨Codec.authentic_sign _ _ rfl rfl, by decide, rfl, hahead⟩
  refresh := Codec.read_eq_ok.mpr ⟨Codec.authentic_sign _ _ rfl rfl, by decide, rfl, hahead⟩

theorem rotates_sample (hlive : (sampleIssuer leeway).codec.expired 900 86400 = false) :
    ∃ set, (Program.run (rotate (sampleIssuer leeway)
      ((sampleIssuer leeway).codec.sign sampleConnection)
      ((sampleIssuer leeway).codec.sign sampleRefresh)).run .patient sampleHost).1 = .ok set := by
  refine rotated_of_active (reads_sample hahead) rfl hlive
    (smooth_recording (.ofUnix 900 0) ⟨.zero, .zero⟩ (.ofUnix 86400 0))
    (Host.registry_recording ..) (by decide) ⟨rfl, rfl⟩ fun n hn hold => ?_
  have hzero : n = 0 := Host.injective_source_fresh (.ofUnix 900 0) ⟨.zero, .zero⟩ hold
  have hone : 1 ≤ n := hn
  omega

theorem PairFirst.honours_sample {out : Except SessionError TokenSet × Scope × Host}
    (h : PairFirst (sampleIssuer leeway) ((sampleIssuer leeway).codec.sign sampleConnection)
      ((sampleIssuer leeway).codec.sign sampleRefresh) .patient sampleHost out)
    {set : TokenSet} (hset : out.1 = .ok set)
    (hend : (900 : Int) + (sampleIssuer leeway).codec.leeway < Word.signedBound) :
    (sampleIssuer leeway).Honours .deviceConnection .deviceRefresh sampleHost.clock default set := by
  obtain ⟨c, r, hread, -, -, -, hhonours⟩ := h.granted hset
  obtain rfl : r = sampleRefresh :=
    Except.ok.inj (hread.refresh.symm.trans (reads_sample hahead).refresh)
  exact hhonours (by decide) hend

end Sample

/-- A rotation of the pair hands out tokens of the device that can be read at once. -/
theorem pair_rotated :
    let i := sampleIssuer 30
    let out := Program.run (rotate i (i.codec.sign sampleConnection)
      (i.codec.sign sampleRefresh)).run .patient sampleHost
    PairFirst i (i.codec.sign sampleConnection) (i.codec.sign sampleRefresh) .patient sampleHost
        out ∧
      ∃ set, out.1 = .ok set ∧
        i.Honours .deviceConnection .deviceRefresh sampleHost.clock default set := by
  have hahead : (sampleIssuer 30).codec.issuedAhead 900 0 = false := by decide
  have hfirst := rotate_pairFirst (sampleIssuer 30)
    ((sampleIssuer 30).codec.sign sampleConnection) ((sampleIssuer 30).codec.sign sampleRefresh)
    .patient sampleHost
  obtain ⟨set, hset⟩ := rotates_sample hahead (by decide)
  exact ⟨hfirst, set, hset, hfirst.honours_sample hahead hset (by decide)⟩

/-- With a leeway of 2⁶⁴ - 1 seconds, which is minus one where seconds have a sign, the pair is
rotated as well, but the new connection token cannot be read yet. -/
theorem pair_unreadable :
    let i := sampleIssuer 18446744073709551615
    ∃ set, (Program.run (rotate i (i.codec.sign sampleConnection)
        (i.codec.sign sampleRefresh)).run .patient sampleHost).1 = .ok set ∧
      i.codec.parseAllowExpired .deviceConnection sampleHost.clock.unix set.bearer.text =
        .error (.malformed .issuedInFuture) := by
  obtain ⟨set, hset⟩ := @rotates_sample 18446744073709551615 (by decide) (by decide)
  refine ⟨set, hset, ?_⟩
  obtain ⟨c, r, -, -, -, -, b, -, bearerEnd, -, hend, -, rfl⟩ := made_of_granted hset
  obtain rfl := Option.some.inj hend
  exact (Codec.read_sign _ _ false 900 rfl rfl).trans rfl

end Device

end SessionTokens
