import SessionTokens.Proofs.Session.Dealings
import SessionTokens.Proofs.Session.Tries

/-! A logout does what it reports. It tries to revoke what it was shown, each entry whatever became
of the one before, and says which was the first to fail; what it has revoked stays so. -/

namespace SessionTokens

open Program Operation

namespace Issuer

variable {i : Issuer} {k bearer : TokenKind} {holder : Log.Holder} {c : Claims bearer}
  {shown : Option String} {s : Scope} {h : Host} {now : Instant}

/-- The refresh token shown at a logout and what it says, if it is valid. -/
def shown? (i : Issuer) (k : TokenKind) (now : Int) : Option String → Option (String × Claims k)
  | none => none
  | some token =>
    match i.codec.parse k now token with
    | .ok r => some (token, r)
    | .error _ => none

/-- What a logout has to revoke. -/
def leaving (c : Claims bearer) (x : Option (String × Claims k)) : List Entry :=
  c.entry :: (x.map fun r => r.2.entry).toList

theorem shown?_of_shows {os : List Occurrence} {x : Option (String × Claims k)}
    (hs : Shows i k holder shown os x) (hclock : ∀ t, .clock t ∈ os → t = now) :
    i.shown? k now.unix shown = x ∧ dealings os = [] := by
  cases hs with
  | nothing => exact ⟨rfl, rfl⟩
  | @read t token r hp =>
    obtain rfl := hclock t (by simp)
    exact ⟨by rw [shown?, hp], rfl⟩
  | @ignored t token e hp =>
    obtain rfl := hclock t (by simp)
    exact ⟨by rw [shown?, hp], rfl⟩

theorem tries_logout
    (hsame : ∀ token r, i.shown? k now.unix shown = some (token, r) → r.subject = c.subject) :
    (i.logout holder k c shown).run.Tries now (leaving c (i.shown? k now.unix shown)) := by
  intro os r hy hclock
  have hread {us vs : List Occurrence} {x : Option (String × Claims k)}
      (hs : Shows i k holder shown us x) (hclock : ∀ t, .clock t ∈ us ++ vs → t = now) :
      i.shown? k now.unix shown = x ∧ dealings us = [] :=
    shown?_of_shows hs fun t ht => hclock t (List.mem_append_left _ ht)
  cases gives_logout hy with
  | mismatch hs hne =>
    obtain ⟨hx, -⟩ := hread hs hclock
    exact absurd (hsame _ _ hx) hne
  | @failedPair us token rc e x y hs heq he =>
    obtain ⟨hx, hus⟩ := hread hs hclock
    refine ⟨[⟨c.entry, x⟩, ⟨rc.entry, y⟩], by rw [hx]; rfl, ?_, ?_⟩
    · simp [hus, Try.occurrence]
    · rw [← he]
      cases x <;> cases y <;> rfl
  | @pair us token rc x y hs heq =>
    obtain ⟨hx, hus⟩ := hread hs hclock
    refine ⟨[⟨c.entry, .ok x⟩, ⟨rc.entry, .ok y⟩], by rw [hx]; rfl, ?_, rfl⟩
    simp [hus, Try.occurrence]
  | failedBearer e hs =>
    obtain ⟨hx, hus⟩ := hread hs hclock
    exact ⟨[⟨c.entry, .error e⟩], by rw [hx]; rfl, by simp [hus, Try.occurrence], rfl⟩
  | bearer x hs =>
    obtain ⟨hx, hus⟩ := hread hs hclock
    exact ⟨[⟨c.entry, .ok x⟩], by rw [hx]; rfl, by simp [hus, Try.occurrence], rfl⟩

theorem run_logout_of_mismatch {token : String} {r : Claims k}
    (hshown : i.shown? k h.clock.unix shown = some (token, r)) (hne : r.subject ≠ c.subject) :
    Program.run (i.logout holder k c shown).run s h =
      (.error .subjectMismatch, s, h.log [.subjectMismatch k c.subject r.subject token]) := by
  cases shown with
  | none => exact nomatch hshown
  | some text =>
    have hread : Program.run (i.shownRefresh k holder (some text)).run s h =
        (.ok (some (token, r)), s, h) := by
      have hnow : Program.run Operation.now.run s h = (.ok h.clock, s, h) := rfl
      rw [shownRefresh, Operation.run_bind_of_ok hnow]
      cases hp : i.codec.parse k h.clock.unix text with
      | error e => simp [shown?, hp] at hshown
      | ok r' =>
        simp only [shown?, hp] at hshown
        rw [← hshown]
        rfl
    rw [logout, Operation.run_bind_of_ok hread]
    simp only [ne_eq, hne, not_false_eq_true, if_true]
    rfl

/-- What becomes of a logout. -/
structure LogsOut (i : Issuer) (k : TokenKind) {bearer : TokenKind} (c : Claims bearer)
    (shown : Option String) (p : Program (Except SessionError Unit)) (s : Scope) (h : Host)
    (m : MemoryRegistry) : Prop where
  mismatched {token : String} {r : Claims k} :
    i.shown? k h.clock.unix shown = some (token, r) → r.subject ≠ c.subject →
    p.run s h = (.error .subjectMismatch, s, h.log [.subjectMismatch k c.subject r.subject token])
  withdraws :
    (∀ token r, i.shown? k h.clock.unix shown = some (token, r) → r.subject = c.subject) →
    ∃ ts m', Withdraws p (leaving c (i.shown? k h.clock.unix shown)) s h m ts m'

theorem logsOut_logout (i : Issuer) (holder : Log.Holder) (k : TokenKind) (c : Claims bearer)
    (shown : Option String) (s : Scope) {m : MemoryRegistry} (hm : h.registry = .memory m)
    (hh : h.Honest) : LogsOut i k c shown (i.logout holder k c shown).run s h m where
  mismatched hshown hne := run_logout_of_mismatch hshown hne
  withdraws hsame := (tries_logout hsame).withdraws hm hh

end Issuer

theorem logout_does_as_reported (i : Issuer) (shown : Option String) (s : Scope) {h : Host}
    {m : MemoryRegistry} (hm : h.registry = .memory m) (hh : h.Honest) :
    (∀ c : AccessClaims, i.LogsOut .userRefresh c shown (User.logout i c shown).run s h m) ∧
      ∀ c : ConnectionClaims,
        i.LogsOut .deviceRefresh c shown (Device.logout i c shown).run s h m :=
  ⟨fun c => i.logsOut_logout _ _ c shown s hm hh, fun c => i.logsOut_logout _ _ c shown s hm hh⟩

/-- A logout with both tokens of a session, the first of whose calls times out. -/
theorem logout_tries_both :
    let i := Services.sample.users
    let c : AccessClaims := ⟨default, [], ⟨"a"⟩, 0, 3600⟩
    let p : Retention := ⟨.ofSeconds 60, .zero⟩
    let h : Host := { Host.fresh ⟨0⟩ p with faults := [.fail .timedOut] }
    (h.registry = .memory (.empty p) ∧ h.Honest) ∧
      ∃ ts m', Withdraws (User.logout i c (some (i.codec.sign Services.sampleRefresh))).run
        [c.entry, Services.sampleRefresh.entry] .patient h (.empty p) ts m' := by
  intro i c p h
  have hm : h.registry = .memory (.empty p) := rfl
  have hh : h.Honest := by simp [Host.Honest, h, Fault.Honest]
  have hread : i.codec.parse .userRefresh h.clock.unix (i.codec.sign Services.sampleRefresh) =
      .ok Services.sampleRefresh :=
    Codec.read_eq_ok.mpr ⟨Codec.authentic_sign _ _ rfl rfl, by decide, by decide, by decide⟩
  have hshown : i.shown? .userRefresh h.clock.unix (some (i.codec.sign Services.sampleRefresh)) =
      some (i.codec.sign Services.sampleRefresh, Services.sampleRefresh) := by
    rw [Issuer.shown?, hread]
  have hout := ((logout_does_as_reported i (some (i.codec.sign Services.sampleRefresh)) .patient
    hm hh).1 c).withdraws
  rw [hshown] at hout
  refine ⟨⟨hm, hh⟩, hout fun token r hr => ?_⟩
  obtain ⟨-, rfl⟩ := Prod.mk.inj (Option.some.inj hr)
  rfl

end SessionTokens
