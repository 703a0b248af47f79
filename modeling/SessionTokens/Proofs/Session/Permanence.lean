import SessionTokens.Proofs.Host.Progress
import SessionTokens.Proofs.Session.Dealings

/-! Revocation is permanent. The mark itself is not: its record dies, is dropped when the records
are counted and may be overwritten. What lasts is that no record of the identifier is active, as
only the request that drew an identifier records it. -/

namespace SessionTokens

namespace Services

variable {v : Services}

/-- The identifier of the token that a request shows to have it validated or exchanged. -/
def shown? (v : Services) : Request → Option Jti
  | .validate s token => (v.issuer s).codec.jti? s.bearer token
  | .rotate s _ token => (v.issuer s).codec.jti? s.refresh token
  | _ => none

theorem active_of_accepted {q : Request} {os us : List Occurrence} {r : Reply} {j : Jti}
    (h : v.Deals os q us (.ok r)) (hj : v.shown? q = some j) :
    .called (.state j) (.ok .active) ∈ us := by
  generalize ha : (Except.ok r : Except SessionError Reply) = a at h
  cases h with
  | validate h =>
    cases h with
    | unread => exact nomatch ha
    | refused => exact nomatch ha
    | accepted _ hp =>
      obtain rfl := Option.some.inj
        ((Codec.jti?_of_authentic (Codec.authentic_of_parse hp)).symm.trans hj)
      exact List.mem_singleton_self _
  | rotate h =>
    cases h with
    | unread => exact nomatch ha
    | exchanged hp h =>
      obtain rfl := Option.some.inj ((Codec.jti?_of_authentic hp).symm.trans hj)
      cases h with
      | won => exact List.mem_cons_self ..
      | _ => exact nomatch ha
  | _ => exact nomatch hj

open SessionTokens.System

/-- Once an identifier is revoked that was drawn by a strand which has ended, no request that
begins later and shows a token under it is served, whatever the clock does and whichever calls
fail. -/
theorem revocation_permanent {h : Host} {m : MemoryRegistry} {s t u : System Request _}
    {before after : List (Happening Request)} {j : Jti} {e : Instant} {o : RevokeOutcome}
    {i k : Nat} {q : Request} {a : Except SessionError Reply}
    (hm : h.registry = .memory m) (hinj : Function.Injective h.source)
    (hbefore : Run v.serve (fun _ _ => True) (start h) before s)
    (hsettled : Settled h before s j)
    (hrevoked : Step v.serve s (.moved k (.called (.revoke j e) (.ok o))) t)
    (hafter : Run v.serve (fun _ _ => True) t after u)
    (hnew : t.strands[i]? = none) (hended : u.Ended i q a) (hshown : v.shown? q = some j) :
    ∃ e, a = .error e := by
  obtain ⟨m', hm'⟩ := hbefore.memory hm
  have hspent : t.Holds fun _ m => m.Spent j :=
    ⟨_, (hrevoked.answered hm').2.1, MemoryRegistry.spent_revoke m' _ j e⟩
  have hstep : Run v.serve (fun _ _ => True) s [.moved k (.called (.revoke j e) (.ok o))] t :=
    .next .refl trivial hrevoked
  have hrecorded := (hbefore.trans hstep).not_recorded v.orderly hinj (hsettled.mono hstep) hafter
  rcases hafter.leads_of_new hnew with ⟨hn, -⟩ | ⟨q', p, hp, -, hl⟩
  · exact nomatch hn.symm.trans hended
  obtain ⟨rfl, rfl⟩ := Strand.mk.inj (Option.some.inj (hp.symm.trans hended))
  cases a with
  | error e => exact ⟨e, rfl⟩
  | ok r =>
    have hactive := called_mem_dealings.mp (active_of_accepted (deals hl) hshown)
    exact absurd (mem_turnsOf.mp hactive)
      (hafter.not_active_of_spent hspent (fun i e x => hrecorded i e (.ok x)) i)

/-- An access token under the first identifier of a host is refused once that is revoked. -/
theorem revoked_token_refused :
    ∃ (ls : List (Happening Request)) (u : System Request (Except SessionError Reply))
      (e : SessionError),
      let shown : Request := .validate .user
        (sample.users.codec.sign (k := .userAccess) ⟨default, [], ⟨""⟩, 0, 3600⟩)
      Run sample.serve (fun _ _ => True)
        (start (.recording ⟨0⟩ ⟨.ofSeconds 60, .zero⟩ ⟨3600000000000⟩))
        (.begun (.revoke .user ⟨⟨""⟩, ⟨0⟩⟩ ⟨⟨"other"⟩, ⟨0⟩⟩) ::
          .moved 0 (.called (.revoke ⟨""⟩ ⟨0⟩) (.ok .revoked)) :: .begun shown :: ls) u ∧
        u.Ended 1 shown (.error e) := by
  let g : Host := .recording ⟨0⟩ ⟨.ofSeconds 60, .zero⟩ ⟨3600000000000⟩
  let claims : AccessClaims := ⟨default, [], ⟨""⟩, 0, 3600⟩
  let q : Request := .validate .user (sample.users.codec.sign claims)
  let r : Request := .revoke .user ⟨⟨""⟩, ⟨0⟩⟩ ⟨⟨"other"⟩, ⟨0⟩⟩
  let h : Host := (g.callRegistry (.revoke ⟨""⟩ ⟨0⟩)).2
  let free (_ : System Request (Except SessionError Reply)) (_ : Happening Request) : Prop := True
  have hbefore : Run sample.serve free (start g) [.begun r] ⟨g, [⟨r, sample.serve r⟩]⟩ :=
    .cons trivial (.begun r) .refl
  obtain ⟨p, hrevoked⟩ : ∃ p, Step sample.serve ⟨g, [⟨r, sample.serve r⟩]⟩
      (.moved 0 (.called (.revoke ⟨""⟩ ⟨0⟩) (.ok .revoked))) ⟨h, [⟨r, p⟩]⟩ :=
    ⟨_, .moved rfl (.call _ _ _) (.answered _)⟩
  have hfree : ∀ v i o, o.isFailure = false → free v (.moved i o) := fun _ _ _ _ => trivial
  obtain ⟨os, hafter, -⟩ := exists_served sample.serve hfree steady_smooth .patient
    (show Smooth .patient h from ⟨⟨_, rfl⟩, rfl, rfl, rfl, rfl⟩) [⟨r, p⟩] (q := q) trivial
  generalize (sample.serve q).run .patient h = x at hafter
  have hm : g.registry = .memory _ := Host.registry_recording ..
  have hinj : Function.Injective g.source :=
    Host.injective_source_fresh ⟨0⟩ ⟨.ofSeconds 60, .zero⟩
  have hsettled : Settled g [.begun r] ⟨g, [⟨r, sample.serve r⟩]⟩ ⟨""⟩ :=
    .inl ⟨0, by decide, rfl⟩
  have hshown : sample.shown? q = some ⟨""⟩ :=
    Codec.jti?_sign sample.users.codec claims rfl rfl
  obtain ⟨e, he⟩ :=
    revocation_permanent hm hinj hbefore hsettled hrevoked hafter (i := 1) rfl rfl hshown
  exact ⟨_, _, e, hbefore.trans (.cons trivial hrevoked hafter), he ▸ rfl⟩

end Services

end SessionTokens
