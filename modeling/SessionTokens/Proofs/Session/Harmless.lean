import SessionTokens.Proofs.Host.Alone
import SessionTokens.Proofs.Session.Dealings

/-! What is left of a registry of one process by an operation that fails although every call of it
is answered: all of it. Whatever can go wrong besides a call goes wrong before anything is marked,
and a rotation that runs alone does not lose the token that it found active. -/

namespace SessionTokens

open Program

namespace MemoryRegistry

variable {m m' : MemoryRegistry} {now : Instant} {j : Jti} {os : List Occurrence}

/-- Nothing becomes of a registry that is only asked about identifiers. -/
theorem Serves.eq_of_asked (h : m.Serves now os m')
    (hos : ∀ c x, .called c (.ok x) ∈ os → ∃ j, c = .state j) : m' = m := by
  refine h.preserves (P := fun n => n = m) (fun c x hc n hn => ?_) rfl
  obtain ⟨j, rfl⟩ := hos c x hc
  exact hn

theorem state_record_ne_revoked (h : m.state now j ≠ .revoked) (k : Jti) (e : Instant) :
    (m.call now (.record k e)).2.state now j ≠ .revoked := by
  intro hrevoked
  obtain ⟨r, hr, hmark⟩ := state_eq_revoked.mp hrevoked
  rcases get?_call (get?_of_live? hr) with hold | hnew
  · have hlive : r.live now = true := (Option.filter_eq_some_iff.mp hr).2
    exact h (state_eq_revoked.mpr ⟨r, Option.filter_eq_some_iff.mpr ⟨hold, hlive⟩, hmark⟩)
  · exact nomatch (Prod.mk.inj (Option.some.inj hnew)).2.trans hmark

theorem Serves.state_ne_revoked (h : m.Serves now os m')
    (hos : ∀ c x, .called c (.ok x) ∈ os → ∃ k e, c = .record k e)
    (hj : m.state now j ≠ .revoked) : m'.state now j ≠ .revoked := by
  refine h.preserves (P := fun n => n.state now j ≠ .revoked) (fun c x hc n hn => ?_) hj
  obtain ⟨k, e, rfl⟩ := hos c x hc
  exact state_record_ne_revoked hn k e

end MemoryRegistry

/-- If every call of the course is answered, the registry is in the end what it was. -/
def Harmless (os : List Occurrence) : Prop :=
  (∀ c e, .called c (.error e) ∉ os) →
    ∀ m now m', MemoryRegistry.Serves now m os m' → m' = m

section Harmless

variable {os us : List Occurrence}

theorem harmless_nil : Harmless [] := fun _ _ _ _ h => h

theorem harmless_of_failed {c : RegistryCall} {e : RegistryError}
    (h : .called c (.error e) ∈ os) : Harmless os :=
  fun hanswered => absurd h (hanswered c e)

theorem harmless_of_asked (h : ∀ c x, .called c (.ok x) ∈ os → ∃ j, c = .state j) :
    Harmless os :=
  fun _ _ _ _ hserves => hserves.eq_of_asked h

theorem harmless_state {j : Jti} {a : Except RegistryError JtiState} :
    Harmless [.called (.state j) a] :=
  harmless_of_asked fun _ _ hc => ⟨j, (Occurrence.called.inj (List.mem_singleton.mp hc)).1⟩

theorem Harmless.append (h : Harmless os) (h' : Harmless us) : Harmless (os ++ us) := by
  intro hanswered m now m' hserves
  obtain ⟨n, hos, hus⟩ := MemoryRegistry.serves_append.mp hserves
  obtain rfl := h (fun c e hc => hanswered c e (List.mem_append_left _ hc)) m now n hos
  exact h' (fun c e hc => hanswered c e (List.mem_append_right _ hc)) n now m' hus

theorem harmless_dealings : Harmless (dealings os) ↔ Harmless os := by
  simp only [Harmless, called_mem_dealings, MemoryRegistry.serves_dealings]

end Harmless

section Deals

variable {i : Issuer} {s : Side} {v : Services} {os us : List Occurrence} {e : SessionError}

theorem harmless_issue {subject : Uuid} (h : IssueDeals i s subject os us (.error e)) :
    Harmless us := by
  rcases Services.hindered_of_unissued h with ⟨-, js, rfl⟩ | ⟨c, x, hx⟩
  · exact harmless_of_asked (by simp)
  · exact harmless_of_failed hx

theorem harmless_validate {token : String} {r : Except SessionError (Claims s.bearer)}
    (h : ValidateDeals i s token os us r) : Harmless us := by
  cases h with
  | unread => exact harmless_nil
  | refused | accepted => exact harmless_state

/-- Alone, nobody revokes the old token between the call that finds it active and the one that is
to revoke it: the new set is recorded in between, and a record revokes nothing. -/
theorem harmless_lost {old : Claims s.refresh} {set : TokenSet} :
    Harmless (.called (.state old.jti) (.ok .active) :: (set.registration ++
      old.entry.revocation (.ok .alreadyRevoked) :: us)) := by
  intro _ m now m' hserves
  obtain ⟨hactive, hserves⟩ := MemoryRegistry.serves_state.mp hserves
  obtain ⟨n, hrecorded, hserves⟩ := MemoryRegistry.serves_append.mp hserves
  have hold : n.state now old.jti ≠ .revoked := by
    refine hrecorded.state_ne_revoked (fun c x hc => ?_) (by simp [← hactive])
    simp only [TokenSet.registration, Entry.recording, List.mem_cons, reduceCtorEq,
      Occurrence.called.injEq, List.not_mem_nil, or_false, false_or] at hc
    rcases hc with ⟨rfl, -⟩ | ⟨rfl, -⟩ <;> exact ⟨_, _, rfl⟩
  have hlost : RevokeOutcome.alreadyRevoked = (n.revoke now old.jti old.entry.expiresAt).1 :=
    (MemoryRegistry.serves_answered.mp hserves).1
  rw [MemoryRegistry.outcome_revoke] at hlost
  cases hstate : n.state now old.jti with
  | revoked => exact absurd hstate hold
  | active | unknown =>
    rw [hstate] at hlost
    cases hlost

theorem harmless_exchange {old : Claims s.refresh} {extra : List Entry}
    (h : ExchangeDeals i s old extra os us (.error e)) : Harmless us := by
  generalize hr : (Except.error e : Except SessionError TokenSet) = r at h
  cases h with
  | refused => exact harmless_state
  | unrenewed hissue => exact (harmless_state (j := old.jti)).append (harmless_issue hissue)
  | lost => exact harmless_lost
  | won => exact nomatch hr

theorem harmless_rotate {companion : s.Companion} {token : String}
    (h : RotateDeals v s companion token os us (.error e)) : Harmless us := by
  generalize hr : (Except.error e : Except SessionError TokenSet) = r at h
  cases h with
  | unread => exact harmless_nil
  | exchanged _ hx => exact harmless_exchange (hr ▸ hx)

theorem dealings_shows {k : TokenKind} {holder : Log.Holder} {shown : Option String}
    {x : Option (String × Claims k)} (h : Issuer.Shows i k holder shown os x) :
    dealings os = [] := by
  cases h <;> rfl

theorem harmless_logout {k bearer : TokenKind} {holder : Log.Holder} {c : Claims bearer}
    {shown : Option String} (h : Gives (i.logout holder k c shown) os (.error e)) :
    Harmless os := by
  generalize hr : (Except.error e : Except SessionError Unit) = r at h
  cases Issuer.gives_logout h with
  | mismatch hs =>
    refine harmless_dealings.mp ?_
    rw [dealings_append, dealings_shows hs]
    exact harmless_nil
  | @failedPair _ _ refresh _ x y hs _ he =>
    cases x with
    | error x => exact harmless_of_failed (List.mem_append_right _ List.mem_cons_self)
    | ok x =>
      cases y with
      | error y =>
        exact harmless_of_failed
          (List.mem_append_right _ (List.mem_cons_of_mem _ List.mem_cons_self))
      | ok y => exact nomatch he
  | failedBearer e => exact harmless_of_failed (List.mem_append_right _ List.mem_cons_self)
  | pair | bearer => exact nomatch hr

end Deals

namespace Program

variable {ε α β : Type} {x : ExceptT ε Program α} {f : α → ExceptT ε Program β}

/-- However it ends, it is harmless. -/
def Watches (x : ExceptT ε Program α) : Prop := ∀ os r, Gives x os r → Harmless os

/-- It is harmless if it fails. -/
def Spares (x : ExceptT ε Program α) : Prop := ∀ os e, Gives x os (.error e) → Harmless os

theorem Watches.bind (hx : Watches x) (hf : ∀ a, Watches (f a)) : Watches (x >>= f) := by
  intro os r h
  rcases gives_bind.mp h with ⟨e, he, -⟩ | ⟨us, vs, a, rfl, ha, hrest⟩
  · exact hx os _ he
  · exact (hx us _ ha).append (hf a vs r hrest)

theorem Watches.spares_bind (hx : Watches x) (hf : ∀ a, Spares (f a)) : Spares (x >>= f) := by
  intro os e h
  rcases gives_bind.mp h with ⟨e', he, -⟩ | ⟨us, vs, a, rfl, ha, hrest⟩
  · exact hx os _ he
  · exact (hx us _ ha).append (hf a vs e hrest)

theorem spares_pure {a : α} : Spares (pure a : ExceptT ε Program α) :=
  fun _ _ h => nomatch (gives_pure.mp h).2

/-- What is made of a result does not matter if nothing of it can fail. -/
theorem Spares.map (hx : Spares x) (g : α → β) : Spares (x >>= fun a => pure (g a)) := by
  intro os e h
  rcases gives_bind.mp h with ⟨e', he, -⟩ | ⟨us, vs, a, rfl, -, hrest⟩
  · exact hx os e' he
  · exact absurd (gives_pure.mp hrest).2 nofun

end Program

end SessionTokens
