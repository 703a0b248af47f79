import Mathlib.Data.List.Induction
import SessionTokens.Proofs.Registry.Coverage

/-! How long the marks of a registry of one process last, over calls that are made in the order of
their times. A revoked mark stands against every call until its deadline, nothing moves that
deadline, and nothing else makes an identifier revoked. A call that would keep a record for longer
than a span can hold does not come back: it answers nothing, also where it would not have kept the
record, and it changes nothing. -/

namespace SessionTokens

namespace Retention

variable {p : Retention} {expiresAt now : Instant}

/-- Where a mark ends that is made at `now`: after what is left of its token's time, or after the
fallback if that is longer, and the skew; at the latest at the end of the calendar. -/
def markEnd (p : Retention) (expiresAt now : Instant) : Int :=
  min Instant.last.nanos
    (now.nanos + max (max (expiresAt.nanos - now.nanos) p.fallback.nanos) 0 + p.skew.nanos)

theorem nanos_ttl (p : Retention) (expiresAt now : Instant) : ((p.ttl expiresAt now).nanos : Int) =
    min (Span.most.nanos : Int)
      (max (max (expiresAt.nanos - now.nanos) p.fallback.nanos) 0 + p.skew.nanos) := by
  have hleft : ((now.timeTo expiresAt).nanos : Int) = max (expiresAt.nanos - now.nanos) 0 :=
    Int.toNat_eq_max _
  rw [nanos_ttl_eq_min]
  omega

theorem nanos_deadline (h : now.inRange = true) :
    (p.deadline expiresAt now).nanos = p.markEnd expiresAt now := by
  have hbounds := Instant.inRange_iff.mp h
  have httl := p.nanos_ttl expiresAt now
  have hfirst := Instant.nanos_first
  have hlast := Instant.nanos_last
  have hmost := Span.nanos_most
  simp only [deadline, markEnd, Int.add_assoc, Instant.plusClamped]
  generalize p.ttl expiresAt now = d at httl
  cases hplus : now.plus? d with
  | some u =>
    have hu := (Instant.plus?_eq_some hplus).1
    have hle := Instant.le_last_of_plus? hplus
    simp only [Option.getD_some]
    omega
  | none =>
    have hlong := (Instant.plus?_eq_none_iff hbounds.1).mp hplus
    simp only [Option.getD_none]
    omega

/-- A record that is made at `now` is to be kept for less than 2⁶⁴ seconds. -/
def Fits (p : Retention) (expiresAt now : Instant) : Prop :=
  max (max (expiresAt.nanos - now.nanos) p.fallback.nanos) 0 + p.skew.nanos <
    Word.bound * 1000000000

instance (p : Retention) (expiresAt now : Instant) : Decidable (p.Fits expiresAt now) :=
  inferInstanceAs (Decidable (_ < _))

theorem isSome_ttl?_iff : (p.ttl? expiresAt now).isSome = true ↔ p.Fits expiresAt now := by
  have hleft : ((now.timeTo expiresAt).nanos : Int) = max (expiresAt.nanos - now.nanos) 0 :=
    Int.toNat_eq_max _
  have hmost : (Span.most.nanos : Int) = Word.bound * 1000000000 - 1 := rfl
  rw [isSome_ttl?, Fits]
  omega

/-- A call comes back if it makes no record, or one that is not kept for too long. -/
theorem admits_iff {c : RegistryCall} :
    p.admits now c = true ↔ ∀ e ∈ c.expiry?, p.Fits e now := by
  cases hc : c.expiry? with
  | none => simp [admits, hc]
  | some e => simp [admits, hc, isSome_ttl?_iff]

end Retention

/-- The call that makes a mark. -/
def Mark.call : Mark → Jti → Instant → RegistryCall
  | active, j, e => .record j e
  | revoked, j, e => .revoke j e

theorem RegistryCall.marking?_eq_some {c : RegistryCall} {j : Jti} {mark : Mark} :
    c.marking? = some (j, mark) ↔ ∃ e, c = mark.call j e := by
  constructor
  · intro h
    cases c with
    | record k e | revoke k e =>
      obtain ⟨rfl, rfl⟩ := Prod.mk.inj (Option.some.inj h)
      exact ⟨e, rfl⟩
    | state k | stats => exact nomatch h
  · rintro ⟨e, rfl⟩
    cases mark <;> rfl

namespace MemoryRegistry

variable {m : MemoryRegistry} {j : Jti} {t u now e : Instant} {r : Record} {mark : Mark}
  {calls past since : List (Instant × RegistryCall)}

/-- The registry after calls that are made one after the other, each at its time. -/
def after (m : MemoryRegistry) (calls : List (Instant × RegistryCall)) : MemoryRegistry :=
  calls.foldl (fun m c => (m.call c.1 c.2).2) m

@[simp] theorem after_nil : m.after [] = m := rfl

@[simp] theorem after_cons {c : Instant × RegistryCall} :
    m.after (c :: calls) = (m.call c.1 c.2).2.after calls := rfl

@[simp] theorem after_append : m.after (past ++ since) = (m.after past).after since :=
  List.foldl_append

theorem retention_after (m : MemoryRegistry) (calls : List (Instant × RegistryCall)) :
    (m.after calls).retention = m.retention := by
  induction calls generalizing m with
  | nil => rfl
  | cons c calls ih => rw [after_cons, ih, retention_call]

section Call

theorem record_of_revoked (h : m.state now j = .revoked) (e : Instant) : m.record now j e = m := by
  simp only [record, h]

theorem revoke_of_revoked (h : m.state now j = .revoked) (e : Instant) :
    m.revoke now j e = (.alreadyRevoked, m) := by
  simp only [revoke, h]

theorem call_of_revoked (h : m.state now j = .revoked) (mark : Mark) (e : Instant) :
    (m.call now (mark.call j e)).2 = m := by
  cases mark with
  | active => exact record_of_revoked h e
  | revoked => exact congrArg Prod.snd (revoke_of_revoked h e)

theorem call_of_not_revoked (h : m.state now j ≠ .revoked) (mark : Mark) (e : Instant) :
    (m.call now (mark.call j e)).2 = m.put j (m.retention.record mark e now) := by
  cases mark with
  | active => exact (Marks.active h).eq_put
  | revoked =>
    refine (Marks.revoked ?_).eq_put
    rw [outcome_revoke]
    cases hs : m.state now j with
    | revoked => exact absurd hs h
    | active | unknown => nofun

theorem get?_call_of_not_revoked (h : m.state now j ≠ .revoked) (mark : Mark) (e : Instant) :
    (m.call now (mark.call j e)).2.get? j = some (m.retention.record mark e now) := by
  rw [call_of_not_revoked h, get?_put, if_pos rfl]

theorem state_eq_revoked_of_get? (h : m.get? j = some r) (hmark : r.mark = .revoked)
    (hlive : r.live now = true) : m.state now j = .revoked :=
  state_eq_revoked.mpr ⟨r, Option.filter_eq_some_iff.mpr ⟨h, hlive⟩, hmark⟩

/-- No call touches a revoked mark before its deadline. -/
theorem get?_call_of_revoked (h : m.get? j = some r) (hmark : r.mark = .revoked)
    (hlive : r.live now = true) (c : RegistryCall) : (m.call now c).2.get? j = some r := by
  have hrevoked := state_eq_revoked_of_get? h hmark hlive
  by_cases hc : ∃ mark, c.marking? = some (j, mark)
  · obtain ⟨mark, hc⟩ := hc
    obtain ⟨e, rfl⟩ := RegistryCall.marking?_eq_some.mp hc
    rw [call_of_revoked hrevoked, h]
  · have hlater : (m.call now c).2.live? now j = m.live? now j :=
      live?_call (Int.le_refl _) fun mark hm => hc ⟨mark, hm⟩
    have hfound : (m.call now c).2.live? now j = some r := by
      rw [hlater, live?, h, Option.filter, if_pos hlive]
    exact get?_of_live? hfound

end Call

def Leave (calls : List (Instant × RegistryCall)) (j : Jti) : Prop :=
  ∀ c ∈ calls, ∀ mark, c.2.marking? ≠ some (j, mark)

section After

theorem live?_after_of_leave (hu : ∀ c ∈ calls, c.1.nanos ≤ u.nanos) (h : Leave calls j) :
    (m.after calls).live? u j = m.live? u j := by
  induction calls generalizing m with
  | nil => rfl
  | cons c calls ih =>
    rw [after_cons, ih (fun c hc => hu c (List.mem_cons_of_mem _ hc))
      fun c hc => h c (List.mem_cons_of_mem _ hc)]
    exact live?_call (hu c List.mem_cons_self) (h c List.mem_cons_self)

theorem get?_after_of_revoked (h : m.get? j = some r) (hmark : r.mark = .revoked)
    (hlive : ∀ c ∈ calls, r.live c.1 = true) : (m.after calls).get? j = some r := by
  induction calls generalizing m with
  | nil => exact h
  | cons c calls ih =>
    exact ih (get?_call_of_revoked h hmark (hlive c List.mem_cons_self) c.2)
      fun c hc => hlive c (List.mem_cons_of_mem _ hc)

/-- Once a revoked mark is dead nothing is on record, until a call marks the identifier anew. -/
theorem live?_after_of_dead (hu : ∀ c ∈ calls, c.1.nanos ≤ u.nanos)
    (horder : calls.Pairwise (·.1.nanos ≤ ·.1.nanos)) (h : m.get? j = some r)
    (hmark : r.mark = .revoked) (hdead : r.live u = false)
    (hleave : ∀ c ∈ calls, r.live c.1 = false → ∀ mark, c.2.marking? ≠ some (j, mark)) :
    (m.after calls).live? u j = none := by
  have hnow : ∀ {m : MemoryRegistry}, m.get? j = some r → m.live? u j = none := by
    intro m h
    simp [live?, h, Option.filter, hdead]
  induction calls generalizing m with
  | nil => exact hnow h
  | cons c calls ih =>
    obtain ⟨hlater, horder⟩ := List.pairwise_cons.mp horder
    cases hlive : r.live c.1 with
    | true =>
      exact ih (fun d hd => hu d (List.mem_cons_of_mem _ hd)) horder
        (get?_call_of_revoked h hmark hlive c.2) fun d hd => hleave d (List.mem_cons_of_mem _ hd)
    | false =>
      -- from here on every call comes after the deadline
      have hdeadline : ∀ d ∈ c :: calls, r.live d.1 = false := by
        intro d hd
        rcases List.mem_cons.mp hd with rfl | hd
        · exact hlive
        · have hle := hlater d hd
          simp only [Record.live, decide_eq_false_iff_not] at hlive ⊢
          omega
      rw [live?_after_of_leave hu fun d hd => hleave d hd (hdeadline d hd), hnow h]

/-- Where a live mark comes from: a call that took effect, after which an active mark has not been
touched. -/
def Stems (m : MemoryRegistry) (calls : List (Instant × RegistryCall)) (j : Jti) (r : Record) :
    Prop :=
  ∃ past t e since, calls = past ++ (t, r.mark.call j e) :: since ∧
    (m.after past).state t j ≠ .revoked ∧ r = m.retention.record r.mark e t ∧
    (r.mark = .active → Leave since j)

theorem Stems.snoc (h : m.Stems calls j r) {c : Instant × RegistryCall}
    (hc : r.mark = .active → ∀ mark, c.2.marking? ≠ some (j, mark)) :
    m.Stems (calls ++ [c]) j r := by
  obtain ⟨past, t, e, since, rfl, heffect, hr, hleave⟩ := h
  refine ⟨past, t, e, since ++ [c], by simp, heffect, hr, fun hactive d hd => ?_⟩
  rcases List.mem_append.mp hd with hd | hd
  · exact hleave hactive d hd
  · obtain rfl := List.mem_singleton.mp hd
    exact hc hactive

theorem stems_of_live? (hstart : m.get? j = none) (hu : ∀ c ∈ calls, c.1.nanos ≤ u.nanos)
    (hr : (m.after calls).live? u j = some r) : m.Stems calls j r := by
  induction calls using List.reverseRecOn with
  | nil => exact nomatch hstart.symm.trans (get?_of_live? hr)
  | append_singleton calls c ih =>
    obtain ⟨now, c⟩ := c
    have hnow : now.nanos ≤ u.nanos := hu (now, c) List.mem_concat_self
    have hrest : ∀ c ∈ calls, c.1.nanos ≤ u.nanos := fun c hc => hu c (List.mem_append_left _ hc)
    rw [after_append, after_cons, after_nil] at hr
    by_cases hc : ∃ mark, c.marking? = some (j, mark)
    · obtain ⟨mark, hc⟩ := hc
      obtain ⟨e, rfl⟩ := RegistryCall.marking?_eq_some.mp hc
      by_cases hs : (m.after calls).state now j = .revoked
      · rw [call_of_revoked hs] at hr
        obtain ⟨r', hr', hmark⟩ := state_eq_revoked.mp hs
        obtain rfl := Option.some.inj (hr'.symm.trans (live?_of_later hnow hr))
        exact (ih hrest hr).snoc fun hactive => nomatch hactive.symm.trans hmark
      · rw [call_of_not_revoked hs, live?_put, if_pos rfl] at hr
        split at hr
        · obtain rfl := Option.some.inj hr
          exact ⟨calls, now, e, [], rfl, hs, by rw [retention_after]; rfl, fun _ => nofun⟩
        · exact nomatch hr
    · have hother : ∀ mark, c.marking? ≠ some (j, mark) := fun mark hm => hc ⟨mark, hm⟩
      rw [live?_call hnow hother] at hr
      exact (ih hrest hr).snoc fun _ => hother

end After

end MemoryRegistry

/-- Calls in the order of their times, all of them made by `u`, at instants of the calendar. -/
structure Chronological (calls : List (Instant × RegistryCall)) (u : Instant) : Prop where
  inOrder : calls.Pairwise (·.1.nanos ≤ ·.1.nanos)
  past : ∀ c ∈ calls, c.1.nanos ≤ u.nanos
  inRange : ∀ c ∈ calls, c.1.inRange = true

theorem Chronological.filter {calls : List (Instant × RegistryCall)} {u : Instant}
    (h : Chronological calls u) (p : Instant × RegistryCall → Bool) :
    Chronological (calls.filter p) u where
  inOrder := h.inOrder.filter p
  past c hc := h.past c (List.mem_of_mem_filter hc)
  inRange c hc := h.inRange c (List.mem_of_mem_filter hc)

namespace MemoryRegistry

variable {m : MemoryRegistry} {j : Jti} {t u e : Instant} {r : Record} {mark : Mark}
  {c : Instant × RegistryCall} {calls past since : List (Instant × RegistryCall)}

theorem live_record_iff_markEnd (ht : t.inRange = true) (p : Retention) (mark : Mark)
    (e : Instant) : (p.record mark e t).live u = true ↔ u.nanos < p.markEnd e t := by
  simp only [Record.live, Retention.record, Retention.nanos_deadline ht, decide_eq_true_eq]

section Chronological

variable (h : Chronological calls u)
include h

theorem state_of_revoke (hcalls : calls = past ++ (t, .revoke j e) :: since)
    (heffect : (m.after past).state t j ≠ .revoked) (hu : u.nanos < m.retention.markEnd e t) :
    (m.after calls).state u j = .revoked := by
  subst hcalls
  have ht : t.inRange = true := h.inRange _ (List.mem_append_right _ List.mem_cons_self)
  have hlive : ∀ c ∈ since, (m.retention.record .revoked e t).live c.1 = true := by
    intro c hc
    have hle := h.past c (List.mem_append_right _ (List.mem_cons_of_mem _ hc))
    rw [live_record_iff_markEnd ht]
    omega
  have hmark := get?_call_of_not_revoked heffect .revoked e
  rw [retention_after] at hmark
  rw [after_append, after_cons]
  exact state_eq_revoked_of_get? (get?_after_of_revoked hmark rfl hlive) rfl
    ((live_record_iff_markEnd ht _ _ _).mpr hu)

theorem state_of_lapsed (hcalls : calls = past ++ (t, .revoke j e) :: since)
    (heffect : (m.after past).state t j ≠ .revoked) (hu : m.retention.markEnd e t ≤ u.nanos)
    (hleave : ∀ c ∈ since, m.retention.markEnd e t ≤ c.1.nanos →
      ∀ mark, c.2.marking? ≠ some (j, mark)) : (m.after calls).state u j = .unknown := by
  subst hcalls
  have ht : t.inRange = true := h.inRange _ (List.mem_append_right _ List.mem_cons_self)
  have hpast : ∀ c ∈ since, c.1.nanos ≤ u.nanos :=
    fun c hc => h.past c (List.mem_append_right _ (List.mem_cons_of_mem _ hc))
  have hdead : ∀ {v : Instant}, (m.retention.record .revoked e t).live v = false ↔
      m.retention.markEnd e t ≤ v.nanos := by
    intro v
    rw [← Bool.not_eq_true, live_record_iff_markEnd ht, Int.not_lt]
  have hmark := get?_call_of_not_revoked heffect .revoked e
  rw [retention_after] at hmark
  rw [after_append, after_cons, state_eq_unknown]
  exact live?_after_of_dead hpast (List.pairwise_cons.mp (List.pairwise_append.mp h.inOrder).2.1).2
    hmark rfl (hdead.mpr hu) fun c hc hd => hleave c hc (hdead.mp hd)

/-- What is on record stems from a call whose mark has not ended. -/
theorem exists_call_of_live (hstart : m.get? j = none) (hr : (m.after calls).live? u j = some r) :
    ∃ past t e since, calls = past ++ (t, r.mark.call j e) :: since ∧
      (m.after past).state t j ≠ .revoked ∧ u.nanos < m.retention.markEnd e t ∧
      (r.mark = .active → Leave since j) := by
  obtain ⟨past, t, e, since, hcalls, heffect, heq, hleave⟩ := stems_of_live? hstart h.past hr
  have ht : t.inRange = true :=
    h.inRange (t, _) (hcalls ▸ List.mem_append_right _ List.mem_cons_self)
  refine ⟨past, t, e, since, hcalls, heffect, ?_, hleave⟩
  rw [← live_record_iff_markEnd ht _ r.mark, ← heq]
  exact (Option.filter_eq_some_iff.mp hr).2

end Chronological

theorem get?_of_empty (h : m.entries = []) (j : Jti) : m.get? j = none := by
  simp [get?, h]

/-! Calls that may not come back. -/

/-- The registry after calls that are attempted one after the other, each at its time. -/
def tried (m : MemoryRegistry) (calls : List (Instant × RegistryCall)) : MemoryRegistry :=
  calls.foldl (fun m c => (m.attempt c.1 c.2).2) m

/-- Those of the calls that come back. -/
def answered (m : MemoryRegistry) (calls : List (Instant × RegistryCall)) :
    List (Instant × RegistryCall) :=
  calls.filter fun c => m.retention.admits c.1 c.2

theorem admits_call_iff (m : MemoryRegistry) (u : Instant) (mark : Mark) (j : Jti) (e : Instant) :
    m.retention.admits u (mark.call j e) = true ↔ m.retention.Fits e u := by
  rw [Retention.admits_iff]
  cases mark <;> simp [Mark.call, RegistryCall.expiry?]

theorem attempt_of_admits {c : RegistryCall} (h : m.retention.admits t c = true) :
    m.attempt t c = (some (m.call t c).1, (m.call t c).2) := by
  rw [attempt, if_pos h]

theorem attempt_of_not_admits {c : RegistryCall} (h : m.retention.admits t c = false) :
    m.attempt t c = (none, m) := by
  rw [attempt, if_neg (Bool.not_eq_true _ ▸ h)]

theorem answered_cons_of_admits (h : m.retention.admits c.1 c.2 = true) :
    m.answered (c :: calls) = c :: m.answered calls := by
  simp only [answered, List.filter_cons, h, if_true]

theorem answered_cons_of_not_admits (h : m.retention.admits c.1 c.2 = false) :
    m.answered (c :: calls) = m.answered calls := by
  simp only [answered, List.filter_cons, h, Bool.false_eq_true, if_false]

/-- Calls that do not come back may as well not have been made. -/
theorem tried_eq_after (m : MemoryRegistry) (calls : List (Instant × RegistryCall)) :
    m.tried calls = m.after (m.answered calls) := by
  induction calls generalizing m with
  | nil => rfl
  | cons c calls ih =>
    rw [tried, List.foldl_cons, ← tried, ih]
    cases hc : m.retention.admits c.1 c.2 with
    | true =>
      rw [answered_cons_of_admits hc, attempt_of_admits hc, after_cons, answered, retention_call]
      rfl
    | false => rw [answered_cons_of_not_admits hc, attempt_of_not_admits hc]

theorem retention_tried (m : MemoryRegistry) (calls : List (Instant × RegistryCall)) :
    (m.tried calls).retention = m.retention := by
  rw [tried_eq_after, retention_after]

theorem answered_of_split (hcalls : calls = past ++ c :: since)
    (hc : m.retention.admits c.1 c.2 = true) :
    m.answered calls = m.answered past ++ c :: m.answered since := by
  rw [← answered_cons_of_admits hc, hcalls]
  exact List.filter_append ..

theorem exists_of_answered {past' since' : List (Instant × RegistryCall)}
    (h : m.answered calls = past' ++ c :: since') :
    ∃ past since, calls = past ++ c :: since ∧ m.answered past = past' ∧
      m.answered since = since' ∧ m.retention.admits c.1 c.2 = true := by
  obtain ⟨past, rest, rfl, hpast, hrest⟩ := List.filter_eq_append_iff.mp h
  obtain ⟨skipped, since, rfl, hskipped, hc, hsince⟩ := List.filter_eq_cons_iff.mp hrest
  refine ⟨past ++ skipped, since, by simp, ?_, hsince, hc⟩
  rw [answered, List.filter_append, hpast, List.filter_eq_nil_iff.mpr hskipped, List.append_nil]

/-- The revocation takes effect: it comes back, and not with the answer that it changes nothing. -/
def Revokes (m : MemoryRegistry) (t : Instant) (j : Jti) (e : Instant) : Prop :=
  (m.attempt t (.revoke j e)).1 = some .revoked ∨
    (m.attempt t (.revoke j e)).1 = some .revokedUntracked

instance (m : MemoryRegistry) (t : Instant) (j : Jti) (e : Instant) : Decidable (m.Revokes t j e) :=
  inferInstanceAs (Decidable (_ ∨ _))

theorem revokes_iff : m.Revokes t j e ↔
    m.retention.admits t (.revoke j e) = true ∧ m.state t j ≠ .revoked := by
  cases hc : m.retention.admits t (.revoke j e) with
  | true =>
    simp only [Revokes, attempt_of_admits hc, call, outcome_revoke]
    cases m.state t j <;> simp
  | false => simp [Revokes, attempt_of_not_admits hc]

/-- What calls that were attempted by `u` mean for what is said of `j` then. -/
structure Sticks (m : MemoryRegistry) (calls : List (Instant × RegistryCall)) (u : Instant)
    (j : Jti) : Prop where
  /-- Whoever is to mark the identifier gets an answer, unless the mark would be kept too long. -/
  answers (mark : Mark) (e : Instant) : m.retention.Fits e u →
    ((m.tried calls).attempt u (mark.call j e)).1.isSome = true
  unanswered (mark : Mark) (e : Instant) : ¬ m.retention.Fits e u →
    (m.tried calls).attempt u (mark.call j e) = (none, m.tried calls)
  /-- A revocation that took effect stands until its mark ends, and no call moves that end. -/
  held {past since : List (Instant × RegistryCall)} {t e : Instant} :
    calls = past ++ (t, .revoke j e) :: since → (m.tried past).Revokes t j e →
    u.nanos < m.retention.markEnd e t →
    (m.tried calls).state u j = .revoked ∧
      (∀ e', ((m.tried calls).attempt u (.record j e')).2 = m.tried calls) ∧
      ∀ e', m.retention.Fits e' u →
        (m.tried calls).attempt u (.revoke j e') = (some .alreadyRevoked, m.tried calls)
  /-- From then on nothing is known until the next call that marks the identifier. -/
  lapsed {past since : List (Instant × RegistryCall)} {t e : Instant} :
    calls = past ++ (t, .revoke j e) :: since → (m.tried past).Revokes t j e →
    m.retention.markEnd e t ≤ u.nanos →
    (∀ c ∈ m.answered since, m.retention.markEnd e t ≤ c.1.nanos →
      ∀ mark, c.2.marking? ≠ some (j, mark)) →
    (m.tried calls).state u j = .unknown
  /-- Whoever loses comes before the end of the mark of a revocation that took effect. -/
  lost {e' : Instant} : m.entries = [] →
    ((m.tried calls).attempt u (.revoke j e')).1 = some .alreadyRevoked →
    ∃ past t e since, calls = past ++ (t, .revoke j e) :: since ∧ (m.tried past).Revokes t j e ∧
      u.nanos < m.retention.markEnd e t
  /-- Whoever wins finds the last record that took effect still live, and no call that has marked
  the identifier since. -/
  won {e' : Instant} : m.entries = [] →
    ((m.tried calls).attempt u (.revoke j e')).1 = some .revoked →
    ∃ past t e since, calls = past ++ (t, .record j e) :: since ∧ m.retention.Fits e t ∧
      (m.tried past).state t j ≠ .revoked ∧ u.nanos < m.retention.markEnd e t ∧
      Leave (m.answered since) j

theorem outcome_eq_alreadyRevoked :
    (m.revoke u j e).1 = .alreadyRevoked ↔ m.state u j = .revoked := by
  rw [outcome_revoke]
  cases m.state u j <;> simp

theorem outcome_eq_revoked : (m.revoke u j e).1 = .revoked ↔ m.state u j = .active := by
  rw [outcome_revoke]
  cases m.state u j <;> simp

theorem outcome_of_attempt {outcome : RevokeOutcome}
    (h : (m.attempt u (.revoke j e)).1 = some outcome) : (m.revoke u j e).1 = outcome := by
  cases hc : m.retention.admits u (.revoke j e) with
  | true =>
    rw [attempt_of_admits hc] at h
    exact Option.some.inj h
  | false =>
    rw [attempt_of_not_admits hc] at h
    exact nomatch h

section Tried

variable (h : Chronological calls u)
include h

theorem state_of_revokes (hcalls : calls = past ++ (t, .revoke j e) :: since)
    (heffect : (m.tried past).Revokes t j e) (hu : u.nanos < m.retention.markEnd e t) :
    (m.tried calls).state u j = .revoked := by
  rw [revokes_iff, retention_tried] at heffect
  rw [tried_eq_after] at heffect ⊢
  exact state_of_revoke (h.filter _) (answered_of_split hcalls heffect.1) heffect.2 hu

theorem exists_tried_of_live (hstart : m.get? j = none)
    (hr : (m.tried calls).live? u j = some r) :
    ∃ past t e since, calls = past ++ (t, r.mark.call j e) :: since ∧ m.retention.Fits e t ∧
      (m.tried past).state t j ≠ .revoked ∧ u.nanos < m.retention.markEnd e t ∧
      (r.mark = .active → Leave (m.answered since) j) := by
  rw [tried_eq_after] at hr
  obtain ⟨past', t, e, since', hcalls, heffect, hu, hleave⟩ :=
    exists_call_of_live (h.filter _) hstart hr
  obtain ⟨past, since, hsplit, hpast, hsince, hc⟩ := exists_of_answered hcalls
  rw [← hpast, ← tried_eq_after] at heffect
  rw [← hsince] at hleave
  exact ⟨past, t, e, since, hsplit, (m.admits_call_iff t r.mark j e).mp hc, heffect, hu, hleave⟩

end Tried

theorem revocation_sticks (m : MemoryRegistry) (h : Chronological calls u) (j : Jti) :
    m.Sticks calls u j := by
  have hadmits : ∀ (mark : Mark) (e : Instant), (m.tried calls).retention.admits u
      (mark.call j e) = true ↔ m.retention.Fits e u := by
    intro mark e
    rw [admits_call_iff, retention_tried]
  refine ⟨?answers, ?unanswered, ?held, ?lapsed, ?lost, ?won⟩
  case answers =>
    intro mark e hfits
    rw [attempt_of_admits ((hadmits mark e).mpr hfits)]
    rfl
  case unanswered =>
    intro mark e hlong
    rw [← hadmits mark e, Bool.not_eq_true] at hlong
    exact attempt_of_not_admits hlong
  case held =>
    intro past since t e hcalls heffect hu
    have hstate := state_of_revokes h hcalls heffect hu
    refine ⟨hstate, fun e' => ?_, fun e' hfits => ?_⟩
    · cases hc : (m.tried calls).retention.admits u (.record j e') with
      | true =>
        rw [attempt_of_admits hc]
        exact record_of_revoked hstate e'
      | false => rw [attempt_of_not_admits hc]
    · have hc : (m.tried calls).retention.admits u (.revoke j e') = true :=
        (hadmits .revoked e').mpr hfits
      rw [attempt_of_admits hc, call, revoke_of_revoked hstate e']
  case lapsed =>
    intro past since t e hcalls heffect hu hleave
    rw [revokes_iff, retention_tried] at heffect
    rw [tried_eq_after] at heffect ⊢
    exact state_of_lapsed (h.filter _) (answered_of_split hcalls heffect.1) heffect.2 hu hleave
  case lost =>
    intro e' hempty hlost
    have hstate : (m.tried calls).state u j = .revoked :=
      outcome_eq_alreadyRevoked.mp (outcome_of_attempt hlost)
    obtain ⟨r, hr, hmark⟩ := state_eq_revoked.mp hstate
    obtain ⟨past, t, e, since, hcalls, hfits, heffect, hu, -⟩ :=
      exists_tried_of_live h (get?_of_empty hempty j) hr
    rw [hmark] at hcalls
    refine ⟨past, t, e, since, hcalls, revokes_iff.mpr ⟨?_, heffect⟩, hu⟩
    rw [retention_tried]
    exact (m.admits_call_iff t .revoked j e).mpr hfits
  case won =>
    intro e' hempty hwon
    have hstate : (m.tried calls).state u j = .active :=
      outcome_eq_revoked.mp (outcome_of_attempt hwon)
    obtain ⟨r, hr, hmark⟩ := state_eq_active.mp hstate
    obtain ⟨past, t, e, since, hcalls, hfits, heffect, hu, hleave⟩ :=
      exists_tried_of_live h (get?_of_empty hempty j) hr
    rw [hmark] at hcalls
    exact ⟨past, t, e, since, hcalls, hfits, heffect, hu, hleave hmark⟩

/-- A mark that was made until second 6 is neither moved by later calls nor there at second 6. -/
theorem revocation_sticks_until_end :
    let m : MemoryRegistry := empty ⟨.ofSeconds 1, .ofSeconds 1⟩
    let past : List (Instant × RegistryCall) := [(.ofUnix 0 0, .record ⟨"a"⟩ (.ofUnix 5 0))]
    let since : List (Instant × RegistryCall) :=
      [(.ofUnix 2 0, .record ⟨"a"⟩ (.ofUnix 9 0)), (.ofUnix 3 0, .revoke ⟨"a"⟩ (.ofUnix 100 0)),
        (.ofUnix 4 0, .stats)]
    let calls := past ++ (.ofUnix 1 0, .revoke ⟨"a"⟩ (.ofUnix 5 0)) :: since
    m.Sticks calls (.ofUnix 5 999999999) ⟨"a"⟩ ∧ m.Sticks calls (.ofUnix 6 0) ⟨"a"⟩ ∧
      (m.tried calls).state (.ofUnix 5 999999999) ⟨"a"⟩ = .revoked ∧
      (m.tried calls).state (.ofUnix 6 0) ⟨"a"⟩ = .unknown := by
  intro m past since calls
  have hlast : m.Sticks calls (.ofUnix 5 999999999) ⟨"a"⟩ :=
    revocation_sticks m ⟨by decide, by decide, by decide⟩ ⟨"a"⟩
  have hend : m.Sticks calls (.ofUnix 6 0) ⟨"a"⟩ :=
    revocation_sticks m ⟨by decide, by decide, by decide⟩ ⟨"a"⟩
  refine ⟨hlast, hend, ?_, ?_⟩
  · exact (@Sticks.held _ _ _ _ hlast past since _ _ rfl (by decide) (by decide)).1
  · refine @Sticks.lapsed _ _ _ _ hend past since _ _ rfl (by decide) (by decide) ?_
    have hearly : ∀ c ∈ m.answered since,
        c.1.nanos < m.retention.markEnd (.ofUnix 5 0) (.ofUnix 1 0) := by
      decide
    exact fun c hc hle => absurd hle (Int.not_le.mpr (hearly c hc))

/-- A second revocation within the mark of the first gets no answer if its own mark would be kept
for too long. -/
theorem revocation_unanswered :
    let m : MemoryRegistry := empty ⟨.ofSeconds 0, .ofSeconds 18446744073709551605⟩
    let now : Instant := .ofUnix 1700000000 0
    let e : Instant := .ofUnix 1700000005 0
    let first := m.attempt now (.revoke ⟨"a"⟩ e)
    first.1 = some .revokedUntracked ∧ now.nanos < m.retention.markEnd e now ∧
      first.2.attempt now (.revoke ⟨"a"⟩ (.ofUnix 1700000100 0)) = (none, first.2) := by
  intro m now e first
  exact ⟨by decide, by decide, attempt_of_not_admits (by decide)⟩

end MemoryRegistry

end SessionTokens
