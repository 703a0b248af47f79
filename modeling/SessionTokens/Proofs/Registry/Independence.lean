import SessionTokens.Proofs.Registry.Count

/-! What the calls on one identifier answer depends on no other call, if the calls are made in the
order of their times. Two registries agree on some identifiers from an instant on if they find the
same live records of them from then on: a dead record and none are then the same, and this is kept
by every call. -/

namespace SessionTokens

namespace RegistryCall

/-- Nothing but what is on record of these identifiers decides the answer. -/
def Within (c : RegistryCall) (s : Set Jti) : Prop :=
  match c.jti? with
  | some j => j ∈ s
  | none => s = Set.univ

/-- The call is on none of these identifiers. -/
def Outside (c : RegistryCall) (s : Set Jti) : Prop := ∀ j ∈ s, c.jti? ≠ some j

instance : (c : RegistryCall) → DecidableEq c.Answer
  | record _ _ => inferInstanceAs (DecidableEq Unit)
  | revoke _ _ => inferInstanceAs (DecidableEq RevokeOutcome)
  | state _ => inferInstanceAs (DecidableEq JtiState)
  | stats => inferInstanceAs (DecidableEq JtiStats)

variable {c : RegistryCall} {s : Set Jti} {j k : Jti}

theorem within_singleton (h : c.jti? = some j) : c.Within {j} := by
  simp [Within, h]

theorem within_univ (c : RegistryCall) : c.Within Set.univ := by
  unfold Within
  split
  · exact Set.mem_univ _
  · rfl

theorem outside_singleton : c.Outside {j} ↔ c.jti? ≠ some j := by
  simp [Outside]

theorem outside_of_ne (h : c.jti? = some k) (hk : k ≠ j) : c.Outside {j} :=
  outside_singleton.mpr (by simp [h, hk])

theorem outside_stats (s : Set Jti) : stats.Outside s := nofun

theorem Outside.marking? (h : c.Outside s) (hj : j ∈ s) (mark : Mark) :
    c.marking? ≠ some (j, mark) := by
  intro hm
  obtain ⟨e, rfl⟩ := marking?_eq_some.mp hm
  exact h j hj (by cases mark <;> rfl)

end RegistryCall

/-- The calls are made in the order of their times. -/
def InOrder (calls : List (Instant × RegistryCall)) : Prop :=
  calls.Pairwise (·.1.nanos ≤ ·.1.nanos)

instance (calls : List (Instant × RegistryCall)) : Decidable (InOrder calls) :=
  inferInstanceAs (Decidable (calls.Pairwise _))

theorem InOrder.exists_start {calls : List (Instant × RegistryCall)} (h : InOrder calls) :
    ∃ t : Instant, ∀ c ∈ calls, t.nanos ≤ c.1.nanos := by
  cases calls with
  | nil => exact ⟨.first, nofun⟩
  | cons c calls =>
    refine ⟨c.1, fun d hd => ?_⟩
    rcases List.mem_cons.mp hd with rfl | hd
    · exact Int.le_refl _
    · exact (List.pairwise_cons.mp h).1 d hd

namespace MemoryRegistry

variable {m n l : MemoryRegistry} {s : Set Jti} {i j k : Jti} {t u now : Instant}
  {c d : RegistryCall} {calls front back : List (Instant × RegistryCall)}

/-- What calls answer that are made one after the other, each at its time. -/
def answers (m : MemoryRegistry) :
    List (Instant × RegistryCall) → List ((c : RegistryCall) × c.Answer)
  | [] => []
  | c :: calls => ⟨c.2, (m.call c.1 c.2).1⟩ :: (m.call c.1 c.2).2.answers calls

theorem answers_append (m : MemoryRegistry) (front back : List (Instant × RegistryCall)) :
    m.answers (front ++ back) = m.answers front ++ (m.after front).answers back := by
  induction front generalizing m with
  | nil => rfl
  | cons c front ih => simp only [List.cons_append, answers, ih, after_cons]

/-- From `t` on the same is found of these identifiers, and a new mark lasts as long. -/
structure AgreesOn (m n : MemoryRegistry) (s : Set Jti) (t : Instant) : Prop where
  retention : m.retention = n.retention
  live {j : Jti} {u : Instant} : j ∈ s → t.nanos ≤ u.nanos → m.live? u j = n.live? u j

namespace AgreesOn

theorem refl (m : MemoryRegistry) (s : Set Jti) (t : Instant) : m.AgreesOn m s t :=
  ⟨rfl, fun _ _ => rfl⟩

theorem symm (h : m.AgreesOn n s t) : n.AgreesOn m s t :=
  ⟨h.retention.symm, fun hj hu => (h.live hj hu).symm⟩

theorem trans (h : m.AgreesOn n s t) (h' : n.AgreesOn l s t) : m.AgreesOn l s t :=
  ⟨h.retention.trans h'.retention, fun hj hu => (h.live hj hu).trans (h'.live hj hu)⟩

theorem later (h : m.AgreesOn n s t) (ht : t.nanos ≤ u.nanos) : m.AgreesOn n s u :=
  ⟨h.retention, fun hj hu => h.live hj (Int.le_trans ht hu)⟩

theorem univ (h : ∀ k, m.AgreesOn n {k} t) : m.AgreesOn n Set.univ t :=
  ⟨(h ⟨""⟩).retention, fun {k _} _ hu => (h k).live rfl hu⟩

theorem state (h : m.AgreesOn n s now) (hj : j ∈ s) : m.state now j = n.state now j :=
  state_congr (h.live hj (Int.le_refl _))

/-- A call on another identifier is not seen, nor is a count, with all that it drops. -/
theorem of_outside (m : MemoryRegistry) (now : Instant) (hc : c.Outside s) :
    (m.call now c).2.AgreesOn m s now :=
  ⟨retention_call m now c, fun hj hu => live?_call hu (hc.marking? hj)⟩

theorem mark (h : m.AgreesOn n s now) (hj : j ∈ s) (mark : Mark) (e : Instant) :
    (m.call now (mark.call j e)).2.AgreesOn (n.call now (mark.call j e)).2 s now := by
  by_cases hs : m.state now j = .revoked
  · rw [call_of_revoked hs, call_of_revoked (h.state hj ▸ hs)]
    exact h
  · rw [call_of_not_revoked hs, call_of_not_revoked (h.state hj ▸ hs), h.retention]
    refine ⟨h.retention, fun {k u} hk hu => ?_⟩
    simp only [live?_put, h.live hk hu]

/-- The step: a call that is decided by what the two agree on gets one answer, and they agree
afterwards. -/
theorem call (h : m.AgreesOn n s now) (hc : c.Within s) :
    (m.call now c).1 = (n.call now c).1 ∧
      (m.call now c).2.AgreesOn (n.call now c).2 s now := by
  cases c with
  | record j e => exact ⟨rfl, h.mark hc .active e⟩
  | revoke j e =>
    refine ⟨?_, h.mark hc .revoked e⟩
    change (m.revoke now j e).1 = (n.revoke now j e).1
    rw [outcome_revoke, outcome_revoke, h.state hc]
  | state j => exact ⟨h.state hc, h⟩
  | stats =>
    obtain rfl : s = Set.univ := hc
    have hdropped (m : MemoryRegistry) := of_outside m now (RegistryCall.outside_stats Set.univ)
    exact ⟨stats_congr fun j => h.state (Set.mem_univ j),
      (hdropped m).trans (h.trans (hdropped n).symm)⟩

/-- The run: where each call is either decided by what the two agree on or outside of it, the first
may be answered with the others left out. -/
theorem answers_filter (h : m.AgreesOn n s t) (keep : RegistryCall → Bool)
    (hkept : ∀ c, keep c = true → c.Within s) (hdropped : ∀ c, keep c = false → c.Outside s)
    (hlater : ∀ c ∈ calls, t.nanos ≤ c.1.nanos) (horder : InOrder calls) :
    (m.answers calls).filter (keep ·.1) = n.answers (calls.filter (keep ·.2)) := by
  induction calls generalizing m n t with
  | nil => rfl
  | cons c calls ih =>
    obtain ⟨now, c⟩ := c
    obtain ⟨hnext, horder⟩ := List.pairwise_cons.mp horder
    have hnow : m.AgreesOn n s now := h.later (hlater _ List.mem_cons_self)
    cases hc : keep c with
    | true =>
      obtain ⟨hanswer, hagree⟩ := hnow.call (hkept c hc)
      simp only [answers, List.filter_cons, hc, if_true, hanswer]
      rw [ih hagree hnext horder]
    | false =>
      have hagree := (of_outside m now (hdropped c hc)).trans hnow
      simp only [answers, List.filter_cons, hc, Bool.false_eq_true, if_false]
      exact ih hagree hnext horder

/-- Registries that agree on every identifier answer alike from then on. -/
theorem answers_eq (h : m.AgreesOn n Set.univ t) (hlater : ∀ c ∈ calls, t.nanos ≤ c.1.nanos)
    (horder : InOrder calls) : m.answers calls = n.answers calls := by
  have hall := h.answers_filter (fun _ => true) (fun c _ => c.within_univ) nofun hlater horder
  simpa using hall

theorem answer_of_other (m : MemoryRegistry) (now : Instant) (hc : c.jti? = some i)
    (hd : d.jti? = some j) (hij : i ≠ j) :
    ((m.call now d).2.call now c).1 = (m.call now c).1 :=
  ((of_outside m now (RegistryCall.outside_of_ne hd hij.symm)).call
    (RegistryCall.within_singleton hc)).1

/-- Of an identifier that the second call is not on, the two may change places. -/
theorem swap_of_outside (m : MemoryRegistry) (now : Instant) (hd : d.Outside {k}) :
    ((m.call now c).2.call now d).2.AgreesOn ((m.call now d).2.call now c).2 {k} now := by
  have hlast := of_outside (m.call now c).2 now hd
  have hfirst := (of_outside m now hd).symm
  by_cases hc : c.jti? = some k
  · exact hlast.trans (hfirst.call (RegistryCall.within_singleton hc)).2
  · have hc : c.Outside {k} := RegistryCall.outside_singleton.mpr hc
    exact hlast.trans ((of_outside m now hc).trans
      (hfirst.trans (of_outside (m.call now d).2 now hc).symm))

theorem swap (m : MemoryRegistry) (now : Instant) (hc : c.jti? = some i) (hd : d.jti? = some j)
    (hij : i ≠ j) :
    ((m.call now c).2.call now d).2.AgreesOn ((m.call now d).2.call now c).2 Set.univ now := by
  refine univ fun k => ?_
  by_cases hk : i = k
  · exact swap_of_outside m now (RegistryCall.outside_of_ne hd (hk ▸ hij.symm))
  · exact (swap_of_outside m now (RegistryCall.outside_of_ne hc hk)).symm

end AgreesOn

/-- How little calls have to do with each other. -/
structure Independent (m : MemoryRegistry) (calls : List (Instant × RegistryCall)) : Prop where
  /-- The calls on one identifier are answered as if there were no others. -/
  alone (j : Jti) : (m.answers calls).filter (·.1.jti? = some j) =
    m.answers (calls.filter (·.2.jti? = some j))
  /-- Calls on two identifiers at one instant may change places, and so do their answers. -/
  commute {front back : List (Instant × RegistryCall)} {t : Instant} {c d : RegistryCall}
    {i j : Jti} : calls = front ++ (t, c) :: (t, d) :: back →
    c.jti? = some i → d.jti? = some j → i ≠ j →
    ∃ a b after, m.answers calls = m.answers front ++ ⟨c, a⟩ :: ⟨d, b⟩ :: after ∧
      m.answers (front ++ (t, d) :: (t, c) :: back) =
        m.answers front ++ ⟨d, b⟩ :: ⟨c, a⟩ :: after
  /-- All counts may be left out. -/
  uncounted : (m.answers calls).filter (·.1 ≠ .stats) = m.answers (calls.filter (·.2 ≠ .stats))
  /-- One count, wherever it is made, does not change the others either. -/
  unseen {front back : List (Instant × RegistryCall)} {t : Instant} :
    calls = front ++ (t, .stats) :: back →
    ∃ a after, m.answers calls = m.answers front ++ ⟨.stats, a⟩ :: after ∧
      m.answers (front ++ back) = m.answers front ++ after

theorem calls_independent (m : MemoryRegistry) {calls : List (Instant × RegistryCall)}
    (h : InOrder calls) : m.Independent calls := by
  obtain ⟨start, hstart⟩ := h.exists_start
  refine ⟨fun j => ?alone, ?commute, ?uncounted, ?unseen⟩
  case alone =>
    refine (AgreesOn.refl m {j} start).answers_filter (fun c => c.jti? = some j)
      (fun c hc => ?_) (fun c hc => ?_) hstart h
    · exact RegistryCall.within_singleton (by simpa using hc)
    · exact RegistryCall.outside_singleton.mpr (by simpa using hc)
  case commute =>
    intro front back t c d i j hcalls hc hd hij
    subst hcalls
    obtain ⟨hlater, hback⟩ := List.pairwise_cons.mp
      (List.pairwise_cons.mp (List.pairwise_append.mp h).2.1).2
    have hback := (AgreesOn.swap (m.after front) t hc hd hij).answers_eq hlater hback
    refine ⟨_, _, _, answers_append m front _, ?_⟩
    rw [answers_append, answers, answers, AgreesOn.answer_of_other _ t hc hd hij,
      ← AgreesOn.answer_of_other _ t hd hc hij.symm]
    exact congrArg (m.answers front ++ _ :: _ :: ·) hback.symm
  case uncounted =>
    refine (AgreesOn.refl m Set.univ start).answers_filter (fun c => c ≠ .stats)
      (fun c _ => c.within_univ) (fun c hc => ?_) hstart h
    obtain rfl : c = .stats := by simpa using hc
    exact RegistryCall.outside_stats _
  case unseen =>
    intro front back t hcalls
    subst hcalls
    obtain ⟨hlater, hback⟩ := List.pairwise_cons.mp (List.pairwise_append.mp h).2.1
    have hback := (AgreesOn.of_outside (m.after front) t
      (RegistryCall.outside_stats Set.univ)).answers_eq hlater hback
    refine ⟨_, _, answers_append m front _, ?_⟩
    rw [answers_append]
    exact congrArg (m.answers front ++ ·) hback.symm

/-- A record that a count drops is missed by no call after it, and by none on another identifier. -/
theorem calls_independent_after_deadline :
    let m := empty ⟨.ofSeconds 1, .ofSeconds 1⟩
    let calls : List (Instant × RegistryCall) :=
      [(.ofUnix 0 0, .record ⟨"a"⟩ (.ofUnix 5 0)), (.ofUnix 0 0, .revoke ⟨"b"⟩ (.ofUnix 9 0)),
        (.ofUnix 6 0, .stats), (.ofUnix 6 0, .state ⟨"a"⟩),
        (.ofUnix 7 0, .revoke ⟨"b"⟩ (.ofUnix 9 0)), (.ofUnix 7 0, .revoke ⟨"a"⟩ (.ofUnix 9 0)),
        (.ofUnix 8 0, .stats)]
    InOrder calls ∧ m.Independent calls ∧
      m.answers calls = [⟨.record ⟨"a"⟩ (.ofUnix 5 0), ()⟩,
        ⟨.revoke ⟨"b"⟩ (.ofUnix 9 0), .revokedUntracked⟩, ⟨.stats, ⟨0, 1⟩⟩,
        ⟨.state ⟨"a"⟩, .unknown⟩, ⟨.revoke ⟨"b"⟩ (.ofUnix 9 0), .alreadyRevoked⟩,
        ⟨.revoke ⟨"a"⟩ (.ofUnix 9 0), .revokedUntracked⟩, ⟨.stats, ⟨0, 2⟩⟩] := by
  intro m calls
  have horder : InOrder calls := by decide
  exact ⟨horder, calls_independent m horder, by decide +kernel⟩

end MemoryRegistry

end SessionTokens
