import Mathlib.Data.List.Induction
import Mathlib.Data.List.Nodup
import Mathlib.Data.List.Pairwise
import SessionTokens.Host.Basic
import SessionTokens.Proofs.Program.Course

/-! Several programs at once over one host. Their steps come in any order, programs may begin at
any time and the clock may be set between steps; a run says what happened, one thing after the
other. Calls of the registry are atomic, and each may fail without storing anything. -/

namespace SessionTokens

/-- What a host answers to a step of a program, and the host after it. -/
inductive Host.Reacts (h : Host) : Occurrence → Host → Prop
  | clock : Reacts h (.clock h.clock) h
  | drawn : Reacts h (.drawn h.draw.1) h.draw.2
  | emitted (e : Log.Event) : Reacts h (.emitted e) (h.log [e])
  | roles (user : Uuid) :
    Reacts h (.roles user (h.lookUpRoles user).1) (h.lookUpRoles user).2
  | answered (c : RegistryCall) :
    Reacts h (.called c (h.callRegistry c).1) (h.callRegistry c).2
  | failed (c : RegistryCall) (e : RegistryError) : Reacts h (.called c (.error e)) h

structure Strand (Q A : Type) where
  request : Q
  program : Program A

structure System (Q A : Type) where
  host : Host
  strands : List (Strand Q A)

inductive Happening (Q : Type) where
  | begun (q : Q)
  | moved (i : Nat) (o : Occurrence)
  | clockSet (t : Instant)

def Host.Drawn (h : Host) (j : Jti) : Prop := ∃ n < h.drawn, h.source n = j

namespace Host.Reacts

variable {h h' : Host} {o : Occurrence}

theorem clock_eq (hr : h.Reacts o h') : h'.clock = h.clock := by cases hr <;> rfl

theorem source_eq (hr : h.Reacts o h') : h'.source = h.source := by cases hr <;> rfl

theorem roles_eq (hr : h.Reacts o h') : h'.roles = h.roles := by cases hr <;> rfl

end Host.Reacts

variable {Q A : Type}

namespace Happening

def turn? (i : Nat) : Happening Q → Option Occurrence
  | moved k o => if k = i then some o else none
  | _ => none

def draw? : Happening Q → Option Jti
  | moved _ o => o.draw?
  | _ => none

end Happening

def turnsOf (i : Nat) (ls : List (Happening Q)) : List Occurrence := ls.filterMap (·.turn? i)

def drawsOf (i : Nat) (ls : List (Happening Q)) : List Jti := (turnsOf i ls).filterMap (·.draw?)

def drawsIn (ls : List (Happening Q)) : List Jti := ls.filterMap (·.draw?)

@[simp] theorem turnsOf_append (i : Nat) (ls ms : List (Happening Q)) :
    turnsOf i (ls ++ ms) = turnsOf i ls ++ turnsOf i ms := List.filterMap_append

@[simp] theorem drawsIn_append (ls ms : List (Happening Q)) :
    drawsIn (ls ++ ms) = drawsIn ls ++ drawsIn ms := List.filterMap_append

theorem mem_turnsOf {i : Nat} {o : Occurrence} {ls : List (Happening Q)} :
    o ∈ turnsOf i ls ↔ .moved i o ∈ ls := by
  simp only [turnsOf, List.mem_filterMap]
  constructor
  · rintro ⟨l, hl, ho⟩
    cases l with
    | moved k u =>
      simp only [Happening.turn?] at ho
      split at ho
      · obtain rfl := Option.some.inj ho
        subst k
        exact hl
      · simp at ho
    | _ => simp [Happening.turn?] at ho
  · intro h
    exact ⟨_, h, by simp [Happening.turn?]⟩

theorem turnsOf_eq_append {i : Nat} {ls : List (Happening Q)} {os us : List Occurrence}
    {o : Occurrence} (h : turnsOf i ls = os ++ o :: us) :
    ∃ as bs, ls = as ++ .moved i o :: bs ∧ turnsOf i as = os ∧ turnsOf i bs = us := by
  obtain ⟨as, ms, rfl, has, hms⟩ := List.filterMap_eq_append_iff.mp h
  obtain ⟨ns, l, bs, rfl, hns, hl, hbs⟩ := List.filterMap_eq_cons_iff.mp hms
  have hturn : l = .moved i o := by
    cases l with
    | moved k u =>
      simp only [Happening.turn?] at hl
      split at hl
      · obtain rfl := Option.some.inj hl
        subst k
        rfl
      · exact nomatch hl
    | _ => exact nomatch hl
  refine ⟨as ++ ns, bs, by rw [hturn, List.append_assoc], ?_, hbs⟩
  rw [turnsOf_append, show turnsOf i as = os from has,
    show turnsOf i ns = [] from List.filterMap_eq_nil_iff.mpr hns, List.append_nil]

theorem drawn_of_mem_drawsOf {i : Nat} {j : Jti} {ls : List (Happening Q)}
    (h : j ∈ drawsOf i ls) : .moved i (.drawn j) ∈ ls := by
  obtain ⟨o, ho, hj⟩ := List.mem_filterMap.mp h
  exact mem_turnsOf.mp (Occurrence.draw?_eq_some.mp hj ▸ ho)

theorem mem_drawsIn {j : Jti} {ls : List (Happening Q)} :
    j ∈ drawsIn ls ↔ ∃ i, .moved i (.drawn j) ∈ ls := by
  simp only [drawsIn, List.mem_filterMap]
  constructor
  · rintro ⟨l, hl, hj⟩
    cases l with
    | moved k o => exact ⟨k, Occurrence.draw?_eq_some.mp hj ▸ hl⟩
    | _ => simp [Happening.draw?] at hj
  · rintro ⟨i, h⟩
    exact ⟨_, h, rfl⟩

namespace System

def start (h : Host) : System Q A := ⟨h, []⟩

def Ended (s : System Q A) (i : Nat) (q : Q) (a : A) : Prop :=
  s.strands[i]? = some ⟨q, .done a⟩

def Quiet (s : System Q A) : Prop := ∀ st ∈ s.strands, ∃ a, st.program = .done a

inductive Step (serve : Q → Program A) (s : System Q A) : Happening Q → System Q A → Prop
  | begun (q : Q) : Step serve s (.begun q) { s with strands := s.strands ++ [⟨q, serve q⟩] }
  | moved {i : Nat} {q : Q} {p p' : Program A} {o : Occurrence} {h : Host} :
    s.strands[i]? = some ⟨q, p⟩ → p.Step o p' → s.host.Reacts o h →
    Step serve s (.moved i o) ⟨h, s.strands.set i ⟨q, p'⟩⟩
  | clockSet (t : Instant) :
    Step serve s (.clockSet t) { s with host := { s.host with clock := t } }

/-- From `s` the things in the list happened, each of them allowed where it did. -/
inductive Run (serve : Q → Program A) (allowed : System Q A → Happening Q → Prop)
    (s : System Q A) : List (Happening Q) → System Q A → Prop
  | refl : Run serve allowed s [] s
  | next {ls : List (Happening Q)} {l : Happening Q} {t u : System Q A} :
    Run serve allowed s ls t → allowed t l → Step serve t l u →
    Run serve allowed s (ls ++ [l]) u

variable {serve : Q → Program A} {allowed : System Q A → Happening Q → Prop}
  {s t u : System Q A} {ls ms : List (Happening Q)}

namespace Run

theorem trans (h : Run serve allowed s ls t) (h' : Run serve allowed t ms u) :
    Run serve allowed s (ls ++ ms) u := by
  induction h' with
  | refl => simpa using h
  | next _ ha hs ih =>
    rw [← List.append_assoc]
    exact .next ih ha hs

theorem cons {l : Happening Q} (ha : allowed s l) (hs : Step serve s l t)
    (h : Run serve allowed t ls u) : Run serve allowed s (l :: ls) u :=
  (Run.next .refl ha hs).trans h

theorem of_nil (h : Run serve allowed s [] u) : u = s := by
  generalize hm : ([] : List (Happening Q)) = ms at h
  cases h with
  | refl => rfl
  | next => simp at hm

theorem last {l : Happening Q} (h : Run serve allowed s (ls ++ [l]) u) :
    ∃ t, Run serve allowed s ls t ∧ allowed t l ∧ Step serve t l u := by
  generalize hm : ls ++ [l] = ms at h
  cases h with
  | refl => simp at hm
  | next hr ha hs =>
    obtain ⟨rfl, hl⟩ := List.append_inj' hm rfl
    obtain rfl := List.singleton_inj.mp hl
    exact ⟨_, hr, ha, hs⟩

theorem split (h : Run serve allowed s (ls ++ ms) u) :
    ∃ t, Run serve allowed s ls t ∧ Run serve allowed t ms u := by
  induction ms using List.reverseRecOn generalizing u with
  | nil => exact ⟨u, by simpa using h, .refl⟩
  | append_singleton ms m ih =>
    rw [← List.append_assoc] at h
    obtain ⟨v, hv, ha, hs⟩ := h.last
    obtain ⟨t, ht, hm⟩ := ih hv
    exact ⟨t, ht, .next hm ha hs⟩

theorem mono {allowed' : System Q A → Happening Q → Prop}
    (ha : ∀ v l, allowed v l → allowed' v l) (h : Run serve allowed s ls u) :
    Run serve allowed' s ls u := by
  induction h with
  | refl => exact .refl
  | next _ hl hs ih => exact .next ih (ha _ _ hl) hs

theorem split_cons {l : Happening Q} (h : Run serve allowed s (ls ++ l :: ms) u) :
    ∃ v w, Run serve allowed s ls v ∧ allowed v l ∧ Step serve v l w ∧
      Run serve allowed w ms u := by
  rw [List.append_cons] at h
  obtain ⟨w, hw, hu⟩ := h.split
  obtain ⟨v, hv, ha, hs⟩ := hw.last
  exact ⟨v, w, hv, ha, hs, hu⟩

theorem uncons {l : Happening Q} (h : Run serve allowed s (l :: ls) u) :
    ∃ t, allowed s l ∧ Step serve s l t ∧ Run serve allowed t ls u := by
  obtain ⟨v, w, hv, ha, hs, hu⟩ := split_cons (show Run serve allowed s ([] ++ l :: ls) u from h)
  obtain rfl := hv.of_nil
  exact ⟨w, ha, hs, hu⟩

theorem at_mem (h : Run serve allowed s ls u) {l : Happening Q} (hl : l ∈ ls) :
    ∃ as bs v w, ls = as ++ l :: bs ∧ Run serve allowed s as v ∧ allowed v l ∧
      Step serve v l w ∧ Run serve allowed w bs u := by
  obtain ⟨as, bs, rfl⟩ := List.append_of_mem hl
  obtain ⟨v, w, hv, ha, hs, hu⟩ := h.split_cons
  exact ⟨as, bs, v, w, rfl, hv, ha, hs, hu⟩

theorem allowed_of_mem (h : Run serve allowed s ls u) {l : Happening Q} (hl : l ∈ ls) :
    ∃ v, allowed v l := by
  obtain ⟨_, _, v, _, _, _, ha, _⟩ := h.at_mem hl
  exact ⟨v, ha⟩

end Run

section Strands

variable {i : Nat} {q : Q} {a : A}

theorem Step.strand {l : Happening Q} {p : Program A} (h : Step serve s l t)
    (hi : s.strands[i]? = some ⟨q, p⟩) :
    ∃ p', t.strands[i]? = some ⟨q, p'⟩ ∧ p.Leads (turnsOf i [l]) p' := by
  cases h with
  | begun q' =>
    have hlt : i < s.strands.length := (List.getElem?_eq_some_iff.mp hi).1
    exact ⟨p, by simpa [List.getElem?_append_left hlt] using hi, .refl p⟩
  | @moved k q' r r' o g hk hr hg =>
    by_cases hki : k = i
    · subst hki
      obtain ⟨rfl, rfl⟩ := Strand.mk.inj (Option.some.inj (hi.symm.trans hk))
      have hlt : k < s.strands.length := (List.getElem?_eq_some_iff.mp hi).1
      exact ⟨r', by simp [hlt], by simpa [turnsOf, Happening.turn?] using .head hr (.refl r')⟩
    · exact ⟨p, by simpa [List.getElem?_set_ne hki] using hi,
        by simpa [turnsOf, Happening.turn?, hki] using .refl p⟩
  | clockSet t => exact ⟨p, hi, .refl p⟩

theorem Step.new_strand {l : Happening Q} (h : Step serve s l t) (hi : s.strands[i]? = none) :
    turnsOf i [l] = [] ∧ (t.strands[i]? = none ∨
      ∃ q, l = .begun q ∧ t.strands[i]? = some ⟨q, serve q⟩) := by
  have hle : s.strands.length ≤ i := List.getElem?_eq_none_iff.mp hi
  cases h with
  | begun q =>
    refine ⟨rfl, ?_⟩
    rcases Nat.eq_or_lt_of_le hle with he | hlt
    · exact .inr ⟨q, rfl, by simp [← he]⟩
    · have hlen : (s.strands ++ [Strand.mk q (serve q)]).length ≤ i := by
        rw [List.length_append, List.length_singleton]
        omega
      exact .inl (List.getElem?_eq_none_iff.mpr hlen)
  | @moved k q' r r' o g hk hr hg =>
    have hki : k ≠ i := by
      rintro rfl
      exact Option.some_ne_none _ (hk.symm.trans hi)
    exact ⟨by simp [turnsOf, Happening.turn?, hki],
      .inl (by simpa [List.getElem?_set_ne hki] using hi)⟩
  | clockSet t => exact ⟨rfl, .inl hi⟩

namespace Run

theorem leads (h : Run serve allowed s ls u) {p : Program A}
    (hi : s.strands[i]? = some ⟨q, p⟩) :
    ∃ p', u.strands[i]? = some ⟨q, p'⟩ ∧ p.Leads (turnsOf i ls) p' := by
  induction h with
  | refl => exact ⟨p, hi, .refl p⟩
  | next _ _ hs ih =>
    obtain ⟨p', hp', hl⟩ := ih
    obtain ⟨p'', hp'', hl'⟩ := hs.strand hp'
    exact ⟨p'', hp'', by simpa using hl.trans hl'⟩

theorem leads_of_new (h : Run serve allowed s ls u) (hi : s.strands[i]? = none) :
    (u.strands[i]? = none ∧ turnsOf i ls = []) ∨
      ∃ q p, u.strands[i]? = some ⟨q, p⟩ ∧ .begun q ∈ ls ∧ (serve q).Leads (turnsOf i ls) p := by
  induction h with
  | refl => exact .inl ⟨hi, rfl⟩
  | next _ _ hs ih =>
    rcases ih with ⟨hn, ht⟩ | ⟨q, p, hp, hq, hl⟩
    · obtain ⟨ht', hn' | ⟨q, rfl, hq⟩⟩ := hs.new_strand hn
      · exact .inl ⟨hn', by simp [ht, ht']⟩
      · exact .inr ⟨q, serve q, hq, by simp, by simpa [ht, ht'] using .refl _⟩
    · obtain ⟨p', hp', hl'⟩ := hs.strand hp
      exact .inr ⟨q, p', hp', by simp [hq], by simpa using hl.trans hl'⟩

theorem ended (h : Run serve allowed s ls u) (he : s.Ended i q a) :
    u.Ended i q a ∧ turnsOf i ls = [] := by
  obtain ⟨p, hp, hl⟩ := h.leads he
  obtain ⟨ht, rfl⟩ := hl.of_done
  exact ⟨hp, ht⟩

theorem strand_of_begun (h : Run serve allowed s ls u) (hq : .begun q ∈ ls) :
    ∃ (i : Nat) (p : Program A), s.strands[i]? = none ∧ u.strands[i]? = some ⟨q, p⟩ := by
  obtain ⟨as, bs, v, w, rfl, hv, -, hs, hw⟩ := h.at_mem hq
  have hn : s.strands[v.strands.length]? = none := by
    cases hi : s.strands[v.strands.length]? with
    | none => rfl
    | some st =>
      obtain ⟨p, hp, -⟩ := hv.leads (q := st.request) (p := st.program) hi
      simp at hp
  cases hs with
  | begun =>
    obtain ⟨p, hp, -⟩ := hw.leads (i := v.strands.length) (q := q) (p := serve q) (by simp)
    exact ⟨_, p, hn, hp⟩

variable {g : Host}

theorem yields (h : Run serve allowed (start g) ls u) (he : u.Ended i q a) :
    .begun q ∈ ls ∧ (serve q).Yields (turnsOf i ls) a := by
  rcases h.leads_of_new (i := i) rfl with ⟨hn, -⟩ | ⟨q', p, hp, hq, hl⟩
  · exact nomatch hn.symm.trans he
  · obtain ⟨rfl, rfl⟩ := Strand.mk.inj (Option.some.inj (hp.symm.trans he))
    exact ⟨hq, hl⟩

theorem strand_of_turn (h : Run serve allowed (start g) ls u) {o : Occurrence}
    (ho : .moved i o ∈ ls) :
    ∃ q p, u.strands[i]? = some ⟨q, p⟩ ∧ .begun q ∈ ls ∧ (serve q).Leads (turnsOf i ls) p := by
  rcases h.leads_of_new (i := i) rfl with ⟨-, ht⟩ | hq
  · exact nomatch ht ▸ mem_turnsOf.mpr ho
  · exact hq

end Run

end Strands

section Clock

theorem Step.clock_eq {l : Happening Q} (h : Step serve s l t) (hl : ∀ t, l ≠ .clockSet t) :
    t.host.clock = s.host.clock := by
  cases h with
  | begun q => rfl
  | moved _ _ hg => exact hg.clock_eq
  | clockSet t => exact absurd rfl (hl t)

theorem Run.clock_eq (h : Run serve allowed s ls u) (hc : ∀ t, .clockSet t ∉ ls) :
    u.host.clock = s.host.clock := by
  induction h with
  | refl => rfl
  | next _ _ hs ih =>
    rw [hs.clock_eq fun t ht => hc t (by simp [ht]), ih fun t ht => hc t (by simp [ht])]

theorem Step.clock_read {i : Nat} {t' : Instant} (h : Step serve s (.moved i (.clock t')) t) :
    t' = s.host.clock := by
  cases h with
  | moved _ _ hg => cases hg; rfl

theorem Run.clock_of_mem (h : Run serve allowed s ls u) (hc : ∀ t, .clockSet t ∉ ls) {i : Nat}
    {t : Instant} (ht : .moved i (.clock t) ∈ ls) : t = s.host.clock := by
  obtain ⟨as, bs, v, w, rfl, hv, -, hs, -⟩ := h.at_mem ht
  rw [← hv.clock_eq fun t ht => hc t (List.mem_append_left _ ht)]
  exact hs.clock_read

/-- If the clock is set only when nothing is under way, it stands still while a strand is. -/
theorem Run.no_clockSet {i : Nat} {q q' : Q} {p p' : Program A} {o : Occurrence}
    (h : Run serve allowed s ls u) (hq : ∀ v t, allowed v (.clockSet t) → v.Quiet)
    (hi : s.strands[i]? = some ⟨q, p⟩) (hu : u.strands[i]? = some ⟨q', p'⟩)
    {r : Program A} (hr : p'.Step o r) (t : Instant) : .clockSet t ∉ ls := by
  intro ht
  obtain ⟨as, bs, v, w, rfl, hv, ha, hs, hw⟩ := h.at_mem ht
  obtain ⟨pv, hpv, -⟩ := hv.leads hi
  obtain ⟨a, rfl⟩ : ∃ a, pv = .done a := hq v t ha _ (List.mem_of_getElem? hpv)
  have he : w.Ended i q a := by cases hs; exact hpv
  obtain ⟨rfl, rfl⟩ := Strand.mk.inj (Option.some.inj (hu.symm.trans (hw.ended he).1))
  exact Program.not_step_done hr

theorem Run.still_between {i : Nat} {o o' : Occurrence} {as bs cs : List (Happening Q)}
    (h : Run serve allowed s (as ++ .moved i o :: (bs ++ .moved i o' :: cs)) u)
    (hq : ∀ v t, allowed v (.clockSet t) → v.Quiet) (t : Instant) : .clockSet t ∉ bs := by
  obtain ⟨v, w, -, -, hs, hw⟩ := h.split_cons
  obtain ⟨x, y, hx, -, hs', -⟩ := hw.split_cons
  cases hs with
  | @moved _ q p p' _ g hp _ _ =>
    cases hs' with
    | moved hp' hr _ =>
      refine hx.no_clockSet (i := i) (q := q) (p := p') hq ?_ hp' hr t
      simp [(List.getElem?_eq_some_iff.mp hp).1]

/-- A strand reads the one time that the clock shows whenever it moves. -/
theorem Run.clock_of_turn {i : Nat} {o : Occurrence} {as bs : List (Happening Q)} {v w : System Q A}
    {now : Instant} (hv : Run serve allowed s as v) (hs : Step serve v (.moved i o) w)
    (hw : Run serve allowed w bs u) (hq : ∀ v t, allowed v (.clockSet t) → v.Quiet)
    (hnow : .moved i (.clock now) ∈ as ++ .moved i o :: bs) : v.host.clock = now := by
  have hkept : w.host.clock = v.host.clock := hs.clock_eq nofun
  obtain ⟨q, p, p', hp, hp', hmove⟩ : ∃ q p p', v.strands[i]? = some ⟨q, p⟩ ∧
      w.strands[i]? = some ⟨q, p'⟩ ∧ Program.Step p o p' := by
    cases hs with
    | @moved _ q p p' _ _ hp hmove _ =>
      exact ⟨q, p, p', hp, by simp [(List.getElem?_eq_some_iff.mp hp).1], hmove⟩
  rcases List.mem_append.mp hnow with hbefore | hafter
  · obtain ⟨cs, ds, x, y, rfl, -, -, hread, hy⟩ := hv.at_mem hbefore
    obtain rfl := hread.clock_read
    have hstill : y.host.clock = x.host.clock := hread.clock_eq nofun
    cases hread with
    | @moved _ q₀ p₀ p₁ _ _ hp₀ _ _ =>
      rw [← hstill]
      refine hy.clock_eq fun t => hy.no_clockSet (i := i) (q := q₀) (p := p₁) hq ?_ hp hmove t
      simp [(List.getElem?_eq_some_iff.mp hp₀).1]
  · rcases List.mem_cons.mp hafter with heq | hafter
    · obtain rfl := (Happening.moved.inj heq).2
      exact hs.clock_read.symm
    · obtain ⟨cs, ds, x, y, rfl, hx, -, hread, -⟩ := hw.at_mem hafter
      obtain rfl := hread.clock_read
      rw [← hkept]
      cases hread with
      | moved hp₀ hmove₀ _ =>
        exact (hx.clock_eq fun t => hx.no_clockSet hq hp' hp₀ hmove₀ t).symm

end Clock

section Roles

theorem Run.roles_eq (h : Run serve allowed s ls u) : u.host.roles = s.host.roles := by
  induction h with
  | refl => rfl
  | next _ _ hs ih =>
    rw [← ih]
    cases hs with
    | begun | clockSet => rfl
    | moved _ _ hg => exact hg.roles_eq

/-- The roles that are found for a user are those from the beginning. -/
theorem Run.roles_of_mem (h : Run serve allowed s ls u) {i : Nat} {user : Uuid}
    {roles : List String} (ho : .moved i (.roles user (.ok roles)) ∈ ls) :
    roles = s.host.roles.rolesOf user := by
  obtain ⟨as, bs, v, w, rfl, hv, -, hs, -⟩ := h.at_mem ho
  rw [← hv.roles_eq]
  cases hs with
  | moved _ _ hg =>
    generalize hx : (Except.ok roles : Except RoleError (List String)) = x at hg
    cases hg with
    | roles =>
      unfold Host.lookUpRoles at hx
      split at hx
      · exact nomatch hx
      · exact Except.ok.inj hx

end Roles

section Draws

theorem Step.draws {l : Happening Q} (h : Step serve s l t) :
    t.host.source = s.host.source ∧
      ((l.draw? = none ∧ t.host.drawn = s.host.drawn) ∨
        (l.draw? = some (s.host.source s.host.drawn) ∧ t.host.drawn = s.host.drawn + 1)) := by
  cases h with
  | begun q => exact ⟨rfl, .inl ⟨rfl, rfl⟩⟩
  | moved _ _ hg =>
    refine ⟨hg.source_eq, ?_⟩
    cases hg <;> simp [Happening.draw?, Occurrence.draw?, Host.draw, Host.log,
      Host.lookUpRoles, Host.callRegistry]
  | clockSet t => exact ⟨rfl, .inl ⟨rfl, rfl⟩⟩

theorem Run.draws (h : Run serve allowed s ls u) :
    u.host.source = s.host.source ∧ ∃ n, u.host.drawn = s.host.drawn + n ∧
      drawsIn ls = (List.range' s.host.drawn n).map s.host.source := by
  induction h with
  | refl => exact ⟨rfl, 0, rfl, rfl⟩
  | @next ls l t u _ _ hs ih =>
    obtain ⟨hsource, n, hn, hd⟩ := ih
    obtain ⟨hsource', ⟨hl, hn'⟩ | ⟨hl, hn'⟩⟩ := hs.draws
    · refine ⟨hsource'.trans hsource, n, hn'.trans hn, ?_⟩
      simpa [drawsIn, hl] using hd
    · refine ⟨hsource'.trans hsource, n + 1, by omega, ?_⟩
      rw [drawsIn_append, hd, List.range'_concat, List.map_append]
      simp [drawsIn, hl, hsource, hn]

theorem Run.source_of_mem (h : Run serve allowed s ls u) {j : Jti} (hj : j ∈ drawsIn ls) :
    ∃ n, s.host.drawn ≤ n ∧ s.host.source n = j := by
  obtain ⟨-, n, -, hd⟩ := h.draws
  rw [hd] at hj
  obtain ⟨k, hk, rfl⟩ := List.mem_map.mp hj
  obtain ⟨i, -, rfl⟩ := List.mem_range'.mp hk
  exact ⟨s.host.drawn + 1 * i, by omega, rfl⟩

variable (hinj : Function.Injective s.host.source)
include hinj

theorem Run.not_mem_drawsIn (h : Run serve allowed s ls u) {j : Jti} (hj : s.host.Drawn j) :
    j ∉ drawsIn ls := by
  intro hm
  obtain ⟨k, hk, rfl⟩ := hj
  obtain ⟨n, hn, he⟩ := h.source_of_mem hm
  have := hinj he
  omega

theorem Run.nodup_drawsIn (h : Run serve allowed s ls u) : (drawsIn ls).Nodup := by
  obtain ⟨-, n, -, hd⟩ := h.draws
  rw [hd]
  exact (List.nodup_range' 1).map hinj

theorem Run.drawer_unique (h : Run serve allowed s ls u) {i k : Nat} {j : Jti}
    (hi : .moved i (.drawn j) ∈ ls) (hk : .moved k (.drawn j) ∈ ls) : i = k := by
  by_contra hik
  have hp := List.pairwise_filterMap.mp (h.nodup_drawsIn hinj)
  have : Std.Symm fun l l' : Happening Q =>
      ∀ b, l.draw? = some b → ∀ b', l'.draw? = some b' → b ≠ b' :=
    ⟨fun _ _ hl b hb b' hb' => (hl b' hb' b hb).symm⟩
  have hne : (Happening.moved i (.drawn j) : Happening Q) ≠ .moved k (.drawn j) := by
    simpa using hik
  exact hp.forall hi hk hne j rfl j rfl rfl

end Draws

/-! Programs that record only what they have drawn themselves, and before they revoke anything:
once the program that drew an identifier has ended or has revoked it, nothing records it. -/

section Records

structure Orderly (serve : Q → Program A) : Prop where
  own {q : Q} {os : List Occurrence} {a : A} : (serve q).Yields os a → RecordsDrawn [] os
  first {q : Q} {os : List Occurrence} {a : A} : (serve q).Yields os a → RecordsFirst os

/-- In the state `s` after `as`, whatever drew the identifier has ended. -/
def Settled (g : Host) (as : List (Happening Q)) (s : System Q A) (j : Jti) : Prop :=
  g.Drawn j ∨ ∃ i q a, .moved i (.drawn j) ∈ as ∧ s.Ended i q a

variable {g : Host} {as bs : List (Happening Q)} {j : Jti}

theorem Settled.mono (h : Settled g as s j) (hr : Run serve allowed s bs u) :
    Settled g (as ++ bs) u j := by
  rcases h with hd | ⟨i, q, a, hi, he⟩
  · exact .inl hd
  · exact .inr ⟨i, q, a, List.mem_append_left _ hi, (hr.ended he).1⟩

theorem turnsOf_moved (i : Nat) (o : Occurrence) (bs : List (Happening Q)) :
    turnsOf i (as ++ .moved i o :: bs) = turnsOf i as ++ o :: turnsOf i bs := by
  simp [turnsOf, Happening.turn?]

section

variable (hserve : Orderly serve)
include hserve

theorem Run.drawn_of_recorded {i : Nat} {e : Instant} {x : Except RegistryError Unit}
    (h : Run serve allowed (start g) (as ++ .moved i (.called (.record j e) x) :: bs) u) :
    .moved i (.drawn j) ∈ as := by
  obtain ⟨q, p, -, -, hl⟩ :=
    h.strand_of_turn (i := i) (List.mem_append_right _ (List.mem_cons_self ..))
  obtain ⟨us, a, hp⟩ := p.exists_yields
  rw [turnsOf_moved] at hl
  rcases SessionTokens.drawn_of_recorded (hserve.own (hl.trans hp))
    (by rw [List.append_assoc, List.cons_append]) with hj | hj
  · exact nomatch hj
  · exact mem_turnsOf.mp hj

variable (hinj : Function.Injective g.source)
include hinj

theorem Run.recorder_unique (h : Run serve allowed (start g) ls u) {i k : Nat} {e : Instant}
    {x : Except RegistryError Unit} (hi : .moved i (.called (.record j e) x) ∈ ls)
    (hk : .moved k (.drawn j) ∈ ls) : i = k := by
  obtain ⟨as, bs, rfl⟩ := List.append_of_mem hi
  exact h.drawer_unique hinj (List.mem_append_left _ (h.drawn_of_recorded hserve)) hk

theorem Run.not_recorded_of_drawn (h : Run serve allowed (start g) ls u) (hj : g.Drawn j)
    (i : Nat) (e : Instant) (x : Except RegistryError Unit) :
    .moved i (.called (.record j e) x) ∉ ls := by
  intro hi
  obtain ⟨as, bs, rfl⟩ := List.append_of_mem hi
  exact h.not_mem_drawsIn hinj hj
    (mem_drawsIn.mpr ⟨i, List.mem_append_left _ (h.drawn_of_recorded hserve)⟩)

theorem Run.not_recorded (ha : Run serve allowed (start g) as s) (hj : Settled g as s j)
    (hb : Run serve allowed s bs u) (i : Nat) (e : Instant) (x : Except RegistryError Unit) :
    .moved i (.called (.record j e) x) ∉ bs := by
  intro hi
  have h := ha.trans hb
  rcases hj with hj | ⟨k, q, a, hk, he⟩
  · exact h.not_recorded_of_drawn hserve hinj hj i e x (List.mem_append_right _ hi)
  · obtain rfl := h.recorder_unique hserve hinj (List.mem_append_right _ hi)
      (List.mem_append_left _ hk)
    exact nomatch (hb.ended he).2 ▸ mem_turnsOf.mpr hi

theorem Run.not_recorded_of_revoked {k : Nat} {e : Instant}
    {y : Except RegistryError RevokeOutcome}
    (h : Run serve allowed (start g) (as ++ .moved k (.called (.revoke j e) y) :: bs) u)
    (hk : .moved k (.drawn j) ∈ as ++ .moved k (.called (.revoke j e) y) :: bs)
    (i : Nat) (f : Instant) (x : Except RegistryError Unit) :
    .moved i (.called (.record j f) x) ∉ bs := by
  intro hi
  obtain rfl := h.recorder_unique hserve hinj
    (List.mem_append_right _ (List.mem_cons_of_mem _ hi)) hk
  obtain ⟨q, p, -, -, hl⟩ :=
    h.strand_of_turn (i := i) (List.mem_append_right _ (List.mem_cons_self ..))
  obtain ⟨us, a, hp⟩ := p.exists_yields
  have hf := hserve.first (hl.trans hp)
  rw [turnsOf_moved, List.append_assoc, List.cons_append] at hf
  have hr := (List.pairwise_cons.mp (List.pairwise_append.mp hf).2.1).1
    (.called (.record j f) x) (List.mem_append_left _ (mem_turnsOf.mpr hi))
  simp [Occurrence.isRevoke, Occurrence.isRecord] at hr

end

end Records

end System

end SessionTokens
