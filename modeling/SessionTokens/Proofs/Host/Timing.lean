import Mathlib.Order.WithBot
import SessionTokens.Host.Basic

/-! What ends a call of the registry: its answer, its deadline or the cancellation of its scope,
whichever is due first. An answer that is due at the deadline is in time; a cancellation that is
due with the answer or with the deadline comes first. -/

namespace SessionTokens

/-- When something is due in a call: as the call begins, so many milliseconds later, or never.
Whatever else is due in its first millisecond has its turn only after the beginning. -/
abbrev Moment := WithTop (WithBot Nat)

namespace Moment

def later (ms : Nat) : Moment := WithTop.some (WithBot.some ms)

/-- The end of a wait, which is over at once if it takes no time. -/
def elapsed (ms : Nat) : Moment := if ms = 0 then ⊥ else later ms

variable {a b : Nat}

theorem later_le_later : later a ≤ later b ↔ a ≤ b := by
  rw [later, later, WithTop.coe_le_coe, WithBot.coe_le_coe]

theorem later_lt_later : later a < later b ↔ a < b := by
  rw [later, later, WithTop.coe_lt_coe, WithBot.coe_lt_coe]

theorem bot_lt_later (a : Nat) : ⊥ < later a :=
  WithTop.coe_lt_coe.mpr (WithBot.bot_lt_coe a)

theorem later_ne_bot (a : Nat) : later a ≠ ⊥ := (bot_lt_later a).ne'

theorem elapsed_le_elapsed : elapsed a ≤ elapsed b ↔ a ≤ b := by
  unfold elapsed
  by_cases ha : a = 0
  · simp [ha]
  · by_cases hb : b = 0
    · simp [ha, hb, later_ne_bot]
    · simp [ha, hb, later_le_later]

end Moment

/-- When a call that waits so is ready. -/
def Wait.due : Wait → Moment
  | ready => ⊥
  | turn => .later 0
  | sleep ms => .elapsed ms
  | forever => ⊤

/-- When a call that began at `start` is at its end. -/
def Course.due (c : Course) (start : Nat) : Moment :=
  if c.endsAt = start ∧ ¬ c.turn then ⊥ else .later (c.endsAt - start)

namespace Scope

open Moment

variable {s : Scope} {start : Nat}

/-- A timeout of no time is up as the call begins. -/
def deadline (s : Scope) : Moment := .elapsed s.timeout

theorem not_top_le_deadline (s : Scope) : ¬ ⊤ ≤ s.deadline := by
  unfold deadline elapsed
  split <;> simp [later]

theorem ending_undisturbed (s : Scope) (start : Nat) (w : Wait) :
    (s.undisturbed start w).ending =
      if w.due ≤ s.deadline then .answered else .timedOut := by
  cases w with
  | ready => simp [undisturbed, Wait.due]
  | turn =>
    by_cases ht : s.timeout = 0
    · simp [undisturbed, Wait.due, deadline, elapsed, ht, later_ne_bot]
    · simp [undisturbed, Wait.due, deadline, elapsed, ht, later_le_later]
  | sleep ms =>
    rw [Wait.due, deadline]
    simp only [elapsed_le_elapsed, undisturbed]
    split <;> rfl
  | forever => rw [Wait.due, if_neg s.not_top_le_deadline, undisturbed]

theorem due_undisturbed (s : Scope) (start : Nat) (w : Wait) :
    (s.undisturbed start w).due start =
      if w.due ≤ s.deadline then w.due else s.deadline := by
  have hwait (ms : Nat) (e : Ending) : (Course.mk e (start + ms) false).due start = elapsed ms := by
    simp [Course.due, elapsed]
  cases w with
  | ready => simp [undisturbed, Course.due, Wait.due]
  | turn =>
    by_cases ht : s.timeout = 0
    · rw [Wait.due, deadline, elapsed, if_pos ht, if_neg (not_le.mpr (bot_lt_later 0))]
      simp [undisturbed, Course.due, ht]
    · simp [undisturbed, Course.due, Wait.due, deadline, elapsed, ht, later_le_later]
  | sleep ms =>
    have hle : Moment.elapsed ms ≤ s.deadline ↔ ms ≤ s.timeout := elapsed_le_elapsed
    by_cases hms : ms ≤ s.timeout
    · rw [Wait.due, if_pos (hle.mpr hms), undisturbed, if_pos hms, hwait]
    · rw [Wait.due, if_neg (mt hle.mp hms), undisturbed, if_neg hms, hwait, deadline]
  | forever => rw [Wait.due, if_neg s.not_top_le_deadline, undisturbed, hwait, deadline]

theorem start_le_undisturbed (s : Scope) (start : Nat) (w : Wait) :
    start ≤ (s.undisturbed start w).endsAt := by
  cases w <;> simp only [undisturbed]
  case ready => exact Nat.le_refl _
  case forever => exact Nat.le_add_right ..
  all_goals split <;> simp

/-- When a call that begins at `start` is cancelled, if it begins at all. -/
def cancelDue (s : Scope) (start : Nat) : Moment :=
  match s.cancelAt with
  | some t => .later (t - start)
  | none => ⊤

/-- A cancellation ends the call unless the call is at its end before. -/
theorem ending_await (hs : ∀ t, s.cancelAt = some t → start ≤ t) (w : Wait) :
    (s.await start w).ending =
      if (s.undisturbed start w).due start < s.cancelDue start then (s.undisturbed start w).ending
      else .cancelled := by
  have hle := s.start_le_undisturbed start w
  cases ht : s.cancelAt with
  | none =>
    have hlt : (s.undisturbed start w).due start < ⊤ := by
      unfold Course.due
      split <;> simp [later]
    simp only [await, cancelDue, ht, if_pos hlt]
  | some t =>
    have hstart := hs t ht
    simp only [await, cancelDue, ht]
    generalize s.undisturbed start w = c at hle
    -- the test of `await`, told in moments
    have hlt : c.due start < later (t - start) ↔ (c.endsAt = start ∧ ¬ c.turn) ∨ c.endsAt < t := by
      unfold Course.due
      by_cases hbegin : c.endsAt = start ∧ ¬ c.turn
      · rw [if_pos hbegin]
        exact iff_of_true (bot_lt_later _) (.inl hbegin)
      · rw [if_neg hbegin, later_lt_later, or_iff_right hbegin]
        omega
    simp only [hlt, apply_ite Course.ending]

/-- How a call ends for which an answer, a deadline and a cancellation are due. -/
def race (answer deadline cancellation : Moment) : Ending :=
  if answer ≤ deadline ∧ answer < cancellation then .answered
  else if cancellation ≤ deadline then .cancelled
  else .timedOut

theorem ending_await_eq_race (hs : ∀ t, s.cancelAt = some t → start ≤ t) (w : Wait) :
    (s.await start w).ending = race w.due s.deadline (s.cancelDue start) := by
  rw [ending_await hs, due_undisturbed, ending_undisturbed, race]
  by_cases hd : w.due ≤ s.deadline
  · simp only [if_pos hd]
    by_cases hc : w.due < s.cancelDue start
    · rw [if_pos hc, if_pos ⟨hd, hc⟩]
    · have hle : s.cancelDue start ≤ s.deadline := (not_lt.mp hc).trans hd
      simp [hc, hle]
  · by_cases hc : s.deadline < s.cancelDue start
    · simp [hd, hc, not_le.mpr hc]
    · simp [hd, hc, not_lt.mp hc]

end Scope

namespace Host

variable {g h : Host}

/-- What befalls the next call. -/
def nextFault (h : Host) : Fault := h.faults.headD .none

def answerDue (h : Host) : Moment := h.nextFault.toWait.due

theorem callRegistry_congr (hclock : g.clock = h.clock) (hregistry : g.registry = h.registry)
    (c : RegistryCall) : (g.callRegistry c).1 = (h.callRegistry c).1 ∧
      (g.callRegistry c).2.clock = (h.callRegistry c).2.clock ∧
      (g.callRegistry c).2.registry = (h.callRegistry c).2.registry := by
  simp [callRegistry, log, hclock, hregistry]

/-- An answer depends on the clock and the registry alone, and so does what it leaves behind. -/
theorem answer_congr (hclock : g.clock = h.clock) (hregistry : g.registry = h.registry)
    (f : Fault) (c : RegistryCall) : (g.answer f c).1 = (h.answer f c).1 ∧
      (g.answer f c).2.registry = (h.answer f c).2.registry := by
  have hrace : (g.race c).clock = (h.race c).clock ∧ (g.race c).registry = (h.race c).registry := by
    cases c with
    | record j e => exact (callRegistry_congr hclock hregistry (.revoke j e)).2
    | revoke j e => exact (callRegistry_congr hclock hregistry (.revoke j e)).2
    | _ => exact ⟨hclock, hregistry⟩
  have hcall := callRegistry_congr hclock hregistry c
  have hraced := callRegistry_congr hrace.1 hrace.2 c
  unfold answer
  split
  · exact ⟨rfl, hregistry⟩
  · split
    · exact ⟨hraced.1, hraced.2.2⟩
    · exact ⟨hcall.1, hcall.2.2⟩

theorem calls_answer (h : Host) (f : Fault) (c : RegistryCall) :
    (h.answer f c).2.calls = h.calls := by
  unfold answer
  split
  · rfl
  · split
    · cases c <;> rfl
    · rfl

theorem timer_finish (h : Host) (f : Fault) (ending : Ending) (c : RegistryCall) :
    (h.finish f ending c).2.timer = h.timer := by
  cases ending with
  | answered =>
    simp only [finish, answer]
    split
    · rfl
    · split
      · cases c <;> rfl
      · rfl
  | timedOut | cancelled => rfl

end Host

namespace Scope

variable {s : Scope} {h : Host}

/-- When the scope of the next call is cancelled: as the call begins if the scope is over then. -/
def cancellation (s : Scope) (h : Host) : Moment :=
  if s.isOver h.timer then ⊥ else (s.during h.timer h.nextFault).cancelDue h.timer

theorem deadline_during (s : Scope) (now : Nat) (f : Fault) :
    (s.during now f).deadline = s.deadline := by
  cases f <;> rfl

theorem le_cancelAt_during {now t : Nat} {f : Fault} (hs : s.isOver now = false)
    (ht : (s.during now f).cancelAt = some t) : now ≤ t := by
  have hopen : ∀ t, s.cancelAt = some t → now ≤ t := by
    intro t ht
    simp only [isOver, ht, Bool.or_eq_false_iff, decide_eq_false_iff_not] at hs
    omega
  cases f with
  | cancelScope => exact (Option.some.inj ht).le
  | _ => exact hopen t ht

theorem ending_start (s : Scope) (h : Host) (c : RegistryCall) :
    (s.start h c).course.ending = race h.answerDue s.deadline (s.cancellation h) := by
  unfold start cancellation
  by_cases hs : s.isOver h.timer = true
  · simp [hs, race]
  · simp only [Bool.not_eq_true] at hs
    have hcancel : ∀ t, (s.during h.timer h.nextFault).cancelAt = some t → h.timer ≤ t :=
      fun _ => le_cancelAt_during hs
    have hrace := ending_await_eq_race hcancel h.nextFault.toWait
    rw [deadline_during] at hrace
    simp only [hs, Bool.false_eq_true, if_false]
    exact hrace

/-- The registry itself answers the next call with `a`, no later than the deadline and strictly
before any cancellation. -/
def Hears (s : Scope) (h : Host) (c : RegistryCall) (a : Except RegistryError c.Answer) : Prop :=
  h.answerDue ≤ s.deadline ∧ h.answerDue < s.cancellation h ∧ (h.answer h.nextFault c).1 = a

theorem Hears.unique {c : RegistryCall} {a b : Except RegistryError c.Answer}
    (ha : s.Hears h c a) (hb : s.Hears h c b) : a = b :=
  ha.2.2.symm.trans hb.2.2

/-- A cancellation comes before whatever else would end the next call, or with it. -/
def CancelledFirst (s : Scope) (h : Host) : Prop :=
  s.cancellation h ≤ h.answerDue ∧ s.cancellation h ≤ s.deadline

/-- What a caller meets with in the next call, and the registry afterwards. -/
inductive Met (s : Scope) (h : Host) (c : RegistryCall) :
    Except RegistryError c.Answer → Backend → Prop
  | answered {a : Except RegistryError c.Answer} : s.Hears h c a → ¬ s.CancelledFirst h →
    Met s h c a (h.answer h.nextFault c).2.registry
  | cancelled : (∀ a, ¬ s.Hears h c a) → s.CancelledFirst h →
    Met s h c (.error .cancelled) h.registry
  | timedOut : (∀ a, ¬ s.Hears h c a) → ¬ s.CancelledFirst h →
    Met s h c (.error .timedOut) h.registry

theorem Met.eq_of_hears {c : RegistryCall} {a x : Except RegistryError c.Answer} {b : Backend}
    (hmet : s.Met h c a b) (hx : s.Hears h c x) : a = x := by
  cases hmet with
  | answered ha => exact ha.unique hx
  | cancelled hno | timedOut hno => exact absurd hx (hno x)

theorem start_host (s : Scope) (h : Host) (c : RegistryCall) :
    (s.start h c).host.clock = h.clock ∧ (s.start h c).host.registry = h.registry ∧
      (s.start h c).host.calls = h.calls ++ if s.isOver h.timer then [] else [c] := by
  unfold start
  by_cases hs : s.isOver h.timer = true
  · simp [hs]
  · simp [hs, Host.begin]

theorem start_fault (hs : s.isOver h.timer = false) (c : RegistryCall) :
    (s.start h c).fault = h.nextFault := by
  unfold start
  simp only [hs, Bool.false_eq_true, if_false]
  rfl

theorem calls_call (s : Scope) (h : Host) (c : RegistryCall) :
    (s.call h c).2.2.calls = h.calls ++ if s.isOver h.timer then [] else [c] := by
  have hcalls := (s.start_host h c).2.2
  simp only [call, Host.finish]
  cases (s.start h c).course.ending with
  | answered => exact (Host.calls_answer ..).trans hcalls
  | _ => exact hcalls

theorem met_call (s : Scope) (h : Host) (c : RegistryCall) :
    s.Met h c (s.call h c).1 (s.call h c).2.2.registry := by
  obtain ⟨hclock, hregistry, -⟩ := s.start_host h c
  have hending := s.ending_start h c
  simp only [call, hending, race]
  by_cases hanswered : h.answerDue ≤ s.deadline ∧ h.answerDue < s.cancellation h
  · have hopen : s.isOver h.timer = false := by
      cases hover : s.isOver h.timer with
      | false => rfl
      | true => simp [cancellation, hover] at hanswered
    let g : Host := { (s.start h c).host with timer := (s.start h c).course.endsAt }
    obtain ⟨hanswer, hafter⟩ := Host.answer_congr (g := g) hclock hregistry h.nextFault c
    simp only [if_pos hanswered, Host.finish, start_fault hopen]
    rw [hanswer, hafter]
    exact .answered ⟨hanswered.1, hanswered.2, rfl⟩ fun hfirst => hanswered.2.not_ge hfirst.1
  · have hunheard : ∀ a, ¬ s.Hears h c a := fun a ha => hanswered ⟨ha.1, ha.2.1⟩
    by_cases hcancel : s.cancellation h ≤ s.deadline
    · have hfirst : s.cancellation h ≤ h.answerDue := by
        by_contra hlt
        exact hanswered ⟨(not_le.mp hlt).le.trans hcancel, not_le.mp hlt⟩
      simp only [if_neg hanswered, if_pos hcancel, Host.finish, hregistry]
      exact .cancelled hunheard ⟨hfirst, hcancel⟩
    · simp only [if_neg hanswered, if_neg hcancel, Host.finish, hregistry]
      exact .timedOut hunheard fun hfirst => hcancel hfirst.2

theorem isOver_of_answered {start : Nat} {w : Wait} (hs : s.isOver start = false)
    (ha : (s.await start w).ending = .answered) : s.isOver (s.await start w).endsAt = false := by
  unfold await at ha ⊢
  cases ht : s.cancelAt with
  | none => simpa [isOver, ht] using hs
  | some t =>
    simp only [isOver, ht, Bool.or_eq_false_iff, decide_eq_false_iff_not] at hs ha ⊢
    refine ⟨hs.1, ?_⟩
    split at ha
    · rename_i hfirst
      rw [if_pos hfirst]
      rcases hfirst with hfirst | hfirst <;> omega
    · exact nomatch ha

/-- Whoever was answered can go on: a scope does not end during a call that succeeds. -/
theorem isOver_of_ok {c : RegistryCall} {x : c.Answer}
    (hok : (s.call h c).1 = .ok x) :
    s.isOver h.timer = false ∧ (s.call h c).2.1.isOver (s.call h c).2.2.timer = false := by
  have hanswered : (s.start h c).course.ending = .answered := by
    cases hend : (s.start h c).course.ending with
    | answered => rfl
    | timedOut | cancelled =>
      simp only [call, hend] at hok
      exact nomatch hok
  have hopen : s.isOver h.timer = false := by
    cases hover : s.isOver h.timer with
    | false => rfl
    | true =>
      simp only [start, hover, if_true] at hanswered
      exact nomatch hanswered
  refine ⟨hopen, ?_⟩
  have hscope : (s.call h c).2.1 = s.after h.nextFault := by
    simp only [call, start, hopen]
    rfl
  have htimer : (s.call h c).2.2.timer =
      ((s.during h.timer h.nextFault).await h.timer h.nextFault.toWait).endsAt := by
    rw [call, Host.timer_finish]
    simp only [start, hopen]
    rfl
  have hending : ((s.during h.timer h.nextFault).await h.timer h.nextFault.toWait).ending =
      .answered := by
    rw [← hanswered]
    simp only [start, hopen]
    rfl
  rw [hscope, htimer]
  cases hf : h.nextFault with
  | cancelScope =>
    -- a call that cancels its scope is never answered
    have hdue : h.answerDue = ⊤ := by
      rw [Host.answerDue, hf]
      rfl
    rw [s.ending_start, race, hdue, if_neg fun hboth => s.not_top_le_deadline hboth.1] at hanswered
    split at hanswered <;> exact nomatch hanswered
  | _ =>
    rw [hf] at hending
    exact isOver_of_answered (s := s) hopen hending

end Scope

end SessionTokens
