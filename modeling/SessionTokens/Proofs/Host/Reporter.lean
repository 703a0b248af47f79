import SessionTokens.Host.Reporter
import SessionTokens.Proofs.Host.Alone
import SessionTokens.Proofs.Host.Progress

/-! The reporter counts at every multiple of its interval until it is cancelled, whatever comes of
each count. None takes longer than the interval, so that the next one begins when it is due. -/

namespace SessionTokens

/-- How long a call is not ready, if it ever is. -/
def Wait.delay? : Wait → Option Nat
  | ready => some 0
  | turn => some 0
  | sleep ms => some ms
  | forever => none

theorem Backend.events_stats (b : Backend) (now : Instant) : (b.call now .stats).events = [] := by
  cases b <;> rfl

namespace Host

variable {h : Host}

/-- A count is not logged by the registry, nor anything in its course. -/
theorem finish_stats (h : Host) (f : Fault) (ending : Ending) :
    (h.finish f ending .stats).2.journal = h.journal ∧
      (h.finish f ending .stats).2.clock = h.clock := by
  have hcall : (h.callRegistry .stats).2.journal = h.journal := by
    rw [callRegistry, log, Backend.events_stats]
    exact List.append_nil _
  cases ending with
  | answered =>
    simp only [finish, answer]
    split
    · exact ⟨rfl, rfl⟩
    · split <;> exact ⟨hcall, rfl⟩
  | timedOut | cancelled => exact ⟨rfl, rfl⟩

end Host

namespace Scope

variable {s : Scope} {start t : Nat}

/-- A call is at its end when its time is up, and when it is cancelled. -/
theorem endsAt_await_le (hs : s.cancelAt = some t) (hstart : start ≤ t) (w : Wait) :
    (s.await start w).endsAt ≤ start + s.timeout ∧ (s.await start w).endsAt ≤ t := by
  have hends : (s.undisturbed start w).endsAt ≤ start + s.timeout := by
    cases w <;> simp only [undisturbed]
    case ready => omega
    case forever => omega
    all_goals split <;> simp only <;> omega
  simp only [await, hs]
  split
  · omega
  · simp only
    omega

end Scope

namespace Reporter

variable {r : Reporter} {g h : Host} {k : Nat}

/-- What the log says of a count that begins at `g`. -/
def line (r : Reporter) (g : Host) : Log.Event := r.eventOf (r.scope.call g .stats).1

/-- The answer to a count comes within the interval, and at once or before the cancellation. -/
def InTime (r : Reporter) (g : Host) : Prop :=
  ∃ d, g.nextFault.toWait.delay? = some d ∧ d ≤ r.interval ∧
    (g.answerDue = ⊥ ∨ g.timer + d < r.cancelAt)

/-- What is to be logged of a count that begins at `g`. -/
inductive Reports (r : Reporter) (g : Host) : Log.Event → Prop
  | counted {stats : JtiStats} : r.InTime g → (g.answer g.nextFault .stats).1 = .ok stats →
    Reports r g (.registryCounted r.instanceId stats)
  | refused {e : RegistryError} : r.InTime g → (g.answer g.nextFault .stats).1 = .error e →
    Reports r g (.reporterFailed e)
  | cancelled : ¬ r.InTime g → r.cancelAt ≤ g.timer + r.interval →
    Reports r g (.reporterFailed .cancelled)
  | timedOut : ¬ r.InTime g → g.timer + r.interval < r.cancelAt →
    Reports r g (.reporterFailed .timedOut)

/-- The reporter is not yet cancelled as a count begins, and no count cancels it. -/
structure Runs (r : Reporter) (g : Host) : Prop where
  interval : 1 ≤ r.interval
  timer_le : g.timer ≤ r.cancelAt
  faults : .cancelScope ∉ g.faults

namespace Runs

theorem isOver_eq_false (hg : r.Runs g) : r.scope.isOver g.timer = false := by
  have hle := hg.timer_le
  simp only [scope, Scope.isOver, Bool.false_or, decide_eq_false_iff_not]
  omega

/-- A count leaves the scope of the reporter as it is. -/
theorem scope_eq (hg : r.Runs g) : r.scope.during g.timer g.nextFault = r.scope ∧
    r.scope.after g.nextFault = r.scope := by
  have hf := Host.nextFault_ne_cancelScope hg.faults
  cases hfault : g.nextFault with
  | cancelScope => exact absurd hfault hf
  | _ => exact ⟨rfl, rfl⟩

theorem cancellation_eq (hg : r.Runs g) :
    r.scope.cancellation g = .later (r.cancelAt - g.timer) := by
  simp only [Scope.cancellation, hg.isOver_eq_false, hg.scope_eq.1, Bool.false_eq_true, if_false]
  rfl

theorem deadline_eq (hg : r.Runs g) : r.scope.deadline = .later r.interval := by
  have hinterval := hg.interval
  simp only [Scope.deadline, Moment.elapsed, scope]
  exact if_neg (by omega)

theorem inTime_iff (hg : r.Runs g) :
    r.InTime g ↔ g.answerDue ≤ r.scope.deadline ∧ g.answerDue < r.scope.cancellation g := by
  have hle := hg.timer_le
  have hinterval := hg.interval
  rw [hg.cancellation_eq, hg.deadline_eq, InTime, Host.answerDue]
  cases g.nextFault.toWait with
  | ready => simp [Wait.delay?, Wait.due, Moment.bot_lt_later]
  | turn =>
    simp only [Wait.delay?, Wait.due, Option.some.injEq, exists_eq_left', Moment.later_ne_bot,
      Moment.later_le_later, Moment.later_lt_later, false_or]
    omega
  | sleep ms =>
    by_cases hms : ms = 0
    · simp [Wait.delay?, Wait.due, Moment.elapsed, hms, Moment.bot_lt_later]
    · simp only [Wait.delay?, Wait.due, Moment.elapsed, hms, if_false, Option.some.injEq,
        exists_eq_left', Moment.later_ne_bot, Moment.later_le_later, Moment.later_lt_later,
        false_or]
      omega
  | forever => simp [Wait.delay?, Wait.due, Moment.later]

theorem cancelledFirst_iff (hg : r.Runs g) :
    r.scope.CancelledFirst g ↔ ¬ r.InTime g ∧ r.cancelAt ≤ g.timer + r.interval := by
  have hle : r.scope.cancellation g ≤ r.scope.deadline ↔ r.cancelAt ≤ g.timer + r.interval := by
    rw [hg.cancellation_eq, hg.deadline_eq, Moment.later_le_later]
    omega
  rw [hg.inTime_iff, ← hle, Scope.CancelledFirst]
  constructor
  · rintro ⟨hfirst, hdeadline⟩
    exact ⟨fun hboth => hboth.2.not_ge hfirst, hdeadline⟩
  · rintro ⟨hlate, hdeadline⟩
    refine ⟨?_, hdeadline⟩
    by_contra hlt
    exact hlate ⟨(not_le.mp hlt).le.trans hdeadline, not_le.mp hlt⟩

theorem reports_line (hg : r.Runs g) : r.Reports g (r.line g) := by
  have hmet := r.scope.met_call g .stats
  have hunheard (hno : ∀ a, ¬ r.scope.Hears g .stats a) : ¬ r.InTime g := by
    intro htime
    obtain ⟨hdeadline, hcancel⟩ := hg.inTime_iff.mp htime
    exact hno _ ⟨hdeadline, hcancel, rfl⟩
  rw [line]
  generalize (r.scope.call g .stats).1 = a, (r.scope.call g .stats).2.2.registry = b at hmet
  cases hmet with
  | answered ha =>
    have htime := hg.inTime_iff.mpr ⟨ha.1, ha.2.1⟩
    cases a with
    | ok stats => exact .counted htime ha.2.2
    | error e => exact .refused htime ha.2.2
  | cancelled _ hfirst =>
    obtain ⟨hlate, hcancel⟩ := hg.cancelledFirst_iff.mp hfirst
    exact .cancelled hlate hcancel
  | timedOut hno hlast =>
    have hlate := hunheard hno
    refine .timedOut hlate ?_
    by_contra hcancel
    exact hlast (hg.cancelledFirst_iff.mpr ⟨hlate, by omega⟩)

end Runs

/-- What a count leaves of the reporter's host. -/
structure Counted (r : Reporter) (g : Host) : Prop where
  goesOn : (r.tick g).1 = false
  clock : (r.tick g).2.clock = g.clock
  calls : (r.tick g).2.calls = g.calls ++ [.stats]
  faults : (r.tick g).2.faults = g.faults.drop 1
  journal : (r.tick g).2.journal = g.journal ++ [r.line g]
  timer_le : (r.tick g).2.timer ≤ g.timer + r.interval
  timer_le_cancelAt : (r.tick g).2.timer ≤ r.cancelAt

/-- The step: whatever comes of a count, there is one line of it, and time for the next one. -/
theorem Runs.counted (hg : r.Runs g) : r.Counted g := by
  have hopen := hg.isOver_eq_false
  have hstart : r.scope.start g .stats = ⟨g.nextFault, r.scope.await g.timer g.nextFault.toWait,
      r.scope, (g.begin .stats).2⟩ := by
    simp only [Scope.start, hopen, Bool.false_eq_true, if_false]
    rw [show (g.begin .stats).1 = g.nextFault from rfl, hg.scope_eq.2]
    exact congrArg (fun s : Scope => Started.mk g.nextFault
      (s.await g.timer g.nextFault.toWait) r.scope (g.begin .stats).2) hg.scope_eq.1
  have hends := Scope.endsAt_await_le (s := r.scope) rfl hg.timer_le g.nextFault.toWait
  have htimer : (r.tick g).2.timer = (r.scope.await g.timer g.nextFault.toWait).endsAt := by
    change (r.scope.call g .stats).2.2.timer = _
    rw [Scope.call, Host.timer_finish, hstart]
  refine ⟨?_, ?_, ?_, ?_, ?_, htimer ▸ hends.1, htimer ▸ hends.2⟩
  · change (r.scope.start g .stats).scope.cancelled = false
    rw [hstart]
    rfl
  · change (r.scope.call g .stats).2.2.clock = _
    rw [Scope.call, (Host.finish_stats ..).2, hstart]
    rfl
  · change (r.scope.call g .stats).2.2.calls = _
    rw [Scope.calls_call, hopen]
    rfl
  · change (r.scope.call g .stats).2.2.faults = _
    rw [Scope.call, Host.faults_finish, hstart]
    rfl
  · change (r.scope.call g .stats).2.2.journal ++ [r.line g] = _
    rw [Scope.call, (Host.finish_stats ..).1, hstart]
    rfl

/-! The counts of a run. -/

/-- The host as a count begins: when the count is due, or at the end of the one before if that is
later. -/
def begun (r : Reporter) (h : Host) : Nat → Host
  | 0 => h
  | k + 1 =>
    let g := (r.tick (r.begun h k)).2
    { g with timer := max g.timer (h.timer + (k + 1) * r.interval) }

/-- The first count is due as the reporter begins, and each of the others if it is not cancelled
by then. -/
def Due (r : Reporter) (h : Host) (k : Nat) : Prop :=
  k = 0 ∨ h.timer + k * r.interval < r.cancelAt

theorem Due.of_succ (hk : r.Due h (k + 1)) : r.Due h k := by
  have hmul : (k + 1) * r.interval = k * r.interval + r.interval := Nat.succ_mul ..
  unfold Due at hk ⊢
  omega

/-- The number of the last count. -/
def lastDue (r : Reporter) (h : Host) : Nat := (r.cancelAt - h.timer - 1) / r.interval

theorem due_iff (hinterval : 1 ≤ r.interval) : r.Due h k ↔ k ≤ r.lastDue h := by
  rw [lastDue, Nat.le_div_iff_mul_le hinterval, Due]
  rcases Nat.eq_zero_or_pos k with rfl | hk
  · simp
  · have hpos : 0 < k * r.interval := Nat.mul_pos hk hinterval
    generalize k * r.interval = due at hpos
    omega

/-- The host as count `k` begins, by what it was at first. -/
structure Begun (r : Reporter) (h : Host) (k : Nat) : Prop where
  timer : (r.begun h k).timer = h.timer + k * r.interval
  clock : (r.begun h k).clock = h.clock
  calls : (r.begun h k).calls = h.calls ++ List.replicate k .stats
  faults : (r.begun h k).faults = h.faults.drop k
  journal : (r.begun h k).journal =
    h.journal ++ (List.range k).map fun i => r.line (r.begun h i)

theorem Begun.runs (hk : r.Begun h k) (hh : r.Runs h) (hdue : r.Due h k) :
    r.Runs (r.begun h k) where
  interval := hh.interval
  timer_le := by
    have hle := hh.timer_le
    rw [hk.timer]
    rcases hdue with rfl | hdue <;> omega
  faults := by
    rw [hk.faults]
    exact fun hmem => hh.faults (List.mem_of_mem_drop hmem)

/-- The run, count by count: none is late, however long the one before took. -/
theorem begun_of_due (hh : r.Runs h) (hdue : r.Due h k) : r.Begun h k := by
  induction k with
  | zero => exact ⟨by simp [begun], rfl, by simp [begun], rfl, by simp [begun]⟩
  | succ k ih =>
    have hk := ih hdue.of_succ
    obtain ⟨-, hclock, hcalls, hfaults, hjournal, htimer, -⟩ :=
      (hk.runs hh hdue.of_succ).counted
    have hmul : (k + 1) * r.interval = k * r.interval + r.interval := Nat.succ_mul ..
    rw [hk.timer] at htimer
    refine ⟨?_, hclock.trans hk.clock, ?_, ?_, ?_⟩
    · change max _ _ = _
      omega
    · change (r.tick (r.begun h k)).2.calls = _
      rw [hcalls, hk.calls, List.replicate_succ', List.append_assoc]
    · change (r.tick (r.begun h k)).2.faults = _
      rw [hfaults, hk.faults, List.drop_drop]
    · change (r.tick (r.begun h k)).2.journal = _
      rw [hjournal, hk.journal, List.range_succ, List.map_append, List.append_assoc]
      rfl

/-- From any count on, the loop comes to the last one and stops at the cancellation. -/
theorem loop_begun (hh : r.Runs h) (hk : k ≤ r.lastDue h) (fuel : Nat)
    (hfuel : r.lastDue h - k < fuel) :
    r.loop fuel (h.timer + (k + 1) * r.interval) (r.tick (r.begun h k)) =
      stop { (r.tick (r.begun h (r.lastDue h))).2 with timer := r.cancelAt } := by
  induction hleft : r.lastDue h - k generalizing k fuel with
  | zero =>
    obtain rfl : k = r.lastDue h := by omega
    have hdue := (due_iff hh.interval).mpr (Nat.le_refl (r.lastDue h))
    have hcounted := ((begun_of_due hh hdue).runs hh hdue).counted
    have hlast : r.cancelAt ≤ h.timer + (r.lastDue h + 1) * r.interval := by
      by_contra hlt
      have hmore := (due_iff hh.interval).mp (.inr (not_le.mp hlt))
      omega
    rw [show r.tick (r.begun h (r.lastDue h)) = (false, _) from Prod.ext hcounted.goesOn rfl]
    obtain ⟨fuel, rfl⟩ := Nat.exists_eq_succ_of_ne_zero (Nat.ne_zero_of_lt hfuel)
    rw [loop, if_pos (.inr hlast), Nat.max_eq_right hcounted.timer_le_cancelAt]
  | succ left ih =>
    have hdue := (due_iff hh.interval).mpr hk
    have hbegun := begun_of_due hh hdue
    have hcounted := (hbegun.runs hh hdue).counted
    have hnext : r.Due h (k + 1) := (due_iff hh.interval).mpr (by omega)
    have hlt : h.timer + (k + 1) * r.interval < r.cancelAt := hnext.resolve_left (by omega)
    have hmul : (k + 1) * r.interval = k * r.interval + r.interval := Nat.succ_mul ..
    have htimer := hcounted.timer_le
    rw [hbegun.timer] at htimer
    have hopen : ¬ (r.cancelAt ≤ (r.tick (r.begun h k)).2.timer ∨
        r.cancelAt ≤ h.timer + (k + 1) * r.interval) := by omega
    rw [show r.tick (r.begun h k) = (false, _) from Prod.ext hcounted.goesOn rfl]
    obtain ⟨fuel, rfl⟩ := Nat.exists_eq_succ_of_ne_zero (Nat.ne_zero_of_lt hfuel)
    rw [loop, if_neg hopen]
    have hrest := ih (k := k + 1) (by omega) fuel (by omega) (by omega)
    rw [Nat.succ_mul (k + 1), ← Nat.add_assoc] at hrest
    exact hrest

theorem run_eq (hh : r.Runs h) (hcancelled : r.cancelled = false) :
    r.run h = stop { (r.tick (r.begun h (r.lastDue h))).2 with timer := r.cancelAt } := by
  have hlast : r.lastDue h ≤ r.cancelAt - h.timer - 1 := Nat.div_le_self ..
  have hloop := loop_begun hh (Nat.zero_le _) (r.cancelAt - h.timer + 1) (by omega)
  simp only [run, hcancelled, Bool.false_eq_true, if_false]
  simpa [begun] using hloop

/-- What is seen of a reporter that begins on the host `h` and is cancelled `span` milliseconds
later: these lines, and the end. -/
structure Reported (r : Reporter) (h : Host) (span : Nat) (lines : List Log.Event) : Prop where
  counts (k : Nat) : k < lines.length ↔ r.cancelled = false ∧ (k = 0 ∨ k * r.interval < span)
  calls : (r.run h).calls = h.calls ++ List.replicate lines.length .stats
  journal : (r.run h).journal = h.journal ++ lines ++ [.reporterStopping]
  timer (k : Nat) : k < lines.length → (r.begun h k).timer = h.timer + k * r.interval
  fault (k : Nat) : k < lines.length → (r.begun h k).nextFault = h.faults.getD k .none
  reports (k : Nat) (hk : k < lines.length) : r.Reports (r.begun h k) lines[k]
  ends : r.cancelled = false → (r.run h).timer = r.cancelAt

theorem run_reports (r : Reporter) (h : Host) (span : Nat) (hinterval : 1 ≤ r.interval)
    (hcancelAt : r.cancelAt = h.timer + span) (hplan : .cancelScope ∉ h.faults) :
    ∃ lines, r.Reported h span lines := by
  have hh : r.Runs h := ⟨hinterval, by omega, hplan⟩
  cases hcancelled : r.cancelled with
  | true =>
    have hrun : r.run h = stop h := by rw [run, if_pos hcancelled]
    refine ⟨[], ?_, ?_, ?_, nofun, nofun, nofun, fun hno => absurd hcancelled (by simp [hno])⟩
    · simp [hcancelled]
    · simp [hrun, stop, Host.log]
    · simp [hrun, stop, Host.log]
  | false =>
    have hrun := run_eq hh hcancelled
    have hbegun {k : Nat} (hk : k < r.lastDue h + 1) : r.Begun h k :=
      begun_of_due hh ((due_iff hinterval).mpr (Nat.le_of_lt_succ hk))
    have hlast := (hbegun (Nat.lt_succ_self _)).runs hh ((due_iff hinterval).mpr le_rfl)
    obtain ⟨-, -, hcalls, -, hjournal, -, -⟩ := hlast.counted
    refine ⟨(List.range (r.lastDue h + 1)).map fun k => r.line (r.begun h k), ?_⟩
    have hlength : ((List.range (r.lastDue h + 1)).map fun k => r.line (r.begun h k)).length =
        r.lastDue h + 1 := by simp
    refine ⟨fun k => ?_, ?_, ?_, fun k hk => ?_, fun k hk => ?_, fun k hk => ?_, fun _ => ?_⟩
    · rw [hlength, Nat.lt_succ_iff, ← due_iff hinterval, Due, hcancelAt, Nat.add_lt_add_iff_left]
      simp [hcancelled]
    · rw [hlength, hrun]
      change (r.tick (r.begun h (r.lastDue h))).2.calls = _
      rw [hcalls, (hbegun (Nat.lt_succ_self _)).calls, List.replicate_succ', List.append_assoc]
    · rw [hrun]
      change (r.tick (r.begun h (r.lastDue h))).2.journal ++ [.reporterStopping] = _
      rw [hjournal, (hbegun (Nat.lt_succ_self _)).journal, List.range_succ, List.map_append]
      simp
    · exact (hbegun (hlength ▸ hk)).timer
    · rw [Host.nextFault, (hbegun (hlength ▸ hk)).faults]
      simp [List.headD_eq_head?_getD, List.getD_eq_getElem?_getD]
    · rw [List.getElem_map, List.getElem_range]
      have hk' := hlength ▸ hk
      exact ((hbegun hk').runs hh ((due_iff hinterval).mpr (Nat.le_of_lt_succ hk'))).reports_line
    · rw [hrun]
      rfl

/-- An answer that takes the whole interval is counted, and the next count is not late. -/
theorem run_reports_three_counts :
    let r : Reporter := { interval := 10, instanceId := some "id:n1", cancelAt := 25 }
    let h : Host :=
      { Host.fresh (.ofUnix 1700000000 0) ⟨.ofSeconds 60, .ofSeconds 300⟩ with
        faults := [.wait (.sleep 10), .fail (.unavailable "injected"), .wait .forever] }
    (∃ lines, r.Reported h 25 lines) ∧ (r.run h).journal =
      [.registryCounted r.instanceId ⟨0, 0⟩, .reporterFailed (.unavailable "injected"),
        .reporterFailed .cancelled, .reporterStopping] := by
  intro r h
  exact ⟨run_reports r h 25 (by decide) rfl (by decide), by rfl⟩

/-- A reporter that is cancelled in the millisecond in which it begins has made its first count,
though no multiple of the interval is before the cancellation. -/
theorem first_count_at_cancellation :
    let r : Reporter := { interval := 1000, instanceId := some "id:n1", cancelAt := 0 }
    let h := Host.fresh (.ofUnix 1700000000 0) ⟨.ofSeconds 60, .ofSeconds 300⟩
    (∀ k : Nat, ¬ k * r.interval < r.cancelAt - h.timer) ∧ (r.run h).calls = [.stats] ∧
      (r.run h).journal = [.registryCounted r.instanceId ⟨0, 0⟩, .reporterStopping] := by
  intro r h
  exact ⟨fun k => Nat.not_lt_zero _, by rfl, by rfl⟩

end Reporter

end SessionTokens
