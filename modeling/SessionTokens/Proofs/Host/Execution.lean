import SessionTokens.Host.Interleaving
import SessionTokens.Proofs.Host.System

/-! Whatever is executed is a run: programs alone or in turns, however long their calls wait and
whichever of them fail. Only faults that make up an answer, or that revoke something from outside,
have no place in a run. -/

namespace SessionTokens

/-- Under such a fault a call is answered by the registry or fails. -/
def Fault.Honest : Fault → Prop
  | .raceRevoke => False
  | .outcome _ => False
  | .state _ => False
  | _ => True

namespace Host

/-- A host without what only waiting and faults are about. -/
def bare (h : Host) : Host := { h with timer := 0, faults := [], calls := [] }

def Honest (h : Host) : Prop := ∀ f ∈ h.faults, f.Honest

variable {h : Host}

theorem reacts_finish {f : Fault} (hf : f.Honest) (ending : Ending) (c : RegistryCall) :
    h.bare.Reacts (.called c (h.finish f ending c).1) (h.finish f ending c).2.bare := by
  cases ending with
  | answered =>
    cases f with
    | fail e _ => exact .failed c e
    | raceRevoke | outcome | state => exact hf.elim
    | none | wait | cancelScope => exact .answered c
  | timedOut => exact .failed c .timedOut
  | cancelled => exact .failed c .cancelled

theorem honest_finish {f : Fault} (hf : f.Honest) (hh : h.Honest) (ending : Ending)
    (c : RegistryCall) : (h.finish f ending c).2.Honest := by
  cases ending with
  | answered =>
    cases f with
    | raceRevoke | outcome | state => exact hf.elim
    | none | wait | cancelScope | fail => exact hh
  | _ => exact hh

end Host

namespace Scope

variable {h : Host} (s : Scope) (c : RegistryCall)

theorem bare_start : (s.start h c).host.bare = h.bare := by
  unfold start
  split <;> rfl

theorem honest_start (hh : h.Honest) :
    (s.start h c).fault.Honest ∧ (s.start h c).host.Honest := by
  unfold start
  split
  · exact ⟨trivial, hh⟩
  · refine ⟨?_, fun f hf => hh f (List.mem_of_mem_drop hf)⟩
    cases hfaults : h.faults with
    | nil => simp [Host.begin, hfaults, Fault.Honest]
    | cons f fs => simpa [Host.begin, hfaults] using hh f (by simp [hfaults])

end Scope

/-- What stays so of a scope and a host whatever a program asks of them, and what the program
then meets with. -/
structure Steady (P : Occurrence → Prop) (K : Scope → Host → Prop) : Prop where
  clock {s : Scope} {h : Host} : K s h → P (.clock h.clock)
  drawn {s : Scope} {h : Host} : K s h → P (.drawn h.draw.1) ∧ K s h.draw.2
  emitted {s : Scope} {h : Host} (e : Log.Event) : K s h → P (.emitted e) ∧ K s (h.log [e])
  roles {s : Scope} {h : Host} (user : Uuid) : K s h →
    P (.roles user (h.lookUpRoles user).1) ∧ K s (h.lookUpRoles user).2
  called {s : Scope} {h : Host} (c : RegistryCall) : K s h →
    P (.called c (s.call h c).1) ∧ K (s.call h c).2.1 (s.call h c).2.2 ∧
      h.bare.Reacts (.called c (s.call h c).1) (s.call h c).2.2.bare

theorem steady_honest : Steady (fun _ => True) fun _ h => h.Honest where
  clock _ := trivial
  drawn hh := ⟨trivial, hh⟩
  emitted _ hh := ⟨trivial, hh⟩
  roles _ hh := ⟨trivial, hh⟩
  called {s h} c hh := by
    obtain ⟨hf, hbegun⟩ := s.honest_start c hh
    let g : Host := { (s.start h c).host with timer := (s.start h c).course.endsAt }
    have hg : g.bare = h.bare := s.bare_start c
    have hreacts := Host.reacts_finish (h := g) hf (s.start h c).course.ending c
    exact ⟨trivial, Host.honest_finish (h := g) hf hbegun _ c, hg ▸ hreacts⟩

namespace Branch

variable {A : Type}

/-- What a branch has left to do. A call that keeps it waiting is still to come. -/
def program : Branch A → Program A
  | running _ p => p
  | waiting _ c next _ _ => .call c next
  | ended a => .done a

def Honest : Branch A → Prop
  | waiting _ _ _ f _ => f.Honest
  | _ => True

theorem program_of_result? {b : Branch A} {a : A} (h : b.result? = some a) :
    b.program = .done a := by
  cases b with
  | ended => rw [Option.some.inj h, program]
  | _ => exact nomatch h

end Branch

namespace System

variable {Q A : Type} {serve : Q → Program A} {allowed : System Q A → Happening Q → Prop}
  {s : System Q A} {i : Nat} {q : Q} {p p' r : Program A} {g h : Host} {o : Occurrence}

/-- Strand `i` goes on by itself and comes to `p` over the host `h`. -/
def Moves (serve : Q → Program A) (allowed : System Q A → Happening Q → Prop) (s : System Q A)
    (i : Nat) (q : Q) (h : Host) (p : Program A) : Prop :=
  ∃ os : List Occurrence, Run serve allowed s (os.map (.moved i)) ⟨h, s.strands.set i ⟨q, p⟩⟩

namespace Moves

theorem refl (hi : s.strands[i]? = some ⟨q, p⟩) : Moves serve allowed s i q s.host p := by
  obtain ⟨hlt, hget⟩ := List.getElem?_eq_some_iff.mp hi
  refine ⟨[], ?_⟩
  rw [← hget, List.set_getElem_self]
  exact .refl

theorem head (ha : allowed s (.moved i o)) (hi : s.strands[i]? = some ⟨q, p⟩) (hp : p.Step o p')
    (hg : s.host.Reacts o g) (hr : Moves serve allowed ⟨g, s.strands.set i ⟨q, p'⟩⟩ i q h r) :
    Moves serve allowed s i q h r := by
  obtain ⟨os, hr⟩ := hr
  refine ⟨o :: os, .cons ha (.moved hi hp hg) ?_⟩
  rwa [List.set_set] at hr

end Moves

theorem Run.begins (s : System Q A) (qs : List Q) (ha : ∀ v, ∀ q ∈ qs, allowed v (.begun q)) :
    Run serve allowed s (qs.map .begun) ⟨s.host, s.strands ++ qs.map fun q => ⟨q, serve q⟩⟩ := by
  induction qs generalizing s with
  | nil => simpa using .refl
  | cons q qs ih =>
    refine .cons (ha s q (List.mem_cons_self ..)) (.begun q) ?_
    simpa using ih { s with strands := s.strands ++ [⟨q, serve q⟩] }
      fun v q hq => ha v q (List.mem_cons_of_mem _ hq)

theorem strand_set {ss : List (Strand Q A)} (hi : ss[i]? = some ⟨q, p⟩) :
    (ss.set i ⟨q, r⟩)[i]? = some ⟨q, r⟩ :=
  List.getElem?_set_self (List.getElem?_eq_some_iff.mp hi).1

section

variable {ss : List (Strand Q A)} {P : Occurrence → Prop} {K : Scope → Host → Prop} (serve)

theorem moves_run (hallowed : ∀ v i o, P o → allowed v (.moved i o)) (hK : Steady P K)
    (sc : Scope) (hh : K sc h) (hi : ss[i]? = some ⟨q, p⟩) :
    Moves serve allowed ⟨h.bare, ss⟩ i q (p.run sc h).2.2.bare (.done (p.run sc h).1) ∧
      K (p.run sc h).2.1 (p.run sc h).2.2 := by
  induction p generalizing ss sc h with
  | done a => exact ⟨.refl hi, hh⟩
  | readClock next ih =>
    obtain ⟨hm, hk⟩ := ih h.clock sc hh (strand_set hi)
    exact ⟨.head (hallowed _ _ _ (hK.clock hh)) hi (.readClock next _) .clock hm, hk⟩
  | drawJti next ih =>
    obtain ⟨ho, hh⟩ := hK.drawn hh
    obtain ⟨hm, hk⟩ := ih h.draw.1 sc hh (strand_set hi)
    exact ⟨.head (hallowed _ _ _ ho) hi (.drawJti next _) .drawn hm, hk⟩
  | emit e next ih =>
    obtain ⟨ho, hh⟩ := hK.emitted e hh
    obtain ⟨hm, hk⟩ := ih sc hh (strand_set hi)
    exact ⟨.head (hallowed _ _ _ ho) hi (.emit e next) (.emitted e) hm, hk⟩
  | lookUpRoles user next ih =>
    obtain ⟨ho, hh⟩ := hK.roles user hh
    obtain ⟨hm, hk⟩ := ih (h.lookUpRoles user).1 sc hh (strand_set hi)
    exact ⟨.head (hallowed _ _ _ ho) hi (.lookUpRoles user next _) (.roles user) hm, hk⟩
  | call c next ih =>
    obtain ⟨ho, hh, hreacts⟩ := hK.called c hh
    obtain ⟨hm, hk⟩ := ih (sc.call h c).1 _ hh (strand_set hi)
    exact ⟨.head (hallowed _ _ _ ho) hi (.call c next _) hreacts hm, hk⟩

/-- A request can be served to its end while no other strand moves. -/
theorem exists_served (hallowed : ∀ v i o, P o → allowed v (.moved i o)) (hK : Steady P K)
    (sc : Scope) (hh : K sc h) (ss : List (Strand Q A)) (hq : allowed ⟨h.bare, ss⟩ (.begun q)) :
    ∃ os : List Occurrence, Run serve allowed ⟨h.bare, ss⟩ (.begun q :: os.map (.moved ss.length))
      ⟨((serve q).run sc h).2.2.bare, ss ++ [⟨q, .done ((serve q).run sc h).1⟩]⟩ ∧
      K ((serve q).run sc h).2.1 ((serve q).run sc h).2.2 := by
  have hi : (ss ++ [⟨q, serve q⟩])[ss.length]? = some ⟨q, serve q⟩ := by simp
  obtain ⟨⟨os, hr⟩, hk⟩ := moves_run serve hallowed hK sc hh hi
  refine ⟨os, .cons hq (.begun q) ?_, hk⟩
  simpa using hr

variable (hallowed : ∀ v i o, allowed v (.moved i o))
include hallowed

/-- What a program comes to alone is what some run of it comes to. -/
theorem exists_run_alone (sc : Scope) (hh : h.Honest) (hq : ∀ v, allowed v (.begun q)) :
    ∃ ls, Run serve allowed (start h.bare) (.begun q :: ls)
      ⟨((serve q).run sc h).2.2.bare, [⟨q, .done ((serve q).run sc h).1⟩]⟩ := by
  obtain ⟨os, hr, -⟩ :=
    exists_served serve (fun v i o _ => hallowed v i o) steady_honest sc hh [] (hq _)
  exact ⟨_, hr⟩

theorem moves_turn (sc : Scope) (hh : h.Honest) (hi : ss[i]? = some ⟨q, p⟩) :
    Moves serve allowed ⟨h.bare, ss⟩ i q (p.turn sc h).2.bare (p.turn sc h).1.program ∧
      (p.turn sc h).2.Honest ∧ (p.turn sc h).1.Honest := by
  induction p generalizing ss sc h with
  | done a => exact ⟨.refl hi, hh, trivial⟩
  | readClock next ih =>
    obtain ⟨hm, hh'⟩ := ih h.clock sc hh (strand_set hi)
    exact ⟨.head (hallowed ..) hi (.readClock next _) .clock hm, hh'⟩
  | drawJti next ih =>
    obtain ⟨hm, hh'⟩ := ih h.draw.1 (h := h.draw.2) sc hh (strand_set hi)
    exact ⟨.head (hallowed ..) hi (.drawJti next _) .drawn hm, hh'⟩
  | emit e next ih =>
    obtain ⟨hm, hh'⟩ := ih (h := h.log [e]) sc hh (strand_set hi)
    exact ⟨.head (hallowed ..) hi (.emit e next) (.emitted e) hm, hh'⟩
  | lookUpRoles user next ih =>
    obtain ⟨hm, hh'⟩ :=
      ih (h.lookUpRoles user).1 (h := (h.lookUpRoles user).2) sc hh (strand_set hi)
    exact ⟨.head (hallowed ..) hi (.lookUpRoles user next _) (.roles user) hm, hh'⟩
  | call c next ih =>
    obtain ⟨hf, hbegun⟩ := sc.honest_start c hh
    have hg := sc.bare_start (h := h) c
    simp only [Program.turn]
    split
    · refine ⟨?_, hbegun, hf⟩
      rw [hg]
      exact .refl hi
    · let g : Host := (sc.start h c).host
      have hreacts := Host.reacts_finish (h := g) hf (sc.start h c).course.ending c
      have hfinish := Host.honest_finish hf hbegun (sc.start h c).course.ending c
      obtain ⟨hm, hh'⟩ := ih _ (sc.start h c).scope hfinish (strand_set hi)
      exact ⟨.head (hallowed ..) hi (.call c next _) (hg ▸ hreacts) hm, hh'⟩

theorem moves_branch {b : Branch A} (hb : b.Honest) (hh : h.Honest)
    (hi : ss[i]? = some ⟨q, b.program⟩) :
    Moves serve allowed ⟨h.bare, ss⟩ i q (b.turn h).2.bare (b.turn h).1.program ∧
      (b.turn h).2.Honest ∧ (b.turn h).1.Honest := by
  cases b with
  | running sc p => exact moves_turn serve hallowed sc hh hi
  | ended a => exact ⟨.refl hi, hh, trivial⟩
  | waiting sc c next f course =>
    simp only [Branch.turn]
    split
    · exact ⟨.refl hi, hh, hb⟩
    · obtain ⟨hm, hh'⟩ := moves_turn serve hallowed sc
        (Host.honest_finish hb hh course.ending c) (strand_set hi)
      have hreacts := Host.reacts_finish (h := h) hb course.ending c
      exact ⟨.head (hallowed ..) hi (.call c next _) hreacts hm, hh'⟩

end

end System

namespace Interleaving

variable {Q A : Type} {serve : Q → Program A} {allowed : System Q A → Happening Q → Prop}
  {h : Host} {qs : List Q} {bs : List (Branch A)}

def strands (qs : List Q) (bs : List (Branch A)) : List (Strand Q A) :=
  List.zipWith (fun q b => ⟨q, b.program⟩) qs bs

structure Honest (bs : List (Branch A)) (h : Host) : Prop where
  branches : ∀ b ∈ bs, b.Honest
  host : h.Honest

theorem bare_skipWait : (skipWait bs h).bare = h.bare := by
  unfold skipWait
  split <;> rfl

theorem honest_skipWait (hh : h.Honest) : (skipWait bs h).Honest := by
  unfold skipWait
  split <;> exact hh

section

open SessionTokens.System

variable (serve) (hallowed : ∀ v i o, allowed v (.moved i o))
include hallowed

theorem run_round (front : List (Strand Q A)) (hlen : qs.length = bs.length) (hh : Honest bs h) :
    (∃ ls, Run serve allowed ⟨h.bare, front ++ strands qs bs⟩ ls
      ⟨(round bs h).2.bare, front ++ strands qs (round bs h).1⟩) ∧
      qs.length = (round bs h).1.length ∧ Honest (round bs h).1 (round bs h).2 := by
  induction bs generalizing qs front h with
  | nil => exact ⟨⟨[], .refl⟩, hlen, hh⟩
  | cons b bs ih =>
    obtain ⟨q, qs, rfl⟩ := List.exists_cons_of_length_eq_add_one hlen
    have hfirst : (front ++ strands (q :: qs) (b :: bs))[front.length]? = some ⟨q, b.program⟩ := by
      simp [strands]
    obtain ⟨⟨os, hr⟩, hhost, hb⟩ := moves_branch serve hallowed
      (hh.branches b (List.mem_cons_self ..)) hh.host hfirst
    have hothers : Honest bs (b.turn h).2 :=
      ⟨fun b' hb' => hh.branches b' (List.mem_cons_of_mem _ hb'), hhost⟩
    obtain ⟨⟨ls, hrest⟩, hlen', hbs⟩ :=
      ih (front ++ [⟨q, (b.turn h).1.program⟩]) (Nat.succ.inj hlen) hothers
    refine ⟨⟨os.map (.moved front.length) ++ ls, hr.trans ?_⟩, by simpa [round] using hlen', ?_,
      hbs.host⟩
    · simpa [strands, round] using hrest
    · simpa [round] using ⟨hb, hbs.branches⟩

theorem run_rounds (n : Nat) (hlen : qs.length = bs.length) (hh : Honest bs h) :
    (∃ ls, Run serve allowed ⟨h.bare, strands qs bs⟩ ls
      ⟨(rounds n bs h).2.bare, strands qs (rounds n bs h).1⟩) := by
  induction n generalizing bs h with
  | zero => exact ⟨[], .refl⟩
  | succ n ih =>
    simp only [rounds]
    split
    · exact ⟨[], .refl⟩
    · have hskip : Honest bs (skipWait bs h) := ⟨hh.branches, honest_skipWait hh.host⟩
      obtain ⟨⟨ls, hr⟩, hlen', hh'⟩ := run_round serve hallowed [] hlen hskip
      rw [bare_skipWait] at hr
      obtain ⟨ms, hrest⟩ := ih hlen' hh'
      exact ⟨ls ++ ms, hr.trans hrest⟩

/-- What programs come to in turns is what some run of them comes to. -/
theorem exists_run (limit : Nat) {xs : List (Scope × Q)} (hh : h.Honest)
    (hbegun : ∀ v, ∀ q ∈ xs.map (·.2), allowed v (.begun q)) :
    ∃ ls u, Run serve allowed (start h.bare) ((xs.map (·.2)).map .begun ++ ls) u ∧
      u.host = (run limit (xs.map fun x => (x.1, serve x.2)) h).2.bare ∧
      ∀ i x a, xs[i]? = some x →
        (run limit (xs.map fun x => (x.1, serve x.2)) h).1[i]? = some (some a) →
        u.Ended i x.2 a := by
  let bs : List (Branch A) := xs.map fun x => .running x.1 (serve x.2)
  have hbs : (xs.map fun x => (x.1, serve x.2)).map (fun p => Branch.running p.1 p.2) = bs := by
    simp [bs]
  have hbegins : strands (xs.map (·.2)) bs = (xs.map (·.2)).map fun q => ⟨q, serve q⟩ := by
    simp [strands, bs, Branch.program, List.zipWith_map]
  have hhonest : Honest bs h := by
    refine ⟨fun b hb => ?_, hh⟩
    obtain ⟨x, -, rfl⟩ := List.mem_map.mp hb
    trivial
  have hlen : (xs.map (·.2)).length = bs.length := by simp [bs]
  obtain ⟨ls, hr⟩ := run_rounds serve hallowed limit hlen hhonest
  rw [hbegins] at hr
  refine ⟨ls, _, (Run.begins _ _ hbegun).trans hr, by rw [run, hbs], fun i x a hx ha => ?_⟩
  rw [run, hbs, List.getElem?_map, Option.map_eq_some_iff] at ha
  obtain ⟨b, hb, ha⟩ := ha
  simp [Ended, strands, List.getElem?_zipWith_eq_some, hx, hb, Branch.program_of_result? ha]

end

end Interleaving

end SessionTokens
