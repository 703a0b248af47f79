import SessionTokens.Host.Basic

/-! Several programs at once. They have their turns in order; a turn ends with the program or
where a call keeps it waiting. When all of them wait, the timer jumps to the first that need
not wait any longer. -/

namespace SessionTokens

/-- A program among others, under a scope of its own. -/
inductive Branch (α : Type) : Type where
  | running (s : Scope) (p : Program α)
  | waiting (s : Scope) (c : RegistryCall) (next : Except RegistryError c.Answer → Program α)
      (f : Fault) (course : Course)
  | ended (a : α)

def Program.turn {α : Type} : Program α → Scope → Host → Branch α × Host
  | .done a, _, h => (.ended a, h)
  | .readClock next, s, h => (next h.clock).turn s h
  | .drawJti next, s, h => (next h.draw.1).turn s h.draw.2
  | .emit event next, s, h => next.turn s (h.log [event])
  | .lookUpRoles user next, s, h => (next (h.lookUpRoles user).1).turn s (h.lookUpRoles user).2
  | .call c next, s, h =>
    let begun := s.start h c
    if begun.course.turn ∨ begun.host.timer < begun.course.endsAt then
      (.waiting begun.scope c next begun.fault begun.course, begun.host)
    else
      let r := begun.host.finish begun.fault begun.course.ending c
      (next r.1).turn begun.scope r.2

namespace Branch

variable {α : Type}

/-- A turn of a branch: nothing, if it is still kept waiting. -/
def turn : Branch α → Host → Branch α × Host
  | running s p, h => p.turn s h
  | waiting s c next f course, h =>
    if h.timer < course.endsAt then (waiting s c next f course, h)
    else
      let r := h.finish f course.ending c
      (next r.1).turn s r.2
  | ended a, h => (ended a, h)

def result? : Branch α → Option α
  | ended a => some a
  | _ => none

/-- The time before which nothing more comes of a branch. -/
def wakesAt? : Branch α → Option Nat
  | running _ _ => some 0
  | waiting _ _ _ _ course => some course.endsAt
  | ended _ => none

end Branch

namespace Interleaving

variable {α : Type}

def round : List (Branch α) → Host → List (Branch α) × Host
  | [], h => ([], h)
  | b :: bs, h =>
    let (b, h) := b.turn h
    let (bs, h) := round bs h
    (b :: bs, h)

def nextWake (bs : List (Branch α)) : Option Nat := (bs.filterMap (·.wakesAt?)).min?

/-- Moves the timer on to where a branch has its turn. -/
def skipWait (bs : List (Branch α)) (h : Host) : Host :=
  match nextWake bs with
  | some t => { h with timer := max h.timer t }
  | none => h

def rounds : Nat → List (Branch α) → Host → List (Branch α) × Host
  | 0, bs, h => (bs, h)
  | n + 1, bs, h =>
    if bs.all (·.result?.isSome) then (bs, h)
    else
      let (bs, h) := round bs (skipWait bs h)
      rounds n bs h

/-- Runs programs at once; `none` for one that does not end in that many rounds. -/
def run (limit : Nat) (programs : List (Scope × Program α)) (h : Host) :
    List (Option α) × Host :=
  let (bs, h) := rounds limit (programs.map fun p => .running p.1 p.2) h
  (bs.map (·.result?), h)

end Interleaving

end SessionTokens
