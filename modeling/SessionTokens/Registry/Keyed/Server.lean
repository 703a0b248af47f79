import SessionTokens.Number.Word
import SessionTokens.Text.Decimal
import SessionTokens.Time.Instant

/-! A key server: keys that vanish at their deadline, three scripts that each run as one step on
the two keys of an identifier, and a scan over the live keys. -/

namespace SessionTokens.Keyed

inductive Script where
  | record
  | revoke
  | state
  deriving DecidableEq, Repr

def Script.name : Script → String
  | .record => "record"
  | .revoke => "revoke"
  | .state => "state"

/-- What is sent to the server. A script gets the active key, the revoked key and, if it may
set one of them, the milliseconds after which that key vanishes. -/
inductive Command where
  | run (script : Script) (active revoked : String) (ttl : Option Nat)
  | scan (cursor : Nat) (pattern : String)
  deriving DecidableEq, Repr

inductive Reply where
  | integer (i : Int)
  | text (s : String)
  | nothing
  | failure
  | batch (next : Nat) (keys : List String)
  deriving DecidableEq, Repr

def Reply.integer? : Reply → Option Int
  | .integer i => some i
  | .text s => (Decimal.toInt? s.toList).filter Word.isSigned
  | _ => none

/-- Keys with the millisecond at which they vanish. No key has two entries. -/
structure Store where
  entries : List (String × Int)
  deriving DecidableEq

namespace Store

def empty : Store := ⟨[]⟩

def live (s : Store) (now : Int) : List (String × Int) := s.entries.filter fun e => now < e.2

def purge (s : Store) (now : Int) : Store := ⟨s.live now⟩

def has (s : Store) (now : Int) (key : String) : Bool := (s.live now).any (·.1 == key)

def delete (s : Store) (key : String) : Store := ⟨s.entries.filter (·.1 != key)⟩

def set (s : Store) (key : String) (deadline : Int) : Store :=
  ⟨(s.delete key).entries ++ [(key, deadline)]⟩

/-- Runs a script. The revoked key decides before the active key is looked at. A key whose deadline
is not taken is not set: the script ends there without a status, and what it has deleted stays
deleted. -/
def run (s : Store) (takes : Int → Bool) (now : Int) (script : Script) (active revoked : String)
    (ttl : Nat) : Option Int × Store :=
  match script with
  | .state =>
    (some (if s.has now revoked then 2 else if s.has now active then 1 else 0), s)
  | .record =>
    if s.has now revoked then (some 0, s)
    else if takes (now + ttl) then (some 1, s.set active (now + ttl))
    else (none, s)
  | .revoke =>
    if s.has now revoked then (some 2, s)
    else if takes (now + ttl) then
      (some (if s.has now active then 1 else 0), (s.delete active).set revoked (now + ttl))
    else (none, s.delete active)

end Store

/-- A server with the last millisecond that it can count to, if there is one, the number of keys
that one scan looks at, its way to compare a key with a pattern, replies that it gives instead of
its own, and what it was sent. -/
structure Server where
  store : Store := .empty
  horizon : Option Int := some (Word.signedBound - 1)
  page : Nat := 500
  selects : String → String → Bool
  canned : List (Option Reply) := []
  sent : List Command := []

namespace Server

def millisecond (t : Instant) : Int := t.nanos / 1000000

/-- Whether a key may be set to vanish at the deadline. -/
def takes (s : Server) (deadline : Int) : Bool := s.horizon.all (deadline ≤ ·)

def sortedKeys (s : Server) (now : Int) : List String :=
  ((s.store.live now).map (·.1)).mergeSort fun a b => decide (a ≤ b)

/-- One step of a scan: the cursor counts the keys looked at, and is zero again at the end. -/
def scan (s : Server) (now : Int) (cursor : Nat) (pattern : String) : Reply :=
  let keys := s.sortedKeys now
  let next := cursor + s.page
  .batch (if next < keys.length then next else 0)
    (((keys.drop cursor).take s.page).filter (s.selects pattern))

def execute (s : Server) (now : Instant) (c : Command) : Reply × Server :=
  let s := { s with sent := s.sent ++ [c] }
  match s.canned with
  | some r :: more => (r, { s with canned := more })
  | canned =>
    let s := { s with canned := canned.drop 1, store := s.store.purge (millisecond now) }
    match c with
    | .run script active revoked ttl =>
      let (status, store) :=
        s.store.run s.takes (millisecond now) script active revoked (ttl.getD 0)
      ((status.map .integer).getD .failure, { s with store })
    | .scan cursor pattern => (s.scan (millisecond now) cursor pattern, s)

end Server

end SessionTokens.Keyed
