import Mathlib.Data.Set.Card
import SessionTokens.Proofs.Registry.Interchange
import SessionTokens.Proofs.Registry.Pattern

/-! What a registry on a key server counts, against what it says of each identifier by itself. The
server may hand out the keys of a scan in whatever batches it likes; each live key that a pattern
selects comes once, and every such key is the one key that a live mark of an identifier has. A
root with a sign in it that a pattern does not take for itself leads the count astray. -/

namespace SessionTokens

open Keyed (activeKey revokedKey activePattern revokedPattern ttlMillis)

open Keyed.Server (millisecond)

namespace Keyed

section Marks

variable {root : String} {mark mark' : Mark} {i j : Jti}

def markKey (root : String) : Mark → Jti → String
  | .active => activeKey root
  | .revoked => revokedKey root

/-- What the keys of a mark have in common. -/
def markLead (root : String) : Mark → String
  | .active => root ++ ":jti:active:"
  | .revoked => root ++ ":jti:revoked:"

def markPattern (root : String) : Mark → String
  | .active => activePattern root
  | .revoked => revokedPattern root

theorem markKey_inj : markKey root mark i = markKey root mark' j ↔ mark = mark' ∧ i = j := by
  cases mark <;> cases mark' <;>
    simp [markKey, activeKey_inj, revokedKey_inj, activeKey_ne_revokedKey,
      (activeKey_ne_revokedKey root _ _).symm]

theorem markPattern_eq (root : String) (mark : Mark) :
    markPattern root mark = markLead root mark ++ "*" := by
  cases mark <;> simp only [markPattern, markLead, activePattern, revokedPattern,
    String.append_assoc] <;> rfl

theorem markLead_eq (root : String) (mark : Mark) :
    markLead root mark = root ++ markLead "" mark := by
  cases mark <;> simp [markLead]

theorem markKey_eq (root : String) (mark : Mark) (j : Jti) :
    markKey root mark j = root ++ markKey "" mark j := by
  cases mark <;> simp [markKey, activeKey, revokedKey, String.append_assoc]

theorem plain_markLead (h : Plain root) (mark : Mark) : Plain (markLead root mark) := by
  have hrest : ∀ mark : Mark, Plain (markLead "" mark) := by
    intro mark
    cases mark <;> decide
  intro c hc
  rw [markLead_eq, letters_append, List.mem_append] at hc
  exact hc.elim (h c) (hrest mark c)

theorem begins_markKey :
    Begins (letters (markLead root mark)) (letters (markKey root mark' j)) ↔ mark = mark' := by
  have hactive : letters ":jti:active:" = ":jti:active:".toList := by decide
  have hrevoked : letters ":jti:revoked:" = ":jti:revoked:".toList := by decide
  have hactiveKey : letters ":jti:active:\x7b" = ":jti:active:\x7b".toList := by decide
  have hrevokedKey : letters ":jti:revoked:\x7b" = ":jti:revoked:\x7b".toList := by decide
  rw [markLead_eq, markKey_eq, letters_append, letters_append, begins_append_left]
  cases mark <;> cases mark' <;>
    simp [markLead, markKey, activeKey, revokedKey, letters_append, hactive, hrevoked, hactiveKey,
      hrevokedKey, Begins]

/-- A pattern selects the keys of its mark and no others of the same root. -/
theorem selects_markKey {selects : String → String → Bool} (hselects : ReadsPlain selects)
    (hroot : Plain root) :
    selects (markPattern root mark) (markKey root mark' j) = true ↔ mark = mark' := by
  rw [markPattern_eq, hselects _ _ (plain_markLead hroot mark), begins_markKey]

end Marks

namespace Store

variable {s : Store} {root key : String} {n d : Int} {j : Jti} {mark : Mark}

/-- All keys are those of identifiers under this root, each is there once, and no identifier has
both of its keys. -/
structure Owned (s : Store) (root : String) : Prop where
  own : ∀ e ∈ s.entries, ∃ mark j, e.1 = markKey root mark j
  nodup : (s.entries.map (·.1)).Nodup
  apart (j : Jti) (n : Int) : ¬ s.HasBoth root n j

@[simp]
theorem live_purge (s : Store) (n : Int) : (s.purge n).live n = s.live n := by
  simp only [purge, live, List.filter_filter, Bool.and_self]

@[simp]
theorem purge_purge (s : Store) (n : Int) : (s.purge n).purge n = s.purge n := by
  rw [purge, live_purge, purge]

theorem owned_empty (root : String) : Owned .empty root :=
  ⟨nofun, List.nodup_nil, fun _ _ h => nomatch h.1⟩

theorem Owned.purge (h : s.Owned root) (t : Int) : (s.purge t).Owned root where
  own e he := h.own e (List.mem_of_mem_filter he)
  nodup := h.nodup.sublist (List.filter_sublist.map _)
  apart j n hboth := by
    obtain ⟨ha, hr⟩ := hboth
    rw [has_purge] at ha hr
    exact h.apart j (max t n) ⟨ha, hr⟩

theorem not_mem_delete (s : Store) (key : String) : key ∉ (s.delete key).entries.map (·.1) := by
  simp [delete]

theorem nodup_delete (h : (s.entries.map (·.1)).Nodup) (key : String) :
    ((s.delete key).entries.map (·.1)).Nodup :=
  h.sublist (List.filter_sublist.map _)

theorem nodup_set (h : (s.entries.map (·.1)).Nodup) (key : String) (d : Int) :
    ((s.set key d).entries.map (·.1)).Nodup := by
  rw [set, List.map_append, List.nodup_append]
  refine ⟨nodup_delete h key, List.nodup_singleton _, fun k hk k' hk' heq => ?_⟩
  obtain rfl := List.mem_singleton.mp hk'
  exact s.not_mem_delete _ (heq ▸ hk)

theorem own_set (h : ∀ e ∈ s.entries, ∃ mark j, e.1 = markKey root mark j) (mark : Mark) (j : Jti)
    (d : Int) :
    ∀ e ∈ (s.set (markKey root mark j) d).entries, ∃ mark j, e.1 = markKey root mark j := by
  intro e he
  rcases List.mem_append.mp he with he | he
  · exact h e (List.mem_of_mem_filter he)
  · exact ⟨mark, j, by rw [List.mem_singleton.mp he]⟩

theorem Owned.delete (h : s.Owned root) (key : String) : (s.delete key).Owned root where
  own e he := h.own e (List.mem_of_mem_filter he)
  nodup := nodup_delete h.nodup key
  apart j n hboth := by
    simp only [HasBoth, has_delete, Bool.and_eq_true] at hboth
    exact h.apart j n ⟨hboth.1.2, hboth.2.2⟩

theorem Owned.set_active (h : s.Owned root) (hj : ∀ n, s.has n (revokedKey root j) = false)
    (d : Int) : (s.set (activeKey root j) d).Owned root where
  own := own_set h.own .active j d
  nodup := nodup_set h.nodup _ d
  apart _ n := not_hasBoth_set_active (fun i => h.apart i n) (hj n)

theorem Owned.set_revoked (h : s.Owned root) (j : Jti) (d : Int) :
    ((s.delete (activeKey root j)).set (revokedKey root j) d).Owned root where
  own := own_set (s := s.delete _) (fun e he => h.own e (List.mem_of_mem_filter he)) .revoked j d
  nodup := nodup_set (nodup_delete h.nodup _) _ d
  apart _ n := not_hasBoth_set_revoked fun i => h.apart i n

/-- As no identifier has both keys, each key by itself says how its identifier is marked. -/
theorem Owned.state_eq_iff (h : s.Owned root) :
    s.state root n j = mark.state ↔ s.has n (markKey root mark j) = true := by
  have hapart := h.apart j n
  simp only [HasBoth] at hapart
  cases mark <;> by_cases ha : s.has n (activeKey root j) = true <;>
    by_cases hr : s.has n (revokedKey root j) = true <;>
      simp_all [state, markKey, Mark.state]

end Store

namespace Server

variable {s s' s'' : Server} {now : Instant} {pattern : String} {cursor next : Nat}
  {keys rest : List String}

/-- A whole scan from a cursor on: its batches deliver these keys, and leave the server as `s'`.
Only the last batch comes with the cursor zero; others may well be empty. -/
inductive Iterates (now : Instant) (pattern : String) :
    Nat → Server → List String → Server → Prop
  | last {cursor : Nat} {s s' : Server} {keys : List String} :
    s.execute now (.scan cursor pattern) = (.batch 0 keys, s') →
    Iterates now pattern cursor s keys s'
  | more {cursor next : Nat} {s s' s'' : Server} {keys rest : List String} :
    s.execute now (.scan cursor pattern) = (.batch next keys, s') → next ≠ 0 →
    Iterates now pattern next s' rest s'' → Iterates now pattern cursor s (keys ++ rest) s''

/-- These are the live keys that the pattern selects, each of them once. -/
structure Delivers (s : Server) (now : Instant) (pattern : String) (keys : List String) : Prop where
  nodup : keys.Nodup
  mem (key : String) : key ∈ keys ↔
    s.store.has (millisecond now) key = true ∧ s.selects pattern key = true

/-- A whole scan delivers every live key that the pattern selects exactly once. -/
def Sweeps (s : Server) (now : Instant) (pattern : String) (keys : List String) (s' : Server) :
    Prop :=
  s.Iterates now pattern 0 keys s' ∧ s.Delivers now pattern keys

/-- The server later at the same time, when it was only asked for keys. -/
structure Later (now : Instant) (s s' : Server) : Prop where
  live : s'.store.live (millisecond now) = s.store.live (millisecond now)
  page : s'.page = s.page
  selects : s'.selects = s.selects
  canned : s'.canned.length ≤ s.canned.length

theorem Later.trans (h : Later now s s') (h' : Later now s' s'') : Later now s s'' :=
  ⟨h'.live.trans h.live, h'.page.trans h.page, h'.selects.trans h.selects,
    h'.canned.trans h.canned⟩

theorem later_execute (s : Server) (now : Instant) (cursor : Nat) (pattern : String) :
    Later now s (s.execute now (.scan cursor pattern)).2 := by
  have hlive := s.store.live_purge (millisecond now)
  unfold execute
  rcases hcanned : s.canned with - | ⟨- | reply, more⟩
  · exact ⟨hlive, rfl, rfl, by simp⟩
  · exact ⟨hlive, rfl, rfl, by simp [hcanned]⟩
  · exact ⟨rfl, rfl, rfl, by simp [hcanned]⟩

theorem Iterates.later (h : Iterates now pattern cursor s keys s') : Later now s s' := by
  induction h with
  | @last cursor s s' keys hs =>
    have hlater := s.later_execute now cursor pattern
    rwa [hs] at hlater
  | @more cursor next s s' s'' keys rest hs _ _ ih =>
    have hlater := s.later_execute now cursor pattern
    rw [hs] at hlater
    exact hlater.trans ih

theorem Later.delivers_iff (h : Later now s s') :
    s'.Delivers now pattern keys ↔ s.Delivers now pattern keys := by
  have hmem : ∀ key, s'.store.has (millisecond now) key = true ∧ s'.selects pattern key = true ↔
      s.store.has (millisecond now) key = true ∧ s.selects pattern key = true := by
    intro key
    rw [Store.has, h.live, h.selects, Store.has]
  exact ⟨fun hkeys => ⟨hkeys.nodup, fun key => (hkeys.mem key).trans (hmem key)⟩,
    fun hkeys => ⟨hkeys.nodup, fun key => (hkeys.mem key).trans (hmem key).symm⟩⟩

/-- Any batches can make up a scan. -/
theorem iterates_of_batches {last : List String} {more : List (Option Reply)} (now : Instant)
    (pattern : String) (batches : List (Nat × List String)) (hnext : ∀ b ∈ batches, b.1 ≠ 0)
    (hcanned : s.canned =
      batches.map (fun b => some (.batch b.1 b.2)) ++ some (.batch 0 last) :: more)
    (cursor : Nat) : ∃ sent, s.Iterates now pattern cursor
      ((batches.map (·.2)).flatten ++ last) { s with canned := more, sent } := by
  induction batches generalizing s cursor with
  | nil =>
    refine ⟨s.sent ++ [.scan cursor pattern], .last ?_⟩
    simp only [List.map_nil, List.nil_append] at hcanned
    simp [execute, hcanned]
  | cons b batches ih =>
    obtain ⟨hb, hbatches⟩ := List.forall_mem_cons.mp hnext
    rw [List.map_cons, List.cons_append] at hcanned
    obtain ⟨sent, hrest⟩ := ih hbatches (s := { s with
      sent := s.sent ++ [.scan cursor pattern]
      canned := batches.map (fun b => some (.batch b.1 b.2)) ++ some (.batch 0 last) :: more })
      rfl b.1
    refine ⟨sent, ?_⟩
    rw [List.map_cons, List.flatten_cons, List.append_assoc]
    exact .more (by simp [execute, hcanned]) hb hrest

/-- How many more steps a scan may take: one for each reply that is not the server's own, and
one for each key after the cursor. -/
def stepsLeft (s : Server) (now : Instant) (cursor : Nat) : Nat :=
  s.canned.length +
    if s.canned = [] then (s.store.live (millisecond now)).length - cursor
    else (s.store.live (millisecond now)).length

theorem length_sortedKeys (s : Server) (n : Int) :
    (s.sortedKeys n).length = (s.store.live n).length := by
  simp [sortedKeys]

/-- The server after a step of a scan that it does itself. -/
def scanned (s : Server) (now : Instant) (cursor : Nat) (pattern : String) : Server :=
  { s with
    sent := s.sent ++ [.scan cursor pattern]
    store := s.store.purge (millisecond now) }

theorem sortedKeys_scanned (s : Server) (now : Instant) (cursor : Nat) (pattern : String) :
    (s.scanned now cursor pattern).sortedKeys (millisecond now) =
      s.sortedKeys (millisecond now) := by
  simp only [scanned, sortedKeys, Store.live_purge]

theorem execute_scan_of_uncanned (h : s.canned = []) (now : Instant) (cursor : Nat)
    (pattern : String) : s.execute now (.scan cursor pattern) =
      (s.scan (millisecond now) cursor pattern, s.scanned now cursor pattern) := by
  have hkeys := s.sortedKeys_scanned now cursor pattern
  have hscan : (s.scanned now cursor pattern).scan (millisecond now) cursor pattern =
      s.scan (millisecond now) cursor pattern := by
    rw [scan, scan, hkeys]
    rfl
  rw [← hscan]
  simp [execute, h, scanned]

theorem stepsLeft_lt (hpage : 0 < s.page)
    (h : s.execute now (.scan cursor pattern) = (.batch next keys, s')) (hnext : next ≠ 0) :
    s'.stepsLeft now next < s.stepsLeft now cursor := by
  have hlater := s.later_execute now cursor pattern
  rw [h] at hlater
  have hlive := congrArg List.length hlater.live
  by_cases hcanned : s.canned = []
  · rw [execute_scan_of_uncanned hcanned] at h
    obtain ⟨hreply, rfl⟩ := Prod.mk.inj h
    have hcanned' : (s.scanned now cursor pattern).canned = [] := hcanned
    simp only [scan, Reply.batch.injEq, length_sortedKeys] at hreply
    simp only [stepsLeft, hcanned, hcanned', if_true, hlive]
    split at hreply <;> omega
  · obtain ⟨reply, more, hsome⟩ := List.exists_cons_of_ne_nil hcanned
    have hshorter : s'.canned = more := by
      have hs' : (s.execute now (.scan cursor pattern)).2 = s' := congrArg Prod.snd h
      rw [← hs', execute, hsome]
      cases reply <;> rfl
    simp only [stepsLeft, hsome, hshorter, hlive, List.length_cons, reduceCtorEq, if_false]
    split <;> omega

theorem stepsLeft_zero_le (s : Server) (now : Instant) :
    s.stepsLeft now 0 ≤ s.canned.length + (s.store.live (millisecond now)).length := by
  simp only [stepsLeft]
  split <;> omega

/-- The server's own scan, page by page, of the keys that it has in order. -/
theorem iterates_of_uncanned (hpage : 0 < s.page) (hcanned : s.canned = []) (now : Instant)
    (pattern : String) (cursor : Nat) :
    ∃ sent, s.Iterates now pattern cursor
      (((s.sortedKeys (millisecond now)).drop cursor).filter (s.selects pattern))
      { s with sent, store := s.store.purge (millisecond now) } := by
  -- the induction is on the keys that are left to look at
  induction hleft : (s.sortedKeys (millisecond now)).length - cursor using Nat.strong_induction_on
    generalizing s cursor with
  | _ left ih =>
    have hexecute := execute_scan_of_uncanned hcanned now cursor pattern
    have hkeys := s.sortedKeys_scanned now cursor pattern
    rw [scan] at hexecute
    by_cases hnext : cursor + s.page < (s.sortedKeys (millisecond now)).length
    · rw [if_pos hnext] at hexecute
      obtain ⟨sent, hrest⟩ := ih _ (by rw [hkeys]; omega) (s := s.scanned now cursor pattern)
        hpage hcanned (cursor + s.page) rfl
      rw [hkeys, scanned, Store.purge_purge] at hrest
      have hmore := Iterates.more hexecute (by omega) hrest
      rw [← List.filter_append, ← List.drop_drop, List.take_append_drop] at hmore
      exact ⟨sent, hmore⟩
    · rw [if_neg hnext, List.take_of_length_le (by rw [List.length_drop]; omega)] at hexecute
      exact ⟨_, .last hexecute⟩

/-- It does not matter in which order the keys come. -/
theorem delivers_of_perm (h : (s.store.entries.map (·.1)).Nodup)
    (hkeys : keys.Perm
      (((s.store.live (millisecond now)).map (·.1)).filter (s.selects pattern))) :
    s.Delivers now pattern keys where
  nodup := hkeys.nodup_iff.mpr ((h.sublist (List.filter_sublist.map _)).filter _)
  mem key := by
    simp only [hkeys.mem_iff, List.mem_filter, List.mem_map, Store.has, List.any_eq_true,
      beq_iff_eq]

theorem sweeps_of_uncanned (hpage : 0 < s.page) (hcanned : s.canned = [])
    (h : (s.store.entries.map (·.1)).Nodup) (now : Instant) (pattern : String) :
    ∃ sent, s.Sweeps now pattern ((s.sortedKeys (millisecond now)).filter (s.selects pattern))
      { s with sent, store := s.store.purge (millisecond now) } := by
  obtain ⟨sent, hall⟩ := iterates_of_uncanned hpage hcanned now pattern 0
  exact ⟨sent, hall, delivers_of_perm h ((List.mergeSort_perm _ _).filter _)⟩

/-- The keys that are delivered for the pattern of a mark are as many as the identifiers that bear
it. -/
theorem encard_marked {root : String} {mark : Mark} (hroot : Plain root)
    (hselects : ReadsPlain s.selects) (howned : s.store.Owned root)
    (h : s.Delivers now (markPattern root mark) keys) :
    {j | s.store.state root (millisecond now) j = mark.state}.encard = keys.length := by
  have hset : (keys.toFinset : Set String) =
      markKey root mark '' {j | s.store.state root (millisecond now) j = mark.state} := by
    ext key
    simp only [List.coe_toFinset, Set.mem_ofPred_eq, Set.mem_image, h.mem, howned.state_eq_iff]
    constructor
    · rintro ⟨hhas, hselected⟩
      obtain ⟨d, hmem, -⟩ := Store.has_eq_true.mp hhas
      obtain ⟨mark', j, rfl⟩ := howned.own _ hmem
      obtain rfl := (selects_markKey hselects hroot).mp hselected
      exact ⟨j, hhas, rfl⟩
    · rintro ⟨j, hhas, rfl⟩
      exact ⟨hhas, (selects_markKey hselects hroot).mpr rfl⟩
  have hinj : Function.Injective (markKey root mark) := fun i j hij => (markKey_inj.mp hij).2
  rw [← hinj.encard_image, ← hset, Set.encard_coe_eq_coe_finsetCard,
    List.toFinset_card_of_nodup h.nodup]

end Server

end Keyed

namespace KeyedRegistry

open Keyed (Plain ReadsPlain Server markPattern)

variable {r : KeyedRegistry} {s s' : Server} {now : Instant} {pattern : String} {cursor : Nat}
  {keys active revoked : List String}

/-- Adding up the batches of a scan comes to the number of keys in all of them, as there is a
step for each. -/
theorem count_of_iterates (r : KeyedRegistry) (h : s.Iterates now pattern cursor keys s') :
    ∀ fuel sum, 0 < s.page → s.stepsLeft now cursor < fuel →
      { r with server := s }.count now pattern fuel cursor sum =
        (.ok (sum + keys.length), { r with server := s' }) := by
  -- the induction is on the scan; each of its steps uses up some of the fuel
  induction h with
  | last hlast =>
    intro fuel sum _ hfuel
    obtain ⟨fuel, rfl⟩ := Nat.exists_eq_succ_of_ne_zero (Nat.ne_zero_of_lt hfuel)
    simp only [count, hlast]
  | @more cursor next s s' s'' keys rest hmore hnext _ ih =>
    intro fuel sum hpage hfuel
    obtain ⟨fuel, rfl⟩ := Nat.exists_eq_succ_of_ne_zero (Nat.ne_zero_of_lt hfuel)
    have hlater := s.later_execute now cursor pattern
    rw [hmore] at hlater
    have hless := Keyed.Server.stepsLeft_lt hpage hmore hnext
    have hrest := ih fuel (sum + keys.length) (by rw [hlater.page]; exact hpage) (by omega)
    obtain ⟨next, rfl⟩ := Nat.exists_eq_succ_of_ne_zero hnext
    simp only [count, hmore, hrest, List.length_append, Nat.add_assoc]

theorem stats_of_iterates (hpage : 0 < r.server.page)
    (ha : r.server.Iterates now (activePattern r.root) 0 active s)
    (hr : s.Iterates now (revokedPattern r.root) 0 revoked s') :
    r.stats now = (.ok ⟨active.length, revoked.length⟩, { r with server := s' }) := by
  have hlater := ha.later
  have hlive : (r.server.store.live (millisecond now)).length ≤ r.server.store.entries.length :=
    List.length_filter_le ..
  have hfuel := r.server.stepsLeft_zero_le now
  have hfuel' := s.stepsLeft_zero_le now
  rw [hlater.live] at hfuel'
  have hcanned := hlater.canned
  have hcountActive := count_of_iterates r ha _ 0 hpage
    (show _ < r.server.canned.length + r.server.store.entries.length + 1 by omega)
  have hcountRevoked := count_of_iterates r hr _ 0 (by rw [hlater.page]; exact hpage)
    (show _ < r.server.canned.length + r.server.store.entries.length + 1 by omega)
  simp only [Nat.zero_add] at hcountActive hcountRevoked
  simp only [stats, hcountActive, hcountRevoked]

/-! A registry that is alone on its server. -/

/-- What a call leaves of the registry. -/
def step (r : KeyedRegistry) (now : Instant) : RegistryCall → KeyedRegistry
  | .record j e => (r.record now j e).2
  | .revoke j e => (r.revoke now j e).2
  | .state j => (r.state now j).2
  | .stats => (r.stats now).2

theorem registry_call (r : KeyedRegistry) (now : Instant) (c : RegistryCall) :
    (r.call now c).registry = .keyed (r.step now c) := by
  cases c <;> rfl

def after (r : KeyedRegistry) (calls : List (Instant × RegistryCall)) : KeyedRegistry :=
  calls.foldl (fun r c => r.step c.1 c.2) r

/-- The server answers by itself, looks at keys when it is asked for them, and has no others. -/
structure Alone (r : KeyedRegistry) : Prop where
  uncanned : r.server.canned = []
  page : 0 < r.server.page
  owned : r.server.store.Owned r.root

/-- The live keys that a pattern selects, in the order in which the server hands them out. -/
def selected (r : KeyedRegistry) (now : Instant) (pattern : String) : List String :=
  (r.server.sortedKeys (millisecond now)).filter (r.server.selects pattern)

theorem selected_eq_nil
    (h : ∀ e ∈ r.server.store.live (millisecond now), r.server.selects pattern e.1 = false) :
    r.selected now pattern = [] := by
  rw [selected, List.filter_eq_nil_iff]
  intro key hkey
  obtain ⟨e, he, rfl⟩ := List.mem_map.mp (List.mem_mergeSort.mp hkey)
  simp [h e he]

/-- Left to itself, the server goes through all keys for each of the two marks. -/
theorem sweeps_selected (h : r.Alone) (now : Instant) : ∃ s sent,
    r.server.Sweeps now (activePattern r.root) (r.selected now (activePattern r.root)) s ∧
      s.Sweeps now (revokedPattern r.root) (r.selected now (revokedPattern r.root))
        (r.withStore (r.server.store.purge (millisecond now)) sent).server := by
  obtain ⟨sent, ha⟩ := Server.sweeps_of_uncanned h.page h.uncanned h.owned.nodup now
    (activePattern r.root)
  obtain ⟨sent', hr⟩ := Server.sweeps_of_uncanned
    (s := { r.server with sent, store := r.server.store.purge (millisecond now) })
    h.page h.uncanned (h.owned.purge _).nodup now (revokedPattern r.root)
  simp only [Server.sortedKeys, Keyed.Store.live_purge, Keyed.Store.purge_purge] at hr
  exact ⟨_, sent', ha, hr⟩

theorem stats_eq (h : r.Alone) (now : Instant) : ∃ sent, r.stats now =
    (.ok ⟨(r.selected now (activePattern r.root)).length,
      (r.selected now (revokedPattern r.root)).length⟩,
      r.withStore (r.server.store.purge (millisecond now)) sent) := by
  obtain ⟨s, sent, ha, hr⟩ := sweeps_selected h now
  exact ⟨sent, stats_of_iterates h.page ha.1 hr.1⟩

/-- The step: whatever is called, the server has keys of the registry only. -/
theorem step_eq (h : r.Alone) (now : Instant) (c : RegistryCall) :
    ∃ store sent, r.step now c = r.withStore store sent ∧ store.Owned r.root := by
  have hpurged := h.owned.purge (millisecond now)
  cases c with
  | record j e =>
    obtain ⟨sent, hrun⟩ :=
      runScript_eq h.uncanned now .record j (some (ttlMillis r.retention e now))
    rw [Keyed.Store.run_record] at hrun
    simp only [step, record, hrun]
    refine ⟨_, sent, rfl, ?_⟩
    split
    · exact hpurged
    · rename_i hj
      split
      · refine hpurged.set_active (Keyed.Store.has_purge_of_not_has ?_) _
        by_contra hhas
        rw [Bool.not_eq_false] at hhas
        exact hj (if_pos hhas)
      · exact hpurged
  | revoke j e =>
    obtain ⟨sent, hrun⟩ :=
      runScript_eq h.uncanned now .revoke j (some (ttlMillis r.retention e now))
    rw [Keyed.Store.run_revoke] at hrun
    simp only [step, revoke, hrun]
    refine ⟨_, sent, rfl, ?_⟩
    -- the active key is gone also when the server does not set the revoked one
    have hfreed := hpurged.delete (activeKey r.root j)
    split
    · exact hpurged
    · split
      · exact hpurged.set_revoked j _
      · exact hfreed
    · split
      · exact hpurged.set_revoked j _
      · exact hfreed
  | state j =>
    obtain ⟨sent, hrun⟩ := runScript_eq h.uncanned now .state j none
    rw [Keyed.Store.run_state] at hrun
    exact ⟨_, sent, by simp only [step, state, hrun], hpurged⟩
  | stats =>
    obtain ⟨sent, hstats⟩ := stats_eq h now
    exact ⟨_, sent, by simp only [step, hstats], hpurged⟩

/-- The run: only the store has changed, and it still has keys of the registry only. -/
theorem after_eq (h : r.Alone) (calls : List (Instant × RegistryCall)) :
    ∃ store sent, r.after calls = r.withStore store sent ∧ store.Owned r.root := by
  induction calls generalizing r with
  | nil => exact ⟨r.server.store, r.server.sent, rfl, h.owned⟩
  | cons c calls ih =>
    obtain ⟨store, sent, hstep, howned⟩ := step_eq h c.1 c.2
    have halone : (r.withStore store sent).Alone := ⟨h.uncanned, h.page, howned⟩
    obtain ⟨store', sent', hafter, howned'⟩ := ih halone
    refine ⟨store', sent', ?_, howned'⟩
    rw [after, List.foldl_cons, hstep]
    exact hafter

theorem root_after (h : r.Alone) (calls : List (Instant × RegistryCall)) :
    (r.after calls).root = r.root := by
  obtain ⟨store, sent, hafter, -⟩ := after_eq h calls
  rw [hafter]
  rfl

theorem Alone.after (h : r.Alone) (calls : List (Instant × RegistryCall)) :
    (r.after calls).Alone := by
  obtain ⟨store, sent, hafter, howned⟩ := after_eq h calls
  rw [hafter]
  exact ⟨h.uncanned, h.page, howned⟩

/-- The registry with these replies of its server to come, as far as they are given. -/
def answering (r : KeyedRegistry) (replies : List (Option Keyed.Reply)) : KeyedRegistry :=
  { r with server := { r.server with canned := replies } }

/-- Made-up replies do not change what there is to be delivered. -/
theorem delivers_answering {replies : List (Option Keyed.Reply)} :
    (r.answering replies).server.Delivers now pattern keys ↔
      r.server.Delivers now pattern keys :=
  ⟨fun h => ⟨h.nodup, h.mem⟩, fun h => ⟨h.nodup, h.mem⟩⟩

/-- The identifiers are as many as counted, by what is said of each of them. -/
structure Tells (r : KeyedRegistry) (now : Instant) (counts : JtiStats) : Prop where
  active : (counts.active : ℕ∞) = {j | (r.state now j).1 = .ok .active}.encard
  revoked : (counts.revoked : ℕ∞) = {j | (r.state now j).1 = .ok .revoked}.encard
  total : counts.total = counts.active + counts.revoked

theorem encard_state (halone : r.Alone) (hroot : Plain r.root)
    (hselects : ReadsPlain r.server.selects) (mark : Mark)
    (h : r.server.Delivers now (markPattern r.root mark) keys) :
    {j | (r.state now j).1 = .ok mark.state}.encard = keys.length := by
  simp only [state_eq halone.uncanned, Except.ok.injEq]
  exact Server.encard_marked hroot hselects halone.owned h

theorem stats_counts_live (hcanned : r.server.canned = []) (hpage : 0 < r.server.page)
    (hempty : r.server.store = .empty) (hroot : Plain r.root)
    (hselects : ReadsPlain r.server.selects) (calls : List (Instant × RegistryCall))
    (now : Instant) (replies : List (Option Keyed.Reply))
    (ha : ((r.after calls).answering replies).server.Sweeps now (activePattern r.root) active s)
    (hr : s.Sweeps now (revokedPattern r.root) revoked s') :
    ∃ counts, (((r.after calls).answering replies).stats now).1 = .ok counts ∧
      (r.after calls).Tells now counts := by
  have hfresh : r.Alone := ⟨hcanned, hpage, hempty ▸ Keyed.Store.owned_empty r.root⟩
  have halone := hfresh.after calls
  obtain ⟨store, sent, hafter, -⟩ := after_eq hfresh calls
  rw [hafter] at halone ha ⊢
  refine ⟨⟨active.length, revoked.length⟩, ?_, ?_⟩
  · rw [stats_of_iterates (r := (r.withStore store sent).answering replies) hpage ha.1 hr.1]
  · have hactive := encard_state halone hroot hselects .active
      (delivers_answering.mp ha.2)
    have hrevoked := encard_state halone hroot hselects .revoked
      (delivers_answering.mp (ha.1.later.delivers_iff.mp hr.2))
    exact ⟨hactive.symm, hrevoked.symm, rfl⟩

/-- Batches of any size, some of them empty, add up to the same. -/
theorem stats_counts_uneven_batches :
    let r : KeyedRegistry :=
      ⟨"mp", ⟨.ofSeconds 60, .ofSeconds 300⟩, { selects := Keyed.patternSelects }⟩
    let now : Instant := .ofUnix 1700000000 0
    let e : Instant := .ofUnix 1700003600 0
    let marked := r.after
      [(now, .record ⟨"i"⟩ e), (now, .record ⟨"*"⟩ e), (now, .record ⟨"\x7b"⟩ e),
        (now, .revoke ⟨"i"⟩ e)]
    let replies : List (Option Keyed.Reply) :=
      [some (.batch 7 []), some (.batch 3 [activeKey "mp" ⟨"\x7b"⟩]), some (.batch 9 []),
        some (.batch 0 [activeKey "mp" ⟨"*"⟩]), some (.batch 5 [revokedKey "mp" ⟨"i"⟩]),
        some (.batch 0 [])]
    ∃ counts, ((marked.answering replies).stats now).1 = .ok counts ∧ marked.Tells now counts := by
  intro r now e marked replies
  have halone : marked.Alone := Alone.after ⟨rfl, by decide, Keyed.Store.owned_empty _⟩ _
  have hactive : marked.server.Delivers now (activePattern r.root)
      [activeKey "mp" ⟨"\x7b"⟩, activeKey "mp" ⟨"*"⟩] :=
    Server.delivers_of_perm halone.owned.nodup (by decide +kernel)
  have hrevoked : marked.server.Delivers now (revokedPattern r.root) [revokedKey "mp" ⟨"i"⟩] :=
    Server.delivers_of_perm halone.owned.nodup (by decide +kernel)
  obtain ⟨sent, ha⟩ := Server.iterates_of_batches (s := (marked.answering replies).server) now
    (activePattern r.root) [(7, []), (3, [activeKey "mp" ⟨"\x7b"⟩]), (9, [])] (by decide) rfl 0
  obtain ⟨sent', hr⟩ := Server.iterates_of_batches (s := { (marked.answering replies).server with
    canned := replies.drop 4, sent }) now (revokedPattern r.root) [(5, [revokedKey "mp" ⟨"i"⟩])]
    (by decide) rfl 0
  exact stats_counts_live rfl (by decide) rfl (by decide) Keyed.readsPlain_patternSelects _ now
    replies ⟨ha, delivers_answering.mpr hactive⟩
    ⟨hr, ha.later.delivers_iff.mpr (delivers_answering.mpr hrevoked)⟩

/-- With a class in the root, the patterns are about other keys than those of the registry. -/
theorem count_misses_marks :
    let r : KeyedRegistry :=
      ⟨"a[b]", ⟨.ofSeconds 60, .ofSeconds 300⟩, { selects := Keyed.patternSelects }⟩
    let now : Instant := .ofUnix 1700000000 0
    let e : Instant := .ofUnix 1700003600 0
    let marked := r.after
      [(now, .record ⟨"i"⟩ e), (now, .record ⟨"j"⟩ e), (now, .revoke ⟨"j"⟩ e)]
    (marked.state now ⟨"i"⟩).1 = .ok .active ∧ (marked.state now ⟨"j"⟩).1 = .ok .revoked ∧
      (∃ s s', marked.server.Sweeps now (activePattern r.root) [] s ∧
        s.Sweeps now (revokedPattern r.root) [] s') ∧
      (marked.stats now).1 = .ok ⟨0, 0⟩ ∧ ¬ marked.Tells now ⟨0, 0⟩ := by
  intro r now e marked
  have hfresh : r.Alone := ⟨rfl, by decide, Keyed.Store.owned_empty _⟩
  have halone : marked.Alone := hfresh.after _
  have hroot : marked.root = r.root := root_after hfresh _
  have hactive : marked.selected now (activePattern r.root) = [] :=
    selected_eq_nil (by decide +kernel)
  have hrevoked : marked.selected now (revokedPattern r.root) = [] :=
    selected_eq_nil (by decide +kernel)
  have hi : (marked.state now ⟨"i"⟩).1 = .ok .active := by
    rw [state_eq halone.uncanned]
    decide +kernel
  have hj : (marked.state now ⟨"j"⟩).1 = .ok .revoked := by
    rw [state_eq halone.uncanned]
    decide +kernel
  obtain ⟨s, sent, ha, hr⟩ := sweeps_selected halone now
  obtain ⟨sent', hstats⟩ := stats_eq halone now
  rw [hroot, hactive] at ha
  rw [hroot, hrevoked] at hr
  refine ⟨hi, hj, ⟨s, _, ha, hr⟩, ?_, fun htells => ?_⟩
  · rw [hstats, hroot, hactive, hrevoked]
    rfl
  · have hnone := Set.encard_eq_zero.mp htells.active.symm
    exact Set.notMem_empty (⟨"i"⟩ : Jti) (hnone ▸ hi)

end KeyedRegistry

end SessionTokens
