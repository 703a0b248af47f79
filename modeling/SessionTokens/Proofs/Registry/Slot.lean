import Mathlib.Data.List.TakeWhile
import SessionTokens.Proofs.Registry.Scan
import SessionTokens.Proofs.Registry.Vanishing

/-! Where a cluster of key servers puts the two keys of an identifier. A key is placed by what
stands in its first braces, and these are not always the ones around the identifier: a root may
have an opening brace of its own, and an identifier without text, or one that begins with a closing
brace, leaves nothing in between. -/

namespace SessionTokens

open Keyed (activeKey revokedKey hashTag)

namespace Keyed

section Tags

variable {key tag lead rest : List Char} {c : Char}

theorem ne_of_notMem (h : c ∉ lead) : ∀ x ∈ lead, decide (x ≠ c) = true := fun _ hx =>
  decide_eq_true (ne_of_mem_of_not_mem hx h)

theorem dropWhile_ne (h : c ∉ lead) : (lead ++ c :: rest).dropWhile (· ≠ c) = c :: rest := by
  rw [List.dropWhile_append_of_pos (ne_of_notMem h), List.dropWhile_cons_of_neg (by simp)]

theorem takeWhile_ne (h : c ∉ lead) : (lead ++ c :: rest).takeWhile (· ≠ c) = lead := by
  rw [List.takeWhile_append_of_pos (ne_of_notMem h), List.takeWhile_cons_of_neg (by simp),
    List.append_nil]

theorem takeWhile_ne_of_notMem (h : c ∉ lead) : lead.takeWhile (· ≠ c) = lead :=
  List.takeWhile_eq_self_iff.mpr (ne_of_notMem h)

/-- `tag` stands between the first opening brace of a key and the first closing brace after it. -/
def Encloses (key tag : List Char) : Prop :=
  ∃ lead rest, key = lead ++ '\x7b' :: (tag ++ '\x7d' :: rest) ∧ '\x7b' ∉ lead ∧ '\x7d' ∉ tag

theorem encloses_opened (h : '\x7b' ∉ lead) : Encloses (lead ++ '\x7b' :: rest) tag ↔
    ∃ after, rest = tag ++ '\x7d' :: after ∧ '\x7d' ∉ tag := by
  constructor
  · rintro ⟨lead', after, heq, hlead', htag⟩
    have hdrop := congrArg (List.dropWhile (· ≠ '\x7b')) heq
    rw [dropWhile_ne h, dropWhile_ne hlead'] at hdrop
    exact ⟨after, (List.cons.inj hdrop).2, htag⟩
  · rintro ⟨after, rfl, htag⟩
    exact ⟨lead, after, rfl, h, htag⟩

theorem Encloses.append (h : Encloses key tag) (rest : List Char) : Encloses (key ++ rest) tag := by
  obtain ⟨lead, after, rfl, hlead, htag⟩ := h
  exact ⟨lead, after ++ rest, by simp, hlead, htag⟩

theorem Encloses.opening_mem (h : Encloses key tag) : '\x7b' ∈ key := by
  obtain ⟨lead, after, rfl, -, -⟩ := h
  simp

theorem Encloses.hashTag_eq (h : Encloses key tag) :
    hashTag key = if tag = [] then key else tag := by
  obtain ⟨lead, after, rfl, hlead, htag⟩ := h
  have hlonger : tag.length ≠ (tag ++ '\x7d' :: after).length := by
    simp only [List.length_append, List.length_cons]
    omega
  simp only [hashTag, dropWhile_ne hlead, takeWhile_ne htag, hlonger, or_false]

theorem Encloses.unique {tag' : List Char} (h : Encloses key tag) (h' : Encloses key tag') :
    tag = tag' := by
  obtain ⟨lead, after, rfl, hlead, htag⟩ := h
  obtain ⟨after', heq, htag'⟩ := (encloses_opened hlead).mp h'
  have htake := congrArg (List.takeWhile (· ≠ '\x7d')) heq
  rwa [takeWhile_ne htag, takeWhile_ne htag'] at htake

/-- A key has no opening brace, or nothing closes the first one, or the two enclose something. -/
theorem braces_cases (key : List Char) : '\x7b' ∉ key ∨
    (∃ lead rest, key = lead ++ '\x7b' :: rest ∧ '\x7b' ∉ lead ∧ '\x7d' ∉ rest) ∨
      ∃ tag, Encloses key tag := by
  by_cases hopen : '\x7b' ∈ key
  · obtain ⟨lead, rest, rfl, hlead⟩ := List.eq_append_cons_of_mem hopen
    by_cases hclose : '\x7d' ∈ rest
    · obtain ⟨tag, after, rfl, htag⟩ := List.eq_append_cons_of_mem hclose
      exact .inr (.inr ⟨tag, lead, after, rfl, hlead, htag⟩)
    · exact .inr (.inl ⟨lead, rest, rfl, hlead, hclose⟩)
  · exact .inl hopen

theorem hashTag_of_not_encloses (h : ∀ tag, ¬ Encloses key tag) : hashTag key = key := by
  rcases braces_cases key with hkey | ⟨lead, rest, rfl, hlead, hrest⟩ | ⟨tag, htag⟩
  · have hdrop : key.dropWhile (· ≠ '\x7b') = [] :=
      List.dropWhile_eq_nil_iff.mpr (ne_of_notMem hkey)
    simp only [hashTag, hdrop]
  · simp only [hashTag, dropWhile_ne hlead, takeWhile_ne_of_notMem hrest, or_true, if_true]
  · exact absurd htag (h tag)

/-- A key is placed by what stands in its first braces, or by all of it if there is no such part or
nothing in it. -/
def PlacedBy (key tag : List Char) : Prop :=
  Encloses key tag ∧ tag ≠ [] ∨ tag = key ∧ ∀ enclosed, Encloses key enclosed → enclosed = []

theorem placedBy_hashTag (key : List Char) : PlacedBy key (hashTag key) := by
  by_cases hkey : ∃ tag, Encloses key tag
  · obtain ⟨tag, htag⟩ := hkey
    rw [htag.hashTag_eq]
    split
    · rename_i hnil
      exact .inr ⟨rfl, fun _ h => (h.unique htag).trans hnil⟩
    · rename_i hne
      exact .inl ⟨htag, hne⟩
  · rw [not_exists] at hkey
    exact .inr ⟨hashTag_of_not_encloses hkey, fun tag h => absurd h (hkey tag)⟩

end Tags

section Keys

variable {root : String} {mark : Mark} {j : Jti} {tag : List Char}

/-- The text of an identifier up to its first closing brace. -/
def front (j : Jti) : List Char := j.text.toList.takeWhile (· ≠ '\x7d')

/-- When both keys of an identifier are placed by the same: if the root encloses something by
itself, or has no opening brace and the identifier begins with something else than a closing one. -/
def Together (root : String) (j : Jti) : Prop :=
  (∃ tag ≠ [], Encloses root.toList tag) ∨ '\x7b' ∉ root.toList ∧ front j ≠ []

theorem closing_notMem_front (j : Jti) : '\x7d' ∉ front j := fun h => by
  simpa using List.mem_takeWhile_imp h

theorem exists_front (j : Jti) :
    ∃ after, j.text.toList ++ ['\x7d'] = front j ++ '\x7d' :: after := by
  by_cases hclose : '\x7d' ∈ j.text.toList
  · obtain ⟨tag, after, heq, htag⟩ := List.eq_append_cons_of_mem hclose
    exact ⟨after ++ ['\x7d'], by simp only [front, heq, takeWhile_ne htag]; simp⟩
  · exact ⟨[], by rw [front, takeWhile_ne_of_notMem hclose]⟩

theorem toList_markKey (root : String) (mark : Mark) (j : Jti) :
    (markKey root mark j).toList =
      root.toList ++ ((markLead "" mark).toList ++ '\x7b' :: (j.text.toList ++ ['\x7d'])) := by
  cases mark <;> simp [markKey, markLead, activeKey, revokedKey]

theorem braces_notMem_markLead (mark : Mark) :
    '\x7b' ∉ (markLead "" mark).toList ∧ '\x7d' ∉ (markLead "" mark).toList := by
  cases mark <;> decide

theorem encloses_markKey_of_root (h : Encloses root.toList tag) (mark : Mark) (j : Jti) :
    Encloses (markKey root mark j).toList tag := by
  rw [toList_markKey]
  exact h.append _

/-- A root without an opening brace leaves it to the braces around the identifier. -/
theorem encloses_markKey_of_unopened (h : '\x7b' ∉ root.toList) (mark : Mark) (j : Jti) :
    Encloses (markKey root mark j).toList (front j) := by
  obtain ⟨after, hafter⟩ := exists_front j
  have hlead : '\x7b' ∉ root.toList ++ (markLead "" mark).toList := by
    simp [h, (braces_notMem_markLead mark).1]
  rw [toList_markKey, ← List.append_assoc, encloses_opened hlead]
  exact ⟨after, hafter, closing_notMem_front j⟩

/-- Behind a brace that the root leaves open, a key encloses its mark as well. -/
theorem encloses_markKey_of_unclosed {lead rest : List Char}
    (h : root.toList = lead ++ '\x7b' :: rest) (hlead : '\x7b' ∉ lead) (hrest : '\x7d' ∉ rest)
    (mark : Mark) (j : Jti) : Encloses (markKey root mark j).toList
      (rest ++ ((markLead "" mark).toList ++ '\x7b' :: front j)) := by
  obtain ⟨after, hafter⟩ := exists_front j
  rw [toList_markKey, h, List.append_assoc, List.cons_append, encloses_opened hlead]
  exact ⟨after, by simp [hafter],
    by simp [hrest, (braces_notMem_markLead mark).2, closing_notMem_front]⟩

/-- Where both keys enclose the same, they are placed by it, unless it is nothing. -/
theorem hashTag_eq_iff_ne_nil (h : ∀ mark, Encloses (markKey root mark j).toList tag) :
    hashTag (markKey root .active j).toList = hashTag (markKey root .revoked j).toList ↔
      tag ≠ [] := by
  have hne : (markKey root .active j).toList ≠ (markKey root .revoked j).toList := by
    rw [ne_eq, String.toList_inj, markKey_inj]
    simp
  rw [(h .active).hashTag_eq, (h .revoked).hashTag_eq]
  by_cases hnil : tag = [] <;> simp [hnil, hne]

theorem hashTag_eq_iff_together :
    hashTag (activeKey root j).toList = hashTag (revokedKey root j).toList ↔ Together root j := by
  change hashTag (markKey root .active j).toList = hashTag (markKey root .revoked j).toList ↔ _
  -- the first braces of a key begin in its root, wherever this has an opening one
  rcases braces_cases root.toList with hroot | ⟨lead, rest, hroot, hlead, hrest⟩ | ⟨tag, htag⟩
  · rw [hashTag_eq_iff_ne_nil fun mark => encloses_markKey_of_unopened hroot mark j]
    have hno : ¬ ∃ tag ≠ [], Encloses root.toList tag := fun ⟨_, _, h⟩ => hroot h.opening_mem
    simp [Together, hroot, hno]
  · have hkeys : ∀ mark, hashTag (markKey root mark j).toList =
        rest ++ ((markLead "" mark).toList ++ '\x7b' :: front j) := fun mark => by
      rw [(encloses_markKey_of_unclosed hroot hlead hrest mark j).hashTag_eq, if_neg (by simp)]
    rw [hkeys .active, hkeys .revoked]
    refine iff_of_false (fun heq => ?_) ?_
    · have hmarks := List.append_cancel_left heq
      simp [markLead] at hmarks
    · rintro (⟨tag, -, htag⟩ | ⟨hopen, -⟩)
      · rw [hroot, encloses_opened hlead] at htag
        obtain ⟨after, rfl, -⟩ := htag
        simp at hrest
      · simp [hroot] at hopen
  · rw [hashTag_eq_iff_ne_nil fun mark => encloses_markKey_of_root htag mark j]
    constructor
    · intro hne
      exact .inl ⟨tag, hne, htag⟩
    · rintro (⟨tag', hne, htag'⟩ | ⟨hopen, -⟩)
      · rwa [htag.unique htag']
      · exact absurd htag.opening_mem hopen

end Keys

/-- A script finds both of its keys in one place. A scan is given none. -/
def Command.InOnePlace : Command → Prop
  | .run _ active revoked _ => hashTag active.toList = hashTag revoked.toList
  | .scan _ _ => True

end Keyed

namespace KeyedRegistry

open Keyed (Command PlacedBy Together)

variable {r r' r'' : KeyedRegistry} {now : Instant} {p q : Prop}

/-- On the way to `r'`, all commands that are sent keep to one place each, if and only if `p`. -/
structure SendsInPlaceIff (r r' : KeyedRegistry) (p : Prop) : Prop where
  root : r'.root = r.root
  sent : ∃ commands, r'.server.sent = r.server.sent ++ commands ∧
    ((∀ k ∈ commands, k.InOnePlace) ↔ p)

namespace SendsInPlaceIff

theorem refl (r : KeyedRegistry) : r.SendsInPlaceIff r True := ⟨rfl, [], by simp⟩

theorem trans (h : r.SendsInPlaceIff r' p) (h' : r'.SendsInPlaceIff r'' q) :
    r.SendsInPlaceIff r'' (p ∧ q) := by
  obtain ⟨hroot, commands, hsent, hp⟩ := h
  obtain ⟨hroot', commands', hsent', hq⟩ := h'
  refine ⟨hroot'.trans hroot, commands ++ commands', ?_, ?_⟩
  · rw [hsent', hsent, List.append_assoc]
  · rw [List.forall_mem_append, hp, hq]

theorem congr (h : r.SendsInPlaceIff r' p) (hpq : p ↔ q) : r.SendsInPlaceIff r' q :=
  propext hpq ▸ h

end SendsInPlaceIff

theorem runScript_sends (r : KeyedRegistry) (now : Instant) (script : Keyed.Script) (j : Jti)
    (ttl : Option Nat) :
    r.SendsInPlaceIff (r.runScript now script j ttl).2 (Together r.root j) where
  root := by
    simp only [runScript]
    split <;> rfl
  sent := ⟨_, r.sent_runScript now script j ttl, by
    simp [Command.InOnePlace, Keyed.hashTag_eq_iff_together]⟩

theorem sent_execute (s : Keyed.Server) (now : Instant) (c : Command) :
    (s.execute now c).2.sent = s.sent ++ [c] := by
  rw [Keyed.Server.execute]
  rcases s.canned with - | ⟨- | reply, more⟩ <;> cases c <;> rfl

/-- Whatever the server answers, a count sends nothing but scans. -/
theorem count_sends {pattern : String} {fuel cursor sum : Nat} {answer : Except Keyed.Error Nat}
    (h : r.count now pattern fuel cursor sum = (answer, r')) : r.SendsInPlaceIff r' True := by
  induction fuel generalizing cursor sum r with
  | zero =>
    obtain ⟨-, rfl⟩ := Prod.mk.inj h
    exact .refl r
  | succ fuel ih =>
    have hsent := sent_execute r.server now (.scan cursor pattern)
    rcases hreply : r.server.execute now (.scan cursor pattern) with ⟨reply, server⟩
    rw [hreply] at hsent
    have hscan : r.SendsInPlaceIff { r with server } True :=
      ⟨rfl, _, hsent, by simp [Command.InOnePlace]⟩
    simp only [count, hreply] at h
    split at h
    · obtain ⟨-, rfl⟩ := Prod.mk.inj h
      exact hscan
    · exact (hscan.trans (ih h)).congr and_self_iff
    · obtain ⟨-, rfl⟩ := Prod.mk.inj h
      exact hscan

theorem stats_sends (r : KeyedRegistry) (now : Instant) :
    r.SendsInPlaceIff (r.stats now).2 True := by
  simp only [stats]
  split
  · rename_i hactive
    exact count_sends hactive
  · rename_i hactive
    split
    all_goals
      rename_i hrevoked
      exact ((count_sends hactive).trans (count_sends hrevoked)).congr and_self_iff

/-- The step: a call comes to one script for the identifier that it is about, or to scans. -/
theorem step_sends (r : KeyedRegistry) (now : Instant) (c : RegistryCall) :
    r.SendsInPlaceIff (r.step now c) (∀ j ∈ c.jti?, Together r.root j) := by
  cases c with
  | record j e => exact (r.runScript_sends now .record j _).congr (by simp [RegistryCall.jti?])
  | revoke j e => exact (r.runScript_sends now .revoke j _).congr (by simp [RegistryCall.jti?])
  | state j => exact (r.runScript_sends now .state j none).congr (by simp [RegistryCall.jti?])
  | stats => exact (r.stats_sends now).congr (by simp [RegistryCall.jti?])

/-- The run: its scripts keep to one place each just if all identifiers of its calls allow it. -/
theorem after_sends (r : KeyedRegistry) (calls : List (Instant × RegistryCall)) :
    r.SendsInPlaceIff (r.after calls) (∀ c ∈ calls, ∀ j ∈ c.2.jti?, Together r.root j) := by
  induction calls generalizing r with
  | nil => exact (SendsInPlaceIff.refl r).congr (by simp)
  | cons c calls ih =>
    have hstep := r.step_sends c.1 c.2
    have hrest := ih (r.step c.1 c.2)
    rw [hstep.root] at hrest
    exact (hstep.trans hrest).congr (by rw [List.forall_mem_cons])

/-- What a cluster sees of the keys of a registry. -/
structure KeysPlaced (r : KeyedRegistry) : Prop where
  active_inj (i j : Jti) : activeKey r.root i = activeKey r.root j ↔ i = j
  revoked_inj (i j : Jti) : revokedKey r.root i = revokedKey r.root j ↔ i = j
  apart (i j : Jti) : activeKey r.root i ≠ revokedKey r.root j
  rule (key : List Char) : PlacedBy key (hashTag key)
  together (j : Jti) : hashTag (activeKey r.root j).toList = hashTag (revokedKey r.root j).toList ↔
    Together r.root j
  /-- Over every history of calls, whatever the server answers. -/
  sent (calls : List (Instant × RegistryCall)) : ∃ commands,
    (r.after calls).server.sent = r.server.sent ++ commands ∧
      ((∀ k ∈ commands, k.InOnePlace) ↔ ∀ c ∈ calls, ∀ j ∈ c.2.jti?, Together r.root j)

theorem keys_placed (r : KeyedRegistry) : r.KeysPlaced where
  active_inj _ _ := Keyed.activeKey_inj
  revoked_inj _ _ := Keyed.revokedKey_inj
  apart := Keyed.activeKey_ne_revokedKey r.root
  rule := Keyed.placedBy_hashTag
  together _ := Keyed.hashTag_eq_iff_together
  sent calls := (r.after_sends calls).sent

/-- A brace in the root that nothing closes, an identifier without text and one that begins with a
closing brace. -/
theorem keys_torn_apart :
    let j : Jti := ⟨"0f1e2d3c"⟩
    let r : KeyedRegistry :=
      ⟨"\x7bmp", ⟨.ofSeconds 60, .ofSeconds 300⟩, { selects := Keyed.patternSelects }⟩
    hashTag (activeKey r.root j).toList = "mp:jti:active:\x7b0f1e2d3c".toList ∧
      hashTag (revokedKey r.root j).toList = "mp:jti:revoked:\x7b0f1e2d3c".toList ∧
      (r.state (.ofUnix 1700000000 0) j).2.server.sent =
        [.run .state (activeKey r.root j) (revokedKey r.root j) none] ∧
      hashTag (activeKey r.root j).toList ≠ hashTag (revokedKey r.root j).toList ∧
      hashTag (activeKey "mp" ⟨""⟩).toList ≠ hashTag (revokedKey "mp" ⟨""⟩).toList ∧
      hashTag (activeKey "mp" ⟨"\x7d"⟩).toList ≠ hashTag (revokedKey "mp" ⟨"\x7d"⟩).toList := by
  decide

end KeyedRegistry

end SessionTokens
