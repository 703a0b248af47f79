import Mathlib.Data.List.Infix
import SessionTokens.Registry.Keyed.Server
import SessionTokens.Text.Utf8

/-! How a key server reads a pattern, byte by byte. A star stands for any text, a question mark
for any byte, a class in brackets for one of its bytes or for any other, and a backslash takes what
follows it for itself. Without stars, classes and backslashes each byte of a pattern stands for one
of the key. -/

namespace SessionTokens.Keyed

inductive PatternPart where
  | anything
  | anyChar
  | char (c : Char)
  /-- The characters of these ranges, or all others. -/
  | oneOf (negated : Bool) (ranges : List (Char × Char))
  deriving DecidableEq, Repr

/-- Reads a pattern, outside of a class or within one. A class that is not closed ends with the
pattern. -/
def patternParts : Option (Bool × List (Char × Char)) → List Char → List PatternPart
  | none, [] => []
  | none, '*' :: p => .anything :: patternParts none p
  | none, '?' :: p => .anyChar :: patternParts none p
  | none, '[' :: '^' :: p => patternParts (some (true, [])) p
  | none, '[' :: p => patternParts (some (false, [])) p
  | none, '\\' :: c :: p => .char c :: patternParts none p
  | none, c :: p => .char c :: patternParts none p
  | some (negated, ranges), [] => [.oneOf negated ranges]
  | some (negated, ranges), ']' :: p => .oneOf negated ranges :: patternParts none p
  | some (negated, ranges), '\\' :: c :: p => patternParts (some (negated, (c, c) :: ranges)) p
  | some (negated, ranges), a :: '-' :: b :: p =>
    patternParts (some (negated, (a, b) :: (b, a) :: ranges)) p
  | some (negated, ranges), c :: p => patternParts (some (negated, (c, c) :: ranges)) p

def acceptsParts : List PatternPart → List Char → Bool
  | [], k => k.isEmpty
  | .anything :: ps, k => k.tails.any (acceptsParts ps)
  | .anyChar :: ps, k => match k with
    | [] => false
    | _ :: k => acceptsParts ps k
  | .char c :: ps, k => match k with
    | [] => false
    | x :: k => x == c && acceptsParts ps k
  | .oneOf negated ranges :: ps, k => match k with
    | [] => false
    | x :: k => (ranges.any (fun r => decide (r.1 ≤ x ∧ x ≤ r.2)) != negated) && acceptsParts ps k

/-- The bytes of a text, each as the character with that number. -/
def letters (text : String) : List Char :=
  (Utf8.encode text.toList).map fun b => Char.ofNat b.toNat

theorem letters_append (a b : String) : letters (a ++ b) = letters a ++ letters b := by
  simp [letters, Utf8.encode, String.toList_append]

/-- Whether a key is one that a pattern selects. -/
def patternSelects (pattern key : String) : Bool :=
  acceptsParts (patternParts none (letters pattern)) (letters key)

/-- What stands for one byte of a key wherever it is in a pattern. -/
def PlainChar (c : Char) : Prop := c ∉ ['*', '[', '\\']

instance (c : Char) : Decidable (PlainChar c) := inferInstanceAs (Decidable (¬ _))

/-- A text in which each byte stands for one byte. -/
def Plain (text : String) : Prop := ∀ c ∈ letters text, PlainChar c

instance (text : String) : Decidable (Plain text) := List.decidableBAll _ _

/-- Whether a key begins so; a question mark takes whatever stands in its place. -/
def Begins : List Char → List Char → Prop
  | [], _ => True
  | _ :: _, [] => False
  | p :: ps, c :: cs => (p = '?' ∨ p = c) ∧ Begins ps cs

/-- A plain pattern with a star at its end selects the keys that begin with it. -/
def ReadsPlain (selects : String → String → Bool) : Prop :=
  ∀ lead key, Plain lead → (selects (lead ++ "*") key = true ↔ Begins (letters lead) (letters key))

theorem begins_append_left (lead p k : List Char) :
    Begins (lead ++ p) (lead ++ k) ↔ Begins p k := by
  induction lead with
  | nil => rfl
  | cons c lead ih => simp only [List.cons_append, Begins, or_true, true_and, ih]

def plainPart (c : Char) : PatternPart := if c = '?' then .anyChar else .char c

theorem patternParts_of_plain {lead : List Char} (h : ∀ c ∈ lead, PlainChar c) :
    patternParts none (lead ++ ['*']) = lead.map plainPart ++ [.anything] := by
  induction lead with
  | nil => rfl
  | cons c lead ih =>
    obtain ⟨hc, hlead⟩ := List.forall_mem_cons.mp h
    simp only [PlainChar, List.mem_cons, List.not_mem_nil, or_false, not_or] at hc
    rw [List.cons_append, List.map_cons, List.cons_append, ← ih hlead]
    by_cases hany : c = '?'
    · rw [hany, patternParts]
      rfl
    · rw [patternParts, plainPart, if_neg hany]
      all_goals simp_all

theorem acceptsParts_anything (k : List Char) : acceptsParts [.anything] k = true := by
  simp only [acceptsParts, List.any_eq_true]
  exact ⟨[], (List.mem_tails _ _).mpr List.nil_suffix, rfl⟩

theorem acceptsParts_lead {lead k : List Char} :
    acceptsParts (lead.map plainPart ++ [.anything]) k = true ↔ Begins lead k := by
  induction lead generalizing k with
  | nil => simp [acceptsParts_anything, Begins]
  | cons c lead ih =>
    cases k with
    | nil => by_cases hany : c = '?' <;> simp [plainPart, hany, acceptsParts, Begins]
    | cons x k =>
      by_cases hany : c = '?'
      · simp [plainPart, hany, acceptsParts, Begins, ih]
      · simp only [List.map_cons, List.cons_append, plainPart, hany, if_false, acceptsParts,
          Begins, false_or, Bool.and_eq_true, beq_iff_eq, ih]
        exact and_congr_left' eq_comm

theorem readsPlain_patternSelects : ReadsPlain patternSelects := by
  intro lead key h
  have hparts := patternParts_of_plain h
  rw [patternSelects, letters_append, show letters "*" = ['*'] from rfl, hparts,
    acceptsParts_lead]

end SessionTokens.Keyed
