import SessionTokens.Json.Reader
import SessionTokens.Json.Value
import SessionTokens.Proofs.Text.Bytes
import SessionTokens.Proofs.Text.Numerals

/-! A value that is written is read back, whatever follows it that cannot continue it. -/

namespace SessionTokens.Json

theorem codeUnit?_ofNat {n : Nat} (h : n < 0x10000) :
    ∃ a b c d : Char, Hex.ofNat 4 n = [a, b, c, d] ∧ codeUnit? a b c d = some n := by
  refine ⟨_, _, _, _, Hex.ofNat_four n, ?_⟩
  have hd : ∀ m : Nat, hexDigit? (some (Hex.digit (Fin.ofNat 16 m))) = some (m % 16) := by
    intro m
    simp [hexDigit?, Fin.ofNat]
  simp only [codeUnit?, hd, Option.bind_eq_bind, Option.bind_some, pure]
  congr 1
  omega

theorem readQuoted_escapeChar (c : Char) (r : List Symbol) :
    readQuoted ((escapeChar c).map some ++ r) = ((readQuoted r).1.cons c, (readQuoted r).2) := by
  unfold escapeChar
  split
  · rename_i letter h
    unfold escapeLetter? at h
    split at h <;> first | (obtain rfl := Option.some.inj h) | (cases h)
    all_goals simp [readQuoted, escaped?]
  · rename_i h
    have hq : c ≠ '"' := by rintro rfl; cases h
    have hb : c ≠ '\\' := by rintro rfl; cases h
    split
    · rename_i hlt
      obtain ⟨a, b, d, e, hx, hn⟩ := codeUnit?_ofNat (n := c.toNat) (by omega)
      have hhigh : isHighHalf c.toNat = false := by simp [isHighHalf]; omega
      have hlow : isLowHalf c.toNat = false := by simp [isLowHalf]; omega
      simp [hx, readQuoted, hn, hhigh, hlow]
    · rename_i hge
      simp only [List.map_cons, List.map_nil, List.cons_append, List.nil_append]
      rw [readQuoted]
      · rw [if_neg hge]
      all_goals simp [hq, hb]

theorem readQuoted_quote (cs : List Char) (r : List Symbol) :
    readQuoted ((cs.flatMap escapeChar).map some ++ some '"' :: r) = (⟨.chars cs, none⟩, r) := by
  induction cs with
  | nil => simp [readQuoted]
  | cons c cs ih =>
    rw [List.flatMap_cons, List.map_append, List.append_assoc, readQuoted_escapeChar, ih]
    rfl

def Quoted.of (s : String) : Quoted := ⟨.chars s.toList, none⟩

theorem Quoted.text_of (s : String) : (Quoted.of s).text = .ok s := by
  simp [Quoted.of, Quoted.text]

def Follows (r : List Symbol) : Prop :=
  ∀ x ∈ r.head?, (digitOf? x).isSome = false ∧ x ≠ some '.' ∧ x ≠ some 'e' ∧ x ≠ some 'E'

theorem takeDigits_ofNat (n : Nat) {r : List Symbol} (hr : Follows r) :
    takeDigits ((Decimal.ofNat n).map some ++ r) = (Decimal.ofNat n, r) := by
  have hall : ∀ x ∈ (Decimal.ofNat n).map some, (digitOf? x).isSome = true := by
    intro x hx
    obtain ⟨c, hc, rfl⟩ := List.mem_map.mp hx
    exact Decimal.isSome_digit?_of_mem hc
  have hnone : r.takeWhile (fun x => (digitOf? x).isSome) = [] ∧
      r.dropWhile (fun x => (digitOf? x).isSome) = r := by
    cases r with
    | nil => exact ⟨rfl, rfl⟩
    | cons x r => simp [(hr x rfl).1]
  rw [takeDigits, List.takeWhile_append_of_pos hall, List.dropWhile_append_of_pos hall, hnone.1,
    hnone.2, List.append_nil, List.filterMap_map]
  simp

theorem readMagnitude_ofNat (negative : Bool) (n : Nat) {r : List Symbol} (hr : Follows r) :
    readMagnitude negative ((Decimal.ofNat n).map some ++ r) =
      (.number ⟨negative, n, none⟩, r) := by
  have hlead : ¬ ((Decimal.ofNat n).head? = some '0' ∧ (Decimal.ofNat n).length > 1) := by
    rintro ⟨hz, hl⟩
    rcases Nat.eq_zero_or_pos n with rfl | hn
    · simp [Decimal.ofNat_zero] at hl
    · exact Decimal.head?_ofNat hn hz
  have hplaces : readPlaces r = (.ok none, r) := by
    unfold readPlaces
    split
    · exact absurd rfl (hr _ rfl).2.1
    · rfl
  have hexponent : readExponent r = (.ok none, r) := by
    unfold readExponent
    split
    · rename_i e r
      have he := (hr _ rfl).2.2
      rw [if_neg (by simpa using he)]
    · rfl
  simp only [readMagnitude, takeDigits_ofNat n hr, List.isEmpty_iff, Decimal.ofNat_ne_nil,
    if_false, hlead, hplaces, hexponent, Option.getD_none, Decimal.value, Decimal.value_ofNat]

mutual

def Value.node : Value → Node
  | .null => .null
  | .bool b => .bool b
  | .int i => .number ⟨decide (i < 0), i.natAbs, none⟩
  | .str s => .string (.of s)
  | .arr items => .array (nodes items) none
  | .obj members => .object (memberNodes members) none

def nodes : List Value → List Node
  | [] => []
  | v :: vs => v.node :: nodes vs

def memberNodes : List (String × Value) → List (Node × Node)
  | [] => []
  | (k, v) :: ms => (.string (.of k), v.node) :: memberNodes ms

end

mutual

/-- How much fuel it takes to read a value. -/
def Value.weight : Value → Nat
  | .arr items => itemsWeight items + 1
  | .obj members => membersWeight members + 1
  | _ => 1

def itemsWeight : List Value → Nat
  | [] => 0
  | v :: vs => v.weight + itemsWeight vs + 1

def membersWeight : List (String × Value) → Nat
  | [] => 0
  | (_, v) :: ms => v.weight + membersWeight ms + 1

end

theorem fault_node (v : Value) : v.node.fault = none := by
  cases v <;> simp [Value.node, Node.fault, Quoted.of]

theorem ofNat_eq_cons (n : Nat) :
    ∃ c cs, Decimal.ofNat n = c :: cs ∧ (Decimal.digit? c).isSome ∧
      c ∉ [' ', '\n', '\t', '\r', '"', '[', ']', '\x7b', 't', 'f', 'n', '-'] := by
  obtain ⟨c, cs, hc⟩ := List.exists_cons_of_ne_nil (Decimal.ofNat_ne_nil n)
  have hd : (Decimal.digit? c).isSome := Decimal.isSome_digit?_of_mem (hc ▸ List.mem_cons_self ..)
  refine ⟨c, cs, hc, hd, fun hm => ?_⟩
  have hnone : ∀ c ∈ [' ', '\n', '\t', '\r', '"', '[', ']', '\x7b', 't', 'f', 'n', '-'],
      (Decimal.digit? c).isSome = false := by
    simp only [List.forall_mem_cons]
    exact ⟨rfl, rfl, rfl, rfl, rfl, rfl, rfl, rfl, rfl, rfl, rfl, rfl, nofun⟩
  simp [hnone c hm] at hd

theorem chars_ofInt (i : Int) :
    (Value.int i).chars =
      if i < 0 then '-' :: Decimal.ofNat i.natAbs else Decimal.ofNat i.natAbs := by
  rw [Value.chars, Decimal.ofInt]

theorem chars_eq_cons (v : Value) :
    ∃ c cs, v.chars = c :: cs ∧ isBlank (some c) = false ∧ c ≠ ']' := by
  cases v with
  | null => exact ⟨_, _, rfl, rfl, by decide⟩
  | bool b => cases b <;> exact ⟨_, _, rfl, rfl, by decide⟩
  | int i =>
    rw [chars_ofInt]
    split
    · exact ⟨_, _, rfl, rfl, by decide⟩
    · obtain ⟨c, cs, hc, -, hn⟩ := ofNat_eq_cons i.natAbs
      simp only [List.mem_cons, List.not_mem_nil, or_false, not_or] at hn
      exact ⟨c, cs, hc, by simp [isBlank, hn], hn.2.2.2.2.2.2.1⟩
  | str s => exact ⟨_, _, rfl, rfl, by decide⟩
  | arr items => cases items <;> exact ⟨_, _, rfl, rfl, by decide⟩
  | obj members =>
    cases members with
    | nil => exact ⟨_, _, rfl, rfl, by decide⟩
    | cons m ms => exact ⟨_, _, rfl, rfl, by decide⟩

theorem follows_of_mem {c : Char} (h : c ∈ [',', ']', '\x7d']) (r : List Symbol) :
    Follows (some c :: r) := by
  have hall : ∀ c ∈ [',', ']', '\x7d'], (digitOf? (some c)).isSome = false ∧ some c ≠ some '.' ∧
      some c ≠ some 'e' ∧ some c ≠ some 'E' := by
    simp only [List.forall_mem_cons]
    exact ⟨by decide, by decide, by decide, nofun⟩
  intro x hx
  obtain rfl := Option.some.inj hx
  exact hall c h

theorem skipBlanks_cons {c : Char} (h : isBlank (some c) = false) (r : List Symbol) :
    skipBlanks (some c :: r) = some c :: r := by
  simp [skipBlanks, h]

theorem readValue_int (i : Int) (fuel : Nat) {r : List Symbol} (hr : Follows r) :
    readValue (fuel + 1) ((Value.int i).chars.map some ++ r) = ((Value.int i).node, r) := by
  rw [chars_ofInt, Value.node]
  split
  · rename_i hi
    simp only [List.map_cons, List.cons_append]
    rw [readValue, skipBlanks_cons (by decide)]
    simp only [readMagnitude_ofNat true _ hr, hi, decide_true]
  · rename_i hi
    obtain ⟨c, cs, hc, hd, hn⟩ := ofNat_eq_cons i.natAbs
    have hm := readMagnitude_ofNat false i.natAbs hr
    rw [hc] at hm ⊢
    simp only [List.mem_cons, List.not_mem_nil, or_false, not_or] at hn
    simp only [List.map_cons, List.cons_append] at hm ⊢
    rw [readValue, skipBlanks_cons (by simp [isBlank, hn])]
    simp [hn, digitOf?, hd, hm, hi]

theorem readValue_str (s : String) (fuel : Nat) (r : List Symbol) :
    readValue (fuel + 1) ((Value.str s).chars.map some ++ r) = ((Value.str s).node, r) := by
  simp only [Value.chars, quote, List.map_cons, List.map_append, List.map_nil, List.cons_append,
    List.append_assoc, List.nil_append]
  rw [readValue, skipBlanks_cons (by decide)]
  simp only [readQuoted_quote, Value.node, Quoted.of]

mutual

theorem readValue_chars (v : Value) {fuel : Nat} (hf : v.weight ≤ fuel) {r : List Symbol}
    (hr : Follows r) : readValue fuel (v.chars.map some ++ r) = (v.node, r) := by
  cases fuel with
  | zero => cases v <;> simp [Value.weight] at hf
  | succ fuel =>
    cases v with
    | null => simp [readValue, Value.chars, Value.node, skipBlanks, isBlank, readWord]
    | bool b => cases b <;> simp [readValue, Value.chars, Value.node, skipBlanks, isBlank, readWord]
    | int i => exact readValue_int i fuel hr
    | str s => exact readValue_str s fuel r
    | arr items =>
      cases items with
      | nil => simp [readValue, Value.chars, Value.node, nodes, skipBlanks, isBlank]
      | cons v vs =>
        have hw : itemsWeight (v :: vs) ≤ fuel :=
          Nat.le_of_succ_le_succ (by simpa only [Value.weight] using hf)
        have hi := readItems_chars v vs hw r
        obtain ⟨c, cs, hc, hb, hn⟩ := chars_eq_cons v
        simp only [Value.chars, List.map_cons, List.map_append, List.map_nil, List.cons_append,
          List.append_assoc, List.nil_append] at hi ⊢
        rw [readValue, skipBlanks_cons (by decide)]
        rw [hc, List.map_cons, List.cons_append] at hi ⊢
        simp only [skipBlanks_cons hb]
        simp [hn, hi, Value.node]
    | obj members =>
      cases members with
      | nil => simp [readValue, Value.chars, Value.node, memberNodes, skipBlanks, isBlank]
      | cons m ms =>
        obtain ⟨k, v⟩ := m
        have hw : membersWeight ((k, v) :: ms) ≤ fuel :=
          Nat.le_of_succ_le_succ (by simpa only [Value.weight] using hf)
        have hm := readMembers_chars k v ms hw r
        simp only [Value.chars, quote, List.map_cons, List.map_append, List.map_nil,
          List.cons_append, List.append_assoc, List.nil_append] at hm ⊢
        rw [readValue, skipBlanks_cons (by decide)]
        simp only [skipBlanks_cons (c := '"') (by decide), hm, Value.node]
termination_by fuel

theorem readItems_chars (v : Value) (vs : List Value) {fuel : Nat}
    (hf : itemsWeight (v :: vs) ≤ fuel) (r : List Symbol) :
    readItems fuel ((v.chars ++ Value.moreItems vs ++ [']']).map some ++ r) =
      (nodes (v :: vs), none, r) := by
  simp only [itemsWeight] at hf
  cases fuel with
  | zero => omega
  | succ fuel =>
    have hv : v.weight ≤ fuel := by omega
    cases vs with
    | nil =>
      have hr := readValue_chars v hv (follows_of_mem (c := ']') (by decide) r)
      simp only [Value.moreItems, List.append_nil, List.map_append, List.map_cons, List.map_nil,
        List.append_assoc, List.cons_append, List.nil_append]
      rw [readItems, hr]
      simp only [fault_node]
      rw [skipBlanks_cons (by decide)]
      rfl
    | cons w ws =>
      have hr := readValue_chars v hv (follows_of_mem (c := ',') (by decide)
        ((w.chars ++ Value.moreItems ws ++ [']']).map some ++ r))
      have hw : itemsWeight (w :: ws) ≤ fuel := by
        simp only [itemsWeight] at hf ⊢
        omega
      have hi := readItems_chars w ws hw r
      simp only [Value.moreItems, List.map_append, List.map_cons, List.map_nil,
        List.append_assoc, List.cons_append, List.nil_append] at hr hi ⊢
      rw [readItems, hr]
      simp only [fault_node]
      rw [skipBlanks_cons (by decide)]
      simp only [hi, nodes]
termination_by fuel

theorem readMembers_chars (k : String) (v : Value) (ms : List (String × Value)) {fuel : Nat}
    (hf : membersWeight ((k, v) :: ms) ≤ fuel) (r : List Symbol) :
    readMembers fuel ((k.toList.flatMap escapeChar ++ '"' :: ':' :: v.chars ++
        Value.moreMembers ms ++ ['\x7d']).map some ++ r) =
      (memberNodes ((k, v) :: ms), none, r) := by
  simp only [membersWeight] at hf
  cases fuel with
  | zero => omega
  | succ fuel =>
    have hv : v.weight ≤ fuel := by omega
    cases ms with
    | nil =>
      have hr := readValue_chars v hv (follows_of_mem (c := '\x7d') (by decide) r)
      simp only [Value.moreMembers, List.append_nil, List.map_append, List.map_cons, List.map_nil,
        List.append_assoc, List.cons_append, List.nil_append]
      rw [readMembers, readQuoted_quote]
      dsimp only
      rw [skipBlanks_cons (by decide)]
      simp only [hr, fault_node]
      rw [skipBlanks_cons (by decide)]
      rfl
    | cons m ms =>
      obtain ⟨l, w⟩ := m
      have hr := readValue_chars v hv (follows_of_mem (c := ',') (by decide)
        (some '"' :: ((l.toList.flatMap escapeChar ++ '"' :: ':' :: w.chars ++
          Value.moreMembers ms ++ ['\x7d']).map some ++ r)))
      have hw : membersWeight ((l, w) :: ms) ≤ fuel := by
        simp only [membersWeight] at hf ⊢
        omega
      have hm := readMembers_chars l w ms hw r
      simp only [Value.moreMembers, quote, List.map_append, List.map_cons, List.map_nil,
        List.append_assoc, List.cons_append, List.nil_append] at hr hm ⊢
      rw [readMembers, readQuoted_quote]
      dsimp only
      rw [skipBlanks_cons (by decide)]
      simp only [hr, fault_node]
      rw [skipBlanks_cons (by decide)]
      simp only [skipBlanks_cons (c := '"') (by decide), hm, memberNodes, Quoted.of]
termination_by fuel

end

mutual

theorem weight_le (v : Value) : v.weight ≤ 2 * v.chars.length := by
  cases v with
  | null => simp [Value.weight, Value.chars]
  | bool b => cases b <;> simp [Value.weight, Value.chars]
  | int i =>
    obtain ⟨c, cs, hc, -⟩ := chars_eq_cons (.int i)
    simp only [Value.weight, hc, List.length_cons]
    omega
  | str s =>
    simp only [Value.weight, Value.chars, quote, List.length_append, List.length_cons]
    omega
  | arr items =>
    cases items with
    | nil => simp [Value.weight, Value.chars, itemsWeight]
    | cons v vs =>
      have hv := weight_le v
      have hvs := itemsWeight_le vs
      simp only [Value.weight, itemsWeight, Value.chars, List.length_append, List.length_cons]
      omega
  | obj members =>
    cases members with
    | nil => simp [Value.weight, Value.chars, membersWeight]
    | cons m ms =>
      obtain ⟨k, v⟩ := m
      have hv := weight_le v
      have hms := membersWeight_le ms
      simp only [Value.weight, membersWeight, Value.chars, List.length_append, List.length_cons]
      omega

theorem itemsWeight_le (vs : List Value) : itemsWeight vs ≤ 2 * (Value.moreItems vs).length := by
  cases vs with
  | nil => simp [itemsWeight]
  | cons v vs =>
    have hv := weight_le v
    have hvs := itemsWeight_le vs
    simp only [itemsWeight, Value.moreItems, List.length_append, List.length_cons]
    omega

theorem membersWeight_le (ms : List (String × Value)) :
    membersWeight ms ≤ 2 * (Value.moreMembers ms).length := by
  cases ms with
  | nil => simp [membersWeight]
  | cons m ms =>
    obtain ⟨k, v⟩ := m
    have hv := weight_le v
    have hms := membersWeight_le ms
    simp only [membersWeight, Value.moreMembers, List.length_append, List.length_cons]
    omega

end

theorem read_chars (v : Value) : read (v.chars.map some) = ⟨v.node, false⟩ := by
  have hw := weight_le v
  have hr : readValue (2 * (v.chars.map some).length + 2) (v.chars.map some ++ []) = (v.node, []) :=
    readValue_chars v (by rw [List.length_map]; omega) nofun
  rw [List.append_nil] at hr
  simp only [read, hr]
  rfl

theorem readBytes_encode (v : Value) : readBytes (Utf8.encode v.chars) = ⟨v.node, false⟩ := by
  rw [readBytes, Utf8.decode_encode, read_chars]

end SessionTokens.Json
