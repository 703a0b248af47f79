import SessionTokens.Proofs.Json.Read

/-! What is read of a value that was written: its texts, its numbers if they fit a word, and the
members that are asked for by name. -/

namespace SessionTokens.Json

theorem Reading.ok_bind {α β : Type} (a : α) (f : α → Reading β) :
    ((.ok a : Reading α) >>= f) = f a := rfl

theorem Node.text_node (s : String) : (Value.str s).node.text = .ok s := by
  rw [Value.node, Node.text, Quoted.text_of]

theorem Node.list_node (ss : List String) :
    (Value.arr (ss.map .str)).node.list (·.text) = .ok ss := by
  have hm : (nodes (ss.map .str)).mapM (·.text) = (.ok ss : Reading _) := by
    induction ss with
    | nil => rfl
    | cons s ss ih =>
      rw [List.map_cons, nodes, List.mapM_cons, ih, Node.text_node]
      rfl
  simp only [Value.node, Node.list, hm, Reading.ok_bind, closed]
  rfl

theorem Node.int64_node (i : Int) :
    (Value.int i).node.int64 =
      if Word.isSigned i then .ok i else .error (Value.int i).node.complaint := by
  have hint : (Numeral.mk (decide (i < 0)) i.natAbs none).integer? = some i := by
    simp only [Numeral.integer?, decide_eq_true_eq]
    split
    · rw [if_neg (by omega)]
      congr 1
      omega
    · congr 1
      omega
  have hsmall : Word.isSigned i = true →
      (Numeral.mk (decide (i < 0)) i.natAbs none).tooLarge = false := by
    intro h
    have hbounds := Bool.and_eq_true_iff.mp h
    have hlow : -(Word.signedBound : Int) ≤ i := of_decide_eq_true hbounds.1
    have hhigh : i < Word.signedBound := of_decide_eq_true hbounds.2
    rw [Word.signedBound] at hlow hhigh
    by_cases hz : i.natAbs = 0
    · exact if_pos hz
    · have hlog : i.natAbs.log2 < 64 := (Nat.log2_lt hz).mpr (by omega)
      have hfew : (i.natAbs.log2 : Int) * 3 / 10 + 0 < 250 := by omega
      have hnot : ¬ (i.natAbs.log2 : Int) * 3 / 10 + 0 > 330 := by omega
      exact (if_neg hz).trans ((if_neg hnot).trans (if_pos hfew))
  simp only [Value.node, Node.int64, hint, Node.complaint]
  split
  · rename_i hl
    rw [if_neg fun h => by simp [hsmall h] at hl]
  · rfl

section Members

variable {σ : Type} {names : List String} {fill : String → Node → σ → Reading σ}
  {s : List String × σ} {name : String} {v : Value}

theorem Node.addMember_of_mem (hn : name ∈ names) (hs : name ∉ s.1) :
    Node.addMember names fill s (.string (.of name), v.node) =
      (fill name v.node s.2 >>= fun t => .ok (name :: s.1, t)) := by
  simp only [Node.addMember, Quoted.text_of, Reading.ok_bind, if_pos hn, if_neg hs]
  rfl

theorem Node.addMember_of_not_mem (hn : name ∉ names) :
    Node.addMember names fill s (.string (.of name), v.node) = .ok s := by
  simp only [Node.addMember, Quoted.text_of, Reading.ok_bind, if_neg hn, Node.skip, fault_node]
  rfl

end Members

end SessionTokens.Json
