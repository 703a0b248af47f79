import SessionTokens.Proofs.Identity.Uuid
import SessionTokens.Proofs.Json.Node
import SessionTokens.Proofs.Token.Codec

/-! What a codec signs it reads. A text signed with claims can be read under any kind, if its
signature is right for that kind, and never says anything else than they do. -/

namespace SessionTokens

open Json

namespace Claims

variable {k k' : TokenKind}

theorem uuid_node (u : Uuid) : (Value.str u.text).node.uuid = .ok u := by
  simp only [Node.uuid, Node.text_node, Reading.ok_bind, Uuid.ofText?_text]
  rfl

/-- The roles that claims of one kind give when they are read as another. -/
def rolesAs? : (k k' : TokenKind) → k'.Roles → Option k.Roles
  | .userAccess, .userAccess, roles => some roles
  | .userAccess, _, _ => none
  | .userRefresh, _, _ => some ()
  | .deviceConnection, _, _ => some ()
  | .deviceRefresh, _, _ => some ()

theorem rolesAs?_self (roles : k.Roles) : rolesAs? k k roles = some roles := by cases k <;> rfl

theorem node_json (c : Claims k) :
    c.json.node = .object ((.string (.of "sub"), (Value.str c.subject.text).node) ::
      memberNodes (rolesJson k c.roles) ++ [(.string (.of "jti"), (Value.str c.jti.text).node),
        (.string (.of "iat"), (Value.int c.issuedAt).node),
        (.string (.of "exp"), (Value.int c.expiresAt).node)]) none := by
  cases k <;>
    simp only [json, rolesJson, Value.node, memberNodes, List.cons_append, List.nil_append]

theorem ofJson_json (c : Claims k') :
    ofJson k c.json.node = (do
      let issuedAt ← (Value.int c.issuedAt).node.int64
      let expiresAt ← (Value.int c.expiresAt).node.int64
      let roles ← required (rolesAs? k k' c.roles)
      return { subject := c.subject, roles, jti := c.jti, issuedAt, expiresAt }) := by
  rw [ofJson, node_json, Node.record]
  cases k <;> cases k' <;>
    simp only [rolesJson, memberNodes, memberNames, List.cons_append, List.nil_append,
      List.foldlM_cons, List.foldlM_nil, Node.addMember_of_mem, Node.addMember_of_not_mem,
      List.mem_cons, List.not_mem_nil, String.reduceEq, or_false, or_true, not_false_eq_true,
      Draft.fill, rolesAs?, Reading.ok_bind, bind_assoc, pure_bind, uuid_node, Node.text_node]
  case userAccess.userAccess =>
    rw [Node.list_node c.roles]
    cases (Value.int c.issuedAt).node.int64 <;> cases (Value.int c.expiresAt).node.int64 <;> rfl
  all_goals
    cases (Value.int c.issuedAt).node.int64 <;> cases (Value.int c.expiresAt).node.int64 <;> rfl

theorem ofJson_json_self (c : Claims k) (hi : Word.isSigned c.issuedAt = true)
    (he : Word.isSigned c.expiresAt = true) : ofJson k c.json.node = .ok c := by
  rw [ofJson_json, Node.int64_node, Node.int64_node, if_pos hi, if_pos he, rolesAs?_self]
  rfl

theorem fields_of_ofJson {c : Claims k} {c' : Claims k'} (h : ofJson k c'.json.node = .ok c) :
    ∃ roles, rolesAs? k k' c'.roles = some roles ∧
      c = ⟨c'.subject, roles, c'.jti, c'.issuedAt, c'.expiresAt⟩ := by
  rw [ofJson_json, Node.int64_node, Node.int64_node] at h
  by_cases hi : Word.isSigned c'.issuedAt = true
  · by_cases he : Word.isSigned c'.expiresAt = true
    · rw [if_pos hi, if_pos he] at h
      cases hr : rolesAs? k k' c'.roles with
      | none => rw [hr] at h; exact nomatch h
      | some roles =>
        rw [hr] at h
        exact ⟨roles, rfl, (Except.ok.inj h).symm⟩
    · rw [if_pos hi, if_neg he] at h
      exact nomatch h
  · rw [if_neg hi] at h
    exact nomatch h

theorem same_of_ofJson {c : Claims k} {c' : Claims k'} (h : ofJson k c'.json.node = .ok c) :
    c.subject = c'.subject ∧ c.jti = c'.jti ∧ c.expiresAt = c'.expiresAt := by
  obtain ⟨roles, -, rfl⟩ := fields_of_ofJson h
  exact ⟨rfl, rfl, rfl⟩

theorem eq_of_ofJson {c c' : Claims k} (h : ofJson k c'.json.node = .ok c) : c = c' := by
  obtain ⟨roles, hroles, rfl⟩ := fields_of_ofJson h
  rw [rolesAs?_self] at hroles
  obtain rfl := Option.some.inj hroles
  rfl

end Claims

namespace Codec

variable {k k' : TokenKind}

theorem ok_bind {α β : Type} (a : α) (f : α → Except Defect β) :
    ((.ok a : Except Defect α) >>= f) = f a := rfl

theorem namesAudience_json (c : Claims k) : namesAudience c.json.node = .ok false := by
  rw [Claims.node_json]
  cases k <;>
    simp only [namesAudience, Node.record, Claims.rolesJson, memberNodes, List.cons_append,
      List.nil_append, List.foldlM_cons, List.foldlM_nil, Node.addMember_of_mem,
      Node.addMember_of_not_mem, List.mem_cons, List.not_mem_nil, String.reduceEq, or_false,
      or_true, not_false_eq_true, Reading.ok_bind] <;>
    rfl

def headerJson : Value := .obj [("typ", .str "JWT"), ("alg", .str "HS256")]

theorem chars_headerJson : headerJson.chars = Header.written.toList := by
  simp [headerJson, Value.chars, Value.moreMembers, quote, escapeChar, escapeLetter?,
    Header.written]

theorem splitLastDot?_append {a b : List Char} (h : '.' ∉ b) :
    splitLastDot? (a ++ '.' :: b) = some (a, b) := by
  have hb : ∀ {b : List Char}, '.' ∉ b → splitLastDot? b = none := by
    intro b h
    induction b with
    | nil => rfl
    | cons c b ih =>
      rw [List.mem_cons, not_or] at h
      rw [splitLastDot?, ih h.2]
      simp [Ne.symm h.1]
  induction a with
  | nil => simp [splitLastDot?, hb h]
  | cons c a ih => simp [splitLastDot?, ih]

theorem decodePart_encodeText (v : Value) :
    decodePart (encodeText v.chars) = .ok ⟨v.node, false⟩ := by
  rw [decodePart, encodeText, Base64Url.decode_encode]
  simp only [readBytes_encode]

theorem algorithm_headerJson : Header.algorithm headerJson.node = .ok .hs256 := rfl

/-- Reading a signed message comes down to its signature and the claims in it. -/
theorem authentic_message (c : Codec) (claims : Claims k') (sig : List Char) (h : '.' ∉ sig) :
    c.authentic k (String.ofList (message claims ++ '.' :: sig)) =
      if sig = c.signature k (message claims) then
        readPayload k ⟨claims.json.node, false⟩
      else .error .signature := by
  have hm : splitLastDot? (message claims) =
      some (encodeText Header.written.toList, encodeText claims.json.chars) :=
    splitLastDot?_append (Base64Url.dot_not_mem_encode _)
  have hh : decodePart (encodeText Header.written.toList) = .ok ⟨headerJson.node, false⟩ := by
    rw [← chars_headerJson, decodePart_encodeText]
  have ha : readPart ⟨headerJson.node, false⟩ Header.algorithm = .ok .hs256 := by
    rw [readPart, Document.read, algorithm_headerJson]
    rfl
  unfold authentic
  rw [String.toList_ofList, splitLastDot?_append h]
  simp only [hm, hh, decodePart_encodeText, ok_bind, ha, ne_eq, not_true_eq_false,
    if_false]
  split
  · rfl
  · rename_i hs
    rw [if_pos (not_not.mp hs)]

theorem readPayload_json (claims : Claims k') :
    readPayload k ⟨claims.json.node, false⟩ =
      match Claims.ofJson k claims.json.node with
      | .ok claims => .ok (claims, false)
      | .error _ => .error .json := by
  simp only [readPayload, readPart, Document.read, namesAudience_json]
  cases Claims.ofJson k claims.json.node <;> rfl

theorem authentic_sign (c : Codec) (claims : Claims k)
    (hi : Word.isSigned claims.issuedAt = true) (he : Word.isSigned claims.expiresAt = true) :
    c.authentic k (c.sign claims) = .ok (claims, false) := by
  rw [sign, authentic_message c claims (c.signature k _) (Base64Url.dot_not_mem_encode _),
    if_pos rfl, readPayload_json, Claims.ofJson_json_self claims hi he]

theorem jti?_sign (c : Codec) (claims : Claims k) (hi : Word.isSigned claims.issuedAt = true)
    (he : Word.isSigned claims.expiresAt = true) : c.jti? k (c.sign claims) = some claims.jti :=
  jti?_of_authentic (authentic_sign c claims hi he)

theorem ofJson_of_authentic {c c' : Codec} {read : Claims k} {claims : Claims k'} {audience : Bool}
    (h : c.authentic k (c'.sign claims) = .ok (read, audience)) :
    Claims.ofJson k claims.json.node = .ok read := by
  rw [sign, authentic_message c claims (c'.signature k' _) (Base64Url.dot_not_mem_encode _)] at h
  split at h
  · rw [readPayload_json] at h
    split at h
    · rename_i hr
      obtain ⟨rfl, -⟩ := Prod.mk.inj (Except.ok.inj h)
      exact hr
    · exact nomatch h
  · exact nomatch h

/-- A text signed with claims, by whatever codec, is read as none that are about anything
else. -/
theorem same_of_authentic {c c' : Codec} {read : Claims k} {claims : Claims k'} {audience : Bool}
    (h : c.authentic k (c'.sign claims) = .ok (read, audience)) :
    read.subject = claims.subject ∧ read.jti = claims.jti ∧
      read.expiresAt = claims.expiresAt :=
  Claims.same_of_ofJson (ofJson_of_authentic h)

theorem eq_of_authentic {c c' : Codec} {read claims : Claims k} {audience : Bool}
    (h : c.authentic k (c'.sign claims) = .ok (read, audience)) : read = claims :=
  Claims.eq_of_ofJson (ofJson_of_authentic h)

end Codec

end SessionTokens
