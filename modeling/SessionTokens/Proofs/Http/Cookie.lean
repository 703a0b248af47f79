import SessionTokens.Proofs.Http.Api
import SessionTokens.Proofs.Text.Bytes

/-! Cookies come back as they were set, also among others. What cuts a list of cookies is the
semicolons between them, as long as no cookie has one of its own or leaves a quotation open. -/

namespace SessionTokens.Http

namespace Cookie

/-- Whether a quotation is open behind these characters. -/
def quoted (open_ : Bool) (cs : List Char) : Bool :=
  cs.foldl (fun q c => if c = '"' then !q else q) open_

/-- The text of one cookie: it is not cut, and leaves no quotation open. -/
def Whole (cs : List Char) : Prop := pieces false cs = [cs] ∧ quoted false cs = false

theorem pieces_ne_nil (q : Bool) (cs : List Char) : pieces q cs ≠ [] := by
  cases cs with
  | nil => simp [pieces]
  | cons c cs =>
    rw [pieces]
    split
    · simp
    · split <;> simp

theorem pieces_cons {q : Bool} {c : Char} {cs p : List Char} {ps : List (List Char)}
    (hc : ¬ (c = ';' ∧ q = false)) (h : pieces (if c = '"' then !q else q) cs = p :: ps) :
    pieces q (c :: cs) = (c :: p) :: ps := by
  rw [pieces, if_neg hc, h]

/-- A cookie that is whole is cut off where it ends. -/
theorem pieces_append {q : Bool} {cs rest : List Char} (hwhole : pieces q cs = [cs])
    (hclosed : quoted q cs = false) : pieces q (cs ++ ';' :: rest) = cs :: pieces false rest := by
  induction cs generalizing q with
  | nil =>
    obtain rfl : q = false := hclosed
    simp [pieces]
  | cons c cs ih =>
    by_cases hc : c = ';' ∧ q = false
    · rw [pieces, if_pos hc] at hwhole
      exact nomatch hwhole
    · obtain ⟨p, ps, hps⟩ :=
        List.exists_cons_of_ne_nil (pieces_ne_nil (if c = '"' then !q else q) cs)
      rw [pieces_cons hc hps] at hwhole
      obtain ⟨hp, rfl⟩ := List.cons.inj hwhole
      obtain ⟨-, rfl⟩ := List.cons.inj hp
      exact pieces_cons hc (ih hps hclosed)

theorem trim_blank {c : Char} (hc : isBlank c = true) (cs : List Char) :
    trim (c :: cs) = trim cs := by
  rw [trim, trim, List.dropWhile_cons_of_pos hc]

theorem pair?_blank (cs : List Char) : pair? (' ' :: cs) = pair? cs := by
  have hdrop : (' ' :: cs).dropWhile (· != '=') = cs.dropWhile (· != '=') :=
    List.dropWhile_cons_of_pos (by decide)
  have htake : (' ' :: cs).takeWhile (· != '=') = ' ' :: cs.takeWhile (· != '=') :=
    List.takeWhile_cons_of_pos (by decide)
  rw [pair?, pair?, hdrop, htake, trim_blank (by decide)]

theorem pairs_blank (cs : List Char) :
    (pieces false (' ' :: cs)).filterMap pair? = (pieces false cs).filterMap pair? := by
  obtain ⟨p, ps, hps⟩ := List.exists_cons_of_ne_nil (pieces_ne_nil false cs)
  rw [pieces_cons (by decide) (by simpa using hps), hps]
  simp only [List.filterMap_cons, pair?_blank]

/-- Read back, the cookies of a list are those of its texts. -/
theorem parse_intercalate {texts : List String} (h : ∀ t ∈ texts, Whole t.toList) :
    parse ("; ".intercalate texts) = texts.filterMap fun t => pair? t.toList := by
  induction texts with
  | nil => rfl
  | cons t texts ih =>
    obtain ⟨hwhole, hclosed⟩ := h t (List.mem_cons_self ..)
    cases texts with
    | nil => simp [parse, hwhole, List.filterMap_cons]
    | cons u texts =>
      have hrest := ih fun t' ht' => h t' (List.mem_cons_of_mem _ ht')
      have htext : ("; ".intercalate (t :: u :: texts)).toList =
          t.toList ++ ';' :: ' ' :: ("; ".intercalate (u :: texts)).toList := by
        rw [String.intercalate_cons_cons]
        simp
      rw [parse] at hrest ⊢
      rw [htext, pieces_append hwhole hclosed, List.filterMap_cons, pairs_blank, hrest]
      rfl

/-- The text can stand in a header that is read. -/
def Plain (t : String) : Prop := (t.toList.all fun c => isFieldChar c && c.toNat < 128) = true

instance (t : String) : Decidable (Plain t) := inferInstanceAs (Decidable (_ = true))

theorem plain?_of_plain {h : Header} (hplain : Plain h.value) : h.plain? = some h.value :=
  if_pos hplain

theorem plain_append {t u : String} : Plain (t ++ u) ↔ Plain t ∧ Plain u := by
  simp only [Plain, String.toList_append, List.all_append, Bool.and_eq_true]

theorem plain_intercalate {texts : List String} :
    Plain ("; ".intercalate texts) ↔ ∀ t ∈ texts, Plain t := by
  have hseparator : Plain "; " := by decide +kernel
  induction texts with
  | nil => simp [Plain]
  | cons t texts ih =>
    cases texts with
    | nil => simp
    | cons u texts =>
      rw [String.intercalate_cons_cons, plain_append, plain_append, List.forall_mem_cons]
      exact ⟨fun h => ⟨h.1.1, ih.mp h.2⟩, fun h => ⟨⟨h.1, hseparator⟩, ih.mpr h.2⟩⟩

theorem joined?_of_plain {q : Request}
    (h : Plain ("; ".intercalate ((q.all "cookie").map (·.value)))) :
    joined? q = some ("; ".intercalate ((q.all "cookie").map (·.value))) := by
  have hvalues : ∀ {hs : List Header}, (∀ h ∈ hs, Plain h.value) →
      hs.mapM (·.plain?) = some (hs.map (·.value)) := by
    intro hs hplain
    induction hs with
    | nil => rfl
    | cons h hs ih =>
      obtain ⟨hhead, hrest⟩ := List.forall_mem_cons.mp hplain
      rw [List.mapM_cons, plain?_of_plain hhead, ih hrest]
      rfl
  rw [joined?, hvalues fun c hc => plain_intercalate.mp h _ (List.mem_map_of_mem hc)]
  rfl

/-- A character without a meaning for cookies or in a header. -/
def Clear (c : Char) : Prop :=
  (isFieldChar c && c.toNat < 128) = true ∧ c ≠ ';' ∧ c ≠ '"' ∧ c ≠ '=' ∧ isBlank c = false

instance (c : Char) : Decidable (Clear c) := by unfold Clear; infer_instance

section Clear

variable {cs : List Char}

theorem whole_of_clear (h : ∀ c ∈ cs, c ≠ ';' ∧ c ≠ '"') : Whole cs := by
  induction cs with
  | nil => exact ⟨rfl, rfl⟩
  | cons c cs ih =>
    obtain ⟨hsemicolon, hquote⟩ := h c (List.mem_cons_self ..)
    obtain ⟨hwhole, hclosed⟩ := ih fun c' hc' => h c' (List.mem_cons_of_mem _ hc')
    refine ⟨pieces_cons (fun hc => hsemicolon hc.1) (by rwa [if_neg hquote]), ?_⟩
    rw [quoted, List.foldl_cons, if_neg hquote]
    exact hclosed

theorem trim_of_clear (h : ∀ c ∈ cs, isBlank c = false) : trim cs = cs := by
  have hfront : ∀ {cs : List Char}, (∀ c ∈ cs, isBlank c = false) → cs.dropWhile isBlank = cs := by
    intro cs h
    cases cs with
    | nil => rfl
    | cons c cs => exact List.dropWhile_cons_of_neg (by simp [h c (List.mem_cons_self ..)])
  rw [trim, hfront h, hfront fun c hc => h c (List.mem_reverse.mp hc), List.reverse_reverse]

theorem pair?_of_clear {name value : String}
    (hname : ∀ c ∈ name.toList, c ≠ '=' ∧ isBlank c = false)
    (hvalue : ∀ c ∈ value.toList, isBlank c = false) :
    pair? (name ++ "=" ++ value).toList = some (name, value) := by
  have htext : (name ++ "=" ++ value).toList = name.toList ++ '=' :: value.toList := by simp
  have hne : ∀ c ∈ name.toList, (c != '=') = true := fun c hc => by simp [(hname c hc).1]
  rw [htext, pair?, List.dropWhile_append_of_pos hne, List.takeWhile_append_of_pos hne,
    List.dropWhile_cons_of_neg (by decide), List.takeWhile_cons_of_neg (by decide)]
  simp only [List.append_nil, trim_of_clear fun c hc => (hname c hc).2, trim_of_clear hvalue,
    String.ofList_toList]

end Clear

/-- The part of a Set-Cookie header that is sent back. -/
def sentBack (set : String) : String := String.ofList (set.toList.takeWhile (· != ';'))

/-- The text of a cookie of another name. -/
structure Other (name : String) (t : String) : Prop where
  plain : Plain t
  whole : Whole t.toList
  named (c : String × String) : pair? t.toList = some c → c.1 ≠ name

theorem find_of_others {name own value : String} {before after : List String}
    (hown : pair? own.toList = some (name, value)) (hwhole : Whole own.toList)
    (hothers : ∀ t ∈ before ++ after, Other name t) :
    (parse ("; ".intercalate (before ++ own :: after))).find? (·.1 == name) =
      some (name, value) := by
  have hall : ∀ t ∈ before ++ own :: after, Whole t.toList := by
    intro t ht
    rcases List.mem_append.mp ht with ht | ht
    · exact (hothers t (List.mem_append_left _ ht)).whole
    · rcases List.mem_cons.mp ht with rfl | ht
      · exact hwhole
      · exact (hothers t (List.mem_append_right _ ht)).whole
  have hnone : (before.filterMap fun t => pair? t.toList).find? (·.1 == name) = none := by
    refine List.find?_eq_none.mpr fun c hc => ?_
    obtain ⟨t, ht, hpair⟩ := List.mem_filterMap.mp hc
    simpa using (hothers t (List.mem_append_left _ ht)).named c hpair
  have hsome : ((own :: after).filterMap fun t => pair? t.toList).find? (·.1 == name) =
      some (name, value) := by
    simp [hown]
  rw [parse_intercalate hall, List.filterMap_append, List.find?_append, hnone, hsome]
  rfl

end Cookie

open Cookie

theorem clear_sign (codec : Codec) {k : TokenKind} (claims : Claims k) :
    ∀ c ∈ (codec.sign claims).toList, Clear c := by
  have hdigit : ∀ n < 64, Clear (Base64Url.digit n) := by decide
  have hencode : ∀ {bs : List UInt8} {c : Char}, c ∈ Base64Url.encode bs → Clear c := by
    intro bs c hc
    obtain ⟨n, hn, rfl⟩ := Base64Url.exists_digit_of_mem_encode hc
    exact hdigit n hn
  have hdot : Clear '.' := by decide
  intro c hc
  simp only [Codec.sign, Codec.message, Codec.encodeText, Codec.signature, String.toList_ofList,
    List.mem_append, List.mem_cons] at hc
  rcases hc with (hc | rfl | hc) | rfl | hc
  · exact hencode hc
  · exact hdot
  · exact hencode hc
  · exact hdot
  · exact hencode hc

theorem sign_ne_empty (codec : Codec) {k : TokenKind} (claims : Claims k) :
    codec.sign claims ≠ "" := by
  intro h
  have hempty := congrArg String.toList h
  simp [Codec.sign] at hempty

namespace Request

variable {q : Request} {token : String}

/-- The request sends a cookie back that was set, and maybe others of other names. -/
def Returns (q : Request) (set : String) : Prop :=
  ∃ before after, (∀ t ∈ before ++ after, Other Api.refreshCookie t) ∧
    "; ".intercalate ((q.all "cookie").map (·.value)) =
      "; ".intercalate (before ++ sentBack set :: after)

theorem refreshToken?_of_returns {api : Api} {maxAge : Nat} (hclear : ∀ c ∈ token.toList, Clear c)
    (hne : token ≠ "") (h : q.Returns (api.cookie token maxAge).text) :
    Api.refreshToken? q = some token := by
  obtain ⟨before, after, hothers, hvalues⟩ := h
  have hname : ∀ c ∈ Api.refreshCookie.toList, Clear c := by
    have hall : (Api.refreshCookie.toList.all fun c => decide (Clear c)) = true := by
      decide +kernel
    exact fun c hc => of_decide_eq_true (List.all_eq_true.mp hall c hc)
  have hown : ∀ c ∈ (Api.refreshCookie ++ "=" ++ token).toList, c = '=' ∨ Clear c := by
    intro c hc
    simp only [String.toList_append, List.mem_append] at hc
    rcases hc with (hc | hc) | hc
    · exact .inr (hname c hc)
    · exact .inl (by simpa using hc)
    · exact .inr (hclear c hc)
  have hcut : ∀ c ∈ (Api.refreshCookie ++ "=" ++ token).toList, c ≠ ';' ∧ c ≠ '"' := by
    intro c hc
    rcases hown c hc with rfl | hc
    · decide
    · exact ⟨hc.2.1, hc.2.2.1⟩
  have hplain : Plain (Api.refreshCookie ++ "=" ++ token) := by
    refine List.all_eq_true.mpr fun c hc => ?_
    rcases hown c hc with rfl | hc
    · decide
    · exact hc.1
  have hback : sentBack (api.cookie token maxAge).text = Api.refreshCookie ++ "=" ++ token := by
    have hkeep : ∀ c ∈ (Api.refreshCookie ++ "=" ++ token).toList, (c != ';') = true :=
      fun c hc => by simp [(hcut c hc).1]
    refine String.toList_inj.mp ?_
    rw [sentBack, String.toList_ofList, Api.toList_cookie, ← List.append_assoc,
      ← String.toList_append, List.takeWhile_append_of_pos hkeep]
    simp
  rw [hback] at hvalues
  have hjoined : joined? q = some ("; ".intercalate
      (before ++ (Api.refreshCookie ++ "=" ++ token) :: after)) := by
    rw [← hvalues]
    refine joined?_of_plain (hvalues ▸ plain_intercalate.mpr fun t ht => ?_)
    rcases List.mem_append.mp ht with ht | ht
    · exact (hothers t (List.mem_append_left _ ht)).plain
    · rcases List.mem_cons.mp ht with rfl | ht
      · exact hplain
      · exact (hothers t (List.mem_append_right _ ht)).plain
  have hpair : pair? (Api.refreshCookie ++ "=" ++ token).toList = some (Api.refreshCookie, token) :=
    pair?_of_clear (fun c hc => ⟨(hname c hc).2.2.2.1, (hname c hc).2.2.2.2⟩)
      fun c hc => (hclear c hc).2.2.2.2
  have hfind := find_of_others hpair (whole_of_clear hcut) hothers
  have hcookie : q.cookie? Api.refreshCookie = some token := by
    simp only [cookie?, hjoined, Option.bind_eq_bind, Option.bind_some, hfind]
    rfl
  simp [Api.refreshToken?, hcookie, hne]

theorem bearer?_of_authorization (hclear : ∀ c ∈ token.toList, Clear c) (hne : token ≠ "")
    (h : q.first? "authorization" = some ⟨"authorization", "Bearer " ++ token⟩) :
    q.bearer? = some token := by
  have hlead : Plain "Bearer " := by decide +kernel
  have hplain := plain?_of_plain (h := ⟨"authorization", "Bearer " ++ token⟩)
    (plain_append.mpr ⟨hlead, List.all_eq_true.mpr fun c hc => (hclear c hc).1⟩)
  have hsome : token.toList ≠ [] := fun h => hne (String.toList_eq_nil_iff.mp h)
  simp only [bearer?, h, Option.bind_some, hplain, Api.bearerOf?, String.toList_append]
  simp [hsome]

end Request

end SessionTokens.Http
