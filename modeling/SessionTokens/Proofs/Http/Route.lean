import SessionTokens.Http.Route
import SessionTokens.Proofs.Program.Dealings

/-! What a handler reads costs nothing: only its session operations have dealings. And what a
request is answered with, or has dealings with, comes from the handler of a route that it
reaches. -/

namespace SessionTokens.Http

open Program

namespace Handling

variable {α β : Type} {os : List Occurrence}

/-- A computation without dealings, whose results all have a property. -/
def Idle (x : Handling α) (P : α → Prop) : Prop :=
  ∀ os r, Gives x os r → dealings os = [] ∧ ∀ a, r = .ok a → P a

theorem idle_pure {P : α → Prop} {a : α} (h : P a) : Idle (pure a) P := by
  intro os r hr
  obtain ⟨rfl, rfl⟩ := gives_pure.mp hr
  refine ⟨rfl, fun b hb => ?_⟩
  obtain rfl := Except.ok.inj hb
  exact h

theorem idle_throw {P : α → Prop} {e : Rejection} : Idle (throw e) P := by
  intro os r hr
  obtain ⟨rfl, rfl⟩ := gives_throw.mp hr
  exact ⟨rfl, nofun⟩

theorem idle_emit {e : Log.Event} : Idle (emit e) fun _ => True := by
  intro os r hr
  obtain ⟨us, rfl, hd⟩ := yields_emit.mp hr
  obtain ⟨rfl, -⟩ := yields_done.mp hd
  exact ⟨rfl, fun _ _ => trivial⟩

theorem gives_idle_bind {x : Handling α} {f : α → Handling β} {P : α → Prop}
    {r : Except Rejection β}
    (hx : Idle x P) (h : Gives (x >>= f) os r) :
    (dealings os = [] ∧ ∃ e, r = .error e) ∨
      ∃ a us, P a ∧ Gives (f a) us r ∧ dealings os = dealings us := by
  rcases gives_bind.mp h with ⟨e, he, rfl⟩ | ⟨us, vs, a, rfl, ha, hf⟩
  · exact .inl ⟨(hx _ _ he).1, e, rfl⟩
  · obtain ⟨hd, hP⟩ := hx _ _ ha
    exact .inr ⟨a, vs, hP a rfl, hf, by rw [dealings_append, hd, List.nil_append]⟩

theorem Idle.bind {x : Handling α} {f : α → Handling β} {P : α → Prop} {R : β → Prop}
    (hx : Idle x P) (hf : ∀ a, P a → Idle (f a) R) : Idle (x >>= f) R := by
  intro os r h
  rcases gives_idle_bind hx h with ⟨hd, e, rfl⟩ | ⟨a, us, ha, h, hd⟩
  · exact ⟨hd, nofun⟩
  · rw [hd]
    exact hf a ha us r h

theorem idle_emitAll {events : List Log.Event} : Idle (emitAll events) fun _ => True := by
  induction events with
  | nil => exact idle_pure trivial
  | cons e es ih => exact idle_emit.bind fun _ _ => ih

theorem gives_emitAll {events : List Log.Event} {r : Except Rejection Unit}
    (h : Gives (emitAll events) os r) : r = .ok () := by
  cases r with
  | ok => rfl
  | error causes =>
    induction events generalizing os with
    | nil => exact nomatch (gives_pure.mp h).2
    | cons e es ih =>
      rcases gives_bind.mp h with ⟨_, he, hcauses⟩ | ⟨us, vs, _, rfl, -, hrest⟩
      · obtain ⟨ws, rfl, hd⟩ := yields_emit.mp he
        exact nomatch (yields_done.mp hd).2
      · exact ih hrest

theorem idle_header? {q : Request} {name : String} :
    Idle (header? q name) fun value => value = (q.first? name).bind Header.plain? := by
  unfold header?
  split
  · rename_i h
    exact idle_pure (by rw [h]; rfl)
  · rename_i hd h
    split
    · rename_i value hv
      exact idle_pure (by rw [h]; exact hv.symm)
    · exact idle_throw

theorem idle_limitLength {q : Request} {limit : Nat} :
    Idle (limitLength q limit) fun _ => True := by
  unfold limitLength
  split
  · exact idle_throw
  · split
    · exact idle_pure trivial
    · exact idle_throw

theorem idle_body {q : Request} {value : Json.Node → Json.Reading α} :
    Idle (body q value) fun a => (Json.readBytes q.body).read value = .ok a := by
  unfold body
  cases (Json.readBytes q.body).read value with
  | ok a =>
    cases q.first? "content-type" with
    | none => exact idle_pure rfl
    | some h =>
      dsimp only
      split
      · exact (idle_throw (P := fun _ => False)).bind fun _ h => h.elim
      · exact idle_pure rfl
  | error e =>
    cases q.first? "content-type" with
    | none => exact idle_throw
    | some h =>
      dsimp only
      split
      · exact (idle_throw (P := fun _ => False)).bind fun _ h => h.elim
      · exact idle_throw

theorem gives_ofOperation_bind {op : Operation α} {f : α → Handling β} {r : Except Rejection β}
    (h : Gives (ofOperation op >>= f) os r) :
    (∃ us e causes, Gives op us (.error e) ∧ dealings os = dealings us ∧ r = .error causes) ∨
      ∃ us vs a, Gives op us (.ok a) ∧ dealings os = dealings us ++ dealings vs ∧
        Gives (f a) vs r := by
  rw [ofOperation, bind_assoc] at h
  obtain ⟨us, vs, x, rfl, hx, hrest⟩ := gives_lift_bind.mp h
  cases x with
  | ok a =>
    rw [pure_bind] at hrest
    exact .inr ⟨us, vs, a, hx, dealings_append, hrest⟩
  | error e =>
    have hreject : Idle ((emitAll (ApiError.sessionEvents e) >>= fun _ =>
        (reject (.refused (.ofSession e)) : Handling α)) >>= f) fun _ => False :=
      (idle_emitAll.bind fun _ _ => idle_throw (P := fun _ => False)).bind fun _ h => h.elim
    obtain ⟨hd, hr⟩ := hreject _ _ hrest
    cases r with
    | ok a => exact (hr a rfl).elim
    | error causes =>
      refine .inl ⟨us, e, causes, hx, ?_, rfl⟩
      rw [dealings_append, hd, List.append_nil]

theorem gives_ofOperation_ok {op : Operation α} {a : α} :
    Gives (ofOperation op) os (.ok a) ↔ Gives op os (.ok a) := by
  unfold ofOperation
  rw [gives_lift_bind]
  constructor
  · rintro ⟨us, vs, x, rfl, hx, hrest⟩
    cases x with
    | ok b =>
      obtain ⟨rfl, hb⟩ := gives_pure.mp hrest
      rwa [List.append_nil, Except.ok.inj hb]
    | error e =>
      rcases gives_bind.mp hrest with ⟨causes, -, h⟩ | ⟨us, vs, _, rfl, -, h⟩
      · exact nomatch h
      · exact nomatch (gives_throw.mp h).2
  · exact fun h => ⟨os, [], .ok a, (List.append_nil os).symm, h, gives_pure.mpr ⟨rfl, rfl⟩⟩

theorem gives_ofOperation_return {op : Operation α} {f : α → β} {r : Except Rejection β}
    (h : Gives (ofOperation op >>= fun a => pure (f a)) os r) :
    ∃ us x, Gives op us x ∧ dealings os = dealings us ∧
      ((∃ a, x = .ok a ∧ r = .ok (f a)) ∨ ∃ e causes, x = .error e ∧ r = .error causes) := by
  rcases gives_ofOperation_bind h with ⟨us, e, causes, hx, hd, rfl⟩ | ⟨us, vs, a, hx, hd, hf⟩
  · exact ⟨us, _, hx, hd, .inr ⟨e, causes, rfl, rfl⟩⟩
  · obtain ⟨rfl, rfl⟩ := gives_pure.mp hf
    exact ⟨us, _, hx, by simpa using hd, .inl ⟨a, rfl, rfl⟩⟩

end Handling

def Request.Reaches (q : Request) (mount : List String) (method : String)
    (segments : List String) : Prop :=
  q.method = method ∧ ∃ below, q.below mount = some below ∧ afterSegments segments below = some []

theorem afterSegments_cons_nil {s : String} {ss : List String} (hs : "" ∉ s :: ss) :
    afterSegments (s :: ss) [] = none := by
  have hne : ¬ [] = s.toList := fun h => hs (by simp [String.toList_eq_nil_iff.mp h.symm])
  rw [afterSegments, List.takeWhile_nil, if_neg hne]

theorem segments_unique {ss ts : List String} {below : List Char}
    (hs : afterSegments ss below = some []) (ht : afterSegments ts below = some [])
    (hss : "" ∉ ss) (hts : "" ∉ ts) : ss = ts := by
  induction ss generalizing ts below with
  | nil =>
    obtain rfl := Option.some.inj hs
    cases ts with
    | nil => rfl
    | cons t ts => exact nomatch (afterSegments_cons_nil hts).symm.trans ht
  | cons s ss ih =>
    cases ts with
    | nil =>
      obtain rfl := Option.some.inj ht
      exact nomatch (afterSegments_cons_nil hss).symm.trans hs
    | cons t ts =>
      simp only [afterSegments] at hs ht
      split at hs
      · rename_i hsl
        split at ht
        · rename_i htl
          obtain rfl := String.toList_inj.mp (hsl.symm.trans htl)
          rw [ih hs ht (fun h => hss (List.mem_cons_of_mem _ h))
            fun h => hts (List.mem_cons_of_mem _ h)]
        · exact nomatch ht
      · exact nomatch hs

theorem Request.Reaches.unique {q : Request} {mount : List String} {method method' : String}
    {ss ts : List String} (h : q.Reaches mount method ss) (h' : q.Reaches mount method' ts)
    (hss : "" ∉ ss) (hts : "" ∉ ts) : method = method' ∧ ss = ts := by
  obtain ⟨hm, below, hb, hs⟩ := h
  obtain ⟨hm', below', hb', ht⟩ := h'
  obtain rfl := Option.some.inj (hb.symm.trans hb')
  exact ⟨hm.symm.trans hm', segments_unique hs ht hss hts⟩

namespace Route

variable {mount : List String} {rs : List Route} {q : Request} {os : List Occurrence}
  {below : List Char}

theorem offer_eq {r : Route} : r.offer q below =
    (if q.method ≠ r.method then Handling.reject .methodNotAllowed else pure ()) >>= fun _ =>
      (if afterSegments r.segments below ≠ some [] then throw [] else pure ()) >>= fun _ =>
        r.handle q := by
  unfold offer
  split <;> split <;> rfl

theorem gives_offer {r : Route} {a : Except Rejection Response} (h : Gives (r.offer q below) os a) :
    (os = [] ∧ ∃ e, a = .error e) ∨
      (q.method = r.method ∧ afterSegments r.segments below = some [] ∧
        Gives (r.handle q) os a) := by
  rw [offer_eq] at h
  by_cases hm : q.method = r.method
  · by_cases hs : afterSegments r.segments below = some []
    · refine .inr ⟨hm, hs, ?_⟩
      rwa [if_neg (not_not.mpr hm), if_neg (not_not.mpr hs), pure_bind, pure_bind] at h
    · rw [if_neg (not_not.mpr hm), if_pos hs, pure_bind] at h
      rcases gives_bind.mp h with ⟨e, he, rfl⟩ | ⟨us, vs, _, rfl, hx, -⟩
      · exact .inl ⟨(gives_throw.mp he).1, e, rfl⟩
      · exact nomatch (gives_throw.mp hx).2
  · rw [if_pos hm] at h
    rcases gives_bind.mp h with ⟨e, he, rfl⟩ | ⟨us, vs, _, rfl, hx, -⟩
    · exact .inl ⟨(gives_throw.mp he).1, e, rfl⟩
    · exact nomatch (gives_throw.mp hx).2

/-- What a route in the list does when a request reaches it, as a part of a course. -/
structure Handles (mount : List String) (rs : List Route) (q : Request) (os us : List Occurrence)
    (a : Except Rejection Response) : Prop where
  reached : ∃ r ∈ rs, q.Reaches mount r.method r.segments ∧ Gives (r.handle q) us a
  part : us ⊆ os

theorem Handles.mono {ss : List Route} {ws us : List Occurrence} {a : Except Rejection Response}
    (h : Handles mount rs q us ws a) (hr : rs ⊆ ss) (hs : us ⊆ os) :
    Handles mount ss q os ws a := by
  obtain ⟨⟨r, hm, hr'⟩, hp⟩ := h
  exact ⟨⟨r, hr hm, hr'⟩, fun o ho => hs (hp ho)⟩

/-- The answer of the first route that has one, and everything that is met with on the way,
comes from routes that are reached. -/
theorem gives_firstOf {a : Except Rejection Response} (hb : q.below mount = some below)
    (h : Gives (firstOf rs q below) os a) :
    (∀ response, a = .ok response → ∃ us, Handles mount rs q os us (.ok response)) ∧
      ∀ o ∈ os, ∃ us b, Handles mount rs q os us b ∧ o ∈ us ∧
        ∀ response, b = .ok response → a = .ok response := by
  induction rs generalizing os a with
  | nil =>
    obtain ⟨rfl, rfl⟩ := gives_throw.mp h
    exact ⟨nofun, nofun⟩
  | cons r rs ih =>
    obtain ⟨us, vs, x, rfl, hy, hrest⟩ := gives_lift_bind.mp h
    have hfirst : (us = [] ∧ ∃ e, x = .error e) ∨ Handles mount (r :: rs) q (us ++ vs) us x := by
      rcases gives_offer hy with hn | ⟨hm, hs, hr⟩
      · exact .inl hn
      · exact .inr ⟨⟨r, List.mem_cons_self .., ⟨hm, below, hb, hs⟩, hr⟩,
          List.subset_append_left ..⟩
    cases x with
    | ok response =>
      obtain ⟨rfl, rfl⟩ := gives_pure.mp hrest
      rcases hfirst with ⟨-, e, he⟩ | hs
      · exact nomatch he
      · refine ⟨fun response' hr => ⟨us, ?_⟩,
          fun o ho => ⟨us, _, hs, by simpa using ho, fun _ => id⟩⟩
        rwa [← hr]
    | error causes =>
      obtain ⟨ws, zs, x', rfl, hy', hlast⟩ := gives_lift_bind.mp hrest
      obtain ⟨hanswer, hpart⟩ := ih hy'
      have hmono : ∀ {xs : List Occurrence} {b : Except Rejection Response},
          Handles mount rs q ws xs b → Handles mount (r :: rs) q (us ++ (ws ++ zs)) xs b :=
        fun h => h.mono (List.subset_cons_self ..)
          (List.Subset.trans (List.subset_append_left ..) (List.subset_append_right ..))
      have hend : zs = [] ∧ ∀ response, x' = .ok response ↔ a = .ok response := by
        cases x' with
        | ok response =>
          obtain ⟨rfl, rfl⟩ := gives_pure.mp hlast
          exact ⟨rfl, fun _ => Iff.rfl⟩
        | error more =>
          obtain ⟨rfl, rfl⟩ := gives_throw.mp hlast
          exact ⟨rfl, by simp⟩
      obtain ⟨rfl, hx⟩ := hend
      refine ⟨fun response hr => ?_, fun o ho => ?_⟩
      · obtain ⟨xs, hs⟩ := hanswer response ((hx response).mpr hr)
        exact ⟨xs, hmono hs⟩
      · rw [List.append_nil] at ho
        rcases List.mem_append.mp ho with ho | ho
        · rcases hfirst with ⟨rfl, -⟩ | hs
          · exact nomatch ho
          · exact ⟨us, _, hs, ho, nofun⟩
        · obtain ⟨xs, b, hs, hox, hb⟩ := hpart o ho
          exact ⟨xs, b, hmono hs, hox, fun response h => (hx response).mp (hb response h)⟩

/-- An answer that is no complaint comes from a handler, and so does every dealing. -/
theorem yields_respond {response : Response} (h : (respond mount rs q).Yields os response) :
    ((∃ e : ApiError, response = e.response) ∨ ∃ us, Handles mount rs q os us (.ok response)) ∧
      ∀ o ∈ dealings os, ∃ us b, Handles mount rs q os us b ∧ o ∈ us ∧
        ∀ r, b = .ok r → r = response := by
  obtain ⟨us, vs, a, rfl, ha, hrest⟩ := yields_bind.mp h
  have hhandled : (∀ response, a = .ok response → ∃ ws, Handles mount rs q us ws (.ok response)) ∧
      ∀ o ∈ us, ∃ ws b, Handles mount rs q us ws b ∧ o ∈ ws ∧
        ∀ response, b = .ok response → a = .ok response := by
    cases hb : q.below mount with
    | some below =>
      rw [hb] at ha
      exact gives_firstOf hb ha
    | none =>
      rw [hb] at ha
      obtain ⟨rfl, rfl⟩ := gives_throw.mp ha
      exact ⟨nofun, nofun⟩
  have hmono : ∀ {ws : List Occurrence} {b : Except Rejection Response},
      Handles mount rs q us ws b → Handles mount rs q (us ++ vs) ws b :=
    fun h => h.mono (List.Subset.refl _) (List.subset_append_left ..)
  cases a with
  | ok r =>
    obtain ⟨rfl, rfl⟩ := yields_done.mp hrest
    obtain ⟨ws, hs⟩ := hhandled.1 response rfl
    refine ⟨.inr ⟨ws, hmono hs⟩, fun o ho => ?_⟩
    obtain ⟨ws, b, hs, hos, hb⟩ := hhandled.2 o (by simpa using mem_of_mem_dealings ho)
    exact ⟨ws, b, hmono hs, hos, fun r' hr => (Except.ok.inj (hb r' hr)).symm⟩
  | error causes =>
    obtain ⟨ws, zs, x, rfl, hx, hlast⟩ := yields_bind.mp hrest
    obtain ⟨rfl, rfl⟩ := yields_done.mp hlast
    have hd := (Handling.idle_emitAll _ _ hx).1
    refine ⟨.inl ⟨_, rfl⟩, fun o ho => ?_⟩
    rw [dealings_append, dealings_append, hd] at ho
    obtain ⟨ws', b, hs, hos, hb⟩ :=
      hhandled.2 o (by simpa using mem_of_mem_dealings (by simpa using ho))
    exact ⟨ws', b, hmono hs, hos, fun r hr => nomatch hb r hr⟩

end Route

end SessionTokens.Http
