import Mathlib.Data.List.Basic
import SessionTokens.Proofs.Program.Course

/-! What of a course has to do with identifiers: those that are drawn and the calls of the
registry, in order. -/

namespace SessionTokens

/-- Whether a registry takes part in it, or the source of its identifiers. -/
def Occurrence.isDealing : Occurrence → Bool
  | drawn _ => true
  | called _ _ => true
  | _ => false

def dealings (os : List Occurrence) : List Occurrence := os.filter (·.isDealing)

section Dealings

variable {os us : List Occurrence}

@[simp] theorem dealings_nil : dealings [] = [] := rfl

@[simp] theorem dealings_append : dealings (os ++ us) = dealings os ++ dealings us :=
  List.filter_append ..

@[simp] theorem dealings_clock {t : Instant} : dealings (.clock t :: os) = dealings os := rfl

@[simp] theorem dealings_drawn {j : Jti} :
    dealings (.drawn j :: os) = .drawn j :: dealings os := rfl

@[simp] theorem dealings_emitted {e : Log.Event} : dealings (.emitted e :: os) = dealings os := rfl

@[simp] theorem dealings_roles {user : Uuid} {a : Except RoleError (List String)} :
    dealings (.roles user a :: os) = dealings os := rfl

@[simp] theorem dealings_called {c : RegistryCall} {a : Except RegistryError c.Answer} :
    dealings (.called c a :: os) = .called c a :: dealings os := rfl

theorem recordsDrawn_dealings {given : List Jti} :
    RecordsDrawn given (dealings os) ↔ RecordsDrawn given os := by
  induction os generalizing given with
  | nil => rfl
  | cons o os ih =>
    cases o with
    | drawn j => simp only [dealings_drawn, RecordsDrawn, ih]
    | called c x =>
      rw [dealings_called]
      cases c <;> simp only [RecordsDrawn, ih]
    | _ => simp only [dealings_clock, dealings_emitted, dealings_roles, RecordsDrawn, ih]

theorem recordsFirst_dealings : RecordsFirst (dealings os) ↔ RecordsFirst os := by
  rw [RecordsFirst, dealings, List.pairwise_filter]
  constructor
  · refine List.Pairwise.imp fun {o o'} h => ?_
    cases o with
    | called c x =>
      cases o' with
      | called d y => exact h rfl rfl
      | _ => simp [Occurrence.isRecord]
    | _ => simp [Occurrence.isRevoke]
  · exact List.Pairwise.imp fun h _ _ => h

theorem called_mem_dealings {c : RegistryCall} {a : Except RegistryError c.Answer} :
    .called c a ∈ dealings os ↔ .called c a ∈ os := by
  simp [dealings, Occurrence.isDealing]

theorem draws_dealings : (dealings os).filterMap (·.draw?) = os.filterMap (·.draw?) := by
  rw [dealings, List.filterMap_filter]
  refine List.filterMap_congr fun o _ => ?_
  cases o <;> rfl

theorem dealings_eq_append {o : Occurrence} {ds es : List Occurrence}
    (h : dealings os = ds ++ o :: es) :
    ∃ as bs, os = as ++ o :: bs ∧ dealings as = ds ∧ dealings bs = es := by
  obtain ⟨as, ms, rfl, has, hms⟩ := List.filter_eq_append_iff.mp h
  obtain ⟨ns, bs, rfl, hns, -, hbs⟩ := List.filter_eq_cons_iff.mp hms
  refine ⟨as ++ ns, bs, by rw [List.append_assoc], ?_, hbs⟩
  rw [dealings_append, show dealings as = ds from has,
    show dealings ns = [] from List.filter_eq_nil_iff.mpr hns, List.append_nil]

theorem mem_of_mem_dealings {o : Occurrence} (h : o ∈ dealings os) : o ∈ os :=
  List.mem_of_mem_filter h

theorem drawn_mem_dealings {j : Jti} : .drawn j ∈ dealings os ↔ .drawn j ∈ os := by
  simp [dealings, Occurrence.isDealing]

end Dealings

end SessionTokens
