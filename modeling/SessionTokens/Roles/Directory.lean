import SessionTokens.Identity.Uuid

/-! Which roles a user has. A user without an assignment has the default roles. -/

namespace SessionTokens

inductive RoleError where
  | userNotFound
  | store (reason : String)
  deriving DecidableEq, Repr

def RoleError.message : RoleError → String
  | .userNotFound => "user not found"
  | .store reason => "store error: " ++ reason

structure RoleDirectory where
  assignments : List (Uuid × List String)
  defaults : List String

namespace RoleDirectory

def ofDefaults (roles : List String) : RoleDirectory := ⟨[], roles⟩

def assign (d : RoleDirectory) (user : Uuid) (roles : List String) : RoleDirectory :=
  { d with assignments := (user, roles) :: d.assignments }

def rolesOf (d : RoleDirectory) (user : Uuid) : List String :=
  ((d.assignments.find? fun a => a.1 = user).map (·.2)).getD d.defaults

@[simp] theorem rolesOf_ofDefaults (roles : List String) (user : Uuid) :
    (ofDefaults roles).rolesOf user = roles := rfl

theorem rolesOf_assign (d : RoleDirectory) (user other : Uuid) (roles : List String) :
    (d.assign user roles).rolesOf other = if user = other then roles else d.rolesOf other := by
  by_cases h : user = other <;> simp [assign, rolesOf, h]

end RoleDirectory

end SessionTokens
