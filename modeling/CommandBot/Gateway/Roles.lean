/-
**Roles and permissions.**

A server gives each of its roles a set of permissions.  A member has every permission that one of
their roles has; a role that the server does not know gives none.

* `CommandBot.Permissions` — a set of permissions;
* `CommandBot.RoleTable` — the permissions of the roles of a server;
* `CommandBot.RoleTable.grantsAdmin` — **whether some roles make an administrator.**
-/

set_option relaxedAutoImplicit false
set_option autoImplicit false

namespace CommandBot

/-- A set of permissions, one bit each. -/
structure Permissions where
  bits : UInt64
deriving DecidableEq, Repr

namespace Permissions

/-- The bit of the permission that includes all others. -/
def administrator : UInt64 := 8

/-- Whether the set has the permission that includes all others. -/
def isAdministrator (p : Permissions) : Bool := p.bits &&& administrator == administrator

end Permissions

/-- The permissions of the roles of a server. -/
abbrev RoleTable := List (UInt64 × Permissions)

/-- **Whether some roles make an administrator** of the server with these roles. -/
def RoleTable.grantsAdmin (table : RoleTable) (roles : List UInt64) : Bool :=
  roles.any fun role =>
    match table.lookup role with
    | none => false
    | some permissions => permissions.isAdministrator

end CommandBot
