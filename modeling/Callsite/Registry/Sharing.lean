/-!
# Sharing a registry

A registry is held through handles, and each holder gives up its own. Only the last handle takes the
registry down; giving up any other is refused, although that handle is gone as well.
-/

namespace Callsite

/-- A value that is held through handles. -/
structure Shared (α : Type) where
  value : α
  /-- The number of handles besides the first. -/
  others : Nat
deriving DecidableEq

/-- Why giving up a handle does not take the value down. -/
inductive SharingError where
  | stillShared (handles : Nat)
deriving DecidableEq

/-- The message for a handle that was not the last. -/
def SharingError.message : SharingError → String
  | .stillShared handles =>
    "registry still shared by " ++ toString handles ++ " other handle(s)"

namespace Shared

variable {α : Type}

/-- A value held through one handle. -/
def ofValue (value : α) : Shared α :=
  ⟨value, 0⟩

/-- The number of handles. -/
def handles (shared : Shared α) : Nat :=
  shared.others + 1

/-- The value with one more handle. -/
def share (shared : Shared α) : Shared α :=
  { shared with others := shared.others + 1 }

/-- Sharing makes one more handle. -/
@[simp]
theorem handles_share (shared : Shared α) : shared.share.handles = shared.handles + 1 := rfl

/-- Gives up one handle: what is answered, and what is left. -/
def release (shared : Shared α) : Except SharingError Unit × Option (Shared α) :=
  match shared.others with
  | 0 => (.ok (), none)
  | others + 1 => (.error (.stillShared (others + 1)), some { shared with others })

end Shared

end Callsite
