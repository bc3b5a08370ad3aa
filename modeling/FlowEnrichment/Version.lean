/-!
# Build identity

The version of the program with the branch and the commit that it was built from. Outside of a
checkout both are unknown.
-/
namespace FlowEnrichment

/-- What a program was built from. -/
structure BuildIdentity where
  /-- The version of the package. -/
  package : String
  /-- The branch. -/
  branch : String := "unknown"
  /-- The commit. -/
  commit : String := "unknown"
  /-- Whether the sources differed from the commit. -/
  dirty : Bool := false
  deriving DecidableEq, Repr

namespace BuildIdentity

/-- The number of characters to which a commit is shortened. -/
def commitLength : Nat := 7

/-- The identity in one text. -/
def text (identity : BuildIdentity) : String :=
  identity.package ++ "+" ++ identity.branch ++ "." ++
    String.ofList (identity.commit.toList.take commitLength) ++
    if identity.dirty then ".dirty" else ""

/-- The identity of this program. -/
def current : BuildIdentity := { package := "0.1.0" }

end BuildIdentity

end FlowEnrichment
