namespace PigweedExperimental

/-! Result codes of operations, as `pw::Status` lists them. -/

inductive Status where
  | ok
  | cancelled
  | unknown
  | invalidArgument
  | deadlineExceeded
  | notFound
  | alreadyExists
  | permissionDenied
  | resourceExhausted
  | failedPrecondition
  | aborted
  | outOfRange
  | unimplemented
  | internal
  | unavailable
  | dataLoss
  | unauthenticated
  deriving DecidableEq, Repr

theorem Status.internal_ne_ok : Status.internal ≠ .ok := Status.noConfusion

end PigweedExperimental
