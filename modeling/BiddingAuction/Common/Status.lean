import Mathlib.Init

/-!
# Status codes
-/

namespace BiddingAuction

/-- `grpc::StatusCode`, and `absl::StatusCode`. -/
inductive GrpcStatusCode where
  | ok
  | cancelled
  | unknown
  | invalidArgument
  | deadlineExceeded
  | notFound
  | alreadyExists
  | permissionDenied
  | resourceExhausted
  | failedPrecondition
  | aborted
  | outOfRange
  | unimplemented
  | internal
  | unavailable
  | dataLoss
  | unauthenticated
deriving DecidableEq, Repr

end BiddingAuction
