/-! # Error codes of the storage backend -/

namespace BucketReplication

inductive ErrorCode where
  | badRequest
  | unauthorized
  | badAuthToken
  | expiredAuthToken
  | accessDenied
  | notFound
  | conflict
  | tooManyRequests
  | internalError
  | serviceUnavailable
deriving DecidableEq, Repr

namespace ErrorCode

def httpStatus : ErrorCode → Nat
  | .badRequest => 400
  | .unauthorized => 401
  | .badAuthToken => 401
  | .expiredAuthToken => 401
  | .accessDenied => 403
  | .notFound => 404
  | .conflict => 409
  | .tooManyRequests => 429
  | .internalError => 500
  | .serviceUnavailable => 503

def wireName : ErrorCode → String
  | .badRequest => "bad_request"
  | .unauthorized => "unauthorized"
  | .badAuthToken => "bad_auth_token"
  | .expiredAuthToken => "expired_auth_token"
  | .accessDenied => "access_denied"
  | .notFound => "not_found"
  | .conflict => "conflict"
  | .tooManyRequests => "too_many_requests"
  | .internalError => "internal_error"
  | .serviceUnavailable => "service_unavailable"

def variantName : ErrorCode → String
  | .badRequest => "BadRequest"
  | .unauthorized => "Unauthorized"
  | .badAuthToken => "BadAuthToken"
  | .expiredAuthToken => "ExpiredAuthToken"
  | .accessDenied => "AccessDenied"
  | .notFound => "NotFound"
  | .conflict => "Conflict"
  | .tooManyRequests => "TooManyRequests"
  | .internalError => "InternalError"
  | .serviceUnavailable => "ServiceUnavailable"

/-- The code with a wire name; names match in full and in case. -/
def ofName? : String → Option ErrorCode
  | "bad_request" => some .badRequest
  | "unauthorized" => some .unauthorized
  | "bad_auth_token" => some .badAuthToken
  | "expired_auth_token" => some .expiredAuthToken
  | "access_denied" => some .accessDenied
  | "not_found" => some .notFound
  | "conflict" => some .conflict
  | "too_many_requests" => some .tooManyRequests
  | "internal_error" => some .internalError
  | "service_unavailable" => some .serviceUnavailable
  | _ => none

end ErrorCode

end BucketReplication
