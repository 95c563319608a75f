/-!
# Registered HTTP statuses

The status codes that have a registered name.
-/

namespace Errata

/-- A status code with a registered name. -/
inductive HttpStatus where
  | continue_
  | switchingProtocols
  | processing
  | earlyHints
  | ok
  | created
  | accepted
  | nonAuthoritativeInformation
  | noContent
  | resetContent
  | partialContent
  | multiStatus
  | alreadyReported
  | imUsed
  | multipleChoices
  | movedPermanently
  | found
  | seeOther
  | notModified
  | useProxy
  | temporaryRedirect
  | permanentRedirect
  | badRequest
  | unauthorized
  | paymentRequired
  | forbidden
  | notFound
  | methodNotAllowed
  | notAcceptable
  | proxyAuthenticationRequired
  | requestTimeout
  | conflict
  | gone
  | lengthRequired
  | preconditionFailed
  | requestEntityTooLarge
  | requestUriTooLong
  | unsupportedMediaType
  | requestedRangeNotSatisfiable
  | expectationFailed
  | imATeapot
  | misdirectedRequest
  | unprocessableEntity
  | locked
  | failedDependency
  | tooEarly
  | upgradeRequired
  | preconditionRequired
  | tooManyRequests
  | requestHeaderFieldsTooLarge
  | unavailableForLegalReasons
  | internalServerError
  | notImplemented
  | badGateway
  | serviceUnavailable
  | gatewayTimeout
  | httpVersionNotSupported
  | variantAlsoNegotiates
  | insufficientStorage
  | loopDetected
  | notExtended
  | networkAuthenticationRequired
  deriving DecidableEq, Repr

namespace HttpStatus

/-- The number on the status line. -/
def code : HttpStatus → Nat
  | .continue_ => 100
  | .switchingProtocols => 101
  | .processing => 102
  | .earlyHints => 103
  | .ok => 200
  | .created => 201
  | .accepted => 202
  | .nonAuthoritativeInformation => 203
  | .noContent => 204
  | .resetContent => 205
  | .partialContent => 206
  | .multiStatus => 207
  | .alreadyReported => 208
  | .imUsed => 226
  | .multipleChoices => 300
  | .movedPermanently => 301
  | .found => 302
  | .seeOther => 303
  | .notModified => 304
  | .useProxy => 305
  | .temporaryRedirect => 307
  | .permanentRedirect => 308
  | .badRequest => 400
  | .unauthorized => 401
  | .paymentRequired => 402
  | .forbidden => 403
  | .notFound => 404
  | .methodNotAllowed => 405
  | .notAcceptable => 406
  | .proxyAuthenticationRequired => 407
  | .requestTimeout => 408
  | .conflict => 409
  | .gone => 410
  | .lengthRequired => 411
  | .preconditionFailed => 412
  | .requestEntityTooLarge => 413
  | .requestUriTooLong => 414
  | .unsupportedMediaType => 415
  | .requestedRangeNotSatisfiable => 416
  | .expectationFailed => 417
  | .imATeapot => 418
  | .misdirectedRequest => 421
  | .unprocessableEntity => 422
  | .locked => 423
  | .failedDependency => 424
  | .tooEarly => 425
  | .upgradeRequired => 426
  | .preconditionRequired => 428
  | .tooManyRequests => 429
  | .requestHeaderFieldsTooLarge => 431
  | .unavailableForLegalReasons => 451
  | .internalServerError => 500
  | .notImplemented => 501
  | .badGateway => 502
  | .serviceUnavailable => 503
  | .gatewayTimeout => 504
  | .httpVersionNotSupported => 505
  | .variantAlsoNegotiates => 506
  | .insufficientStorage => 507
  | .loopDetected => 508
  | .notExtended => 510
  | .networkAuthenticationRequired => 511

/-- The registered name, as a constant. -/
def name : HttpStatus → String
  | .continue_ => "CONTINUE"
  | .switchingProtocols => "SWITCHING_PROTOCOLS"
  | .processing => "PROCESSING"
  | .earlyHints => "EARLY_HINTS"
  | .ok => "OK"
  | .created => "CREATED"
  | .accepted => "ACCEPTED"
  | .nonAuthoritativeInformation => "NON_AUTHORITATIVE_INFORMATION"
  | .noContent => "NO_CONTENT"
  | .resetContent => "RESET_CONTENT"
  | .partialContent => "PARTIAL_CONTENT"
  | .multiStatus => "MULTI_STATUS"
  | .alreadyReported => "ALREADY_REPORTED"
  | .imUsed => "IM_USED"
  | .multipleChoices => "MULTIPLE_CHOICES"
  | .movedPermanently => "MOVED_PERMANENTLY"
  | .found => "FOUND"
  | .seeOther => "SEE_OTHER"
  | .notModified => "NOT_MODIFIED"
  | .useProxy => "USE_PROXY"
  | .temporaryRedirect => "TEMPORARY_REDIRECT"
  | .permanentRedirect => "PERMANENT_REDIRECT"
  | .badRequest => "BAD_REQUEST"
  | .unauthorized => "UNAUTHORIZED"
  | .paymentRequired => "PAYMENT_REQUIRED"
  | .forbidden => "FORBIDDEN"
  | .notFound => "NOT_FOUND"
  | .methodNotAllowed => "METHOD_NOT_ALLOWED"
  | .notAcceptable => "NOT_ACCEPTABLE"
  | .proxyAuthenticationRequired => "PROXY_AUTHENTICATION_REQUIRED"
  | .requestTimeout => "REQUEST_TIMEOUT"
  | .conflict => "CONFLICT"
  | .gone => "GONE"
  | .lengthRequired => "LENGTH_REQUIRED"
  | .preconditionFailed => "PRECONDITION_FAILED"
  | .requestEntityTooLarge => "REQUEST_ENTITY_TOO_LARGE"
  | .requestUriTooLong => "REQUEST_URI_TOO_LONG"
  | .unsupportedMediaType => "UNSUPPORTED_MEDIA_TYPE"
  | .requestedRangeNotSatisfiable => "REQUESTED_RANGE_NOT_SATISFIABLE"
  | .expectationFailed => "EXPECTATION_FAILED"
  | .imATeapot => "IM_A_TEAPOT"
  | .misdirectedRequest => "MISDIRECTED_REQUEST"
  | .unprocessableEntity => "UNPROCESSABLE_ENTITY"
  | .locked => "LOCKED"
  | .failedDependency => "FAILED_DEPENDENCY"
  | .tooEarly => "TOO_EARLY"
  | .upgradeRequired => "UPGRADE_REQUIRED"
  | .preconditionRequired => "PRECONDITION_REQUIRED"
  | .tooManyRequests => "TOO_MANY_REQUESTS"
  | .requestHeaderFieldsTooLarge => "REQUEST_HEADER_FIELDS_TOO_LARGE"
  | .unavailableForLegalReasons => "UNAVAILABLE_FOR_LEGAL_REASONS"
  | .internalServerError => "INTERNAL_SERVER_ERROR"
  | .notImplemented => "NOT_IMPLEMENTED"
  | .badGateway => "BAD_GATEWAY"
  | .serviceUnavailable => "SERVICE_UNAVAILABLE"
  | .gatewayTimeout => "GATEWAY_TIMEOUT"
  | .httpVersionNotSupported => "HTTP_VERSION_NOT_SUPPORTED"
  | .variantAlsoNegotiates => "VARIANT_ALSO_NEGOTIATES"
  | .insufficientStorage => "INSUFFICIENT_STORAGE"
  | .loopDetected => "LOOP_DETECTED"
  | .notExtended => "NOT_EXTENDED"
  | .networkAuthenticationRequired => "NETWORK_AUTHENTICATION_REQUIRED"

/-- Every registered status, in the order of their codes. -/
def all : List HttpStatus := [
  .continue_, .switchingProtocols, .processing, .earlyHints, .ok,
  .created, .accepted, .nonAuthoritativeInformation, .noContent, .resetContent,
  .partialContent, .multiStatus, .alreadyReported, .imUsed, .multipleChoices,
  .movedPermanently, .found, .seeOther, .notModified, .useProxy,
  .temporaryRedirect, .permanentRedirect, .badRequest, .unauthorized, .paymentRequired,
  .forbidden, .notFound, .methodNotAllowed, .notAcceptable, .proxyAuthenticationRequired,
  .requestTimeout, .conflict, .gone, .lengthRequired, .preconditionFailed,
  .requestEntityTooLarge, .requestUriTooLong, .unsupportedMediaType, .requestedRangeNotSatisfiable, .expectationFailed,
  .imATeapot, .misdirectedRequest, .unprocessableEntity, .locked, .failedDependency,
  .tooEarly, .upgradeRequired, .preconditionRequired, .tooManyRequests, .requestHeaderFieldsTooLarge,
  .unavailableForLegalReasons, .internalServerError, .notImplemented, .badGateway, .serviceUnavailable,
  .gatewayTimeout, .httpVersionNotSupported, .variantAlsoNegotiates, .insufficientStorage, .loopDetected,
  .notExtended, .networkAuthenticationRequired]

/-- The status of a registered name. -/
def ofName? (s : String) : Option HttpStatus :=
  all.find? fun h => h.name == s

/-- The status of a registered code. -/
def ofCode? (n : Nat) : Option HttpStatus :=
  all.find? fun h => h.code == n

/-- Every registered code has three digits. -/
theorem code_bounds (h : HttpStatus) : 100 ≤ h.code ∧ h.code ≤ 999 := by
  cases h <;> decide

end HttpStatus

end Errata
