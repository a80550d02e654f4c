/-
  Provision.Network
  ─────────────────
  **WHAT A DOWNLOAD BRINGS.**

  A network gives a reply for every address, after any redirection.  A
  download succeeds when a server answers with a status of success, and its
  bytes are then exactly the body of the answer; every other reply is a
  failure that names the address.

  Main results:

    `result_ok_iff`     a download brings bytes iff a server answered with them
                        and with a status of success
-/
import Provision.Failure

namespace Provision

/-! ## §1. Replies. -/

/-- What comes back when an address is asked for. -/
inductive Reply where
  /-- Nothing came back, for a reason that is known by its text. -/
  | silence (reason : String)
  /-- A server answered. -/
  | answer (status : Nat) (body : ByteArray)
  deriving Inhabited

namespace Reply

/-- Is the status one of success? -/
def isSuccess (status : Nat) : Bool := 200 ≤ status && status ≤ 299

/-- The name of a status that is not one of success. -/
def statusName : Nat → String
  | 100 => "Continue"
  | 101 => "Switching Protocols"
  | 102 => "Processing"
  | 103 => "Early Hints"
  | 300 => "Multiple Choices"
  | 301 => "Moved Permanently"
  | 302 => "Found"
  | 303 => "See Other"
  | 304 => "Not Modified"
  | 305 => "Use Proxy"
  | 307 => "Temporary Redirect"
  | 308 => "Permanent Redirect"
  | 400 => "Bad Request"
  | 401 => "Unauthorized"
  | 402 => "Payment Required"
  | 403 => "Forbidden"
  | 404 => "Not Found"
  | 405 => "Method Not Allowed"
  | 406 => "Not Acceptable"
  | 407 => "Proxy Authentication Required"
  | 408 => "Request Timeout"
  | 409 => "Conflict"
  | 410 => "Gone"
  | 411 => "Length Required"
  | 412 => "Precondition Failed"
  | 413 => "Payload Too Large"
  | 414 => "URI Too Long"
  | 415 => "Unsupported Media Type"
  | 416 => "Range Not Satisfiable"
  | 417 => "Expectation Failed"
  | 418 => "I'm a teapot"
  | 421 => "Misdirected Request"
  | 422 => "Unprocessable Entity"
  | 423 => "Locked"
  | 424 => "Failed Dependency"
  | 425 => "Too Early"
  | 426 => "Upgrade Required"
  | 428 => "Precondition Required"
  | 429 => "Too Many Requests"
  | 431 => "Request Header Fields Too Large"
  | 451 => "Unavailable For Legal Reasons"
  | 500 => "Internal Server Error"
  | 501 => "Not Implemented"
  | 502 => "Bad Gateway"
  | 503 => "Service Unavailable"
  | 504 => "Gateway Timeout"
  | 505 => "HTTP Version Not Supported"
  | 506 => "Variant Also Negotiates"
  | 507 => "Insufficient Storage"
  | 508 => "Loop Detected"
  | 510 => "Not Extended"
  | 511 => "Network Authentication Required"
  | _ => "<unknown status code>"

/-- What a download brings, by the reply to it. -/
def result (url : String) : Reply → Except Failure ByteArray
  | .silence reason => .error (.downloadFailed url reason)
  | .answer status body =>
      if isSuccess status then .ok body
      else .error (.downloadFailed url
        ("HTTP " ++ toString status ++ " " ++ statusName status))

/-- A download succeeds on an answer with a status of success, and on nothing
else. -/
theorem result_ok_iff {url : String} {r : Reply} {bytes : ByteArray} :
    r.result url = .ok bytes ↔ ∃ status, isSuccess status = true ∧ r = .answer status bytes := by
  constructor
  · intro h
    cases r with
    | silence reason => cases h
    | answer status body =>
      by_cases hs : isSuccess status = true
      · simp only [result, hs, if_true] at h
        injection h with h
        exact ⟨status, hs, h ▸ rfl⟩
      · simp [result, hs] at h
  · rintro ⟨status, hs, rfl⟩
    simp [result, hs]

end Reply

/-! ## §2. Networks. -/

/-- A network, by its reply for each address. -/
abbrev Network := String → Reply

/-- The network of a machine that is connected to nothing. -/
def Network.unreachable : Network := fun url =>
  .silence ("error sending request for url (" ++ url
    ++ "): client error (Connect): tcp connect error: Network is unreachable (os error 101)")

end Provision
