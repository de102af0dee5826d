import Astra.Chat.Wire
import Astra.Client.Controller
import Astra.Client.JsonDecode
import Astra.Client.Session
import Astra.Platform.Cursors

/-!
# Envelopes on the client

`ApiEnvelope` and `DioExceptionMapper`: what a request of the client returns or throws for
the text of a reply.
-/

namespace Astra.Client

open Astra.Platform Astra.Chat

/-- The wire formats with the parts of Dart that read them back. -/
structure ClientRuntime extends WireRuntime where
  parseDate : String → Option Timestamp
  text : Json → String
  /-- The text of the `TypeError` of a cast of this value, `none` for an absent key. -/
  castError : Option Json → String
  jsonError : DartString → String
  parseDate_isoText : ∀ timestamp, parseDate (isoText timestamp) = some timestamp
  text_str : ∀ value, text (.str value) = value

structure ApiException extends AppException where
  statusCode : Option Nat := none

inductive DioExceptionType where
  | connectionTimeout
  | sendTimeout
  | receiveTimeout
  | badCertificate
  | badResponse
  | cancel
  | connectionError
  | unknown

structure DioResponse where
  statusCode : Nat
  data : Option Json

structure DioException where
  type : DioExceptionType
  response : Option DioResponse
  message : Option String

inductive DartError where
  | format (message : String)
  | type (text : String)
  | argument (name : String)
  | app (e : ApiException)
  | dio (e : DioException)
  | other (text : String)

namespace ApiEnvelope

variable (rt : ClientRuntime)

def asStringObjectMap : Option Json → Except DartError Dict
  | some (.obj fields) => .ok fields
  | _ => .error (.format "Expected a JSON object.")

def textOr (value : Option Json) (fallback : String) : String :=
  match value with
  | none | some .null => fallback
  | some value => rt.text value

def toException (root : Dict) (statusCode : Option Nat) : ApiException :=
  let error : Dict :=
    match root.get? "error" with
    | some (.obj fields) => fields
    | _ => []
  { code := textOr rt (error.get? "code") "UNKNOWN_API_ERROR"
    message := textOr rt (error.get? "message") "Đã xảy ra lỗi không xác định."
    details := (error.get? "details").getD .null
    statusCode }

def requireDataMap (body : Option Json) : Except DartError Dict := do
  let root ← asStringObjectMap body
  match root.get? "success" with
  | some (.bool true) => asStringObjectMap (root.get? "data")
  | _ => .error (.app (toException rt root none))

def exceptionFromBody (body : Option Json) (statusCode : Option Nat)
    (fallbackCode : String := "NETWORK_REQUEST_FAILED")
    (fallbackMessage : String := "Không thể hoàn tất yêu cầu.") : ApiException :=
  match asStringObjectMap body with
  | .ok root => toException rt root statusCode
  | .error _ => { code := fallbackCode, message := fallbackMessage, details := .null, statusCode }

theorem requireDataMap_toOption (body : Json) :
    (requireDataMap rt (some body)).toOption = (Client.requireDataMap body).toOption := by
  cases body with
  | obj root =>
      simp only [requireDataMap, Client.requireDataMap, asStringObjectMap, bind, Except.bind]
      cases hsuccess : Dict.get? root "success" with
      | none => rfl
      | some success =>
          cases success with
          | bool success =>
              cases success with
              | true =>
                  cases hdata : Dict.get? root "data" with
                  | none => rfl
                  | some data => cases data <;> rfl
              | false => rfl
          | _ => rfl
  | _ => rfl

end ApiEnvelope

/-! ## Replies -/

inductive ResponseType where
  | json
  | stream
  deriving DecidableEq

def DioExceptionType.message : DioExceptionType → String
  | .connectionTimeout | .sendTimeout | .receiveTimeout => "Kết nối đến máy chủ đã hết thời gian."
  | .connectionError => "Không thể kết nối đến Astra AI Server."
  | .cancel => "Yêu cầu đã bị hủy."
  | .badCertificate | .badResponse | .unknown => "Đã xảy ra lỗi mạng."

def DioException.map (rt : ClientRuntime) (e : DioException) : ApiException :=
  match e.response with
  | some response =>
      ApiEnvelope.exceptionFromBody rt response.data (some response.statusCode)
        "NETWORK_REQUEST_FAILED" "Máy chủ từ chối yêu cầu."
  | none => { code := "NETWORK_ERROR", message := e.type.message, details := optStr e.message }

/--
What Dio does with a reply: the text of a JSON reply is decoded, and a status outside of
2xx is thrown.
-/
def receiveReply (rt : ClientRuntime) (responseType : ResponseType) (statusCode : Nat)
    (body : String) : Except DioException DioResponse :=
  let decoded : Except DioException (Option Json) :=
    match responseType with
    | .stream => .ok none
    | .json =>
        match jsonDecode rt.floats (utf16 body) with
        | some value => .ok (some value)
        | none => .error { type := .unknown, response := none, message := none }
  decoded.bind fun data =>
    if 200 ≤ statusCode ∧ statusCode < 300 then .ok { statusCode, data }
    else .error { type := .badResponse, response := some { statusCode, data }, message := none }

theorem receiveReply_ok {rt : ClientRuntime} {body : String} {value : Json}
    (h : jsonDecode rt.floats (utf16 body) = some value) :
    receiveReply rt .json 200 body = .ok { statusCode := 200, data := some value } := by
  simp [receiveReply, h, Except.bind]

/-! ## Exceptions of the server -/

section Errors

variable {rt : ClientRuntime} {floats : FloatText} {code message : String} {details : Json}

end Errors

def wireTimestamps : List (Timestamp × String) :=
  [(0, "1970-01-01T00:00:00Z"), (1000000, "1970-01-01T00:00:01Z"),
    (2000000, "1970-01-01T00:00:02Z")]

def ClientRuntime.sample : ClientRuntime where
  toPyRuntime := CursorRuntime.sample.toPyRuntime
  floats := .whole
  isoText := tableText wireTimestamps Equiv.intEquivNat
  parseDate := tableParse wireTimestamps Equiv.intEquivNat
  text := PyRuntime.ascii.str
  castError _ := "type 'Null' is not a subtype of type 'String' in type cast"
  jsonError _ := "Unexpected character"
  parseDate_isoText := tableParse_text wireTimestamps Equiv.intEquivNat (by decide) (by decide)
  text_str := PyRuntime.ascii.str_str

end Astra.Client
