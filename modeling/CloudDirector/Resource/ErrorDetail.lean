import CloudDirector.Json.Record

/-!
# Error details

What a server says about a failure: a message, a major and a minor code, and details for its
vendor.
-/
namespace CloudDirector
open Json

/-- The server's description of a failure. -/
structure ErrorDetail where
  message : Option String
  majorCode : Int
  minorCode : Option String
  vendorCode : Option String
  stackTrace : Option String
  deriving DecidableEq, Repr, Inhabited

/-- Whole numbers of 32 bits with a sign. -/
def Json.Decoder.int32 : Decoder Int := .whole (-2147483648) 2147483647

namespace ErrorDetail

def members : List String :=
  ["message", "majorErrorCode", "minorErrorCode", "vendorSpecificErrorCode", "stackTrace"]

def ofDocument : Decoder ErrorDetail := fun d => do
  let r ← d.record? members
  some {
    message := ← r.optional "message" .text
    majorCode := ← r.orElse "majorErrorCode" 0 .int32
    minorCode := ← r.optional "minorErrorCode" .text
    vendorCode := ← r.optional "vendorSpecificErrorCode" .text
    stackTrace := ← r.optional "stackTrace" .text }

def toJson (e : ErrorDetail) : Value :=
  .ofFields [("message", e.message.map .string), ("majorErrorCode", some (.ofInt e.majorCode)),
    ("minorErrorCode", e.minorCode.map .string),
    ("vendorSpecificErrorCode", e.vendorCode.map .string),
    ("stackTrace", e.stackTrace.map .string)]

/-- The message with both codes. -/
def text (e : ErrorDetail) : String :=
  e.message.getD "<no message>" ++ " (major: " ++ toString e.majorCode ++ ", minor: " ++
    e.minorCode.getD "-" ++ ")"

end ErrorDetail

end CloudDirector
