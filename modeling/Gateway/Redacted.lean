import Gateway.Http.HeaderMap
import Gateway.Text.Quoted

/-!
Header fields as they are shown in logs. Values of secret headers are masked, long values are cut,
values that are no visible text are only measured, and only the first values are shown.
-/

namespace Gateway.Redacted

def secretNames : List String :=
  ["authorization", "proxy-authorization", "cookie", "set-cookie", "x-api-key", "x-auth-token",
    "x-client-secret"]

def isSecret (name : HeaderName) : Bool := name.text ∈ secretNames

def maxFields : Nat := 50

/-- The length of the longest value that is shown in full. -/
def maxValue : Nat := 1024

def shownValue (value : HeaderValue) : String :=
  match value.text? with
  | some text =>
      if maxValue < value.bytes.length then
        String.ofList (text.toList.take maxValue) ++ "... (" ++ toString value.bytes.length ++
          " bytes)"
      else text
  | none => "<" ++ toString value.bytes.length ++ " opaque bytes>"

def shownField (field : HeaderName × HeaderValue) : String × String :=
  (field.1.text, if isSecret field.1 then "<redacted>" else shownValue field.2)

/-- What stands for the fields that are not shown. -/
def remainder (size : Nat) : List (String × String) :=
  if maxFields < size then [("...", toString (size - maxFields) ++ " more")] else []

/-- Header fields in a form that may be logged. -/
def text (headers : HeaderMap) : String :=
  Text.quotedPairs ((headers.toList.take maxFields).map shownField ++ remainder headers.size)

end Gateway.Redacted
