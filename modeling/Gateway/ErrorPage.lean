import Gateway.Http.Message
import Gateway.Json.Printer

/-!
Error pages: templates with the placeholders `status_code`, `message`, `request_id` and `path` in
double braces. Values are escaped for the content type of the page.
-/

namespace Gateway

structure ErrorPage where
  contentType : String
  template : String
  deriving DecidableEq, Repr

namespace ErrorPage

/-- The page of a route that configures none. -/
def htmlTemplate : String :=
  "<!DOCTYPE html>\n<html>\n<head><title>\x7b\x7bstatus_code\x7d\x7d \x7b\x7bmessage\x7d\x7d" ++
    "</title></head>\n<body>\n<h1>\x7b\x7bstatus_code\x7d\x7d \x7b\x7bmessage\x7d\x7d</h1>\n" ++
    "<p>Request ID: \x7b\x7brequest_id\x7d\x7d</p>\n<p>Path: \x7b\x7bpath\x7d\x7d</p>\n" ++
    "</body>\n</html>\n"

def html : ErrorPage := ⟨"text/html", htmlTemplate⟩

instance : Inhabited ErrorPage := ⟨html⟩

def jsonTemplate : String :=
  "\x7b\"error\":\x7b\"status\":\x7b\x7bstatus_code\x7d\x7d," ++
    "\"message\":\"\x7b\x7bmessage\x7d\x7d\"," ++
    "\"id\":\"\x7b\x7brequest_id\x7d\x7d\"," ++
    "\"path\":\"\x7b\x7bpath\x7d\x7d\"\x7d\x7d"

/-- The built-in page for programs. -/
def json : ErrorPage := ⟨"application/json", jsonTemplate⟩

/-- The characters that mean something in a page, and what is written for them. The ampersand comes
first, since what is written for the others holds one. -/
def entities : List (Char × String) :=
  [('&', "&amp;"), ('<', "&lt;"), ('>', "&gt;"), ('"', "&quot;"), ('\x27', "&#39;")]

/-- The text with its characters replaced, one kind after the other. -/
def escapeHtml (text : String) : String :=
  entities.foldl (fun written entity =>
    Text.replace written (String.singleton entity.1) entity.2) text

/-- A text without its first and its last character. -/
def unquote (text : String) : String :=
  String.ofList (text.toList.drop 1).dropLast

def escape (page : ErrorPage) (value : String) : String :=
  if Text.contains page.contentType "json" then unquote (Json.compact (.str value))
  else if Text.contains page.contentType "html" then escapeHtml value
  else value

def placeholder (name : String) : String :=
  "\x7b\x7b" ++ name ++ "\x7d\x7d"

/-- The text of the page: the placeholders are replaced one after the other. -/
def render (page : ErrorPage) (status : Nat) (message requestId path : String) : String :=
  let withStatus := Text.replace page.template (placeholder "status_code") (toString status)
  let withMessage := Text.replace withStatus (placeholder "message") (page.escape message)
  let withId := Text.replace withMessage (placeholder "request_id") (page.escape requestId)
  Text.replace withId (placeholder "path") (page.escape path)

/-- The answer when a page cannot be sent with its headers. -/
def fallback : Response :=
  .ofBody Status.internalServerError (Body.ofText "500 Internal Server Error")

def serve (page : ErrorPage) (request : Request) (error : GatewayError) : Response :=
  let requestId := match request.context with
    | some context => context.requestId
    | none => ""
  let text := page.render error.status error.clientMessage requestId request.uri.path
  match Status.ofNat? error.status, HeaderValue.parse? page.contentType,
      HeaderValue.parse? requestId with
  | some status, some contentType, some id =>
      { status
        headers := (HeaderMap.empty.append HeaderName.contentType contentType).append
          HeaderName.requestId id
        body := Body.ofText text }
  | _, _, _ => fallback

end ErrorPage

end Gateway
