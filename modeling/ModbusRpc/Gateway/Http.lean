import ModbusRpc.Json.Encoding
import ModbusRpc.Json.Filter
import ModbusRpc.Json.Reader
import ModbusRpc.Json.Writable
import ModbusRpc.Rpc.Reply
import ModbusRpc.Text.Blank

/-! # HTTP

Three resources are served. The body of a call is read in stages, each of which can end in an answer
of its own: it has to be there, to be decoded, to be JSON, and to describe a call. A body that is
not declared as JSON is taken as a plain text.
-/

namespace ModbusRpc.Http

structure Request where
  method : String
  path : String
  /-- Empty if the header is not sent. -/
  contentType : String := "application/json"
  body : List UInt8 := []

inductive Content where
  | none
  | json (v : Json)
  | plain (s : String)

/-- Why a request failed although an answer was still given. -/
inductive Crash where
  | noService
  | unwritableNumber
  | unwritableText
  | undecodableText
  | unwritableReply
  deriving DecidableEq, Repr

structure Response where
  status : Nat
  content : Content
  crash : Option Crash := Option.none

def Content.type : Content → String
  | none => ""
  | json _ => "application/json"
  | plain _ => "text/plain; charset=utf-8"

def ok (v : Json) : Response := ⟨200, .json v, Option.none⟩

def crashed (c : Crash) : Response := ⟨500, .plain "Internal Server Error", some c⟩

def detail (status : Nat) (message : String) : Response :=
  ⟨status, .json (.ofFields [("detail", .ofString message)]), Option.none⟩

inductive Resource where
  | root
  | health
  | rpc
  deriving DecidableEq, Repr

namespace Resource

def path : Resource → String
  | root => "/"
  | health => "/health"
  | rpc => "/rpc"

def method : Resource → String
  | root | health => "GET"
  | rpc => "POST"

def all : List Resource := [root, health, rpc]

/-- The resource at a path, which may have a line feed at its end. -/
def ofPath? (path : String) : Option Resource :=
  all.find? fun r => path = r.path ∨ path = r.path ++ "\n"

end Resource

/-- The path that a client is sent to instead of one that does not exist: without the slashes at its
end, or with one. -/
def otherPath (path : String) : String :=
  if path.toList.getLast? = some '/' then
    String.ofList (path.toList.reverse.dropWhile (· = '/')).reverse
  else path ++ "/"

def route (r : Request) : Except Response Resource :=
  match Resource.ofPath? r.path with
  | some resource =>
    if r.method = resource.method then .ok resource else .error (detail 405 "Method Not Allowed")
  | none =>
    if (Resource.ofPath? (otherPath r.path)).isSome then .error ⟨307, .none, Option.none⟩
    else .error (detail 404 "Not Found")

/-- Is a content type one of JSON documents? Parameters, ASCII blanks around it and case do not
count. -/
def isJsonType (contentType : String) : Bool :=
  let base := contentType.toList.takeWhile (· ≠ ';')
  let name := (trimWith isAsciiBlank base).map Char.toLower
  let main := name.takeWhile (· ≠ '/')
  let sub := (name.dropWhile (· ≠ '/')).drop 1
  main = "application".toList && !sub.contains '/' &&
    (sub = "json".toList || "+json".toList.isSuffixOf sub)

/-- What is known of a body before it is looked at as a call. -/
inductive Body where
  | empty
  | value (v : Json)
  /-- Bytes that are not declared as JSON. -/
  | raw (bytes : List UInt8)

def bodyLimits : Json.Limits := ⟨960, 4300⟩

/-- What the names of members begin with that are never repeated to a client. -/
def privateMark : Text := "_sa"

def issueJson (i : Issue) : Json :=
  .ofFields ([("type", .ofString i.flaw.kind),
    ("loc", .array ((Text.ofString "body" :: i.location).map .text)),
    ("msg", .ofString i.flaw.message),
    ("input", i.input.filterKeys fun key => !privateMark.isPrefixOf key)] ++
    if i.flaw.context.isEmpty then [] else [("ctx", .ofFields i.flaw.context)])

/-- The answer with a value, if it can be written. -/
def answered (v : Json) : Response := if v.hasLoneSurrogate then crashed .unwritableReply else ok v

def unprocessable (details : List Json) : Response :=
  let v : Json := .ofFields [("detail", .array details)]
  if v.hasInfinite then crashed .unwritableNumber
  else if v.hasLoneSurrogate then crashed .unwritableText
  else ⟨422, .json v, Option.none⟩

def malformed (fault : Json.SyntaxFault) (position : Nat) : Response :=
  unprocessable [.ofFields [("type", .ofString "json_invalid"),
    ("loc", .array [.ofString "body", .int position]), ("msg", .ofString "JSON decode error"),
    ("input", .object []), ("ctx", .ofFields [("error", .ofString fault.message)])]]

def unreadable : Response := detail 400 "There was an error parsing the body"

def readBody (r : Request) : Except Response Body :=
  if r.body.isEmpty then .ok .empty
  else if isJsonType r.contentType then
    match Json.decodeBytes r.body with
    | none => .error unreadable
    | some t =>
      match Json.read bodyLimits t with
      | .ok v => .ok (.value v)
      | .error (.malformed fault position) => .error (malformed fault position)
      | .error _ => .error unreadable
  else .ok (.raw r.body)

def callOf : Body → Except Response Call
  | .empty => .error (unprocessable [issueJson ⟨[], .missing, .null⟩])
  | .raw bytes =>
    match String.fromUTF8? ⟨bytes.toArray⟩ with
    | none => .error (crashed .undecodableText)
    | some s => .error (unprocessable [issueJson ⟨[], .notFields, .ofString s⟩])
  | .value v =>
    match Call.ofJson v with
    | .ok call => .ok call
    | .error issues => .error (unprocessable (issues.map issueJson))

end ModbusRpc.Http
