import PublishGate.Http
import PublishGate.Http.Address
import PublishGate.Http.Charset

/-! # Exchanges with a server -/

namespace PublishGate.Http

/-- What a server answers to one request. A truncated body breaks off before its announced end. -/
structure Response where
  status : Nat := 200
  headers : List (String × String) := []
  body : List UInt8 := []
  truncated : Bool := false
  deriving DecidableEq, Repr

def Response.header? (r : Response) (name : String) : Option String :=
  (r.headers.find? fun h => h.1.toList.map Char.toLower = name.toList).map (·.2)

/-- A server at a host, with the responses that are left. The last one is given again and again;
without any, nothing listens. -/
structure Server where
  host : String
  responses : List Response
  deriving DecidableEq, Repr

structure Request where
  method : String
  path : String
  userAgent : String
  deriving DecidableEq, Repr

def userAgent : String := "docgate/0.1.0"

def Server.next? (s : Server) : Option (Response × Server) :=
  match s.responses with
  | [] => none
  | [r] => some (r, s)
  | r :: rest => some (r, { s with responses := rest })

def Response.location? (r : Response) : Option String :=
  if [301, 302, 303, 307, 308].contains r.status then r.header? "location" else none

def Response.outcome (r : Response) (url : String) : HttpOutcome :=
  .answered r.status (if r.truncated then
      .error ("error decoding response body for url (" ++ url ++
        "): error reading a body from connection: end of file before message length reached")
    else .ok (bodyText (r.header? "content-type") r.body))

/-- One request after the other along redirects, of which `left` may still be followed. -/
def follow : Nat → Server → Address → HttpOutcome × List Request × Server
  | left, server, a =>
    let request : Request := ⟨"GET", String.ofList a.path, userAgent⟩
    if String.ofList a.host ≠ server.host then
      (.failed ("error sending request for url (" ++ a.text ++ ")"), [], server)
    else match server.next? with
    | none =>
      (.failed ("error sending request for url (" ++ a.text ++ "): client error (Connect): " ++
        "tcp connect error: Connection refused (os error 111)"), [], server)
    | some (r, server) =>
      match r.location? with
      | none => (r.outcome a.text, [request], server)
      | some reference =>
        match a.refer reference, left with
        | .error _, _ => (r.outcome a.text, [request], server)
        | .ok _, 0 =>
          (.failed ("error following redirect for url (" ++ a.text ++ "): too many redirects"),
            [request], server)
        | .ok b, left + 1 =>
          let (outcome, requests, server) := follow left server b
          (outcome, request :: requests, server)

def redirectLimit : Nat := 10

def Server.fetch (server : Server) (url : String) : HttpOutcome × List Request × Server :=
  match Address.read url with
  | .error e => (.failed e.message, [], server)
  | .ok a => follow redirectLimit server a

end PublishGate.Http
