import ScriptLint.Docs.ResponseHeaders
import ScriptLint.Docs.Site
import ScriptLint.Web.Address

/-!
# Sites on the web

A documentation site below a web address.  Pages are asked for over a network, which may have no
answer.  An answer may send the question on to another address, up to ten times.
-/

namespace ScriptLint

/-- What is asked of an address. -/
inductive WebMethod where
  | head
  | get
deriving DecidableEq, Repr

namespace WebMethod

def word : WebMethod → String
  | head => "HEAD"
  | get => "GET"

end WebMethod

/-- The answer of a host. -/
structure WebReply where
  status : Nat
  headers : List ResponseHeader
  body : List UInt8

namespace WebReply

def isSuccess (reply : WebReply) : Bool :=
  200 ≤ reply.status && reply.status < 300

/-- The address that a question is sent on to, if it is. -/
def redirection? (reply : WebReply) (address : WebAddress) : Option WebAddress :=
  if [301, 302, 303, 307, 308].contains reply.status then
    (ResponseHeader.text? reply.headers "location").bind address.resolve?
  else none

def text (reply : WebReply) : String :=
  Text.decode reply.body

end WebReply

/-- A network: the answers to what is asked of addresses, as far as there are any. -/
abbrev Network := WebMethod → WebAddress → Option WebReply

namespace Network

/-- The network without any host. -/
def unreachable : Network :=
  fun _ _ => none

/-- What came of a question: the addresses that were asked, and the last answer or the reason why
there is none. -/
structure Exchange where
  /-- The addresses, in order. -/
  asked : List WebAddress
  result : Except String WebReply

/-- Asks an address, and those it sends the question on to, up to a number of times. -/
def ask (network : Network) (method : WebMethod) : Nat → WebAddress → Exchange
  | hops, address =>
    match network method address with
    | none => ⟨[address], .error ("error sending request for url (" ++ address.text ++ ")")⟩
    | some reply =>
      match reply.redirection? address with
      | none => ⟨[address], .ok reply⟩
      | some next =>
        match hops with
        | 0 => ⟨[address], .error ("error following redirect for url (" ++ address.text ++ ")")⟩
        | fewer + 1 =>
          let later := ask network method fewer next
          ⟨address :: later.asked, later.result⟩

def hopLimit : Nat :=
  10

def askText (network : Network) (method : WebMethod) (text : String) : Exchange :=
  match WebAddress.ofText? text with
  | none => ⟨[], .error "builder error"⟩
  | some address => network.ask method hopLimit address

def send (network : Network) (method : WebMethod) (text : String) : Except DocsError WebReply :=
  match (network.askText method text).result with
  | .error reason => .error (.unreachable text reason)
  | .ok reply => if reply.isSuccess then .ok reply else .error (.refused reply.status text)

def site (network : Network) (base : String) : Site where
  url := Site.joinUrl base
  head page :=
    (network.send .head (Site.joinUrl base page)).map fun reply =>
      ResponseHeader.validation reply.headers
  fetch page :=
    (network.send .get (Site.joinUrl base page)).map fun reply =>
      ⟨reply.text, ResponseHeader.validation reply.headers⟩

def methodOf : Request → WebMethod
  | .head _ => .head
  | .fetch _ => .get

def pageOf : Request → String
  | .head page => page
  | .fetch page => page

def addressesAsked (network : Network) (base : String) (request : Request) : List WebAddress :=
  (network.askText (methodOf request) (Site.joinUrl base (pageOf request))).asked

end Network

end ScriptLint
