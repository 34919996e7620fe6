import Playback.Message.Request

/-!
# Variables

Parts of the live request that rules can refer to.
-/

namespace Playback

/-- A part of a live request. -/
inductive Variable where
  | url
  | method
  | scheme
  | host
  | port
  | path
  | query
deriving DecidableEq, Repr

namespace Variable

def all : List Variable :=
  [url, method, scheme, host, port, path, query]

def name : Variable → String
  | url => "request.url"
  | method => "request.method"
  | scheme => "request.scheme"
  | host => "request.host"
  | port => "request.port"
  | path => "request.path"
  | query => "request.query"

/-- The variable of a name, with blanks around it. -/
def ofName? (s : String) : Option Variable :=
  all.find? fun v => v.name == Text.trim s

/-- The value for a request; a part that is missing is the empty text. -/
def resolve (v : Variable) (live : Request) : String :=
  match v with
  | url => live.target.print
  | method => live.method.token
  | scheme => live.target.scheme.getD ""
  | host => live.target.host
  | port => (live.target.port.map toString).getD ""
  | path => live.target.path
  | query => live.target.query.getD ""

end Variable

end Playback
