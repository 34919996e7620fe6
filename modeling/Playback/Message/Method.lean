import Playback.Text.Basic

/-!
# Request methods
-/

namespace Playback

/-- The request methods that can be recorded and played back. -/
inductive Method where
  | get
  | post
  | put
  | delete
  | head
  | options
  | trace
  | patch
  | connect
deriving DecidableEq, Repr, Hashable

namespace Method

def all : List Method :=
  [get, post, put, delete, head, options, trace, patch, connect]

/-- The method as it stands in a request line. -/
def token : Method → String
  | get => "GET"
  | post => "POST"
  | put => "PUT"
  | delete => "DELETE"
  | head => "HEAD"
  | options => "OPTIONS"
  | trace => "TRACE"
  | patch => "PATCH"
  | connect => "CONNECT"

/-- The method as listings name it. -/
def label : Method → String
  | get => "Get"
  | post => "Post"
  | put => "Put"
  | delete => "Delete"
  | head => "Head"
  | options => "Options"
  | trace => "Trace"
  | patch => "Patch"
  | connect => "Connect"

/-- Reads a method token in any letter case, with blanks around it. -/
def ofToken? (s : String) : Option Method :=
  all.find? fun m => m.token == Text.upperAscii (Text.trim s)

/-- Whether the request body takes part in the rating. -/
def carriesBody : Method → Bool
  | post | put => true
  | _ => false

end Method

end Playback
