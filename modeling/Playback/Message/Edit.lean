import Playback.Message.Payload

/-!
# Edits of payloads

An edit changes the body, the media type or the headers. Edits are collected in three queues, one
for each part, and then carried out together; what an edit does to one part never depends on another.
-/

namespace Playback

/-- A change of one part of a payload, or of the media type together with its header. -/
inductive Edit where
  | body (change : Body → Body)
  | mediaType (change : MediaType → MediaType)
  | headers (change : List Field → List Field)
  | contentType (type : MediaType)

namespace Edit

/-- Keeps the headers that satisfy a condition. -/
def keepHeaders (keep : Field → Bool) : Edit :=
  headers fun fields => fields.filter keep

/-- Puts one header in place of all of its name. -/
def setHeader (name value : String) : Edit :=
  headers (Payload.replaceHeader name value)

end Edit

/-- The changes to be carried out on each part, in order. -/
structure EditQueues where
  body : List (Body → Body)
  mediaType : List (MediaType → MediaType)
  headers : List (List Field → List Field)

namespace EditQueues

def empty : EditQueues := ⟨[], [], []⟩

/-- Adds an edit after all others. -/
def push (q : EditQueues) : Edit → EditQueues
  | .body change => { q with body := q.body ++ [change] }
  | .mediaType change => { q with mediaType := q.mediaType ++ [change] }
  | .headers change => { q with headers := q.headers ++ [change] }
  | .contentType type =>
    { q with
      mediaType := q.mediaType ++ [fun _ => type]
      headers := q.headers ++ [Payload.replaceHeader "Content-Type" type.print] }

def ofList (edits : List Edit) : EditQueues :=
  edits.foldl push empty

/-- Carries the changes out, queue by queue. -/
def run (q : EditQueues) (p : Payload) : Payload where
  headers := q.headers.foldl (fun headers change => change headers) p.headers
  mediaType := q.mediaType.foldl (fun type change => change type) p.mediaType
  body := q.body.foldl (fun body change => change body) p.body

end EditQueues

namespace Payload

def edit (p : Payload) (edits : List Edit) : Payload :=
  (EditQueues.ofList edits).run p

/-- Makes the declared length agree with the body: untouched if it is declared once and correctly,
otherwise declared anew. -/
def withContentLength (p : Payload) : Except String Payload := do
  let expected := toString (← p.body.read).length
  match p.headerValues "content-length" with
  | [value] =>
    if Text.trim value == expected then return p
    else return p.edit [.setHeader "Content-Length" expected]
  | _ => return p.edit [.setHeader "Content-Length" expected]

/-- The codings of the body, in the order they were applied. -/
def listedEncodings (p : Payload) : String :=
  Text.join "," (p.headerValues "content-encoding")

end Payload

end Playback
