import ScreenSynthesis.Json.Document
import ScreenSynthesis.Json.Token

/-!
# Reading documents

`read` builds the document of a text in one pass over its tokens, with the open containers on a
stack. Where a token does not fit, the open containers are abandoned: each keeps what it has so far
and stays unclosed.
-/

namespace ScreenSynthesis.Json

/-- How many containers may be nested in each other. -/
def maxNesting : Nat := 127

/-- An open container: what it has so far, the last item first. -/
inductive Frame where
  | array (items : List Document)
  /-- An object, with the name of the member whose value comes next. -/
  | object (members : List (String × Document)) (key : Option String)

namespace Frame

/-- The frame with `d` in the place that comes next. -/
def put (d : Document) : Frame → Frame
  | .array items => .array (d :: items)
  | .object members (some key) => .object ((key, d) :: members) none
  | .object members none => .object members none

/-- The container of a frame inside `outer` other containers. -/
def container (outer : Nat) (closed : Bool) (frame : Frame) : Document :=
  let d := match frame with
    | .array items => Document.array items.reverse closed
    | .object members _ => Document.object members.reverse closed
  if maxNesting ≤ outer then .refused d else d

end Frame

/-- What may come next in a text. -/
inductive Expectation where
  /-- A value. -/
  | value
  /-- A value, or the end of an array that is still empty. -/
  | item
  /-- A name, or the end of an object that is still empty. -/
  | member
  /-- A name. -/
  | key
  /-- A colon. -/
  | colon
  /-- A comma, or the end of the innermost container. -/
  | separator
deriving DecidableEq

/-- How far a text has been read. -/
inductive Progress where
  /-- The open containers, the innermost first, and what may come next. -/
  | reading (stack : List Frame) (expect : Expectation)
  /-- The whole document has been read. -/
  | done (d : Document)
  /-- More text follows a document, or it stopped making sense. -/
  | broken (d : Document)

namespace Progress

/-- The document when the text makes no sense any more. `hole` stands in the place that comes next,
if a value is due there. -/
def abandon : Option Document → List Frame → Document
  | hole, [] => hole.getD .fault
  | hole, frame :: outer =>
    let frame := match hole with
      | some d => frame.put d
      | none => frame
    abandon (some (frame.container outer.length false)) outer

/-- What has been read when `expect` is not met. -/
def giveUp (stack : List Frame) : Expectation → Document
  | .value | .item | .colon => abandon (some .fault) stack
  | .member | .key | .separator => abandon none stack

/-- A value has been read inside the open containers. -/
def deliver (d : Document) : List Frame → Progress
  | [] => .done d
  | frame :: outer => .reading (frame.put d :: outer) .separator

/-- The value of a token that is a value by itself. -/
def scalar? : Token → Option Document
  | .null => some .null
  | .bool b => some (.bool b)
  | .number n => some (.number n)
  | .string s => some (.string s)
  | .hugeNumber | .brokenString => some (.refused .null)
  | _ => none

/-- A value starts. -/
def begin (stack : List Frame) (expect : Expectation) : Token → Progress
  | .openArray => .reading (.array [] :: stack) .item
  | .openObject => .reading (.object [] none :: stack) .member
  | token =>
    match scalar? token with
    | some d => deliver d stack
    | none => .broken (giveUp stack expect)

/-- One more token. -/
def step : Progress → Token → Progress
  | .done d, _ => .broken d
  | .broken d, _ => .broken d
  | .reading stack expect, token =>
    -- a container that ends is a value for the one around it
    let close (frame : Frame) (outer : List Frame) :=
      deliver (frame.container outer.length true) outer
    match expect, token, stack with
    | .item, .closeArray, frame :: outer => close frame outer
    | .value, _, _ | .item, _, _ => begin stack expect token
    | .member, .closeObject, frame :: outer => close frame outer
    | .member, .string s, .object members _ :: outer
    | .key, .string s, .object members _ :: outer =>
      .reading (.object members (some s) :: outer) .colon
    | .colon, .colon, _ => .reading stack .value
    | .separator, .comma, .array _ :: _ => .reading stack .value
    | .separator, .comma, .object _ _ :: _ => .reading stack .key
    | .separator, .closeArray, .array items :: outer => close (.array items) outer
    | .separator, .closeObject, .object members key :: outer => close (.object members key) outer
    | _, _, _ => .broken (giveUp stack expect)

end Progress

/-- A document, and whether nothing but blanks follows it. -/
structure Reading where
  document : Document
  complete : Bool

/-- The document of a text. -/
def read (s : String) : Reading :=
  match (Token.scan s).foldl Progress.step (.reading [] .value) with
  | .done d => ⟨d, true⟩
  | .broken d => ⟨d, false⟩
  | .reading stack expect => ⟨Progress.giveUp stack expect, false⟩

/-- The value that a text writes. -/
def parse? (s : String) : Option Json :=
  let reading := read s
  if reading.complete then reading.document.toJson? else none

end ScreenSynthesis.Json
