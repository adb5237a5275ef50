import ReviewDesk.Json.Token

/-!
JSON text as a tree of what is written: numerals and quoted strings as they stand and every member
of an object in its order, repeated names included. A tree says nothing yet about ranges, surrogates
or depth, so that parts nobody asks for may hold what a value may not.
-/

set_option autoImplicit false
set_option relaxedAutoImplicit false

namespace ReviewDesk.Json

inductive Node where
  | null
  | bool (value : Bool)
  | number (value : Numeral)
  | string (value : Quoted)
  | array (items : List Node)
  | object (members : List (Quoted × Node))

namespace Node

/-- A container that is still open, with what it holds so far, latest first. -/
inductive Frame where
  | array (items : List Node)
  | object (members : List (Quoted × Node)) (name : Quoted)

/-- What the text has to go on with. -/
inductive Want where
  | value
  | valueOrClose
  | commaOrClose
  | nameOrClose (members : List (Quoted × Node))
  | name (members : List (Quoted × Node))
  | colon
  | nothing (root : Node)

/-- A tree under construction: the open containers, innermost first, and what comes next. -/
structure Builder where
  frames : List Frame
  want : Want

namespace Builder

/-- Takes a finished value into the innermost container. -/
def accept (frames : List Frame) (node : Node) : Builder :=
  match frames with
  | [] => ⟨[], .nothing node⟩
  | .array items :: outer => ⟨.array (node :: items) :: outer, .commaOrClose⟩
  | .object members name :: outer => ⟨.object ((name, node) :: members) name :: outer, .commaOrClose⟩

/-- Starts a value. -/
def start? (frames : List Frame) : Token → Option Builder
  | .null => some (accept frames .null)
  | .bool value => some (accept frames (.bool value))
  | .number value => some (accept frames (.number value))
  | .string value => some (accept frames (.string value))
  | .openArray => some ⟨.array [] :: frames, .valueOrClose⟩
  | .openObject => some ⟨frames, .nameOrClose []⟩
  | _ => none

/-- Takes one lexical item. An object is open while its members wait in `want` or in a frame. -/
def take? (b : Builder) (token : Token) : Option Builder :=
  match b.want, b.frames, token with
  | .value, frames, token => start? frames token
  | .valueOrClose, .array items :: outer, .closeArray => some (accept outer (.array items.reverse))
  | .valueOrClose, frames, token => start? frames token
  | .commaOrClose, .array items :: outer, .comma => some ⟨.array items :: outer, .value⟩
  | .commaOrClose, .array items :: outer, .closeArray => some (accept outer (.array items.reverse))
  | .commaOrClose, .object members _ :: outer, .comma => some ⟨outer, .name members⟩
  | .commaOrClose, .object members _ :: outer, .closeObject =>
    some (accept outer (.object members.reverse))
  | .nameOrClose _, outer, .closeObject => some (accept outer (.object []))
  | .nameOrClose members, outer, .string name => some ⟨.object members name :: outer, .colon⟩
  | .name members, outer, .string name => some ⟨.object members name :: outer, .colon⟩
  | .colon, frames, .colon => some ⟨frames, .value⟩
  | _, _, _ => none

end Builder

def ofTokens? (tokens : List Token) : Option Node :=
  match tokens.foldlM Builder.take? ⟨[], .value⟩ with
  | some ⟨[], .nothing root⟩ => some root
  | _ => none

/-- The tree of a whole text. -/
def ofText? (text : String) : Option Node := (Token.ofChars? text.toList).bind ofTokens?

mutual

/-- The tree that writes a value. -/
def ofJson : Json → Node
  | .null => .null
  | .bool value => .bool value
  | .number value => .number (Numeral.ofNumber value)
  | .string value => .string (Quoted.ofText value)
  | .array items => .array (ofItems items)
  | .object members => .object (ofMembers members)

def ofItems : List Json → List Node
  | [] => []
  | item :: items => ofJson item :: ofItems items

def ofMembers : List (String × Json) → List (Quoted × Node)
  | [] => []
  | (name, value) :: members => (Quoted.ofText name, ofJson value) :: ofMembers members

end

mutual

/-- The value of a tree in which at most `depth` containers stand within each other. -/
def value? (depth : Nat) : Node → Option Json
  | .null => some .null
  | .bool value => some (.bool value)
  | .number value => value.value?.map Json.number
  | .string value => value.text?.map Json.string
  | .array items => if depth = 0 then none else (values? (depth - 1) items).map Json.array
  | .object members =>
    if depth = 0 then none else (memberValues? (depth - 1) members).map Json.ofMembers

def values? (depth : Nat) : List Node → Option (List Json)
  | [] => some []
  | node :: nodes => do
    let value ← value? depth node
    let values ← values? depth nodes
    some (value :: values)

def memberValues? (depth : Nat) : List (Quoted × Node) → Option (List (String × Json))
  | [] => some []
  | (name, node) :: members => do
    let name ← name.text?
    let value ← value? depth node
    let values ← memberValues? depth members
    some ((name, value) :: values)

end

/-- Puts separators between texts. -/
def joined : List (List Char) → List Char
  | [] => []
  | [text] => text
  | text :: texts => text ++ ',' :: joined texts

mutual

/-- The tree as text, without spaces. -/
def text : Node → List Char
  | .null => "null".toList
  | .bool value => (if value then "true" else "false").toList
  | .number value => value.text
  | .string value => value.text
  | .array items => '[' :: joined (texts items) ++ [']']
  | .object members => '{' :: joined (memberTexts members) ++ ['}']

def texts : List Node → List (List Char)
  | [] => []
  | node :: nodes => text node :: texts nodes

def memberTexts : List (Quoted × Node) → List (List Char)
  | [] => []
  | (name, node) :: members => (name.text ++ ':' :: text node) :: memberTexts members

end

end Node

/-- How many containers may stand within each other in a document. -/
def maxDepth : Nat := 127

/-- Reads a document that is wanted as a value. -/
def read? (text : String) : Option Json := (Node.ofText? text).bind (Node.value? maxDepth)

def text (value : Json) : String := String.ofList (Node.ofJson value).text

end ReviewDesk.Json
