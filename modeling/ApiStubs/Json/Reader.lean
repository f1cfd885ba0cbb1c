import ApiStubs.Json.Token

/-!
# Reading JSON

Tokens are read from the left; containers that are not closed yet wait on a stack. Where the
tokens stop being JSON, the value read so far is closed around a `broken` place.

* `Frame`, `unwind`: the containers that wait, and the value they make around their last place;
* `Due`, `readTokens`: what the next token has to be, and the reading from there;
* `Source`, `read`: what a text says.
-/

namespace ApiStubs.Json

/-- A container that is being read: what it holds so far, last first, and for an object the key of
the value to come. -/
inductive Frame where
  | array (items : List Json)
  | object (members : List (Option String × Json)) (key : Option String)

/-- The container with a last value. -/
def Frame.close (v : Json) : Frame → Json
  | .array items => .array (v :: items).reverse
  | .object members key => .object ((key, v) :: members).reverse

/-- The value with the waiting containers closed around it, innermost first. -/
def unwind (v : Json) (stack : List Frame) : Json := stack.foldl Frame.close v

@[simp] theorem unwind_nil (v : Json) : unwind v [] = v := rfl

@[simp] theorem unwind_cons (v : Json) (f : Frame) (stack : List Frame) :
    unwind v (f :: stack) = unwind (f.close v) stack := rfl

/-- What has to come next. -/
inductive Due where
  | value
  /-- A value, or the end of an array just begun. -/
  | item
  /-- A key, or the end of an object just begun. -/
  | member
  /-- The key after these members. -/
  | key (members : List (Option String × Json))
  | colon (members : List (Option String × Json)) (key : Option String)
  /-- Something after a complete value. -/
  | separator (v : Json)

/-- What a text says, and whether nothing follows it. -/
structure Source where
  value : Json
  ended : Bool

/-- What is due after the token that starts a value. -/
def Token.start? : Token → Option Due
  | .null => some (.separator .null)
  | .bool b => some (.separator (.bool b))
  | .number n => some (.separator (.number n))
  | .text s => some (.separator (.text s))
  | .openArray => some .item
  | .openObject => some .member
  | _ => none

/-- A value that breaks off inside the waiting containers. -/
def breakOff (stack : List Frame) : Source := ⟨unwind .broken stack, true⟩

/-- An object that breaks off where a key is due. -/
def breakOffAtKey (members : List (Option String × Json)) (stack : List Frame) : Source :=
  ⟨unwind (.object ((none, .broken) :: members).reverse) stack, true⟩

/-- The value that the tokens say, given what is due and which containers wait. -/
def readTokens : Due → List Frame → List Token → Source
  | .separator v, [], tokens => ⟨v, tokens.isEmpty⟩
  | .value, stack, [] => breakOff stack
  | .value, stack, t :: tokens =>
    match t.start? with
    | some due => readTokens due stack tokens
    | none => breakOff stack
  | .item, stack, [] => breakOff (.array [] :: stack)
  | .item, stack, t :: tokens =>
    if t = .closeArray then readTokens (.separator (.array [])) stack tokens
    else
      match t.start? with
      | some due => readTokens due (.array [] :: stack) tokens
      | none => breakOff (.array [] :: stack)
  | .member, stack, [] => breakOffAtKey [] stack
  | .member, stack, t :: tokens =>
    match t with
    | .closeObject => readTokens (.separator (.object [])) stack tokens
    | .text key => readTokens (.colon [] key) stack tokens
    | _ => breakOffAtKey [] stack
  | .key members, stack, [] => breakOffAtKey members stack
  | .key members, stack, t :: tokens =>
    match t with
    | .text key => readTokens (.colon members key) stack tokens
    | _ => breakOffAtKey members stack
  | .colon members key, stack, [] => breakOff (.object members key :: stack)
  | .colon members key, stack, t :: tokens =>
    if t = .colon then readTokens .value (.object members key :: stack) tokens
    else breakOff (.object members key :: stack)
  | .separator v, .array items :: stack, [] => breakOff (.array (v :: items) :: stack)
  | .separator v, .array items :: stack, t :: tokens =>
    match t with
    | .comma => readTokens .value (.array (v :: items) :: stack) tokens
    | .closeArray => readTokens (.separator (.array (v :: items).reverse)) stack tokens
    | _ => breakOff (.array (v :: items) :: stack)
  | .separator v, .object members key :: stack, [] =>
    breakOffAtKey ((key, v) :: members) stack
  | .separator v, .object members key :: stack, t :: tokens =>
    match t with
    | .comma => readTokens (.key ((key, v) :: members)) stack tokens
    | .closeObject => readTokens (.separator (.object ((key, v) :: members).reverse)) stack tokens
    | _ => breakOffAtKey ((key, v) :: members) stack

/-- What a text says. -/
def read (text : String) : Source := readTokens .value [] (tokenize text.toList)

end ApiStubs.Json
