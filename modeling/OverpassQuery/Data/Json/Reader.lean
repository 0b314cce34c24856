import OverpassQuery.Data.Json.Lexer

/-!
# Reading JSON

The tokens of a text are taken one at a time by a machine that holds the
containers still open, each with what it has so far, and what may come next. A
text is well formed when the machine ends with one complete value and no
container open.
-/

set_option autoImplicit false

namespace OverpassQuery

namespace Json

/-- An open container, with the parts that are complete, the latest first. -/
inductive OpenContainer where
  | list (items : List RawJson)
  /-- A table with the key whose value is being read. -/
  | table (entries : List (List Piece × RawJson)) (key : List Piece)

/-- What may come next. -/
inductive Place where
  | value
  | itemOrEnd
  | keyOrEnd
  | key (entries : List (List Piece × RawJson))
  | colon (entries : List (List Piece × RawJson)) (key : List Piece)
  | complete (value : RawJson)

/-- The state between two tokens. -/
structure ReaderState where
  place : Place
  containers : List OpenContainer

namespace ReaderState

/-- The state before the first token. -/
def start : ReaderState := ⟨.value, []⟩

/-- The state after the first token of a value. -/
def readValue? (containers : List OpenContainer) : Token → Option ReaderState
  | .scalar scalar => some ⟨.complete (.scalar scalar), containers⟩
  | .openList => some ⟨.itemOrEnd, containers⟩
  | .openTable => some ⟨.keyOrEnd, containers⟩
  | _ => none

/-- The state after the token that follows a complete value. -/
def afterValue? (value : RawJson) : List OpenContainer → Token → Option ReaderState
  | .list items :: outer, .comma => some ⟨.value, .list (value :: items) :: outer⟩
  | .list items :: outer, .closeList => some ⟨.complete (.list (value :: items).reverse), outer⟩
  | .table entries key :: outer, .comma => some ⟨.key ((key, value) :: entries), outer⟩
  | .table entries key :: outer, .closeTable =>
      some ⟨.complete (.table ((key, value) :: entries).reverse), outer⟩
  | _, _ => none

/-- The state after one more token. -/
def next? (state : ReaderState) (token : Token) : Option ReaderState :=
  match state.place with
  | .value => readValue? state.containers token
  | .itemOrEnd =>
      if token = .closeList then some ⟨.complete (.list []), state.containers⟩
      else readValue? (.list [] :: state.containers) token
  | .keyOrEnd =>
      match token with
      | .closeTable => some ⟨.complete (.table []), state.containers⟩
      | .scalar (.text key) => some ⟨.colon [] key, state.containers⟩
      | _ => none
  | .key entries =>
      match token with
      | .scalar (.text key) => some ⟨.colon entries key, state.containers⟩
      | _ => none
  | .colon entries key =>
      if token = .colon then some ⟨.value, .table entries key :: state.containers⟩ else none
  | .complete value => afterValue? value state.containers token

/-- The value of a text that has been read to its end. -/
def result? : ReaderState → Option RawJson
  | ⟨.complete value, []⟩ => some value
  | _ => none

end ReaderState

/-- The tree of a byte string. -/
def parseRaw? (bytes : Bytes) : Option RawJson := do
  let state ← (← tokens? bytes).foldlM ReaderState.next? ReaderState.start
  state.result?

/-- The greatest number of containers inside one another. -/
def maxDepth : Nat := 127

/-- The value of a byte string. -/
def parse? (bytes : Bytes) : Option Data := do (← parseRaw? bytes).toData? maxDepth

end Json

end OverpassQuery
