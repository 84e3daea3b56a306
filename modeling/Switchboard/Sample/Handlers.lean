-- SUMMARY: A sample actor: handlers of every kind, typed and untyped, and two validators.
import Switchboard.Actor.Basic
import Switchboard.Json.Any
import Switchboard.Json.Writer

/-!
# Sample handlers

A collection of small handlers that show what a handler can do: answer with a
value or with a complete message, fail with an error for the peer or with one
that stays inside, crash, push messages, wait, and look at the connection. The
typed ones cover the types that parameters and results can have.
-/

namespace Switchboard.Sample

/-! ## Untyped handlers -/

def value (v : Json) : Script (Outcome Reply) := .done (.returned (.value v))

def message (m : Message) : Script (Outcome Reply) := .done (.returned (.message m))

def failure (f : Failure) : Script (Outcome Reply) := .done (.failed f)

/-- An event with the given parameters, under the trace identifier of a call. -/
def event (c : Call) (params : List Json) : Message :=
  { content := .notify "event" (.list params), traceId := c.traceId }

def echo : Handler := fun _ ps => value (.arr ps)

def kind : Handler := fun c _ => value (.str c.message.kind)

def trace : Handler := fun c _ => value (.str c.traceId)

def count : Handler := fun _ ps => value (.ofInt ps.length)

/-- The error that the first parameter describes. -/
def fail : Handler := fun _ ps =>
  let spec := ps.headD .null
  failure <| .rpc {
    code := Int64.ofInt (((spec.member? "code").bind Json.int64?).getD 1000)
    message := ((spec.member? "message").bind Json.str?).getD "custom failure"
    data := spec.member? "data" }

def leaky : Handler := fun _ _ => failure (.other "secret path /etc/shadow")

def plain : Handler := fun _ _ => failure (.other "plain text")

def boom : Handler := fun _ _ => .done .crashed

/-- A complete result under the identifier of the message, which has to have one. -/
def raw : Handler := fun c _ =>
  match c.message.id? with
  | some id => message { content := .result id (.str "verbatim"), traceId := "own" }
  | none => .done .crashed

def rawNotify : Handler := fun _ ps => message (.notify "other" (.list ps))

/-- A member of the object that the message was read from, as text. -/
def field : Handler := fun c ps =>
  match (ps.headD .null).str?.bind fun key => c.message.rawField? key with
  | some v => value (.str v.compact)
  | none => value .null

def optional (s : Option String) : Json := (s.map Json.str).getD .null

/-- What the handler knows of its connection. -/
def conn : Handler := fun c _ =>
  let k := c.connection
  let describe (session : Json) : Script (Outcome Reply) := value <| .ofMembers [
    ("transport", .str k.transport.name),
    ("streaming", .bool k.transport.isStreaming),
    ("identity", optional k.identity),
    ("remote", optional (k.remote.map fun a => if a.isLoopback then "<loopback>" else a.text)),
    ("header", optional (k.headers.get? "x-test")),
    ("session", session),
    ("stream_id_len", .ofInt k.streamId.length),
    ("method", optional c.message.method?)]
  if k.hasSession then .askClosed fun closed => describe (.bool closed) else describe .null

/-- Pushes each parameter as an event and answers how many there were. -/
def push : Handler := fun c ps =>
  .pushAll (ps.map fun p => event c [p]) fun ok =>
    if ok then value (.ofInt ps.length) else failure .sessionClosed

/-! ## Types -/

structure Point where
  x : Int
  y : Int
deriving DecidableEq, Repr

structure Shape where
  name : String
  place : Point
  tags : List String
  note : Option String
deriving DecidableEq, Repr

structure PointDraft where
  x : Option Int := none
  y : Option Int := none

structure ShapeDraft where
  name : Option String := none
  place : Option Point := none
  tags : List String := []
  note : Option (Option String) := none

def Point.read : Reading Point :=
  Reading.record "Point"
    [ .of "x" .int64 fun x d => { d with x := some x },
      .of "y" .int64 fun y d => { d with y := some y } ]
    ({} : PointDraft)
    fun d => do return { x := ← Reading.required "x" d.x, y := ← Reading.required "y" d.y }

def Point.toJson (p : Point) : Json := .ofMembers [("x", .ofInt p.x), ("y", .ofInt p.y)]

def Shape.read : Reading Shape :=
  Reading.record "Shape"
    [ .of "name" .string fun s d => { d with name := some s },
      .of "at" Point.read fun p d => { d with place := some p },
      .defaulted "tags" (.list .string) fun ts d => { d with tags := ts },
      .of "note" (.option .string) fun n d => { d with note := some n } ]
    ({} : ShapeDraft)
    fun d => do
      return {
        name := ← Reading.required "name" d.name
        place := ← Reading.required "at" d.place
        tags := d.tags
        note := d.note.getD none }

def Shape.toJson (s : Shape) : Json :=
  .ofMembers [("name", .str s.name), ("at", s.place.toJson), ("tags", .arr (s.tags.map .str)),
    ("note", optional s.note)]

def int64 : ParamType Int := ⟨.signed 64, .int64⟩
def int32 : ParamType Int := ⟨.signed 32, .int32⟩
def uint64 : ParamType Int := ⟨.unsigned 64, .uint64⟩
def uint32 : ParamType Int := ⟨.unsigned 32, .uint32⟩
def uint8 : ParamType Int := ⟨.unsigned 8, .uint8⟩
def double : ParamType Float := ⟨.double, .float⟩
def boolean : ParamType Bool := ⟨.bool, .bool⟩
def character : ParamType Char := ⟨.char, .char⟩
def text : ParamType String := ⟨.text, .string⟩
def anything : ParamType Json := ⟨.json, .any⟩
def int64s : ParamType (List Int) := ⟨.list (.signed 64), .list .int64⟩
def maybeInt64 : ParamType (Option Int) := ⟨.option (.signed 64), .option .int64⟩
def int64Table : ParamType (Keyed Int) := ⟨.table (.signed 64), .table .int64⟩
def int64AndText : ParamType (Int × String) :=
  ⟨.tuple [.signed 64, .text], .pair .int64 .string⟩
def point : ParamType Point := ⟨.record "Point", Point.read⟩
def shape : ParamType Shape := ⟨.record "Shape", Shape.read⟩

/-- A type of results that can always be written. -/
def written {α : Type} (type : TypeTerm) (write : α → Json) : ResultType α :=
  { type, write := fun a => .ok (write a) }

def toInt (type : TypeTerm) : ResultType Int := written type .ofInt
def toText : ResultType String := written .text .str
def toLiteral : ResultType String := written .literal .str

/-! ## Typed handlers -/

def overflow : RpcError := { code := -32050, message := "overflow" }

/-- A sum that a signed word of 64 bits has to hold. -/
def checkedSum (a b : Int) : Outcome Int :=
  if Text.inInt64 (a + b) then .returned (a + b) else .failed (.rpc overflow)

def add : TypedHandler [Int, Int] Int where
  params := (int64, int64, ())
  result := toInt (.signed 64)
  body _ args := .done (checkedSum args.1 args.2.1)

def ping : TypedHandler [] String where
  params := ()
  result := toLiteral
  body _ _ := .done (.returned "pong")

def nothing : TypedHandler [] Unit where
  params := ()
  result := written .unit fun _ => .null
  body _ _ := .done (.returned ())

def whoami : TypedHandler [] (Option String) where
  params := ()
  result := written (.option .text) optional
  body c _ := .done (.returned c.connection.identity)

def echoAny : TypedHandler [Json, Json] Json where
  params := (anything, anything, ())
  result := written .json id
  body _ args := .done (.returned args.1)

def concat : TypedHandler [String, String] String where
  params := (text, text, ())
  result := toText
  body _ args := .done (.returned (args.1 ++ args.2.1))

def negate : TypedHandler [Bool] Bool where
  params := (boolean, ())
  result := written .bool .bool
  body _ args := .done (.returned !args.1)

def half : TypedHandler [Float] Float where
  params := (double, ())
  result := written .double .ofFloat
  body _ args := .done (.returned (args.1 / 2.0))

def sameDouble : TypedHandler [Float] Float where
  params := (double, ())
  result := written .double .ofFloat
  body _ args := .done (.returned args.1)

/-- Answers its integer parameter. -/
def same (p : ParamType Int) : TypedHandler [Int] Int where
  params := (p, ())
  result := toInt p.type
  body _ args := .done (.returned args.1)

def letter : TypedHandler [Char] Int where
  params := (character, ())
  result := toInt (.unsigned 32)
  body _ args := .done (.returned args.1.toNat)

def maybe : TypedHandler [Option Int] (Option Int) where
  params := (maybeInt64, ())
  result := written (.option (.signed 64)) fun n => (n.map Json.ofInt).getD .null
  body _ args := .done (.returned args.1)

def sum : TypedHandler [List Int] Int where
  params := (int64s, ())
  result := toInt (.signed 64)
  body _ args := .done (args.1.foldl (fun acc n => acc.bind fun a => checkedSum a n) (.returned 0))

def swap : TypedHandler [Int × String] (String × Int) where
  params := (int64AndText, ())
  result := written (.tuple [.text, .signed 64]) fun (s, n) => .arr [.str s, .ofInt n]
  body _ args := .done (.returned (args.1.2, args.1.1))

def table : TypedHandler [Keyed Int] (Keyed Int) where
  params := (int64Table, ())
  result := written (.table (.signed 64)) fun t => .ofMembers (t.map fun e => (e.1, .ofInt e.2))
  body _ args := .done (.returned args.1)

/-- The point with its coordinates swapped. -/
def mirrored : TypedHandler [Point] Point where
  params := (point, ())
  result := written (.record "Point") Point.toJson
  body _ args := .done (.returned { x := args.1.y, y := args.1.x })

def sameShape : TypedHandler [Shape] Shape where
  params := (shape, ())
  result := written (.record "Shape") Shape.toJson
  body _ args := .done (.returned args.1)

/-- A table whose keys are pairs, which no object can hold. -/
def badKey : TypedHandler [Int] (List ((Int × Int) × Int)) where
  params := (int64, ())
  result :=
    { type := .table (.signed 64)
      write := fun t => if t.isEmpty then .ok (.obj []) else .error .keyNotString }
  body _ args := .done (.returned [((args.1, args.1), args.1)])

def typedFail : TypedHandler [Int, String] Unit where
  params := (int64, text, ())
  result := written .unit fun _ => .null
  body _ args := .done (.failed (.rpc { code := Int64.ofInt args.1, message := args.2.1 }))

def typedLeaky : TypedHandler [String] Unit where
  params := (text, ())
  result := written .unit fun _ => .null
  body _ args := .done (.failed (.other args.1))

/-- The first item, which has to be there. -/
def typedBoom : TypedHandler [List Int] Int where
  params := (int64s, ())
  result := toInt (.signed 64)
  body _ args :=
    match args.1 with
    | n :: _ => .done (.returned n)
    | [] => .done .crashed

def three : TypedHandler [Int, String, Bool] (Bool × String × Int) where
  params := (int64, text, boolean, ())
  result := written (.tuple [.bool, .text, .signed 64])
    fun (b, s, n) => .arr [.bool b, .str s, .ofInt n]
  body _ args := .done (.returned (args.2.2.1, args.2.1, args.1))

def eight : TypedHandler [Int, Int, Int, Int, Int, Int, Int, Int] (List Int) where
  params := (int64, int64, int64, int64, int64, int64, int64, int64, ())
  result := written (.list (.signed 64)) fun ns => .arr (ns.map .ofInt)
  body _ args :=
    let (a, b, c, d, e, f, g, h, _) := args
    .done (.returned [h, g, f, e, d, c, b, a])

/-- Pushes as many events on a topic as asked for. -/
def subscribe : TypedHandler [String, Int] String where
  params := (text, uint32, ())
  result := toLiteral
  body c args :=
    let events := (List.range args.2.1.toNat).map fun (i : Nat) =>
      { event c [.str args.1, .ofInt i] with traceId := "" }
    .pushAll events fun ok =>
      .done (if ok then .returned "subscribed" else .failed .sessionClosed)

def sleep : TypedHandler [Int] Int where
  params := (uint64, ())
  result := toInt (.unsigned 64)
  body _ args := .sleep args.1.toNat (.done (.returned args.1))

/-! ## Validators -/

/-- The first parameter, from position `i` on, that is not what is wanted. -/
def firstMismatch (i : Nat) : List (String × Bool) → Option SchemaFault
  | [] => none
  | (wanted, ok) :: rest =>
    if ok then firstMismatch (i + 1) rest
    else some ⟨".params[" ++ Text.numeral i ++ "]", "data is not " ++ wanted⟩

def isInteger (v : Json) : Bool := v.int64?.isSome

/-- All parameters are integers of 64 bits. -/
def integers : Validator := fun _ m =>
  firstMismatch 0 (m.positional.map fun p => ("integer", isInteger p))

/-- The value is of the kind that a schema names. -/
def matchesKind (kind : String) (v : Json) : Bool :=
  match kind, v with
  | "integer", v => isInteger v
  | "number", v => (v matches .num _)
  | "string", v => (v matches .str _)
  | "bool", v => (v matches .bool _)
  | "array", v => (v matches .arr _)
  | "object", v => (v matches .obj _)
  | "null", v => (v matches .null)
  | _, _ => true

def items : Json → List Json
  | .arr vs => vs
  | _ => []

/-- Checks the count and the kinds of parameters against `len`, if that is an
unsigned number, and `types`. -/
def bySchema : Validator := fun schema m =>
  let ps := m.positional
  let wrongCount := match (schema.member? "len").bind Json.uint64? with
    | some n => if n = ps.length then none else some n
    | none => none
  match wrongCount with
  | some n => some ⟨".params", "length must be " ++ Text.numeral n⟩
  | none =>
    let kinds := (((schema.member? "types").map items).getD []).map fun t => t.str?.getD ""
    firstMismatch 0 ((kinds.zip ps).map fun (k, p) => (k, matchesKind k p))

/-! ## The actor -/

def untyped (h : Handler) : Entry := { handler := h }

def typed {ts : List Type} {ρ : Type} (h : TypedHandler ts ρ) : Entry :=
  { handler := h.toHandler, shape := some h.shape }

/-- The sample handlers under the names by which they are called. -/
def entries : List (String × Entry) := [
  ("echo", untyped echo), ("kind", untyped kind), ("trace", untyped trace),
  ("count", untyped count), ("fail", untyped fail), ("leaky", untyped leaky),
  ("msg", untyped plain), ("boom", untyped boom), ("raw", untyped raw),
  ("raw_notify", untyped rawNotify), ("field", untyped field), ("conn", untyped conn),
  ("push", untyped push),
  ("ping", typed ping), ("nothing", typed nothing), ("whoami", typed whoami),
  ("echoAny", typed echoAny), ("add", typed add), ("checkedAdd", typed add),
  ("concat", typed concat), ("not", typed negate), ("half", typed half),
  ("same_f64", typed sameDouble), ("byte", typed (same uint8)),
  ("unsigned", typed (same uint64)), ("int32", typed (same int32)), ("letter", typed letter),
  ("maybe", typed maybe), ("sum", typed sum), ("swap", typed swap), ("table", typed table),
  ("point", typed mirrored), ("shape", typed sameShape), ("bad_key", typed badKey),
  ("typed_fail", typed typedFail), ("typed_leaky", typed typedLeaky),
  ("typed_boom", typed typedBoom), ("three", typed three), ("eight", typed eight),
  ("subscribe", typed subscribe), ("sleep", typed sleep)]

def entry? (name : String) : Option Entry := entries.lookup name

/-- The actor with all sample handlers. Only `checkedAdd` has a schema. -/
def actor : Actor where
  entries := Keyed.ofList (entries.map fun (name, e) =>
    (name, if name = "checkedAdd" then { e with schema := some (.obj []) } else e))
  onClose := some fun c => c.transport.name
  validator := some integers

/-! ## Identities -/

/-- The identity behind a bearer token: `secret` is alice, and a name followed by
`!` stands for itself. -/
def bearer (h : Headers) (_remote : Option SocketAddress) : Option String :=
  match (h.text? "authorization").map String.toList with
  | some value =>
    if "Bearer ".toList.isPrefixOf value then
      let token := value.drop 7
      if token = "secret".toList then some "alice"
      else if token.getLast? = some '!' then some (String.ofList token.dropLast)
      else none
    else none
  | none => none

end Switchboard.Sample
