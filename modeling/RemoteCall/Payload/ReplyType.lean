import RemoteCall.Endpoint.Json
import RemoteCall.Fault.Json
/-!
# Reply types

A caller names the type of the result it expects. The reply types are a closed family of
names; each has a carrier, a JSON form, and a reader of that form. A reply is a value together
with its type, as it travels from the decoder of a response to the future of the caller.
-/

namespace RemoteCall

/-- The arguments of a division. -/
structure Division where
  /-- The dividend. -/
  lhs : Int64
  /-- The divisor. -/
  rhs : Int64
  deriving Repr, DecidableEq

/-- The result of a division. -/
structure Quotient where
  /-- The quotient. -/
  value : Int64
  deriving Repr, DecidableEq

/-- The type of a result that a caller expects. -/
inductive ReplyType where
  /-- No information. -/
  | unit
  /-- A truth value. -/
  | bool
  /-- A number of 8 bits. -/
  | u8
  /-- A signed number of 32 bits. -/
  | i32
  /-- A number of 32 bits. -/
  | u32
  /-- A signed number of 64 bits. -/
  | i64
  /-- A number of 64 bits. -/
  | u64
  /-- A text. -/
  | text
  /-- A signed number of 64 bits, or nothing. -/
  | optional
  /-- A list of signed numbers of 64 bits. -/
  | list
  /-- Two signed numbers of 32 bits. -/
  | pair
  /-- The arguments of a division. -/
  | division
  /-- The result of a division. -/
  | quotient
  /-- Signed numbers of 64 bits by name, in the order of the names. -/
  | table
  /-- A fault. -/
  | fault
  /-- An endpoint. -/
  | endpoint
  /-- Any JSON value, with members in the order of their names. -/
  | any
  deriving Repr, DecidableEq

namespace ReplyType

/-- The values of a reply type. -/
abbrev Carrier : ReplyType → Type
  | unit => Unit
  | bool => Bool
  | u8 => UInt8
  | i32 => Int32
  | u32 => UInt32
  | i64 => Int64
  | u64 => UInt64
  | text => String
  | optional => Option Int64
  | list => List Int64
  | pair => Int32 × Int32
  | division => Division
  | quotient => Quotient
  | table => List (String × Int64)
  | fault => Fault
  | endpoint => Endpoint
  | any => Json

/-- The name of a reply type in messages. -/
def name : ReplyType → String
  | unit => "unit"
  | bool => "bool"
  | u8 => "u8"
  | i32 => "i32"
  | u32 => "u32"
  | i64 => "i64"
  | u64 => "u64"
  | text => "string"
  | optional => "opt_i64"
  | list => "vec_i64"
  | pair => "pair"
  | division => "divide"
  | quotient => "quotient"
  | table => "map"
  | fault => "fault"
  | endpoint => "endpoint"
  | any => "any"

/-- All reply types. -/
def all : List ReplyType :=
  [unit, bool, u8, i32, u32, i64, u64, text, optional, list, pair, division, quotient, table, fault,
    endpoint, any]

/-- The reply type with a name. -/
def ofName? (s : String) : Option ReplyType :=
  all.find? fun t => t.name == s

/-- The JSON form of a value. -/
def toJson : (t : ReplyType) → t.Carrier → Json
  | unit, _ => .null
  | bool, b => .bool b
  | u8, n => .int n.toNat
  | i32, n => .int n.toInt
  | u32, n => .int n.toNat
  | i64, n => .int n.toInt
  | u64, n => .int n.toNat
  | text, s => .string s
  | optional, none => .null
  | optional, some n => .int n.toInt
  | list, ns => .array (ns.map fun n => .int n.toInt)
  | pair, (m, n) => .array [.int m.toInt, .int n.toInt]
  | division, d => .object [("lhs", .int d.lhs.toInt), ("rhs", .int d.rhs.toInt)]
  | quotient, q => .object [("value", .int q.value.toInt)]
  | table, ns => .object (ns.map fun (name, n) => (name, .int n.toInt))
  | fault, f => f.toJson
  | endpoint, e => e.toJson
  | any, j => j

/-- Reads a signed number of 64 bits. -/
def readInt64 : Json.Reader Int64 := fun bs =>
  (Json.readInt Int64.minValue.toInt Int64.maxValue.toInt bs).map fun (i, rest) =>
    (Int64.ofInt i, rest)

/-- Reads a signed number of 32 bits. -/
def readInt32 : Json.Reader Int32 := fun bs =>
  (Json.readInt Int32.minValue.toInt Int32.maxValue.toInt bs).map fun (i, rest) =>
    (Int32.ofInt i, rest)

/-- Reads a number below a bound. -/
def readNat (bound : Nat) : Json.Reader Nat := fun bs =>
  (Json.readInt 0 ((bound : Int) - 1) bs).map fun (i, rest) => (i.toNat, rest)

/-- Reads a truth value. -/
def readBool : Json.Reader Bool := fun bs =>
  match Json.skipBlanks bs with
  | 0x74 :: rest => (Json.dropWord [0x72, 0x75, 0x65] rest).map (true, ·)
  | 0x66 :: rest => (Json.dropWord [0x61, 0x6C, 0x73, 0x65] rest).map (false, ·)
  | _ => none

/-- Reads the word for nothing. -/
def readUnit : Json.Reader Unit := fun bs =>
  match Json.skipBlanks bs with
  | 0x6E :: rest => (Json.dropWord [0x75, 0x6C, 0x6C] rest).map ((), ·)
  | _ => none

/-- Reads a list of exactly two numbers. -/
def readPair : Json.Reader (Int32 × Int32) := fun bs => do
  let (m, rest) ← readInt32 (← Json.expect 0x5B bs)
  let (n, rest) ← readInt32 (← Json.expect 0x2C rest)
  return ((m, n), ← Json.expect 0x5D rest)

/-- Reads an object of numbers. -/
def readTable : Json.Reader (List (String × Int64)) := fun bs =>
  (Json.expect 0x7B bs).bind (Json.readDictionaryTail readInt64)

/-- Reads the arguments of a division. -/
def readDivision : Json.Reader Division :=
  Json.readRecord
    [.ofPlace "lhs" Prod.fst (fun d x => (some x, d.2)) readInt64,
      .ofPlace "rhs" Prod.snd (fun d x => (d.1, some x)) readInt64]
    (none, none)
    fun d => do return { lhs := ← d.1, rhs := ← d.2 }

/-- Reads the result of a division. -/
def readQuotient : Json.Reader Quotient :=
  Json.readRecord [.ofPlace "value" id (fun _ x => some x) readInt64] none
    fun d => d.map Quotient.mk

/-- Reads a value of a reply type. -/
def read : (t : ReplyType) → Json.Reader t.Carrier
  | unit => readUnit
  | bool => readBool
  | u8 => fun bs => (readNat UInt8.size bs).map fun (n, rest) => (UInt8.ofNat n, rest)
  | i32 => readInt32
  | u32 => fun bs => (readNat UInt32.size bs).map fun (n, rest) => (UInt32.ofNat n, rest)
  | i64 => readInt64
  | u64 => fun bs => (readNat UInt64.size bs).map fun (n, rest) => (UInt64.ofNat n, rest)
  | text => Json.readString
  | optional => Json.readNullable readInt64
  | list => Json.readList readInt64
  | pair => readPair
  | division => readDivision
  | quotient => readQuotient
  | table => readTable
  | fault => Fault.read Json.maxLevels
  | endpoint => Endpoint.read
  | any => Json.readJson Json.maxLevels

end ReplyType

/-- A result together with its type. -/
structure Reply where
  /-- The type. -/
  type : ReplyType
  /-- The value. -/
  value : type.Carrier

namespace Reply

/-- The JSON form of a reply. -/
def toJson (r : Reply) : Json :=
  r.type.toJson r.value

/-- The value of a reply as one of the expected type, if it is of that type. -/
def as? (r : Reply) (t : ReplyType) : Option t.Carrier :=
  if h : r.type = t then some (h ▸ r.value) else none

end Reply

end RemoteCall
