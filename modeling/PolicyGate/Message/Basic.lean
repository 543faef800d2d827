import PolicyGate.Text.Bytes
/-! # Messages

A request seen through its schema: each message has a full name and fields in the order of their
declaration, and each field tells its declared kind even when it is unset or empty. -/

namespace PolicyGate

/-- The kind of a field, which for repeated fields and maps is that of their elements. -/
inductive FieldKind
  | bool
  | int32
  | int64
  | uint32
  | uint64
  | float
  | double
  | string
  | bytes
  | enum
  | message
  | group
deriving DecidableEq, Repr

def FieldKind.text : FieldKind → String
  | bool => "bool"
  | int32 => "int32"
  | int64 => "int64"
  | uint32 => "uint32"
  | uint64 => "uint64"
  | float => "float"
  | double => "double"
  | string => "string"
  | bytes => "bytes"
  | enum => "enum"
  | message => "message"
  | group => "group"

/-- A value that has no fields of its own. Facts cannot carry floating-point numbers and groups, so
their contents are not kept. -/
inductive Scalar
  | bool (b : Bool)
  | int32 (n : Int32)
  | int64 (n : Int64)
  | uint32 (n : UInt32)
  | uint64 (n : UInt64)
  | float
  | double
  | string (s : String)
  | bytes (bs : Bytes)
  /-- The number of an enumeration, and its name when the schema has one. -/
  | enum (number : Int32) (name : Option String)
  | group
deriving DecidableEq, Repr

def Scalar.kind : Scalar → FieldKind
  | bool _ => .bool
  | int32 _ => .int32
  | int64 _ => .int64
  | uint32 _ => .uint32
  | uint64 _ => .uint64
  | float => .float
  | double => .double
  | string _ => .string
  | bytes _ => .bytes
  | enum .. => .enum
  | group => .group

inductive MapKey
  | bool (b : Bool)
  | int (n : Int64)
  | uint (n : UInt64)
  | string (s : String)
deriving DecidableEq, Repr

def MapKey.text : MapKey → String
  | bool b => if b then "true" else "false"
  | int n => toString n.toInt
  | uint n => toString n.toNat
  | string s => s

mutual

inductive FieldValue
  | scalar (s : Scalar)
  | message (name : String) (fields : List Field)

inductive FieldContent
  | unset
  | single (value : FieldValue)
  | repeated (values : List FieldValue)
  | map (entries : List (MapKey × FieldValue))

inductive Field
  | mk (name : String) (kind : FieldKind) (content : FieldContent)

end

def FieldValue.kind : FieldValue → FieldKind
  | scalar s => s.kind
  | message .. => .message

namespace Field

def name : Field → String
  | mk name _ _ => name

def kind : Field → FieldKind
  | mk _ kind _ => kind

def content : Field → FieldContent
  | mk _ _ content => content

def single (name : String) (kind : FieldKind) (value : FieldValue) : Field :=
  mk name kind (.single value)

def optional (name : String) (kind : FieldKind) (value : Option FieldValue) : Field :=
  mk name kind (match value with
    | some v => .single v
    | none => .unset)

end Field

/-- A message: its full name and its fields in the order of their declaration. -/
structure Message where
  name : String
  fields : List Field

def Message.value (m : Message) : FieldValue :=
  .message m.name m.fields

end PolicyGate
