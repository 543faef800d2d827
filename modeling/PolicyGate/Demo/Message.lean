import PolicyGate.Message.Basic
/-! # Messages of the demo service

The requests of the service `demo.v1.Demo` and the form in which fact derivation sees them. -/

namespace PolicyGate.Demo

def environmentName? (number : Int32) : Option String :=
  if number = 0 then some "DEV"
  else if number = 1 then some "STAGING"
  else if number = 2 then some "PROD"
  else none

structure Entity where
  name : String
  value : Int64
deriving DecidableEq, Repr

/-- Seconds and nanoseconds as they arrive, unchecked. -/
structure Timestamp where
  seconds : Int64
  nanos : Int32
deriving DecidableEq, Repr

structure ReadRequest where
  env : Int32
  names : List String
  expireTime : Option Timestamp
  stuff : List (String × Entity)
  stuff2 : List (Int64 × Entity)
  stuff3 : List (Bool × Entity)
  entities : List Entity
deriving DecidableEq, Repr

inductive Request
  | status
  | create (env : Int32) (entity : Option Entity)
  | read (r : ReadRequest)
  | update (env : Int32) (entity : Option Entity)
  | delete (env : Int32) (name : String)
  | watch (maxEvents : UInt32)
deriving DecidableEq, Repr

def envField (number : Int32) : Field :=
  .single "env" .enum (.scalar (.enum number (environmentName? number)))

def Entity.fieldValue (e : Entity) : FieldValue :=
  .message "demo.v1.Entity"
    [.single "name" .string (.scalar (.string e.name)),
     .single "value" .int64 (.scalar (.int64 e.value))]

def Timestamp.fieldValue (t : Timestamp) : FieldValue :=
  .message "google.protobuf.Timestamp"
    [.single "seconds" .int64 (.scalar (.int64 t.seconds)),
     .single "nanos" .int32 (.scalar (.int32 t.nanos))]

/-- The entries of a map: the last entry of a key replaces those before it. -/
def lastEntries {κ : Type} [DecidableEq κ] : List (κ × Entity) → List (κ × Entity)
  | [] => []
  | (k, e) :: rest =>
    if rest.any fun other => other.1 = k then lastEntries rest else (k, e) :: lastEntries rest

def entityMap {κ : Type} [DecidableEq κ] (name : String) (key : κ → MapKey)
    (entries : List (κ × Entity)) : Field :=
  .mk name .message (.map ((lastEntries entries).map fun (k, e) => (key k, e.fieldValue)))

def Request.message : Request → Message
  | status => ⟨"demo.v1.StatusRequest", []⟩
  | create env entity =>
    ⟨"demo.v1.CreateRequest",
      [envField env, .optional "entity" .message (entity.map Entity.fieldValue)]⟩
  | read r =>
    ⟨"demo.v1.ReadRequest",
      [envField r.env,
       .mk "names" .string (.repeated (r.names.map fun n => .scalar (.string n))),
       .optional "expire_time" .message (r.expireTime.map Timestamp.fieldValue),
       entityMap "stuff" .string r.stuff,
       entityMap "stuff2" .int r.stuff2,
       entityMap "stuff3" .bool r.stuff3,
       .mk "entities" .message (.repeated (r.entities.map Entity.fieldValue))]⟩
  | update env entity =>
    ⟨"demo.v1.UpdateRequest",
      [envField env, .optional "entity" .message (entity.map Entity.fieldValue)]⟩
  | delete env name =>
    ⟨"demo.v1.DeleteRequest",
      [envField env, .single "name" .string (.scalar (.string name))]⟩
  | watch maxEvents =>
    ⟨"demo.v1.WatchRequest", [.single "max_events" .uint32 (.scalar (.uint32 maxEvents))]⟩

def Request.method : Request → String
  | status => "/demo.v1.Demo/Status"
  | create .. => "/demo.v1.Demo/Create"
  | read _ => "/demo.v1.Demo/Read"
  | update .. => "/demo.v1.Demo/Update"
  | delete .. => "/demo.v1.Demo/Delete"
  | watch _ => "/demo.v1.Demo/Watch"

end PolicyGate.Demo
