import PolicyGate.Message.Flatten
import PolicyGate.Proofs.Data.StringMap

/-!
# The leaves of a message

What flattening should find, written down without a walk: `Message.leaves` lists each leaf with its
dotted path and its atom, and `Field.IsExact` says when what a field holds has an exact form. Repeated
messages are turned into columns (`columnsOf`), which needs their elements to be `Aligned`. The fields
that matter are those that a message `Reaches`; timestamps are leaves.
-/

namespace PolicyGate

open Time (Instant)
open Data (StringMap)

/-! ## Scalars -/

def Scalar.number? : Scalar → Option Int
  | bool b => some (if b then 1 else 0)
  | int32 n => some n.toInt
  | int64 n => some n.toInt
  | uint32 n => some n.toNat
  | uint64 n => some n.toNat
  | string _ | bytes _ | enum .. | float | double | group => none

def Scalar.IsExact : Scalar → Prop
  | uint64 n => (n.toNat : Int) ≤ 9223372036854775807
  | enum _ name => name.isSome = true
  | float | double | group => False
  | bool _ | int32 _ | int64 _ | uint32 _ | string _ | bytes _ => True

/-- The atom that carries a scalar; numbers are carried by the same number. -/
def Scalar.atom? : Scalar → Option Atom
  | string s => some (.string s)
  | bytes bs => some (.bytes bs)
  | enum _ name => name.map .string
  | s => s.number?.map fun n => .integer (Int64.ofInt n)

def FieldValue.atom? : FieldValue → Option Atom
  | scalar s => s.atom?
  | message .. => none

def FieldContent.values (path : String) : FieldContent → List (String × FieldValue)
  | unset => []
  | single value => [(path, value)]
  | .repeated values => values.map fun value => (path, value)
  | map entries => entries.map fun entry => (path ++ "." ++ entry.1.text, entry.2)

def Field.int64? : Field → Option Int64
  | mk _ _ (.single (.scalar (.int64 n))) => some n
  | _ => none

def Field.int32? : Field → Option Int32
  | mk _ _ (.single (.scalar (.int32 n))) => some n
  | _ => none

namespace Message

/-! ## Timestamps -/

def lastOf {α : Type} (read : Field → Option α) (name : String) (otherwise : α)
    (fields : List Field) : α :=
  ((fields.filter fun f => f.name = name).filterMap read).getLast?.getD otherwise

def secondsOf (fields : List Field) : Int :=
  (lastOf Field.int64? "seconds" 0 fields).toInt

def nanosOf (fields : List Field) : Int :=
  (lastOf Field.int32? "nanos" 0 fields).toInt

/-- The fields of a timestamp are numbers of their kinds, in the allowed ranges. -/
structure IsTimestamp (fields : List Field) : Prop where
  seconds_shape : ∀ f ∈ fields, f.name = "seconds" → f.int64?.isSome = true
  nanos_shape : ∀ f ∈ fields, f.name = "nanos" → f.int32?.isSome = true
  seconds_range : -62135596800 ≤ secondsOf fields ∧ secondsOf fields ≤ 253402300799
  nanos_range : 0 ≤ nanosOf fields ∧ nanosOf fields ≤ 999999999

def instantOf? (fields : List Field) : Option Instant :=
  Instant.of? (secondsOf fields) (nanosOf fields).toNat

/-! ## Leaves -/

def pathOf : Option String → String → String
  | none, name => name
  | some above, name => above ++ "." ++ name

abbrev paths (leaves : List (String × Atom)) : List String :=
  StringMap.keys leaves

/-- One list at each path, with the atoms of the elements in their order. -/
def columnsOf : List (List (String × Atom)) → List (String × Atom)
  | [] => []
  | first :: rest =>
    (paths first).map fun path => (path, .list ((first :: rest).filterMap (List.lookup path)))

/-- The elements have leaves at the same paths, none of them twice. -/
structure Aligned (elements : List (List (String × Atom))) : Prop where
  distinct : ∀ leaves ∈ elements, (paths leaves).Nodup
  same : ∀ leaves ∈ elements, ∀ others ∈ elements, paths leaves ⊆ paths others

def leafAt (path : String) (atom : Option Atom) : List (String × Atom) :=
  (atom.map fun a => (path, a)).toList

mutual

def fieldsLeaves (above : Option String) : List Field → List (String × Atom)
  | [] => []
  | field :: fields => fieldLeaves (pathOf above field.name) field ++ fieldsLeaves above fields

def fieldLeaves (path : String) : Field → List (String × Atom)
  | .mk _ kind content => contentLeaves path kind content

def contentLeaves (path : String) (kind : FieldKind) : FieldContent → List (String × Atom)
  | .unset => []
  | .single value => valueLeaves path value
  | .repeated values =>
    if kind = .message then columnsOf (elementsLeaves path values)
    else [(path, .list (values.filterMap FieldValue.atom?))]
  | .map entries => entriesLeaves path entries

def valueLeaves (path : String) : FieldValue → List (String × Atom)
  | .scalar s => leafAt path s.atom?
  | .message name fields =>
    if name = timestampName then leafAt path ((instantOf? fields).map .date)
    else fieldsLeaves (some path) fields

def elementsLeaves (path : String) : List FieldValue → List (List (String × Atom))
  | [] => []
  | value :: values => valueLeaves path value :: elementsLeaves path values

def entriesLeaves (path : String) : List (MapKey × FieldValue) → List (String × Atom)
  | [] => []
  | (key, value) :: entries =>
    valueLeaves (path ++ "." ++ key.text) value ++ entriesLeaves path entries

end

def leaves (m : Message) : List (String × Atom) :=
  fieldsLeaves none m.fields

/-! ## What a message reaches -/

/-- Fields reach themselves and what the messages in them reach, except for timestamps. -/
inductive Reaches : Option String → List Field → String → Field → Prop
  | field {above : Option String} {fields : List Field} {f : Field} (h : f ∈ fields) :
      Reaches above fields (pathOf above f.name) f
  | inner {above : Option String} {fields inner : List Field} {f g : Field} {path name p : String}
      (h : f ∈ fields)
      (held : (path, FieldValue.message name inner) ∈ f.content.values (pathOf above f.name))
      (ordinary : name ≠ timestampName) (inside : Reaches (some path) inner p g) :
      Reaches above fields p g

def ReachesFrom (path : String) : FieldValue → String → Field → Prop
  | .scalar _, _, _ => False
  | .message name fields, p, f => name ≠ timestampName ∧ Reaches (some path) fields p f

theorem not_reaches_nil {above : Option String} {p : String} {g : Field} : ¬Reaches above [] p g := by
  intro h
  cases h with
  | field h => cases h
  | inner h => cases h

theorem reaches_cons {above : Option String} {f : Field} {fields : List Field} {p : String} {g : Field} :
    Reaches above (f :: fields) p g ↔
      (p = pathOf above f.name ∧ g = f) ∨
      (∃ value ∈ f.content.values (pathOf above f.name), ReachesFrom value.1 value.2 p g) ∨
      Reaches above fields p g := by
  constructor
  · intro h
    cases h with
    | field h =>
      rcases List.mem_cons.mp h with rfl | h
      · exact .inl ⟨rfl, rfl⟩
      · exact .inr (.inr (.field h))
    | inner h held ordinary inside =>
      rcases List.mem_cons.mp h with rfl | h
      · exact .inr (.inl ⟨_, held, ordinary, inside⟩)
      · exact .inr (.inr (.inner h held ordinary inside))
  · rintro (⟨rfl, rfl⟩ | ⟨⟨path, value⟩, held, below⟩ | h)
    · exact .field List.mem_cons_self
    · cases value with
      | scalar s => exact below.elim
      | message name inner => exact .inner List.mem_cons_self held below.1 below.2
    · cases h with
      | field h => exact .field (List.mem_cons_of_mem _ h)
      | inner h held ordinary inside =>
        exact .inner (List.mem_cons_of_mem _ h) held ordinary inside

theorem forall_reaches_cons {above : Option String} {f : Field} {fields : List Field}
    {Q : String → Field → Prop} :
    (∀ p g, Reaches above (f :: fields) p g → Q p g) ↔
      (Q (pathOf above f.name) f ∧
        ∀ value ∈ f.content.values (pathOf above f.name), ∀ p g,
          ReachesFrom value.1 value.2 p g → Q p g) ∧
      ∀ p g, Reaches above fields p g → Q p g := by
  constructor
  · intro h
    refine ⟨⟨h _ _ (.field List.mem_cons_self), fun value hv p g below => ?_⟩, fun p g later => ?_⟩
    · exact h p g (reaches_cons.mpr (.inr (.inl ⟨value, hv, below⟩)))
    · exact h p g (reaches_cons.mpr (.inr (.inr later)))
  · rintro ⟨⟨here, below⟩, later⟩ p g h
    rcases reaches_cons.mp h with ⟨rfl, rfl⟩ | ⟨value, hv, h⟩ | h
    · exact here
    · exact below value hv p g h
    · exact later p g h

end Message

/-! ## Exact forms -/

open Message

/-- The value has an exact form, apart from what is in the fields of a message. -/
def FieldValue.IsExact : FieldValue → Prop
  | scalar s => s.IsExact
  | message name fields => name = timestampName → IsTimestamp fields

structure Field.IsExact (path : String) (f : Field) : Prop where
  supported : f.kind ≠ .float ∧ f.kind ≠ .double ∧ f.kind ≠ .group
  held : ∀ value ∈ f.content.values path, value.2.kind = f.kind ∧ value.2.IsExact
  aligned : ∀ values, f.kind = .message → f.content = .repeated values →
    Aligned (elementsLeaves path values)

def Message.IsNamed (m : Message) : Prop :=
  ∀ path f, Reaches none m.fields path f → f.name ≠ ""

/-- All that a message reaches has an exact form. -/
def Message.IsExact (m : Message) : Prop :=
  ∀ path f, Reaches none m.fields path f → f.IsExact path

end PolicyGate
