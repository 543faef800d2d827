import PolicyGate.Policy.Data
import PolicyGate.Proofs.Data.Value
import PolicyGate.Proofs.Policy.Sets
import PolicyGate.Proofs.Time.Lenient

/-!
# Stored policies

Every policy is read back from its data with the tags gone, as JSON has it (`Policy.ofData?_toData`). Each
kind of its parts is restored by its own reader, on what the readers of the smaller parts restore. JSON is
one of values here: text is not read, so a limit on how deep text may be nested does not come in.
-/

namespace PolicyGate

open Data (Value)
open Data.Value (Restores)

variable {α β : Type}

/-! ## Scalars -/

theorem restores_int64 : Restores int64OfData? fun i => .integer i.toInt := fun i => by
  have range := And.intro (Int64.minValue_le_toInt i) (Int64.toInt_le i)
  simp only [Value.untagged, int64OfData?, Value.integer?, Option.bind_eq_bind, Option.bind_some]
  rw [if_pos range, Int64.ofInt_toInt]

theorem restores_byte : Restores byteOfData? fun b => .integer b.toNat := fun b => by
  have range : (0 : Int) ≤ b.toNat ∧ (b.toNat : Int) < 256 := by
    have bound := b.toNat_lt
    omega
  simp only [Value.untagged, byteOfData?, Value.integer?, Option.bind_eq_bind, Option.bind_some]
  rw [if_pos range, Int.toNat_natCast, UInt8.ofNat_toNat]

theorem restores_id : Restores idOfData? fun id => .integer id.toNat := fun id => by
  have range : (0 : Int) ≤ id.toNat ∧ id.toNat < UInt32.size := ⟨Int.natCast_nonneg _, id.toNat_lt_size⟩
  simp only [Value.untagged, idOfData?, Value.integer?, Option.bind_eq_bind, Option.bind_some,
    Int.toNat_natCast]
  rw [if_pos range, UInt32.ofNat_toNat]

theorem restores_bytes : Restores bytesOfData? bytesData := fun bs =>
  restores_byte.mapM bs

theorem restores_instant : Restores instantOfData? fun t => .text t.text := fun t => by
  simp only [Value.untagged, instantOfData?, Value.text?, Option.bind_eq_bind, Option.bind_some]
  exact t.ofLenientText?_text

theorem restores_list {read? : Value → Option α} {write : α → Value} (h : Restores read? write) :
    Restores (listOfData? read?) fun xs => .list (xs.map write) := fun xs =>
  h.mapM xs

/-! ## Atoms -/

namespace Atom

theorem ofData?_tagged (type : String) (value : Value) :
    ofData? (tagged type value) = ofMembers? (some type) [("value", value)] := by
  have known : (Value.member? "type" [("type", .text type), ("value", value)]).bind Value.word? = some type :=
    rfl
  have skipped : "type" ≠ "value" := by decide
  rw [tagged, ofData?, known]
  conv => lhs; unfold ofMembers?
  rw [if_neg skipped]

theorem ofData?_scalar {type : String} (h : type ≠ "list") (value : Value) :
    ofData? (tagged type value) = scalarOfData? type value := by
  have scalar : ∀ vs, value = .list vs → type = "list" → False := fun _ _ listed => h listed
  rw [ofData?_tagged, ofMembers?, if_pos rfl]
  exact scalar

theorem ofData?_list (vs : List Value) : ofData? (tagged "list" (.list vs)) = (listOfData? vs).map list := by
  rw [ofData?_tagged, ofMembers?, if_pos rfl]

theorem untagged_tagged (type : String) (value : Value) :
    (tagged type value).untagged = tagged type value.untagged := by
  simp only [tagged, Value.untagged, Value.untaggedMembers]

mutual

theorem restores : (a : Atom) → ofData? a.toData.untagged = some a
  | symbol name => by
    rw [toData, untagged_tagged, ofData?_scalar (by decide)]
    rfl
  | string content => by
    rw [toData, untagged_tagged, ofData?_scalar (by decide)]
    rfl
  | integer value => by
    rw [toData, untagged_tagged, ofData?_scalar (by decide)]
    exact congrArg (Option.map integer) (restores_int64 value)
  | bytes value => by
    rw [toData, untagged_tagged, ofData?_scalar (by decide)]
    exact congrArg (Option.map bytes) (restores_bytes value)
  | date value => by
    have read (v : Value) : scalarOfData? "date" v = (instantOfData? v).map date := rfl
    rw [toData, untagged_tagged, ofData?_scalar (by decide), read, restores_instant value]
    rfl
  | list items => by
    rw [toData, untagged_tagged, Value.untagged, ofData?_list, listOfData?_listToData items]
    rfl

theorem listOfData?_listToData :
    (as : List Atom) → Atom.listOfData? (Value.untaggedList (listToData as)) = some as
  | [] => by rw [listToData, Value.untaggedList, Atom.listOfData?]
  | a :: as => by
    rw [listToData, Value.untaggedList, Atom.listOfData?, restores a, listOfData?_listToData as]

end

theorem listToData_eq (as : List Atom) : listToData as = as.map toData := by
  induction as with
  | nil => rw [listToData, List.map_nil]
  | cons a as ih => rw [listToData, ih, List.map_cons]

end Atom

theorem Fact.restores : Restores Fact.ofData? Fact.toData := fun f => by
  have distinct : ["name", "atoms"].Nodup := by decide
  have row : f.toData.untagged.row? ["name", "atoms"] =
      some [some (.text f.name), some (Value.list (Atom.listToData f.atoms)).untagged] :=
    Value.row?_untagged (v := f.toData) rfl distinct (List.Subset.refl _)
  have atoms : listOfData? Atom.ofData? (Value.list (Atom.listToData f.atoms)).untagged = some f.atoms := by
    rw [Atom.listToData_eq]
    exact restores_list Atom.restores f.atoms
  simp only [Fact.ofData?, row, atoms, Value.text?, Option.bind_eq_bind, Option.bind_some, Option.pure_def]

/-! ## Rules -/

theorem Term.restores : Restores Term.ofData? Term.toData
  | var id => by
    show (do return Term.var (← idOfData? (Value.integer id.toNat).untagged)) = _
    rw [restores_id]
    rfl
  | atom value => by
    show (do return Term.atom (← Atom.ofData? value.toData.untagged)) = _
    rw [Atom.restores]
    rfl

theorem Predicate.restores : Restores Predicate.ofData? Predicate.toData := fun p => by
  have distinct : ["name", "terms"].Nodup := by decide
  have row : p.toData.untagged.row? ["name", "terms"] =
      some [some (.text p.name), some (Value.list (p.terms.map Term.toData)).untagged] :=
    Value.row?_untagged (v := p.toData) rfl distinct (List.Subset.refl _)
  have terms := restores_list Term.restores p.terms
  simp only [Predicate.ofData?, row, terms, Value.text?, Option.bind_eq_bind, Option.bind_some, Option.pure_def]

/-! ## Checks -/

theorem IntegerTest.restores : Restores IntegerTest.ofData? fun t => .text t.word := fun t => by
  cases t <;> rfl

theorem StringTest.restores : Restores StringTest.ofData? fun t => .text t.word := fun t => by
  cases t <;> rfl

theorem DateTest.restores : Restores DateTest.ofData? fun t => .text t.word := fun t => by
  cases t <;> rfl

namespace Check

theorem kind?_untagged (kind : String) (ms : List (String × Value)) :
    kind? (Value.record (("kind", .text kind) :: ms)).untagged =
      some (kind, (Value.record (("kind", .text kind) :: ms)).untagged) := by
  simp only [Value.untagged, Value.untaggedMembers]
  rfl

theorem kind?_testData (kind test : String) (value : Value) :
    kind? (testData kind test value).untagged = some (kind, (testData kind test value).untagged) :=
  kind?_untagged kind _

theorem kind?_setData (kind : String) (members : List Value) (negated : Bool) :
    kind? (setData kind members negated).untagged = some (kind, (setData kind members negated).untagged) :=
  kind?_untagged kind _

theorem testOfData?_testData {test? : Value → Option α} {value? : Value → Option β} {word : α → String}
    {write : β → Value} (htest : Restores test? fun t => .text (word t)) (hvalue : Restores value? write)
    (kind : String) (t : α) (x : β) :
    testOfData? test? value? (testData kind (word t) (write x)).untagged = some (t, x) := by
  have distinct : ["kind", "op", "value"].Nodup := by decide
  have row : (testData kind (word t) (write x)).untagged.row? ["op", "value"] =
      some [some (Value.text (word t)).untagged, some (write x).untagged] :=
    Value.row?_untagged (v := testData kind (word t) (write x)) rfl distinct (List.subset_cons_self _ _)
  simp only [testOfData?, row, htest t, hvalue x, Option.bind_eq_bind, Option.bind_some, Option.pure_def]

theorem setOfData?_setData {member? : Value → Option α} {write : α → Value} (h : Restores member? write)
    (kind : String) (xs : List α) (negated : Bool) :
    setOfData? member? (setData kind (xs.map write) negated).untagged = some (xs, negated) := by
  have distinct : ["kind", "set", "negated"].Nodup := by decide
  have row : (setData kind (xs.map write) negated).untagged.row? ["set", "negated"] =
      some [some (Value.list (xs.map write)).untagged, some (.bool negated)] :=
    Value.row?_untagged (v := setData kind (xs.map write) negated) rfl distinct (List.subset_cons_self _ _)
  have members := restores_list h xs
  simp only [setOfData?, row, members, Value.bool?, Option.bind_eq_bind, Option.bind_some, Option.pure_def]

theorem restores : Restores ofData? toData
  | integer test value => by
    have parts := testOfData?_testData IntegerTest.restores restores_int64 "integer" test value
    simp only [toData, ofData?, kind?_testData, parts, Option.bind_eq_bind, Option.bind_some, Option.pure_def]
  | integerIn set negated => by
    have parts := setOfData?_setData restores_int64 "integer_in" set.toList negated
    simp only [toData, ofData?, kind?_setData, parts, OrderedSet.ofList_toList, Option.bind_eq_bind,
      Option.bind_some, Option.pure_def]
  | string test value => by
    have parts := testOfData?_testData StringTest.restores Value.restores_text "string" test value
    simp only [toData, ofData?, kind?_testData, parts, Option.bind_eq_bind, Option.bind_some, Option.pure_def]
  | stringIn set negated => by
    have parts := setOfData?_setData Value.restores_text "string_in" set.toList negated
    simp only [toData, ofData?, kind?_setData, parts, OrderedSet.ofList_toList, Option.bind_eq_bind,
      Option.bind_some, Option.pure_def]
  | date test value => by
    have parts := testOfData?_testData DateTest.restores restores_instant "date" test value
    simp only [toData, ofData?, kind?_testData, parts, Option.bind_eq_bind, Option.bind_some, Option.pure_def]
  | bytesEqual value => by
    have distinct : ["kind", "value"].Nodup := by decide
    have row : (toData (bytesEqual value)).untagged.row? ["value"] = some [some (bytesData value).untagged] :=
      Value.row?_untagged (v := toData (bytesEqual value)) rfl distinct (List.subset_cons_self _ _)
    have kind : kind? (toData (bytesEqual value)).untagged =
      some ("bytes_equal", (toData (bytesEqual value)).untagged) := kind?_untagged "bytes_equal" _
    simp only [ofData?, kind, row, restores_bytes value, Option.bind_eq_bind, Option.bind_some, Option.pure_def]
  | bytesIn set negated => by
    have parts := setOfData?_setData restores_bytes "bytes_in" set.toList negated
    simp only [toData, ofData?, kind?_setData, parts, OrderedSet.ofList_toList, Option.bind_eq_bind,
      Option.bind_some, Option.pure_def]
  | symbolIn set negated => by
    have parts := setOfData?_setData Value.restores_text "symbol_in" set.toList negated
    simp only [toData, ofData?, kind?_setData, parts, OrderedSet.ofList_toList, Option.bind_eq_bind,
      Option.bind_some, Option.pure_def]

end Check

theorem Constraint.restores : Restores Constraint.ofData? Constraint.toData := fun c => by
  have distinct : ["variable", "check"].Nodup := by decide
  have row : c.toData.untagged.row? ["variable", "check"] =
      some [some (.integer c.subject.toNat), some c.check.toData.untagged] :=
    Value.row?_untagged (v := c.toData) rfl distinct (List.Subset.refl _)
  have subject := restores_id c.subject
  have check := Check.restores c.check
  simp only [Value.untagged] at subject
  simp only [Constraint.ofData?, row, subject, check, Option.bind_eq_bind, Option.bind_some, Option.pure_def]

/-! ## Policies -/

theorem Rule.restores : Restores Rule.ofData? Rule.toData := fun r => by
  have distinct : ["head", "body", "constraints"].Nodup := by decide
  have row : r.toData.untagged.row? ["head", "body", "constraints"] =
      some [some r.head.toData.untagged, some (Value.list (r.body.map Predicate.toData)).untagged,
        some (Value.list (r.constraints.map Constraint.toData)).untagged] :=
    Value.row?_untagged (v := r.toData) rfl distinct (List.Subset.refl _)
  have head := Predicate.restores r.head
  have body := restores_list Predicate.restores r.body
  have constraints := restores_list Constraint.restores r.constraints
  simp only [Rule.ofData?, row, head, body, constraints, Option.bind_eq_bind, Option.bind_some, Option.pure_def]

theorem Caveat.restores : Restores Caveat.ofData? Caveat.toData := fun c => by
  have distinct : ["queries"].Nodup := by decide
  have row : c.toData.untagged.row? ["queries"] =
      some [some (Value.list (c.queries.map Rule.toData)).untagged] :=
    Value.row?_untagged (v := c.toData) rfl distinct (List.Subset.refl _)
  have queries := restores_list Rule.restores c.queries
  simp only [Caveat.ofData?, row, queries, Option.bind_eq_bind, Option.bind_some, Option.pure_def]

/-- Every policy is read back from the form that it has in JSON, whether or not a document compiles to it. -/
theorem Policy.ofData?_toData (p : Policy) : Policy.ofData? p.toData.untagged = some p := by
  have distinct : ["name", "rules", "caveats"].Nodup := by decide
  have row : p.toData.untagged.row? ["name", "rules", "caveats"] =
      some [some (.text p.name), some (Value.list (p.rules.map Rule.toData)).untagged,
        some (Value.list (p.caveats.map Caveat.toData)).untagged] :=
    Value.row?_untagged (v := p.toData) rfl distinct (List.Subset.refl _)
  have rules := restores_list Rule.restores p.rules
  have caveats := restores_list Caveat.restores p.caveats
  simp only [Policy.ofData?, row, rules, caveats, Value.text?, Option.bind_eq_bind, Option.bind_some,
    Option.pure_def]

end PolicyGate
