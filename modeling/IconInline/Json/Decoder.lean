import IconInline.Json.Reader

/-!
# Decoding typed data

A decoder reads one type from a JSON text, where a fault carries its place, and from a JSON
value. A record may be written as an object, or as a list of its fields in their order. Decoders
of leaves and lists are combined field by field into decoders of records.
-/

namespace IconInline.Json

/-- What a value is, as a message calls it. -/
def found : Json → Found
  | .null => .null
  | .bool b => .bool b
  | .number n => .number n
  | .string s => .string s
  | .array _ => .sequence
  | .object _ => .map

/-- Conventions of the data format that a value stems from: whether a list may be longer than
the record it stands for, and why a value is not the empty payload of a variant. -/
structure ValueRules where
  longLists : Bool
  payloadFault : Json → Option Cause

/-- The conventions of JSON itself. -/
def ValueRules.json : ValueRules where
  longLists := false
  payloadFault
    | .null => none
    | v => some (.wrongType v.found "unit")

/-- Reads one type of data. `ofText` is given the depth of brackets that is left. -/
structure Decoder (α : Type) where
  ofText : Nat → Reader α
  ofValue : ValueRules → Json → Except Cause α

namespace Decoder

/-- Refuses the value that stands next, whatever it is. A scalar is read first, so that its own
faults go before. -/
def mismatch {α : Type} (expected : String) : Reader α := do
  match ← Reader.peekPart with
  | none => Reader.failNext .endInValue
  | some '[' => Reader.fail (.wrongType .sequence expected)
  | some '\x7b' => Reader.fail (.wrongType .map expected)
  | some c =>
    match ← Reader.scalar? c with
    | some v => Reader.fail (.wrongType v.found expected)
    | none => Reader.failNext .valueExpected

/-- Changes what is read. -/
def map {α β : Type} (f : α → β) (d : Decoder α) : Decoder β where
  ofText depth := do return f (← d.ofText depth)
  ofValue rules v := do return f (← d.ofValue rules v)

/-- Reads a leaf, which `leaf` recognises in a scalar. -/
def leaf {α : Type} (read : Json → Except Cause α) (expected : String) : Decoder α where
  ofText _ := do
    match ← Reader.peekPart with
    | none => Reader.failNext .endInValue
    | some c =>
      if c = '[' ∨ c = '\x7b' then mismatch expected
      else
        match ← Reader.scalar? c with
        | none => Reader.failNext .valueExpected
        | some v =>
          match read v with
          | .ok a => return a
          | .error cause => Reader.fail cause
  ofValue _ := read

/-- A string. -/
def string : Decoder String :=
  leaf (fun
    | .string s => .ok s
    | v => .error (.wrongType v.found "a string")) "a string"

/-- A truth value. -/
def bool : Decoder Bool :=
  leaf (fun
    | .bool b => .ok b
    | v => .error (.wrongType v.found "a boolean")) "a boolean"

/-- A natural number of 32 bits. -/
def word32 : Decoder UInt32 :=
  leaf (fun
    | .number (.whole n) =>
      if 0 ≤ n ∧ n < twoTo 32 then .ok n.toNat.toUInt32
      else .error (.wrongValue (.number (.whole n)) "u32")
    | v => .error (.wrongType v.found "u32")) "u32"

/-- An optional value: `null` stands for its absence. -/
def option {α : Type} (d : Decoder α) : Decoder (Option α) where
  ofText depth := do
    if (← Reader.peekPart) = some 'n' then
      Reader.word "null"
      return none
    else return some (← d.ofText depth)
  ofValue rules
    | .null => .ok none
    | v => (d.ofValue rules v).map some

/-- A list. -/
def list {α : Type} (d : Decoder α) : Decoder (List α) where
  ofText depth := do
    if (← Reader.peekPart) = some '[' then
      Reader.enter depth
      Reader.placed (Reader.thenAlways
        (do Reader.items (d.ofText (depth - 1)) (← Reader.fuel) true) Reader.listEnd)
    else mismatch "a sequence"
  ofValue rules
    | .array items => items.mapM (d.ofValue rules)
    | v => .error (.wrongType v.found "a sequence")

/-- A value without content behind the name of a variant. -/
def payload : Reader Unit := do
  match ← Reader.peekPart with
  | some 'n' => Reader.word "null"
  | _ => mismatch "unit"

/-- The variant with a name. -/
def namedVariant {α : Type} (known : List (String × α)) : Json → Except Cause α
  | .string name =>
    match known.lookup name with
    | some a => .ok a
    | none => .error (.unknownVariant name (known.map Prod.fst))
  | v => .error (.wrongType v.found "variant identifier")

/-- One of several variants without content, under their names. A variant may also be written
as an object that has it as its only member. -/
def variant {α : Type} (known : List (String × α)) : Decoder α where
  ofText depth := do
    let name := leaf (namedVariant known) "variant identifier"
    match ← Reader.peekPart with
    | none => Reader.failNext .endInValue
    | some '"' => name.ofText depth
    | some '\x7b' =>
      Reader.enter depth
      let a ← name.ofText depth
      Reader.colon
      payload
      match ← Reader.peekPart with
      | none => Reader.fail .endInObject
      | some '\x7d' => Reader.skip
      | some _ => Reader.fail .valueExpected
      return a
    | some _ => Reader.failNext .valueExpected
  ofValue rules v :=
    match v with
    | .string _ => namedVariant known v
    | .object [(name, content)] => do
      let a ← namedVariant known (.string name)
      match rules.payloadFault content with
      | some cause => .error cause
      | none => return a
    | .object _ => .error (.wrongValue .map "map with a single key")
    | v => .error (.wrongType v.found "string or map")

/-- A field of a record `σ`, read as a change of the record. A field may be absent from an
object, or from the end of a list, if its flag says so. -/
structure RecordField (σ : Type) where
  name : String
  change : Decoder (σ → σ)
  inObject : Bool := true
  inList : Bool := false

/-- Reads the fields of a record in their order from a list whose bracket was read. -/
def listedFields {σ : Type} (expected : String) (depth : Nat) :
    List (RecordField σ) → (index : Nat) → σ → Reader σ
  | [], _, record => return record
  | field :: rest, i, record => do
    if ← Reader.moreItems (i == 0) then
      let change ← field.change.ofText depth
      listedFields expected depth rest (i + 1) (change record)
    else if field.inList then listedFields expected depth rest (i + 1) record
    else Reader.failUnplaced (.wrongLength i expected)

/-- Reads the members of a record from an object whose brace was read. -/
def namedFields {σ : Type} (fields : List (RecordField σ)) (depth : Nat) :
    (fuel : Nat) → (first : Bool) → (seen : List String) → σ → Reader σ
  | 0, _, _, _ => Reader.fail .endInObject
  | fuel + 1, first, seen, record => do
    if ← Reader.moreMembers first then
      let name ← Reader.string
      match fields.find? (·.name == name) with
      | none =>
        Reader.colon
        Reader.skipValue (← Reader.fuel)
        namedFields fields depth fuel false seen record
      | some field =>
        if seen.contains name then Reader.failUnplaced (.duplicateField name)
        Reader.colon
        let change ← field.change.ofText depth
        namedFields fields depth fuel false (name :: seen) (change record)
    else
      match fields.find? (fun f => !f.inObject && !seen.contains f.name) with
      | some f => Reader.failUnplaced (.missingField f.name)
      | none => return record

/-- Reads the fields of a record in their order from items. -/
def listedValues {σ : Type} (rules : ValueRules) (expected : String) (length : Nat) :
    List (RecordField σ) → (index : Nat) → List Json → σ → Except Cause σ
  | [], _, [], record => .ok record
  | [], _, _ :: _, record =>
    if rules.longLists then .ok record
    else .error (.wrongLength length "fewer elements in array")
  | field :: rest, i, [], record =>
    if field.inList then listedValues rules expected length rest (i + 1) [] record
    else .error (.wrongLength i expected)
  | field :: rest, i, v :: more, record => do
    let change ← field.change.ofValue rules v
    listedValues rules expected length rest (i + 1) more (change record)

/-- Reads the members of a record in the order of an object. -/
def namedValues {σ : Type} (rules : ValueRules) (fields : List (RecordField σ)) :
    List (String × Json) → σ → Except Cause σ
  | [], record => .ok record
  | (name, v) :: rest, record =>
    match fields.find? (·.name == name) with
    | none => namedValues rules fields rest record
    | some field => do
      let change ← field.change.ofValue rules v
      namedValues rules fields rest (change record)

/-- A record, called `title` in messages. -/
def record {σ : Type} (title : String) (empty : σ) (fields : List (RecordField σ)) :
    Decoder σ where
  ofText depth := do
    let expected := title ++ " with " ++ toString fields.length ++ " elements"
    match ← Reader.peekPart with
    | some '[' =>
      Reader.enter depth
      Reader.placed (Reader.thenAlways
        (listedFields expected (depth - 1) fields 0 empty) Reader.listEnd)
    | some '\x7b' =>
      Reader.enter depth
      Reader.placed (Reader.thenAlways
        (do namedFields fields (depth - 1) (← Reader.fuel) true [] empty) Reader.objectEnd)
    | _ => mismatch title
  ofValue rules v :=
    let expected := title ++ " with " ++ toString fields.length ++ " elements"
    match v with
    | .array items => listedValues rules expected items.length fields 0 items empty
    | .object members =>
      match namedValues rules fields members empty with
      | .error cause => .error cause
      | .ok result =>
        match fields.find? (fun f => !f.inObject && !members.any (·.1 == f.name)) with
        | some f => .error (.missingField f.name)
        | none => .ok result
    | v => .error (.wrongType v.found title)

/-- The decoder `d`, applied to a whole text. -/
def readText {α : Type} (d : Decoder α) (text : String) : Except Fault α :=
  Reader.onText (d.ofText Reader.depthLimit) text

/-- The decoder `d`, applied to a JSON value. -/
def readValue {α : Type} (d : Decoder α) (v : Json) : Except Cause α := d.ofValue .json v

end Decoder

end IconInline.Json
