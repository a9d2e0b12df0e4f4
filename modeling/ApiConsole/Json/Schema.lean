import ApiConsole.Json.Skip

/-!
# Documents of a known shape

A schema says what a JSON text has to hold, a datum is what a text that fits holds. A record is
written as an object, its fields in their order, and read from an object with its fields in any
order, or from an array of the fields; members that it does not know are passed over. A choice is
written as the name of an alternative, and may also be read from an object with that name and null.
What does not fit is refused with the place where that shows.
-/
namespace ApiConsole.Json

open Text

/-- What the absence of a field means: a fault everywhere, in an array only, or nowhere. -/
inductive Absence where
  | refused
  | inObject
  | anywhere
  deriving DecidableEq, Repr

mutual

inductive Schema where
  | text
  | word (name : String) (bound : Nat)
  | timestamp
  | choice (names : List String)
  | any
  | optional (inner : Schema)
  | list (inner : Schema)
  | record (title : String) (fields : Fields)

/-- The fields of a record in their order. -/
inductive Fields where
  | nil
  | cons (name : String) (absence : Absence) (schema : Schema) (rest : Fields)

end

/-- What a text of a known shape holds. A field of a record that is absent is `none`. -/
inductive Datum where
  | text (s : String)
  | word (n : Nat)
  | timestamp (t : Timestamp)
  | choice (name : String)
  | any (v : Value)
  | nothing
  | something (d : Datum)
  | list (items : List Datum)
  | record (fields : List (Option Datum))

/-! ## Writing -/

mutual

/-- The value that a datum is written as; `null` for a datum that does not fit. -/
def Schema.encode : Schema → Datum → Value
  | .text, .text s => .string s
  | .word _ _, .word n => .nat n
  | .timestamp, .timestamp t => .string t.text
  | .choice _, .choice name => .string name
  | .any, .any v => v
  | .optional inner, .something d => inner.encode d
  | .list inner, .list items => .array (items.map inner.encode)
  | .record _ fields, .record slots => .object (fields.encode slots)
  | _, _ => .null

/-- The members of the fields that are present. -/
def Fields.encode : Fields → List (Option Datum) → List (String × Value)
  | .cons name _ schema rest, some d :: slots => (name, schema.encode d) :: rest.encode slots
  | .cons _ _ _ rest, none :: slots => rest.encode slots
  | _, _ => []

end

/-! ## Reading: things that do not fit -/

/-- Reads far enough to say what stands in a place where something else was expected. -/
def refuseType {α : Type} (total : Nat) (expected : String) (s : List Symbol) : Except Fault α :=
  let found (f : Found) (rest : List Symbol) : Except Fault α :=
    Fault.before (.wrongType f expected) rest
  match s with
  | .char 'n' :: rest => do found .null (← word "ull".toList rest)
  | .char 't' :: rest => do found (.bool true) (← word "rue".toList rest)
  | .char 'f' :: rest => do found (.bool false) (← word "alse".toList rest)
  | .char '-' :: rest => do
    let (n, rest) ← number true rest
    found (.number n) rest
  | .char '"' :: rest => do
    let (text, rest) ← string total rest
    found (.string text) rest
  | .char '[' :: _ => found .sequence s
  | .char '\x7b' :: _ => found .map s
  | x :: _ =>
    if (digit? x).isSome then do
      let (n, rest) ← number false s
      found (.number n) rest
    else Fault.onNext .expectedValue s
  | [] => Fault.onNext .expectedValue s

/-! ## Reading: things without parts -/

/-- Reads a string where `expected` is due. -/
def readText (total : Nat) (expected : String) : Reader String := fun s =>
  match skipBlanks s with
  | [] => Fault.onNext .endInValue []
  | .char '"' :: rest => string total rest
  | rest => refuseType total expected rest

/-- Reads a natural number up to a bound. -/
def readWord (total : Nat) (name : String) (bound : Nat) : Reader Nat := fun s =>
  let check (r : Number × List Symbol) : Except Fault (Nat × List Symbol) :=
    match r with
    | (.int n, rest) =>
      if 0 ≤ n && n ≤ bound then .ok (n.toNat, rest) else Fault.before (.wrongValue n name) rest
    | (.real x, rest) => Fault.before (.wrongType (.number (.real x)) name) rest
  match skipBlanks s with
  | [] => Fault.onNext .endInValue []
  | .char '-' :: rest => number true rest >>= check
  | x :: rest =>
    if (digit? x).isSome then number false (x :: rest) >>= check
    else refuseType total name (x :: rest)

/-- Reads a timestamp from a string. -/
def readTimestamp (total : Nat) : Reader Timestamp := fun s => do
  let (text, rest) ← readText total "an RFC 3339 formatted date and time string" s
  match Timestamp.parse text with
  | .ok t => pure (t, rest)
  | .error f => Fault.before (.badTimestamp f) rest

/-- Reads the name of an alternative from a string. -/
def readName (total : Nat) (names : List String) : Reader String := fun s => do
  let (name, rest) ← readText total "variant identifier" s
  if names.contains name then pure (name, rest)
  else Fault.before (.unknownVariant name names) rest

/-- Reads a null. -/
def readNull (total : Nat) (s : List Symbol) : Except Fault (List Symbol) :=
  match skipBlanks s with
  | [] => Fault.onNext .endInValue []
  | .char 'n' :: rest => word "ull".toList rest
  | rest => refuseType total "unit" rest

/-- Reads a choice: the name of an alternative, or an object of that name and null. -/
def readChoice (total : Nat) (names : List String) (depth : Nat) : Reader String := fun s =>
  match skipBlanks s with
  | [] => Fault.onNext .endInValue []
  | .char '"' :: rest => readName total names (.char '"' :: rest)
  | .char '\x7b' :: rest =>
    if depth == 0 then Fault.onNext .tooDeep (.char '\x7b' :: rest)
    else do
      let (name, rest) ← readName total names rest
      let rest ← colon rest
      let rest ← readNull total rest
      match skipBlanks rest with
      | [] => Fault.before .endInObject []
      | .char '\x7d' :: rest => pure (name, rest)
      | rest => Fault.before .expectedValue rest
  | rest => Fault.onNext .expectedValue rest

/-! ## Reading: lists and records -/

/-- Where the next item of a list begins, or what follows the list. -/
inductive NextItem where
  | item (rest : List Symbol)
  | done (rest : List Symbol)

/-- Looks for the next item of a list; at the end of the list the bracket is left in place. -/
def nextItem (first : Bool) (s : List Symbol) : Except Fault NextItem :=
  match skipBlanks s with
  | [] => Fault.onNext .endInList []
  | .char ']' :: rest => .ok (.done (.char ']' :: rest))
  | x :: rest =>
    if first then .ok (.item (x :: rest))
    else if x == .char ',' then
      match skipBlanks rest with
      | [] => Fault.onNext .endInValue []
      | .char ']' :: rest => Fault.onNext .trailingComma (.char ']' :: rest)
      | rest => .ok (.item rest)
    else Fault.onNext .expectedListEnd (x :: rest)

/-- Reads the end of a list in which nothing more is expected. -/
def listEnd (s : List Symbol) : Except Fault (List Symbol) :=
  match skipBlanks s with
  | [] => Fault.onNext .endInList []
  | .char ']' :: rest => .ok rest
  | .char ',' :: rest =>
    match skipBlanks rest with
    | .char ']' :: rest => Fault.onNext .trailingComma (.char ']' :: rest)
    | rest => Fault.onNext .trailingCharacters rest
  | rest => Fault.onNext .trailingCharacters rest

/-- The place of a fault that lies in a record as a whole: behind its closing mark if that comes
next, else in front of what comes next. -/
def wholeRecord {α : Type} (close : Char) (cause : Cause) (s : List Symbol) : Except Fault α :=
  match skipBlanks s with
  | [] => Fault.before cause []
  | x :: rest => Fault.before cause (if x == .char close then rest else x :: rest)

/-- How a field of a record is read. -/
structure FieldReader where
  name : String
  absence : Absence
  read : Reader Datum

/-- Reads the fields of a record from the items of an array, of which `seen` have been read. -/
def arrayFields (title : String) (count : Nat) :
    List FieldReader → Nat → Reader (List (Option Datum))
  | [], _, s => (listEnd s).map fun rest => ([], rest)
  | f :: fields, seen, s => do
    match ← nextItem (seen == 0) s with
    | .item rest =>
      let (d, rest) ← f.read rest
      let (slots, rest) ← arrayFields title count fields (seen + 1) rest
      pure (some d :: slots, rest)
    | .done rest =>
      if f.absence == .anywhere then
        let (slots, rest) ← arrayFields title count fields (seen + 1) rest
        pure (none :: slots, rest)
      else
        wholeRecord ']' (.wrongLength seen s!"struct {title} with {count} elements") rest

/-- The first field that is absent and must not be. -/
def firstMissing? : List FieldReader → List (Option Datum) → Option String
  | f :: fields, slot :: slots =>
    if slot.isNone && f.absence == .refused then some f.name else firstMissing? fields slots
  | _, _ => none

/-- Reads the fields of a record from the members of an object, in at most `rounds` steps. -/
def objectFields (total : Nat) (fields : List FieldReader) :
    Nat → Bool → List (Option Datum) → Reader (List (Option Datum))
  | 0, _, _, s => Fault.before .endInObject s
  | rounds + 1, first, slots, s => do
    match ← nextKey first s with
    | .done rest =>
      match firstMissing? fields slots with
      | some name => Fault.before (.missingField name) rest
      | none => pure (slots, rest)
    | .key rest =>
      let (key, rest) ← string total rest
      match fields.findIdx? (·.name == key) with
      | none =>
        let rest ← colon rest
        let rest ← skipValue total total rest
        objectFields total fields rounds false slots rest
      | some i =>
        if ((slots[i]?).bind id).isSome then wholeRecord '\x7d' (.duplicateField key) rest
        else
          match fields[i]? with
          | none => Fault.before (.missingField key) rest
          | some f =>
            let rest ← colon rest
            let (d, rest) ← f.read rest
            objectFields total fields rounds false (slots.set i (some d)) rest

/-- Reads a record from an object or from an array. -/
def readRecord (total : Nat) (title : String) (fields : List FieldReader) (depth : Nat) :
    Reader Datum := fun s =>
  match skipBlanks s with
  | [] => Fault.onNext .endInValue []
  | .char '[' :: rest =>
    if depth == 0 then Fault.onNext .tooDeep (.char '[' :: rest)
    else do
      let (slots, rest) ← arrayFields title fields.length fields 0 rest
      pure (.record slots, rest)
  | .char '\x7b' :: rest =>
    if depth == 0 then Fault.onNext .tooDeep (.char '\x7b' :: rest)
    else do
      let (slots, rest) ← objectFields total fields total true (fields.map fun _ => none) rest
      pure (.record slots, rest)
  | rest => refuseType total s!"struct {title}" rest

/-- Reads a list. -/
def readList (total : Nat) (item : Reader Datum) (depth : Nat) : Reader Datum := fun s =>
  match skipBlanks s with
  | [] => Fault.onNext .endInValue []
  | .char '[' :: rest =>
    if depth == 0 then Fault.onNext .tooDeep (.char '[' :: rest)
    else do
      let (ds, rest) ← items total item rest
      pure (.list ds, rest)
  | rest => refuseType total "a sequence" rest

/-- Reads null as nothing, and anything else with `read`. -/
def readOptional (read : Reader Datum) : Reader Datum := fun s =>
  match skipBlanks s with
  | .char 'n' :: rest => (word "ull".toList rest).map fun rest => (.nothing, rest)
  | rest => (read rest).map fun (d, rest) => (.something d, rest)

mutual

/-- Reads a datum of a schema, with at most `depth` arrays and objects open at once. -/
def Schema.read (total : Nat) : Schema → Nat → Reader Datum
  | .text, _ => fun s => (readText total "a string" s).map fun (t, rest) => (.text t, rest)
  | .word name bound, _ => fun s =>
    (readWord total name bound s).map fun (n, rest) => (.word n, rest)
  | .timestamp, _ => fun s => (readTimestamp total s).map fun (t, rest) => (.timestamp t, rest)
  | .choice names, depth => fun s =>
    (readChoice total names depth s).map fun (name, rest) => (.choice name, rest)
  | .any, depth => fun s => (value total depth s).map fun (v, rest) => (.any v, rest)
  | .optional inner, depth => readOptional (inner.read total depth)
  | .list inner, depth => readList total (inner.read total (depth - 1)) depth
  | .record title fields, depth => readRecord total title (fields.readers total (depth - 1)) depth

/-- How the fields of a record are read. -/
def Fields.readers (total : Nat) : Fields → Nat → List FieldReader
  | .nil, _ => []
  | .cons name absence schema rest, depth =>
    ⟨name, absence, schema.read total depth⟩ :: rest.readers total depth

end

/-! ## Types with a schema -/

/-- A type whose values are kept in JSON texts of a known shape. -/
class Stored (α : Type) where
  schema : Schema
  toDatum : α → Datum
  ofDatum? : Datum → Option α

/-- The value that something stored is written as. -/
def toValue {α : Type} [Stored α] (a : α) : Value :=
  (Stored.schema α).encode (Stored.toDatum a)

/-- The indented text of something stored, with a line break at its end. -/
def write {α : Type} [Stored α] (a : α) : String := (toValue a).pretty ++ "\n"

/-- Reads a whole text of a known shape. -/
def readSymbols (α : Type) [Stored α] (input : List Symbol) : Except ParseError α := do
  let d ← document (fun total => (Stored.schema α).read total depthLimit) input
  match Stored.ofDatum? d with
  | some a => pure a
  | none => throw ⟨.expectedValue, 1, 0⟩

/-- Reads something stored from a text. -/
def read (α : Type) [Stored α] (text : String) : Except ParseError α :=
  readSymbols α (symbolsOf text.toList)

/-- Reads something stored from bytes. -/
def readBytes (α : Type) [Stored α] (bytes : List UInt8) : Except ParseError α :=
  readSymbols α (symbols bytes)

end ApiConsole.Json
