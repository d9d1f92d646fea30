import LintAdapter.Json.Fault
import LintAdapter.Json.Numeral
import LintAdapter.Json.Tree

namespace LintAdapter.Json

def isHighSurrogate (unit : Nat) : Bool := 0xd800 ≤ unit && unit < 0xdc00

def isLowSurrogate (unit : Nat) : Bool := 0xdc00 ≤ unit && unit < 0xe000

def pairChar (high low : Nat) : Char :=
  Char.ofNat (0x10000 + (high - 0xd800) * 0x400 + (low - 0xdc00))

def StringFlaw.fault : StringFlaw → Fault
  | .unfinished => .endOfString
  | .control => .controlCharacter
  | .unknownEscape => .invalidEscape
  | .badUnit => .invalidEscape

def unpairedFault : Option StringFlaw → Fault
  | some .unfinished => .endOfString
  | some .badUnit => .invalidEscape
  | _ => .unfinishedPair

/-- The characters of a string; surrogates come in pairs. -/
def decodePieces (flaw : Option StringFlaw) : List Piece → Except Fault (List Char)
  | [] => match flaw with
    | none => .ok []
    | some flaw => .error flaw.fault
  | .plain c :: rest => return c :: (← decodePieces flaw rest)
  | .unit high :: .unit low :: rest =>
    if isLowSurrogate high then .error .loneSurrogate
    else if isHighSurrogate high then
      if isLowSurrogate low then return pairChar high low :: (← decodePieces flaw rest)
      else .error .loneSurrogate
    else return Char.ofNat high :: (← decodePieces flaw (.unit low :: rest))
  | .unit unit :: rest =>
    if isLowSurrogate unit then .error .loneSurrogate
    else if isHighSurrogate unit then
      .error (if rest.isEmpty then unpairedFault flaw else .unfinishedPair)
    else return Char.ofNat unit :: (← decodePieces flaw rest)

def decodeString (pieces : List Piece) : Except Fault String :=
  return String.ofList (← decodePieces none pieces)

def Flaw.fault (malformed : Fault) : Flaw → Fault
  | .unfinished => .endOfValue
  | .malformed => malformed

def Break.fault : Break → Fault
  | .endOfText => .endOfValue
  | .unexpected => .expectedValue
  | .word flaw => flaw.fault .expectedWord
  | .numeral flaw => flaw.fault .invalidNumber
  | .string pieces flaw => match decodePieces (some flaw) pieces with
    | .error fault => fault
    | .ok _ => flaw.fault
  | .noColon => .expectedColon
  | .endBeforeColon => .endOfObject

def ListStop.fault : ListStop → Fault
  | .endOfText => .endOfList
  | .endAfterComma => .endOfValue
  | .closedAfterComma => .trailingComma
  | .noComma => .expectedListEnd

def ObjectStop.fault : ObjectStop → Fault
  | .endOfText => .endOfObject
  | .endAfterComma => .endOfValue
  | .closedAfterComma => .trailingComma
  | .noComma => .expectedObjectEnd
  | .noName => .keyNotText
  | .badName pieces flaw => (Break.string pieces flaw).fault

def ListStop.surplusFault : ListStop → Fault
  | .endOfText => .endOfList
  | .closedAfterComma => .trailingComma
  | .endAfterComma => .trailingText
  | .noComma => .trailingText

def closedList : Option ListStop → Except Fault Unit
  | none => .ok ()
  | some stop => .error stop.fault

def closedObject : Option ObjectStop → Except Fault Unit
  | none => .ok ()
  | some stop => .error stop.fault

/-- The fault of a broken part whose meaning is not wanted: escapes are not paired, and the end of
the text makes a numeral malformed. -/
def Break.skipFault : Break → Fault
  | .numeral _ => .invalidNumber
  | .string _ flaw => flaw.fault
  | other => other.fault

def ListStop.skipFault : ListStop → Fault
  | .closedAfterComma => .expectedValue
  | other => other.fault

def ObjectStop.skipFault : ObjectStop → Fault
  | .endAfterComma => .endOfObject
  | .closedAfterComma => .keyNotText
  | .badName _ flaw => flaw.fault
  | other => other.fault

namespace Tree

mutual

def skip : Tree → Except Fault Unit
  | .list items stop => do
    skipItems items
    match stop with
    | none => return ()
    | some stop => .error stop.skipFault
  | .object members stop => do
    skipMembers members
    match stop with
    | none => return ()
    | some stop => .error stop.skipFault
  | .broken why => .error why.skipFault
  | .null => .ok ()
  | .bool _ => .ok ()
  | .numeral _ => .ok ()
  | .string _ => .ok ()

def skipItems : List Tree → Except Fault Unit
  | [] => .ok ()
  | item :: rest => do
    item.skip
    skipItems rest

def skipMembers : List (List Piece × Tree) → Except Fault Unit
  | [] => .ok ()
  | (_, value) :: rest => do
    value.skip
    skipMembers rest

end

def mismatch (wanted : String) : Tree → Fault
  | .null => .wrongType .null wanted
  | .bool value => .wrongType (.bool value) wanted
  | .numeral written => match written.number? with
    | some number => .wrongType (.number number) wanted
    | none => .numberOutOfRange
  | .string pieces => match decodeString pieces with
    | .ok text => .wrongType (.text text) wanted
    | .error fault => fault
  | .list _ _ => .wrongType .sequence wanted
  | .object _ _ => .wrongType .map wanted
  | .broken why => why.fault

mutual

def value (room : Nat) : Tree → Except Fault Value
  | .null => .ok .null
  | .bool value => .ok (.bool value)
  | .numeral written => match written.number? with
    | some number => .ok (.number number)
    | none => .error .numberOutOfRange
  | .string pieces => return .text (← decodeString pieces)
  | .list items stop =>
    if room = 0 then .error .tooDeep
    else do
      let items ← valueItems (room - 1) items
      closedList stop
      return .list items
  | .object members stop =>
    if room = 0 then .error .tooDeep
    else do
      let members ← valueMembers (room - 1) members
      closedObject stop
      return .object members
  | .broken why => .error why.fault

def valueItems (room : Nat) : List Tree → Except Fault (List Value)
  | [] => .ok []
  | item :: rest => do
    let item ← item.value room
    return item :: (← valueItems room rest)

def valueMembers (room : Nat) :
    List (List Piece × Tree) → Except Fault (List (String × Value))
  | [] => .ok []
  | (name, value) :: rest => do
    let name ← decodeString name
    let value ← value.value room
    return (name, value) :: (← valueMembers room rest)

end

end Tree

/-- Reads a tree, whose lists and objects may be nested `room` deep, as a value of one type. -/
abbrev Decoder (α : Type) := (room : Nat) → Tree → Except Fault α

namespace Decoder

variable {α ρ : Type}

def text : Decoder String
  | _, .string pieces => decodeString pieces
  | _, tree => .error (tree.mismatch "a string")

def flag : Decoder Bool
  | _, .bool value => .ok value
  | _, tree => .error (tree.mismatch "a boolean")

def count : Decoder UInt64
  | _, .numeral written => match written.number? with
    | some (.integer value) =>
      if value < 0 then .error (.wrongValue value "usize") else .ok value.toNat.toUInt64
    | some (.real value) => .error (.wrongType (.number (.real value)) "usize")
    | none => .error .numberOutOfRange
  | _, tree => .error (tree.mismatch "usize")

def rawValue : Decoder Value := fun room tree => tree.value room

def value : Decoder Value := fun room tree => Value.merged <$> tree.value room

def members : Decoder (List (String × Value))
  | room, .object members stop =>
    if room = 0 then .error .tooDeep
    else do
      let members ← Tree.valueMembers (room - 1) members
      closedObject stop
      return Members.merge (Value.mergedMembers members)
  | _, tree => .error (tree.mismatch "a map")

def optional (decode : Decoder α) : Decoder (Option α)
  | _, .null => .ok none
  | room, tree => some <$> decode room tree

def items (decode : Tree → Except Fault α) : List Tree → Except Fault (List α)
  | [] => .ok []
  | item :: rest => do
    let item ← decode item
    return item :: (← items decode rest)

def list (decode : Decoder α) : Decoder (List α)
  | room, .list trees stop =>
    if room = 0 then .error .tooDeep
    else do
      let values ← items (decode (room - 1)) trees
      closedList stop
      return values
  | _, tree => .error (tree.mismatch "a sequence")

def noSurplus (surplus : List Tree) (stop : Option ListStop) : Except Fault Unit :=
  match surplus, stop with
  | [], none => .ok ()
  | [], some stop => .error stop.surplusFault
  | _ :: _, _ => .error .trailingText

def pair (decode : Decoder α) : Decoder (α × α)
  | room, .list trees stop =>
    if room = 0 then .error .tooDeep
    else match trees with
      | first :: second :: surplus => do
        let first ← decode (room - 1) first
        let second ← decode (room - 1) second
        noSurplus surplus stop
        return (first, second)
      | few => do
        let values ← items (decode (room - 1)) few
        closedList stop
        .error (.wrongLength values.length "an array of length 2")
  | _, tree => .error (tree.mismatch "an array of length 2")

/-- A field of a record `ρ`: decoding its value gives what it changes in the record. -/
structure Field (ρ : Type) where
  name : String
  needed : Bool
  decode : Decoder (ρ → ρ)

def Field.optional (name : String) (decode : Decoder α) (set : α → ρ → ρ) : Field ρ :=
  ⟨name, false, fun room tree => set <$> decode room tree⟩

def Field.required (name : String) (decode : Decoder α) (set : α → ρ → ρ) : Field ρ :=
  ⟨name, true, fun room tree => set <$> decode room tree⟩

/-- A record type: its name, the record whose fields are all absent, and its fields in order. -/
structure Record (ρ : Type) where
  name : String
  blank : ρ
  fields : List (Field ρ)

namespace Record

def describe (record : Record ρ) : String := "struct " ++ record.name

def describeSize (record : Record ρ) : String :=
  record.describe ++ " with " ++ toString record.fields.length ++
    (if record.fields.length = 1 then " element" else " elements")

/-- What the members of an object say of the fields, in the order of the members. Members that are
no fields are skipped; a field stands at most once. -/
def collect (record : Record ρ) (room : Nat) :
    (seen : List (String × (ρ → ρ))) → List (List Piece × Tree) →
      Except Fault (List (String × (ρ → ρ)))
  | seen, [] => .ok seen
  | seen, (pieces, tree) :: rest => do
    let name ← decodeString pieces
    match record.fields.find? (·.name = name) with
    | none =>
      tree.skip
      record.collect room seen rest
    | some field =>
      if (seen.lookup name).isSome then .error (.duplicateField name)
      else
        let change ← field.decode room tree
        record.collect room (seen ++ [(name, change)]) rest

def assemble (seen : List (String × (ρ → ρ))) : List (Field ρ) → ρ → Except Fault ρ
  | [], result => .ok result
  | field :: rest, result =>
    match seen.lookup field.name with
    | some change => assemble seen rest (change result)
    | none =>
      if field.needed then .error (.missingField field.name) else assemble seen rest result

/-- Reads the fields from the items of a list, in order; fields at the end may be left out when
they need not be there. -/
def fromItems (record : Record ρ) (room : Nat) :
    (position : Nat) → List (Field ρ) → List Tree → Option ListStop → ρ → Except Fault ρ
  | _, [], surplus, stop, result => do
    noSurplus surplus stop
    return result
  | position, field :: fields, [], stop, result => do
    closedList stop
    if field.needed then .error (.wrongLength position record.describeSize)
    else record.fromItems room (position + 1) fields [] stop result
  | position, field :: fields, tree :: trees, stop, result => do
    let change ← field.decode room tree
    record.fromItems room (position + 1) fields trees stop (change result)

def decode (record : Record ρ) : Decoder ρ
  | room, .object members stop =>
    if room = 0 then .error .tooDeep
    else do
      let seen ← record.collect (room - 1) [] members
      closedObject stop
      assemble seen record.fields record.blank
  | room, .list trees stop =>
    if room = 0 then .error .tooDeep
    else record.fromItems (room - 1) 0 record.fields trees stop record.blank
  | _, tree => .error (tree.mismatch record.describe)

end Record

/-- Lists and objects of a document may be nested this deep. -/
def documentRoom : Nat := 127

def document (decode : Decoder α) (text : String) : Except Fault α := do
  let (tree, more) := Tree.ofText text.toList
  let value ← decode documentRoom tree
  if more then .error .trailingText else return value

end Decoder

end LintAdapter.Json
