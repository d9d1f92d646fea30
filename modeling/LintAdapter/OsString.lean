namespace LintAdapter

namespace Text

structure Begun where
  value : Nat
  lacks : Nat
  low : UInt8
  high : UInt8

def openByte (byte : UInt8) : Char ⊕ Begun :=
  let n := byte.toNat
  if byte < 0x80 then .inl (Char.ofNat n)
  else if byte < 0xc2 then .inl '\ufffd'
  else if byte < 0xe0 then .inr ⟨n - 0xc0, 0, 0x80, 0xbf⟩
  else if byte = 0xe0 then .inr ⟨0, 1, 0xa0, 0xbf⟩
  else if byte = 0xed then .inr ⟨0xd, 1, 0x80, 0x9f⟩
  else if byte < 0xf0 then .inr ⟨n - 0xe0, 1, 0x80, 0xbf⟩
  else if byte = 0xf0 then .inr ⟨0, 2, 0x90, 0xbf⟩
  else if byte < 0xf4 then .inr ⟨n - 0xf0, 2, 0x80, 0xbf⟩
  else if byte = 0xf4 then .inr ⟨4, 2, 0x80, 0x8f⟩
  else .inl '\ufffd'

/-- The characters of some bytes. What is no part of a character is shown as one replacement for
each attempt at one. -/
def replaced : Option Begun → List UInt8 → List Char
  | none, [] => []
  | some _, [] => ['\ufffd']
  | none, byte :: rest => match openByte byte with
    | .inl c => c :: replaced none rest
    | .inr begun => replaced (some begun) rest
  | some begun, byte :: rest =>
    if begun.low ≤ byte ∧ byte ≤ begun.high then
      let value := begun.value * 64 + (byte.toNat - 0x80)
      match begun.lacks with
      | 0 => Char.ofNat value :: replaced none rest
      | lacks + 1 => replaced (some ⟨value, lacks, 0x80, 0xbf⟩) rest
    else '\ufffd' :: match openByte byte with
      | .inl c => c :: replaced none rest
      | .inr begun => replaced (some begun) rest

end Text

@[ext] structure OsString where
  bytes : List UInt8
  deriving DecidableEq

namespace OsString

def ofText (text : String) : OsString := ⟨text.toUTF8.data.toList⟩

instance : Coe String OsString := ⟨ofText⟩

instance : Append OsString := ⟨fun first second => ⟨first.bytes ++ second.bytes⟩⟩

def isEmpty (string : OsString) : Bool := string.bytes.isEmpty

def length (string : OsString) : Nat := string.bytes.length

def after? (string beginning : OsString) : Option OsString :=
  if beginning.bytes.isPrefixOf string.bytes then some ⟨string.bytes.drop beginning.length⟩
  else none

def text? (string : OsString) : Option String := String.fromUTF8? ⟨string.bytes.toArray⟩

def isText (string : OsString) : Bool := string.text?.isSome

def display (string : OsString) : String :=
  string.text?.getD (String.ofList (Text.replaced none string.bytes))

instance : Coe OsString String := ⟨display⟩

end OsString

end LintAdapter
