import LintAdapter.Json.Decoder
import LintAdapter.Json.Printer
import LintAdapter.Proofs.Json.Numeral

namespace LintAdapter.Json

def pieceOf (c : Char) : Piece :=
  if c.toNat < 0x20 ∧ c ∉ ['\x08', '\x0c', '\n', '\r', '\t'] then .unit c.toNat else .plain c

def IsPrinted (text : List Char) : Prop := ∀ c ∈ text, 0x20 ≤ c.toNat

@[simp] theorem isPrinted_nil : IsPrinted [] := List.forall_mem_nil _

@[simp] theorem isPrinted_cons (c : Char) (rest : List Char) :
    IsPrinted (c :: rest) ↔ 0x20 ≤ c.toNat ∧ IsPrinted rest :=
  List.forall_mem_cons

@[simp] theorem isPrinted_append (first second : List Char) :
    IsPrinted (first ++ second) ↔ IsPrinted first ∧ IsPrinted second :=
  List.forall_mem_append

theorem isPrinted_hexFour (code : Nat) : IsPrinted (hexFour code) := by
  have digit : ∀ n < 16, 0x20 ≤ (Nat.digitChar n).toNat := by decide
  have printed (n : Nat) : 0x20 ≤ (Nat.digitChar (n % 16)).toNat :=
    digit _ (Nat.mod_lt n (by decide))
  simp [hexFour, printed]

theorem isPrinted_escapedChar (c : Char) : IsPrinted (escapedChar c) := by
  unfold escapedChar
  split_ifs with quote backslash backspace formFeed lineFeed carriageReturn tab control
  all_goals simp [isPrinted_hexFour]
  exact Nat.not_lt.1 control

theorem isPrinted_escapedString (text : List Char) : IsPrinted (escapedString text) := by
  have escaped : IsPrinted (text.flatMap escapedChar) := by
    induction text with
    | nil => exact isPrinted_nil
    | cons c rest ih =>
        rw [List.flatMap_cons, isPrinted_append]
        exact ⟨isPrinted_escapedChar c, ih⟩
  simp [escapedString, escaped]

namespace Token

theorem hexDigit?_digitChar : ∀ n < 16, hexDigit? (Nat.digitChar n) = some n := by decide

theorem hexUnit?_hexFour (code : Nat) (short : code < 0x10000) :
    hexUnit? (Nat.digitChar (code / 0x1000 % 16)) (Nat.digitChar (code / 0x100 % 16))
      (Nat.digitChar (code / 0x10 % 16)) (Nat.digitChar (code % 16)) = some code := by
  have digit (n : Nat) : hexDigit? (Nat.digitChar (n % 16)) = some (n % 16) :=
    hexDigit?_digitChar _ (Nat.mod_lt n (by decide))
  have sum : ((code / 0x1000 % 16 * 16 + code / 0x100 % 16) * 16 + code / 0x10 % 16) * 16 +
      code % 16 = code := by omega
  simp only [hexUnit?, digit, bind, Option.bind, pure, sum]

theorem scanString_plain {c : Char} (quote : c ≠ '"') (backslash : c ≠ '\\')
    (printed : ¬ c.toNat < 0x20) (rest : List Char) :
    scanString (c :: rest) = (.plain c :: (scanString rest).1, (scanString rest).2) := by
  rw [scanString.eq_def]
  split <;> simp_all

theorem scanString_escapedChar (c : Char) (rest : List Char) :
    scanString (escapedChar c ++ rest) =
      (pieceOf c :: (scanString rest).1, (scanString rest).2) := by
  unfold escapedChar
  split_ifs with quote backslash backspace formFeed lineFeed carriageReturn tab control
  · subst quote; rfl
  · subst backslash; rfl
  · subst backspace; rfl
  · subst formFeed; rfl
  · subst lineFeed; rfl
  · subst carriageReturn; rfl
  · subst tab; rfl
  · have numbered : pieceOf c = .unit c.toNat := by
      simp [pieceOf, control, backspace, formFeed, lineFeed, carriageReturn, tab]
    have unit := hexUnit?_hexFour c.toNat (by omega)
    simp only [hexFour, List.map_cons, List.map_nil, List.cons_append, List.nil_append, scanString,
      unit, numbered]
  · have plain : pieceOf c = .plain c := if_neg fun both => control both.1
    rw [List.singleton_append, scanString_plain quote backslash control, plain]

theorem scanString_escaped (text rest : List Char) :
    scanString (text.flatMap escapedChar ++ '"' :: rest) = (text.map pieceOf, .ok rest) := by
  induction text with
  | nil => rfl
  | cons c text ih =>
      rw [List.flatMap_cons, List.append_assoc, scanString_escapedChar, ih, List.map_cons]

theorem ofText_escapedString (text rest : List Char) :
    ofText (escapedString text ++ rest) = .string (text.map pieceOf) :: ofText rest := by
  have cut : escapedString text ++ rest =
      '"' :: (text.flatMap escapedChar ++ '"' :: rest) := by
    simp [escapedString]
  rw [cut]
  refine ofText_cons rfl ?_
  change ofString (scanString _) = _
  rw [scanString_escaped]
  rfl

end Token

theorem decodePieces_pieceOf (c : Char) (flaw : Option StringFlaw) (rest : List Piece) :
    decodePieces flaw (pieceOf c :: rest) = (c :: ·) <$> decodePieces flaw rest := by
  unfold pieceOf
  split_ifs with control
  · -- A control character is no half of a pair, so what comes next does not matter.
    have low : isLowSurrogate c.toNat = false := by
      simp only [isLowSurrogate, Bool.and_eq_false_iff, decide_eq_false_iff_not]
      omega
    have high : isHighSurrogate c.toNat = false := by
      simp only [isHighSurrogate, Bool.and_eq_false_iff, decide_eq_false_iff_not]
      omega
    have same : Char.ofNat c.toNat = c := Char.ofNat_toNat c
    cases rest with
    | nil => simp [decodePieces, low, high, same]
    | cons next more => cases next <;> simp [decodePieces, low, high, same]
  · rw [decodePieces]
    cases decodePieces flaw rest <;> rfl

theorem decodePieces_map_pieceOf (text : List Char) :
    decodePieces none (text.map pieceOf) = .ok text := by
  induction text with
  | nil => rfl
  | cons c text ih =>
      rw [List.map_cons, decodePieces_pieceOf, ih]
      rfl

theorem decodeString_map_pieceOf (text : String) :
    decodeString (text.toList.map pieceOf) = .ok text := by
  rw [decodeString, decodePieces_map_pieceOf]
  exact congrArg Except.ok String.ofList_toList

end LintAdapter.Json
