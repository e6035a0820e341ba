import Criteria.Number.Digits

/-!
# String literals

The written form of a string: characters between quotes, with the eight short
escapes, and `\u` escapes in which surrogates come in high and low pairs only.
Raw characters below U+0020 are refused.  A scan starts after the opening
quote; it counts the bytes it has read, so that a fault can say how many bytes
after the quote it lies.
-/

namespace Criteria

/--
What a scan took from the head of a text: a value, its bytes, and the text after
it.
-/
structure Scanned (α : Type) where
  value : α
  width : Nat
  rest : List Char

/-- What can be wrong with a string literal. -/
inductive StringFault where
  | unterminated
  | invalidEscape (character : Char)
  | controlCharacter
  | invalidCodePoint
  | unpairedSurrogate
  deriving DecidableEq

namespace StringLiteral

/-- The character that a short escape stands for. -/
def shortEscape? : Char → Option Char
  | '\x22' => some '\x22'
  | '\\' => some '\\'
  | '/' => some '/'
  | 'b' => some '\x08'
  | 'f' => some '\x0c'
  | 'n' => some '\n'
  | 'r' => some '\r'
  | 't' => some '\t'
  | _ => none

/-- Whether a code is the first half of a surrogate pair. -/
def isHighSurrogate (code : Nat) : Bool :=
  0xD800 ≤ code && code < 0xDC00

/-- Whether a code is the second half of a surrogate pair. -/
def isLowSurrogate (code : Nat) : Bool :=
  0xDC00 ≤ code && code < 0xE000

/-- The character beyond the basic plane that a surrogate pair stands for. -/
def pairCharacter (high low : Nat) : Char :=
  Char.ofNat (0x10000 + (high - 0xD800) * 0x400 + (low - 0xDC00))

/-- The second half of a surrogate pair, which must follow the first at once. -/
def scanLowSurrogate (high : Nat) :
    List Char → Except StringFault (Scanned Char)
  | '\\' :: 'u' :: text =>
      match readHexQuad? text with
      | none => .error .invalidCodePoint
      | some (low, rest) =>
          if isLowSurrogate low then .ok ⟨pairCharacter high low, 12, rest⟩
          else .error .unpairedSurrogate
  | _ => .error .unpairedSurrogate

/-- A code point escape, after its backslash and its `u`. -/
def scanCodePoint (text : List Char) : Except StringFault (Scanned Char) :=
  match readHexQuad? text with
  | none => .error .invalidCodePoint
  | some (code, rest) =>
      if isHighSurrogate code then scanLowSurrogate code rest
      else if isLowSurrogate code then .error .unpairedSurrogate
      else .ok ⟨Char.ofNat code, 6, rest⟩

/-- An escape, after its backslash; its width counts the backslash. -/
def scanEscape : List Char → Except StringFault (Scanned Char)
  | [] => .error .unterminated
  | 'u' :: text => scanCodePoint text
  | letter :: rest =>
      match shortEscape? letter with
      | some character => .ok ⟨character, 1 + letter.utf8Size, rest⟩
      | none => .error (.invalidEscape letter)

/--
How far behind its backslash the fault of an escape is reported: text that
ends is a matter of the whole literal, everything else lies at the letter
after the backslash.
-/
def escapeFaultOffset (width : Nat) : StringFault → Nat
  | .unterminated => 0
  | _ => width + 1

theorem scanLowSurrogate_shorter
    {high : Nat} {text : List Char} {scanned : Scanned Char}
    (scan : scanLowSurrogate high text = .ok scanned) :
    scanned.rest.length < text.length := by
  unfold scanLowSurrogate at scan
  split at scan
  · split at scan
    · simp at scan
    · rename_i read
      split at scan
      · simp only [Except.ok.injEq] at scan
        subst scan
        have consumed := readHexQuad?_length read
        simp only [List.length_cons]
        omega
      · simp at scan
  · simp at scan

theorem scanCodePoint_shorter
    {text : List Char} {scanned : Scanned Char}
    (scan : scanCodePoint text = .ok scanned) :
    scanned.rest.length < text.length := by
  unfold scanCodePoint at scan
  split at scan
  · simp at scan
  · rename_i read
    have consumed := readHexQuad?_length read
    split at scan
    · have shorter := scanLowSurrogate_shorter scan
      omega
    · split at scan
      · simp at scan
      · simp only [Except.ok.injEq] at scan
        subst scan
        simp only
        omega

theorem scanEscape_shorter
    {text : List Char} {scanned : Scanned Char}
    (scan : scanEscape text = .ok scanned) :
    scanned.rest.length < text.length := by
  unfold scanEscape at scan
  split at scan
  · simp at scan
  · have shorter := scanCodePoint_shorter scan
    simp only [List.length_cons]
    omega
  · split at scan
    · simp only [Except.ok.injEq] at scan
      subst scan
      simp
    · simp at scan

/--
Scans the characters up to the closing quote.  `width` counts the bytes read
so far, the opening quote included, and `read` holds the characters read so
far, the latest first.
-/
def scanCharacters (width : Nat) (read : List Char) :
    List Char → Except (Nat × StringFault) (Scanned (List Char))
  | [] => .error (0, .unterminated)
  | '\x22' :: rest => .ok ⟨read.reverse, width + 1, rest⟩
  | '\\' :: rest =>
      match _scan : scanEscape rest with
      | .ok escape =>
          scanCharacters (width + escape.width) (escape.value :: read)
            escape.rest
      | .error fault => .error (escapeFaultOffset width fault, fault)
  | character :: rest =>
      if character.toNat < 0x20 then .error (width, .controlCharacter)
      else scanCharacters (width + character.utf8Size) (character :: read) rest
termination_by text => text.length
decreasing_by
  · have shorter := scanEscape_shorter _scan
    simp only [List.length_cons]
    omega
  · simp

theorem scanCharacters_shorter
    {width : Nat} {read text : List Char} {scanned : Scanned (List Char)}
    (scan : scanCharacters width read text = .ok scanned) :
    scanned.rest.length < text.length := by
  fun_induction scanCharacters width read text with
  | case1 => simp at scan
  | case2 =>
      simp only [Except.ok.injEq] at scan
      subst scan
      simp
  | case3 width read rest escape found ih =>
      have shorter := scanEscape_shorter found
      have later := ih scan
      simp only [List.length_cons]
      omega
  | case4 => simp at scan
  | case5 => simp at scan
  | case6 width read character rest _ _ _ ih =>
      have later := ih scan
      simp only [List.length_cons]
      omega

/--
Scans a string literal after its opening quote; widths and offsets count that
quote.
-/
def scan (text : List Char) : Except (Nat × StringFault) (Scanned String) :=
  (scanCharacters 1 [] text).map fun scanned =>
    ⟨String.ofList scanned.value, scanned.width, scanned.rest⟩

theorem scan_shorter
    {text : List Char} {scanned : Scanned String}
    (found : scan text = .ok scanned) :
    scanned.rest.length < text.length := by
  unfold scan at found
  cases characters : scanCharacters 1 [] text with
  | error fault => simp [characters, Except.map] at found
  | ok result =>
      simp only [characters, Except.map, Except.ok.injEq] at found
      subst found
      exact scanCharacters_shorter characters

end StringLiteral

end Criteria
