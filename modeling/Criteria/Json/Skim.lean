import Criteria.Text.Bytes
import Criteria.Number.Digits

/-!
# Skimming over JSON values

Finds the end of a JSON value in a sequence of bytes without making a value of
it.  A skim is a state machine over bytes with a stack of open containers.  It
holds the bytes to the grammar of JSON alone: how deep containers nest, how
large numbers are, whether surrogates come in pairs and whether strings are
UTF-8 is left to whoever reads the value.
-/

namespace Criteria.Json

/-- The two kinds of containers. -/
inductive Container where
  | array
  | object
  deriving DecidableEq

/-- What a skim is in the middle of, or what it waits for. -/
inductive SkimPlace where
  /-- A value must start. -/
  | value
  /-- A value or the end of an array, right after its start. -/
  | firstItem
  /-- A key or the end of an object, right after its start. -/
  | firstKey
  /-- A key must start. -/
  | key
  /-- A key has ended. -/
  | colon
  /-- A value within a container has ended. -/
  | separator
  | text (isKey : Bool)
  | escape (isKey : Bool)
  | codePoint (isKey : Bool) (missing : Nat)
  | word (missing : List Char)
  /-- After a minus sign. -/
  | sign
  /-- After a zero in front of the fraction. -/
  | zero
  /-- Within the digits in front of the fraction. -/
  | whole
  /-- After the decimal point. -/
  | point
  /-- Within the digits of the fraction. -/
  | fraction
  /-- After the mark of the exponent. -/
  | exponentMark
  /-- After the sign of the exponent. -/
  | exponentSign
  /-- Within the digits of the exponent. -/
  | exponent
  deriving DecidableEq

/-- A skim in progress; the innermost open container comes first. -/
structure Skim where
  place : SkimPlace
  containers : List Container
  deriving DecidableEq

/-- What a byte does to a skim. -/
inductive SkimStep where
  | onward (next : Skim)
  /-- The value ends with this byte. -/
  | finished
  /-- The value ended before this byte. -/
  | passed
  /-- No value goes on like this. -/
  | fault

namespace Skim

/-- The skim of a value that has not started. -/
def start : Skim :=
  ⟨.value, []⟩

/-- After the last byte of a value inside some containers. -/
def endValue : List Container → SkimStep
  | [] => .finished
  | containers => .onward ⟨.separator, containers⟩

/-- The first byte of a value. -/
def beginValue (containers : List Container) (mark : Char) : SkimStep :=
  let go (place : SkimPlace) : SkimStep := .onward ⟨place, containers⟩
  match mark with
  | '[' => .onward ⟨.firstItem, .array :: containers⟩
  | '\x7b' => .onward ⟨.firstKey, .object :: containers⟩
  | '\x22' => go (.text false)
  | 't' => go (.word ['r', 'u', 'e'])
  | 'f' => go (.word ['a', 'l', 's', 'e'])
  | 'n' => go (.word ['u', 'l', 'l'])
  | '-' => go .sign
  | '0' => go .zero
  | _ => if mark.isDigit then go .whole else .fault

/-- A byte behind a complete value. -/
def behindValue (containers : List Container) (mark : Char) : SkimStep :=
  match containers with
  | [] => .passed
  | container :: outer =>
      if isBlank mark then .onward ⟨.separator, containers⟩
      else
        match container, mark with
        | .array, ',' => .onward ⟨.value, containers⟩
        | .object, ',' => .onward ⟨.key, containers⟩
        | .array, ']' => endValue outer
        | .object, '\x7d' => endValue outer
        | _, _ => .fault

/-- A byte inside a string. -/
def insideText (containers : List Container) (isKey : Bool) (mark : Char) :
    SkimStep :=
  match mark with
  | '\x22' =>
      if isKey then .onward ⟨.colon, containers⟩ else endValue containers
  | '\\' => .onward ⟨.escape isKey, containers⟩
  | _ => if mark.toNat < 0x20 then .fault else .onward ⟨.text isKey, containers⟩

/-- The letter of an escape. -/
def insideEscape (containers : List Container) (isKey : Bool) (mark : Char) :
    SkimStep :=
  if mark = 'u' then .onward ⟨.codePoint isKey 4, containers⟩
  else if mark ∈ ['\x22', '\\', '/', 'b', 'f', 'n', 'r', 't'] then
    .onward ⟨.text isKey, containers⟩
  else .fault

/-- A digit that must be there. -/
def needDigit (containers : List Container) (place : SkimPlace) (mark : Char) :
    SkimStep :=
  if mark.isDigit then .onward ⟨place, containers⟩ else .fault

/-- A byte behind the whole part of a number, or behind its fraction. -/
def behindDigits
    (containers : List Container) (hasFraction : Bool) (mark : Char) :
    SkimStep :=
  if mark = '.' ∧ hasFraction = false then .onward ⟨.point, containers⟩
  else if mark = 'e' ∨ mark = 'E' then .onward ⟨.exponentMark, containers⟩
  else behindValue containers mark

/--
The step of a skim at a place that allows blanks, which a blank leaves as it is.
-/
def unlessBlank (skim : Skim) (mark : Char) (step : SkimStep) : SkimStep :=
  if isBlank mark then .onward skim else step

/-- What a byte does, given as the character of its code. -/
def step (skim : Skim) (mark : Char) : SkimStep :=
  let containers := skim.containers
  let go (place : SkimPlace) : SkimStep := .onward ⟨place, containers⟩
  match skim.place with
  | .value => skim.unlessBlank mark (beginValue containers mark)
  | .firstItem =>
      skim.unlessBlank mark
        (if mark = ']' then endValue containers.tail
        else beginValue containers mark)
  | .firstKey =>
      skim.unlessBlank mark
        (if mark = '\x7d' then endValue containers.tail
        else if mark = '\x22' then go (.text true)
        else .fault)
  | .key =>
      skim.unlessBlank mark (if mark = '\x22' then go (.text true) else .fault)
  | .colon => skim.unlessBlank mark (if mark = ':' then go .value else .fault)
  | .separator => behindValue containers mark
  | .text isKey => insideText containers isKey mark
  | .escape isKey => insideEscape containers isKey mark
  | .codePoint isKey missing =>
      if (hexValue? mark).isNone then .fault
      else if missing ≤ 1 then go (.text isKey)
      else go (.codePoint isKey (missing - 1))
  | .word missing =>
      match missing with
      | [] => .fault
      | [last] => if mark = last then endValue containers else .fault
      | next :: later => if mark = next then go (.word later) else .fault
  | .sign =>
      if mark = '0' then go .zero else needDigit containers .whole mark
  | .zero => if mark.isDigit then .fault else behindDigits containers false mark
  | .whole =>
      if mark.isDigit then go .whole else behindDigits containers false mark
  | .point => needDigit containers .fraction mark
  | .fraction =>
      if mark.isDigit then go .fraction else behindDigits containers true mark
  | .exponentMark =>
      if mark = '+' ∨ mark = '-' then go .exponentSign
      else needDigit containers .exponent mark
  | .exponentSign => needDigit containers .exponent mark
  | .exponent =>
      if mark.isDigit then go .exponent else behindValue containers mark

/--
Whether the value is complete when the bytes end: only a number may end so.
-/
def mayEnd (skim : Skim) : Bool :=
  skim.containers.isEmpty && skim.place ∈ [.zero, .whole, .fraction, .exponent]

/--
Goes on with a skim, `taken` holding the bytes of the value so far, the latest
first.
-/
def goOn (skim : Skim) (taken : List UInt8) :
    List UInt8 → Option (List UInt8 × List UInt8)
  | [] => if skim.mayEnd then some (taken.reverse, []) else none
  | byte :: rest =>
      match skim.step (byteMark byte) with
      | .onward next => next.goOn (byte :: taken) rest
      | .finished => some ((byte :: taken).reverse, rest)
      | .passed => some (taken.reverse, byte :: rest)
      | .fault => none

/-- The bytes taken and the bytes left are the bytes that there were. -/
theorem goOn_append
    {skim : Skim} {taken bytes raw rest : List UInt8}
    (skimmed : skim.goOn taken bytes = some (raw, rest)) :
    raw ++ rest = taken.reverse ++ bytes := by
  induction bytes generalizing skim taken with
  | nil =>
      unfold goOn at skimmed
      split at skimmed
      · simp only [Option.some.injEq, Prod.mk.injEq] at skimmed
        obtain ⟨rfl, rfl⟩ := skimmed
        rfl
      · simp at skimmed
  | cons byte later ih =>
      unfold goOn at skimmed
      split at skimmed
      · simpa using ih skimmed
      · simp only [Option.some.injEq, Prod.mk.injEq] at skimmed
        obtain ⟨rfl, rfl⟩ := skimmed
        simp
      · simp only [Option.some.injEq, Prod.mk.injEq] at skimmed
        obtain ⟨rfl, rfl⟩ := skimmed
        rfl
      · simp at skimmed

end Skim

/--
Parts the bytes of a value, which starts after blanks, from the bytes behind it.
-/
def skim? (bytes : List UInt8) : Option (List UInt8 × List UInt8) :=
  Skim.start.goOn [] (skipBlankBytes bytes)

theorem skim?_append
    {bytes raw rest : List UInt8} (skimmed : skim? bytes = some (raw, rest)) :
    raw ++ rest = skipBlankBytes bytes := by
  simpa using Skim.goOn_append skimmed

end Criteria.Json
