/-!
# Media types

The value of a content type header: a top-level type, a subtype, an optional
suffix behind the last plus sign of the subtype, and parameters.  A semicolon
directly behind the subtype introduces the parameters; they must be well
formed, but nothing else is asked of them.
-/

namespace Criteria

/-- A media type in lower case, without its parameters. -/
structure MediaType where
  topLevel : List Char
  subtype : List Char
  suffix : Option (List Char)
  deriving DecidableEq

namespace MediaType

/-- The characters of names and of values without quotes. -/
def isTokenCharacter (character : Char) : Bool :=
  character.isAlphanum || "!#$%&'*+-.^_\x60|~".toList.contains character

/-- The characters that may stand between quotes. -/
def isQuotedCharacter (character : Char) : Bool :=
  0x20 ≤ character.toNat && character.toNat < 0x7F

/--
Whether what follows a quoted value is blank, up to the next parameter or to the
end.
-/
def closesQuoted : List Char → Option (List Char)
  | [] => some []
  | ';' :: rest => some rest
  | ' ' :: rest => closesQuoted rest
  | _ => none

/--
The text behind a quoted value and its separator; a quote at once does not close
it.
-/
def skipQuoted? (isFirst : Bool) : List Char → Option (List Char)
  | [] => none
  | character :: rest =>
      if character = '\x22' ∧ isFirst = false then closesQuoted rest
      else if isQuotedCharacter character then skipQuoted? false rest
      else none

/-- The text behind the value of a parameter and its separator. -/
def skipValue? (text : List Char) : Option (List Char) :=
  match text with
  | '\x22' :: rest => skipQuoted? true rest
  | _ =>
      match text.takeWhile isTokenCharacter,
        text.dropWhile isTokenCharacter with
      | _, [] => some []
      | _ :: _, ';' :: rest => some rest
      | _, _ => none

/-- Whether a text is a list of parameters; `bound` limits their number. -/
def areParameters : (bound : Nat) → List Char → Bool
  | _, [] => true
  | 0, _ => false
  | bound + 1, text =>
      match text with
      | ' ' :: rest => areParameters bound rest
      | text =>
          match text.takeWhile isTokenCharacter,
            text.dropWhile isTokenCharacter with
          | _ :: _, '=' :: value =>
              match skipValue? value with
              | some rest => areParameters bound rest
              | none => false
          | _, _ => false

/--
The part of a subtype in front of its last plus sign, and the part behind it.
-/
def splitSuffix (subtype : List Char) : List Char × Option (List Char) :=
  let behind := (subtype.reverse.takeWhile (· != '+')).reverse
  let front := subtype.take (subtype.length - behind.length - 1)
  if front.isEmpty then (subtype, none) else (front, some behind)

/-- Reads a media type. -/
def read? (text : String) : Option MediaType :=
  let characters := text.toList.map Char.toLower
  let topLevel := characters.takeWhile isTokenCharacter
  match characters.dropWhile isTokenCharacter with
  | '/' :: rest =>
      let name := rest.takeWhile isTokenCharacter
      let (subtype, suffix) := splitSuffix name
      let type : MediaType := ⟨topLevel, subtype, suffix⟩
      match rest.dropWhile isTokenCharacter with
      | [] => if topLevel.isEmpty then none else some type
      | mark :: parameters =>
          if mark = ';' ∧ !topLevel.isEmpty ∧ !name.isEmpty ∧
              areParameters parameters.length parameters then some type
          else none
  | _ => none

/--
Whether a media type is JSON, or another application format written in JSON.
-/
def isJson (type : MediaType) : Bool :=
  type.topLevel == "application".toList &&
    (type.subtype == "json".toList || type.suffix == some "json".toList)

end MediaType

end Criteria
