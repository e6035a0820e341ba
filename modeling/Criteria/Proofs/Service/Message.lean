import Mathlib.Tactic.MkIffOfInductiveProp
import Criteria.Proofs.Json.Skim
import Criteria.Service.Message

/-!
# What a message is

A message is a sequence of bytes of its own: an array of one or two values, or
an object whose members are a condition, at most one context, and whatever else
(`IsMessage`).  `read_eq_ok_iff` proves that reading takes exactly the messages
that some bytes start with, so where a message ends and what it says depends on
the message alone.
-/

namespace Criteria

namespace Message

/-! ## The grammar of messages -/

/-- The bytes of a value that are UTF-8, and the blanks in front of them. -/
inductive IsText (text : String) : List UInt8 → Prop where
  | spelled {raw front : List UInt8} (isRaw : Json.IsRaw raw front)
      (spells : textOfBytes? raw = some text) :
      IsText text front

/-- A key, a colon and the bytes of a value, each behind blanks. -/
inductive IsMember (key : String) (raw : List UInt8) : List UInt8 → Prop where
  | pair {keyText : String} {keyFront colon front : List UInt8}
      (isText : IsText keyText keyFront)
      (isKey : Json.decode? keyText = some (.string key))
      (isColon : IsMark ':' colon) (isRaw : Json.IsRaw raw front) :
      IsMember key raw (keyFront ++ (colon ++ front))

/-- One or more members with commas between them, and the closing brace. -/
inductive AreMembers : List (String × List UInt8) → List UInt8 → Prop where
  | last {key : String} {raw front close : List UInt8}
      (isMember : IsMember key raw front) (closes : IsMark '\x7d' close) :
      AreMembers [(key, raw)] (front ++ close)
  | more {key : String} {raw front comma later : List UInt8}
      {members : List (String × List UInt8)}
      (isMember : IsMember key raw front) (isComma : IsMark ',' comma)
      (areMembers : AreMembers members later) :
      AreMembers ((key, raw) :: members) (front ++ (comma ++ later))

/-- The values under a key as texts, those that are not UTF-8 being none. -/
def textsUnder (key : String) (members : List (String × List UInt8)) :
    List (Option String) :=
  (members.filter fun member => member.1 == key).map fun member =>
    textOfBytes? member.2

/--
The members make up a message: one of them is its condition, and its context is
the value of another one unless that is null or missing.
-/
structure MadeOf (message : Message) (members : List (String × List UInt8)) :
    Prop where
  condition : textsUnder "condition" members = [some message.condition]
  context :
    textsUnder "context" members = [] ∧ message.context = none ∨
      ∃ text, textsUnder "context" members = [some text] ∧
        message.context = presentContext text

/-- The bytes of one message, and the blanks in front of it. -/
inductive IsMessage : Message → List UInt8 → Prop where
  | object {message : Message} {brace front : List UInt8}
      {members : List (String × List UInt8)}
      (opens : IsMark '\x7b' brace) (areMembers : AreMembers members front)
      (madeOf : message.MadeOf members) :
      IsMessage message (brace ++ front)
  | alone {condition : String} {bracket front close : List UInt8}
      (opens : IsMark '[' bracket) (isCondition : IsText condition front)
      (closes : IsMark ']' close) :
      IsMessage ⟨condition, none⟩ (bracket ++ (front ++ close))
  | pair {condition context : String}
      {bracket first comma second close : List UInt8}
      (opens : IsMark '[' bracket) (isCondition : IsText condition first)
      (isComma : IsMark ',' comma) (isContext : IsText context second)
      (closes : IsMark ']' close) :
      IsMessage ⟨condition, presentContext context⟩
        (bracket ++ (first ++ (comma ++ (second ++ close))))

/-! ## Reading texts and keys -/

variable {bytes front rest : List UInt8} {mark : Char} {text key : String}

theorem orNotJson_eq_ok_iff {α : Type} {outcome : Option α} {value : α} :
    orNotJson outcome = .ok value ↔ outcome = some value := by
  cases outcome <;> simp [orNotJson]

theorem readRaw?_eq_some_iff :
    readRaw? bytes = some (text, rest) ↔
      ∃ raw, Json.skim? bytes = some (raw, rest) ∧
        textOfBytes? raw = some text := by
  simp only [readRaw?, Option.bind_eq_bind, Option.bind_eq_some_iff,
    Option.pure_def, Option.some.injEq, Prod.mk.injEq, Prod.exists]
  constructor
  · rintro ⟨raw, _, skimmed, _, spells, rfl, rfl⟩
    exact ⟨raw, skimmed, spells⟩
  · rintro ⟨raw, skimmed, spells⟩
    exact ⟨raw, rest, skimmed, text, spells, rfl, rfl⟩

theorem exists_isText_of_readRaw?
    (read : readRaw? bytes = some (text, rest)) :
    ∃ front, IsText text front ∧ bytes = front ++ rest := by
  rcases readRaw?_eq_some_iff.mp read with ⟨raw, skimmed, spells⟩
  rcases Json.exists_isRaw_of_skim? skimmed with ⟨front, isRaw, rfl⟩
  exact ⟨front, .spelled isRaw spells, rfl⟩

theorem IsText.readRaw?_append
    (isText : IsText text front)
    (stops : StopsAt Numeral.goesOn (rest.map byteMark)) :
    readRaw? (front ++ rest) = some (text, rest) := by
  cases isText with
  | spelled isRaw spells =>
      exact readRaw?_eq_some_iff.mpr ⟨_, isRaw.skim?_append stops, spells⟩

/-- A mark that no value starts with is not found where a value starts. -/
theorem IsText.skipMark?_append
    (isText : IsText text front)
    (closes : Json.Skim.beginValue [] mark = .fault) (rest : List UInt8) :
    skipMark? mark (front ++ rest) = none := by
  cases isText with
  | spelled isRaw spells =>
      cases isRaw with
      | behind blank isValue =>
          rcases isValue.exists_cons with ⟨byte, later, rfl, visible, begins⟩
          rw [skipMark?, List.append_assoc, skipBlankBytes_append blank,
            List.cons_append, skipBlankBytes_cons visible]
          refine if_neg fun isMark => begins ?_
          rw [isMark]
          exact closes

/-! ## Reading members -/

/-- A draft with the value under one more key. -/
def Draft.add? (draft : Draft) (key : String) (raw : List UInt8) :
    Option Draft :=
  match Member.ofKey key with
  | .condition => (textOfBytes? raw).map fun text =>
      { draft with condition := some text }
  | .context => (textOfBytes? raw).map fun text =>
      { draft with context := some (presentContext text) }
  | .other => some draft

/--
What a draft holds and what the members behind it say make up a message
together.
-/
@[mk_iff]
structure Draft.Completes
    (draft : Draft) (members : List (String × List UInt8)) (message : Message) :
    Prop where
  condition :
    draft.condition.toList.map some ++ textsUnder "condition" members =
      [some message.condition]
  context :
    draft.context.toList.map some ++
        (textsUnder "context" members).map (Option.map presentContext) = [] ∧
          message.context = none ∨
      draft.context.toList.map some ++
        (textsUnder "context" members).map (Option.map presentContext) =
          [some message.context]

theorem completes_empty_iff
    {members : List (String × List UInt8)} {message : Message} :
    Draft.Completes ⟨none, none⟩ members message ↔ message.MadeOf members := by
  constructor
  · rintro ⟨condition, context⟩
    refine ⟨condition, ?_⟩
    rcases context with ⟨missing, absent⟩ | one
    · exact Or.inl ⟨List.map_eq_nil_iff.mp missing, absent⟩
    · rcases List.map_eq_singleton_iff.mp one with ⟨given, isOne, present⟩
      rcases Option.map_eq_some_iff.mp present with ⟨text, rfl, isPresent⟩
      exact Or.inr ⟨text, isOne, isPresent.symm⟩
  · rintro ⟨condition, context⟩
    refine ⟨condition, ?_⟩
    rcases context with ⟨missing, absent⟩ | ⟨text, one, present⟩
    · exact Or.inl ⟨by simp [missing], absent⟩
    · exact Or.inr (by simp [one, present])

theorem textsUnder_cons_self
    (raw : List UInt8) (members : List (String × List UInt8)) :
    textsUnder key ((key, raw) :: members) =
      textOfBytes? raw :: textsUnder key members := by
  simp [textsUnder]

theorem textsUnder_cons_of_ne
    {other : String} (differs : other ≠ key) (raw : List UInt8)
    (members : List (String × List UInt8)) :
    textsUnder key ((other, raw) :: members) = textsUnder key members := by
  simp [textsUnder, differs]

theorem completes_nil_iff {draft : Draft} {message : Message} :
    draft.Completes [] message ↔ draft.complete = .ok message := by
  rcases draft with ⟨condition, context⟩
  rcases message with ⟨text, present⟩
  rw [Draft.completes_iff]
  cases condition <;> cases context <;>
    simp [textsUnder, Draft.complete, eq_comm]

/-- A member is a step from a draft to the next. -/
theorem completes_cons_iff
    {draft : Draft} {raw : List UInt8} {members : List (String × List UInt8)}
    {message : Message} :
    draft.Completes ((key, raw) :: members) message ↔
      draft.has (.ofKey key) = false ∧
        ∃ next, draft.add? key raw = some next ∧
          next.Completes members message := by
  rcases draft with ⟨condition, context⟩
  simp only [Draft.completes_iff]
  by_cases isCondition : key = "condition"
  · subst isCondition
    have isMember : Member.ofKey "condition" = .condition := rfl
    rw [textsUnder_cons_self, textsUnder_cons_of_ne (by decide), Draft.add?,
      isMember]
    cases condition <;> cases textOfBytes? raw <;>
      simp [Draft.has]
  · by_cases isContext : key = "context"
    · subst isContext
      have isMember : Member.ofKey "context" = .context := rfl
      rw [textsUnder_cons_self, textsUnder_cons_of_ne (by decide), Draft.add?,
        isMember]
      cases context <;> cases textOfBytes? raw <;>
        simp [Draft.has]
    · have isMember : Member.ofKey key = .other := by
        rw [Member.ofKey, if_neg isCondition, if_neg isContext]
      rw [textsUnder_cons_of_ne isCondition, textsUnder_cons_of_ne isContext,
        Draft.add?, isMember]
      simp [Draft.has]

theorem exists_isText_of_readKey? (read : readKey? bytes = some (key, rest)) :
    ∃ text front, IsText text front ∧ Json.decode? text = some (.string key) ∧
      bytes = front ++ rest := by
  simp only [readKey?, Option.bind_eq_bind, Option.bind_eq_some_iff] at read
  rcases read with ⟨⟨text, later⟩, readText, value, decoded, same⟩
  rcases exists_isText_of_readRaw? readText with ⟨front, isText, rfl⟩
  cases value <;> cases same
  exact ⟨text, front, isText, decoded, rfl⟩

theorem IsText.readKey?_append
    (isText : IsText text front)
    (isKey : Json.decode? text = some (.string key))
    (stops : StopsAt Numeral.goesOn (rest.map byteMark)) :
    readKey? (front ++ rest) = some (key, rest) := by
  simp [readKey?, isText.readRaw?_append stops, isKey]

/-- What is made of a text is made of the value that is skimmed. -/
theorem map_readRaw?_eq_some_iff
    {α : Type} {made : α} (make : String → α) :
    ((readRaw? bytes).map fun (text, rest) => (make text, rest)) =
        some (made, rest) ↔
      ∃ raw, Json.skim? bytes = some (raw, rest) ∧
        (textOfBytes? raw).map make = some made := by
  simp only [Option.map_eq_some_iff, Prod.exists, readRaw?_eq_some_iff,
    Prod.mk.injEq]
  constructor
  · rintro ⟨text, _, ⟨raw, skimmed, spells⟩, rfl, rfl⟩
    exact ⟨raw, skimmed, text, spells, rfl⟩
  · rintro ⟨raw, skimmed, text, spells, rfl⟩
    exact ⟨text, rest, ⟨raw, skimmed, spells⟩, rfl, rfl⟩

theorem readMember?_eq_some_iff {draft next : Draft} :
    readMember? draft (.ofKey key) bytes = some (next, rest) ↔
      ∃ raw, Json.skim? bytes = some (raw, rest) ∧
        draft.add? key raw = some next := by
  unfold readMember? Draft.add?
  cases Member.ofKey key with
  | condition =>
      exact map_readRaw?_eq_some_iff fun text =>
        { draft with condition := some text }
  | context =>
      exact map_readRaw?_eq_some_iff fun text =>
        { draft with context := some (presentContext text) }
  | other =>
      simp only [Option.map_eq_some_iff, Prod.exists, Prod.mk.injEq,
        Option.some.injEq]
      constructor
      · rintro ⟨raw, _, skimmed, rfl, rfl⟩
        exact ⟨raw, skimmed, rfl⟩
      · rintro ⟨raw, skimmed, rfl⟩
        exact ⟨raw, rest, skimmed, rfl, rfl⟩

theorem bind_eq_ok_iff
    {α β : Type} {first : Except MessageFault α}
    {second : α → Except MessageFault β} {result : β} :
    (first >>= second) = .ok result ↔
      ∃ value, first = .ok value ∧ second value = .ok result := by
  cases first with
  | error fault => simp [bind, Except.bind]
  | ok value => simp [bind, Except.bind]

/-- One round of reading members. -/
theorem readMembers_succ_eq_ok_iff
    {draft : Draft} {bound : Nat} {message : Message} :
    readMembers draft (bound + 1) bytes = .ok (message, rest) ↔
      ∃ key behindKey behindColon raw behindValue next,
        readKey? bytes = some (key, behindKey) ∧
        draft.has (.ofKey key) = false ∧
        skipMark? ':' behindKey = some behindColon ∧
        Json.skim? behindColon = some (raw, behindValue) ∧
        draft.add? key raw = some next ∧
        ((∃ behindComma, skipMark? ',' behindValue = some behindComma ∧
            readMembers next bound behindComma = .ok (message, rest)) ∨
          skipMark? ',' behindValue = none ∧
            skipMark? '\x7d' behindValue = some rest ∧
              next.complete = .ok message) := by
  constructor
  · intro read
    simp only [readMembers, bind_eq_ok_iff, orNotJson_eq_ok_iff,
      Prod.exists] at read
    rcases read with ⟨key, behindKey, readKey, read⟩
    split at read
    · cases read
    · rename_i fresh
      simp only [bind_eq_ok_iff, orNotJson_eq_ok_iff, Prod.exists,
        readMember?_eq_some_iff] at read
      rcases read with
        ⟨behindColon, colon, next, behindValue, ⟨raw, skimmed, added⟩, read⟩
      refine ⟨key, behindKey, behindColon, raw, behindValue, next, readKey,
        by simpa using fresh, colon, skimmed, added, ?_⟩
      split at read
      · rename_i behindComma comma
        exact Or.inl ⟨behindComma, comma, read⟩
      · rename_i noComma
        simp only [bind_eq_ok_iff, orNotJson_eq_ok_iff] at read
        rcases read with ⟨later, brace, result, complete, same⟩
        cases same
        exact Or.inr ⟨noComma, brace, complete⟩
  · rintro ⟨key, behindKey, behindColon, raw, behindValue, next, readKey,
      fresh, colon, skimmed, added, ended⟩
    have readMember :
        readMember? draft (.ofKey key) behindColon =
          some (next, behindValue) :=
      readMember?_eq_some_iff.mpr ⟨raw, skimmed, added⟩
    simp only [readMembers, readKey, orNotJson, bind, Except.bind, fresh, colon,
      readMember]
    rw [if_neg Bool.false_ne_true]
    rcases ended with
      ⟨behindComma, comma, later⟩ | ⟨noComma, brace, complete⟩
    · rw [comma]
      exact later
    · rw [noComma, brace, complete]
      rfl

theorem exists_isMember_of_read
    {raw behindKey behindColon : List UInt8}
    (readKey : readKey? bytes = some (key, behindKey))
    (colon : skipMark? ':' behindKey = some behindColon)
    (skimmed : Json.skim? behindColon = some (raw, rest)) :
    ∃ front, IsMember key raw front ∧ bytes = front ++ rest := by
  rcases exists_isText_of_readKey? readKey with
    ⟨text, keyFront, isText, isKey, rfl⟩
  rcases exists_isMark_of_skipMark? colon with
    ⟨colonFront, isColon, rfl⟩
  rcases Json.exists_isRaw_of_skim? skimmed with ⟨valueFront, isRaw, rfl⟩
  exact ⟨_, .pair isText isKey isColon isRaw, by simp⟩

theorem IsMember.exists_read
    {raw : List UInt8} (isMember : IsMember key raw front)
    (stops : StopsAt Numeral.goesOn (rest.map byteMark)) :
    ∃ behindKey behindColon, readKey? (front ++ rest) = some (key, behindKey) ∧
      skipMark? ':' behindKey = some behindColon ∧
        Json.skim? behindColon = some (raw, rest) := by
  cases isMember with
  | pair isText isKey isColon isRaw =>
      refine ⟨_, _, ?_, isColon.skipMark?_append (by decide) _,
        isRaw.skim?_append stops⟩
      rw [List.append_assoc, List.append_assoc]
      exact isText.readKey?_append isKey (isColon.stopsAt (by decide) _)

/-- Every member takes up bytes. -/
theorem AreMembers.length_le
    {members : List (String × List UInt8)}
    (areMembers : AreMembers members front) :
    members.length ≤ front.length := by
  induction areMembers with
  | last isMember closes =>
      have one := closes.length_pos
      simp only [List.length_singleton, List.length_append]
      omega
  | more isMember isComma areMembers ih =>
      have one := isComma.length_pos
      simp only [List.length_cons, List.length_append]
      omega

/-- What is read are members that go with the draft. -/
theorem exists_areMembers_of_readMembers
    {draft : Draft} {bound : Nat} {message : Message}
    (read : readMembers draft bound bytes = .ok (message, rest)) :
    ∃ members front, AreMembers members front ∧ bytes = front ++ rest ∧
      draft.Completes members message := by
  induction bound generalizing draft bytes with
  | zero => cases read
  | succ bound ih =>
      rcases readMembers_succ_eq_ok_iff.mp read with
        ⟨key, behindKey, behindColon, raw, behindValue, next, readKey, fresh,
          colon, skimmed, added, ended⟩
      rcases exists_isMember_of_read readKey colon skimmed with
        ⟨front, isMember, rfl⟩
      rcases ended with
        ⟨behindComma, comma, later⟩ | ⟨noComma, brace, complete⟩
      · rcases exists_isMark_of_skipMark? comma with
          ⟨commaFront, isComma, rfl⟩
        rcases ih later with ⟨members, others, areMembers, rfl, completes⟩
        exact ⟨_, _, .more isMember isComma areMembers, by simp,
          completes_cons_iff.mpr ⟨fresh, next, added, completes⟩⟩
      · rcases exists_isMark_of_skipMark? brace with
          ⟨braceFront, closes, rfl⟩
        have completes := completes_nil_iff.mpr complete
        exact ⟨_, _, .last isMember closes, by simp,
          completes_cons_iff.mpr ⟨fresh, next, added, completes⟩⟩

/-- Members that go with the draft are read, whatever follows them. -/
theorem AreMembers.readMembers_append
    {draft : Draft} {bound : Nat} {message : Message}
    {members : List (String × List UInt8)}
    (areMembers : AreMembers members front) (enough : members.length ≤ bound)
    (completes : draft.Completes members message) (rest : List UInt8) :
    readMembers draft bound (front ++ rest) = .ok (message, rest) := by
  induction areMembers generalizing draft bound with
  | last isMember closes =>
      rename_i key raw front close
      rcases Nat.exists_eq_add_of_lt enough with ⟨fewer, rfl⟩
      rcases completes_cons_iff.mp completes with
        ⟨fresh, next, added, completes⟩
      have stops := closes.stopsAt (by decide) rest
      rcases isMember.exists_read stops with
        ⟨behindKey, behindColon, readKey, colon, skimmed⟩
      rw [List.append_assoc]
      refine readMembers_succ_eq_ok_iff.mpr ⟨key, behindKey, behindColon, raw,
        _, next, readKey, fresh, colon, skimmed, added, Or.inr ⟨?_, ?_, ?_⟩⟩
      · exact closes.skipMark?_of_ne (by decide) (by decide) rest
      · exact closes.skipMark?_append (by decide) rest
      · exact completes_nil_iff.mp completes
  | more isMember isComma areMembers ih =>
      rename_i key raw front comma later members
      rcases Nat.exists_eq_add_of_lt enough with ⟨fewer, rfl⟩
      rcases completes_cons_iff.mp completes with
        ⟨fresh, next, added, completes⟩
      have stops := isComma.stopsAt (by decide) (later ++ rest)
      rcases isMember.exists_read stops with
        ⟨behindKey, behindColon, readKey, colon, skimmed⟩
      rw [List.append_assoc, List.append_assoc]
      refine readMembers_succ_eq_ok_iff.mpr ⟨key, behindKey, behindColon, raw,
        _, next, readKey, fresh, colon, skimmed, added,
        Or.inl ⟨later ++ rest, ?_, ?_⟩⟩
      · exact isComma.skipMark?_append (by decide) (later ++ rest)
      · exact ih (Nat.le_of_succ_le_succ enough) completes

/-! ## Reading messages -/

/-- An object starts with a key, which no closing brace is taken for. -/
theorem AreMembers.skipMark?_brace
    {members : List (String × List UInt8)}
    (areMembers : AreMembers members front) (rest : List UInt8) :
    skipMark? '\x7d' (front ++ rest) = none := by
  have atMember
      {key : String} {raw front : List UInt8}
      (isMember : IsMember key raw front)
      (rest : List UInt8) :
      skipMark? '\x7d' (front ++ rest) = none := by
    cases isMember with
    | pair isText isKey isColon isRaw =>
        rw [List.append_assoc]
        exact isText.skipMark?_append rfl _
  cases areMembers with
  | last isMember closes =>
      rw [List.append_assoc]
      exact atMember isMember _
  | more isMember isComma areMembers =>
      rw [List.append_assoc]
      exact atMember isMember _

theorem readObject_eq_ok_iff {message : Message} :
    readObject bytes = .ok (message, rest) ↔
      ∃ members front, AreMembers members front ∧ message.MadeOf members ∧
        bytes = front ++ rest := by
  constructor
  · intro read
    unfold readObject at read
    split at read
    · cases read
    · rcases exists_areMembers_of_readMembers read with
        ⟨members, front, areMembers, split, completes⟩
      exact ⟨members, front, areMembers, completes_empty_iff.mp completes,
        split⟩
  · rintro ⟨members, front, areMembers, madeOf, rfl⟩
    rw [readObject, areMembers.skipMark?_brace rest]
    refine areMembers.readMembers_append ?_ (completes_empty_iff.mpr madeOf)
      rest
    rw [List.length_append]
    exact Nat.le_add_right_of_le areMembers.length_le

theorem exists_isMessage_of_readArray
    {message : Message} {bracket : List UInt8} (opens : IsMark '[' bracket)
    (read : readArray bytes = .ok (message, rest)) :
    ∃ front, IsMessage message (bracket ++ front) ∧ bytes = front ++ rest := by
  unfold readArray at read
  split at read
  · cases read
  · simp only [bind_eq_ok_iff, orNotJson_eq_ok_iff, Prod.exists] at read
    rcases read with ⟨condition, behindCondition, readCondition, read⟩
    rcases exists_isText_of_readRaw? readCondition with
      ⟨first, isCondition, rfl⟩
    split at read
    · simp only [bind_eq_ok_iff, orNotJson_eq_ok_iff] at read
      rcases read with ⟨later, closed, same⟩
      rcases exists_isMark_of_skipMark? closed with
        ⟨close, closes, rfl⟩
      cases same
      exact ⟨_, .alone opens isCondition closes, by simp⟩
    · rename_i behindComma comma
      rcases exists_isMark_of_skipMark? comma with
        ⟨commaFront, isComma, rfl⟩
      simp only [bind_eq_ok_iff, orNotJson_eq_ok_iff, Prod.exists] at read
      rcases read with
        ⟨context, behindContext, readContext, later, closed, same⟩
      rcases exists_isText_of_readRaw? readContext with ⟨second, isContext, rfl⟩
      rcases exists_isMark_of_skipMark? closed with
        ⟨close, closes, rfl⟩
      cases same
      exact ⟨_, .pair opens isCondition isComma isContext closes, by simp⟩

theorem readArray_alone
    {condition : String} {close : List UInt8}
    (isCondition : IsText condition front) (closes : IsMark ']' close)
    (rest : List UInt8) :
    readArray (front ++ (close ++ rest)) = .ok (⟨condition, none⟩, rest) := by
  have read := isCondition.readRaw?_append (closes.stopsAt (by decide) rest)
  have noComma : skipMark? ',' (close ++ rest) = none :=
    closes.skipMark?_of_ne (by decide) (by decide) rest
  have closed := closes.skipMark?_append (by decide) rest
  rw [readArray, isCondition.skipMark?_append rfl]
  simp only [read, noComma, closed, orNotJson, bind, Except.bind]
  rfl

theorem readArray_pair
    {condition context : String} {first comma second close : List UInt8}
    (isCondition : IsText condition first) (isComma : IsMark ',' comma)
    (isContext : IsText context second) (closes : IsMark ']' close)
    (rest : List UInt8) :
    readArray (first ++ (comma ++ (second ++ (close ++ rest)))) =
      .ok (⟨condition, presentContext context⟩, rest) := by
  have readFirst := isCondition.readRaw?_append
    (isComma.stopsAt (by decide) (second ++ (close ++ rest)))
  have separated := isComma.skipMark?_append (by decide)
    (second ++ (close ++ rest))
  have readSecond := isContext.readRaw?_append
    (closes.stopsAt (by decide) rest)
  have closed := closes.skipMark?_append (by decide) rest
  rw [readArray, isCondition.skipMark?_append rfl]
  simp only [readFirst, separated, readSecond, closed, orNotJson, bind,
    Except.bind]
  rfl

/-- Reading takes exactly the messages that bytes start with. -/
theorem read_eq_ok_iff {message : Message} :
    read bytes = .ok (message, rest) ↔
      ∃ front, IsMessage message front ∧ bytes = front ++ rest := by
  constructor
  · intro isRead
    unfold read at isRead
    split at isRead
    · rename_i behindBrace brace
      rcases exists_isMark_of_skipMark? brace with
        ⟨braceFront, opens, rfl⟩
      rcases readObject_eq_ok_iff.mp isRead with
        ⟨members, front, areMembers, madeOf, rfl⟩
      exact ⟨_, .object opens areMembers madeOf, by simp⟩
    · split at isRead
      · rename_i behindBracket bracket
        rcases exists_isMark_of_skipMark? bracket with
          ⟨bracketFront, opens, rfl⟩
        rcases exists_isMessage_of_readArray opens isRead with
          ⟨front, isMessage, rfl⟩
        exact ⟨_, isMessage, by simp⟩
      · cases isRead
  · rintro ⟨front, isMessage, rfl⟩
    unfold read
    cases isMessage with
    | object opens areMembers madeOf =>
        rw [List.append_assoc, opens.skipMark?_append (by decide)]
        exact readObject_eq_ok_iff.mpr ⟨_, _, areMembers, madeOf, rfl⟩
    | alone opens isCondition closes =>
        simp only [List.append_assoc]
        rw [opens.skipMark?_of_ne (by decide) (by decide),
          opens.skipMark?_append (by decide)]
        exact readArray_alone isCondition closes rest
    | pair opens isCondition isComma isContext closes =>
        simp only [List.append_assoc]
        rw [opens.skipMark?_of_ne (by decide) (by decide),
          opens.skipMark?_append (by decide)]
        exact readArray_pair isCondition isComma isContext closes rest

/-- A message is read whatever follows it. -/
theorem IsMessage.read_append
    {message : Message} (isMessage : IsMessage message front)
    (rest : List UInt8) :
    read (front ++ rest) = .ok (message, rest) :=
  read_eq_ok_iff.mpr ⟨front, isMessage, rfl⟩

/-- No bytes start with two messages. -/
theorem IsMessage.append_inj
    {message other : Message} {otherFront otherRest : List UInt8}
    (isMessage : IsMessage message front) (isOther : IsMessage other otherFront)
    (same : front ++ rest = otherFront ++ otherRest) :
    message = other ∧ front = otherFront ∧ rest = otherRest := by
  have isRead := isMessage.read_append rest
  rw [same, isOther.read_append otherRest] at isRead
  simp only [Except.ok.injEq, Prod.mk.injEq] at isRead
  rcases isRead with ⟨rfl, rfl⟩
  exact ⟨rfl, List.append_cancel_right same, rfl⟩

end Message

end Criteria
