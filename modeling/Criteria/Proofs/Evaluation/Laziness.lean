import Criteria.Proofs.Evaluation.Reach

/-!
# Lazy decoding cannot be seen

A context given as text is decoded when its value is first needed.  Whatever is
done with it, in whatever order, comes out as if nothing had been done before,
and as if the value of the text had been given in its place; so when decoding
happens is of no consequence.  Only `isDecoded` tells, and it tells exactly
whether the value was needed and could be had.
-/

namespace Criteria.Context

/-- A context of which nothing is decoded yet. -/
def fresh (source : ContextSource) : Context :=
  ⟨source, none⟩

/-- What can be done with a context. -/
inductive Operation where
  /-- Asks for the value of the context. -/
  | resolve
  /-- Looks a path up. -/
  | lookup (path : List Json)
  /-- Evaluates a condition that calls built-in functions only. -/
  | evaluate (evaluator : Evaluator) (root : Node)
      (calls : root.CallsBuiltins evaluator.registry)

namespace Operation

/--
The outcome of an operation, with nothing for a path that leads nowhere, and the
context afterwards.
-/
def perform (context : Context) :
    Operation → Except ConditionError (Option Json) × Context
  | .resolve => (context.resolve.1.map some, context.resolve.2)
  | .lookup path => context.lookup path
  | .evaluate evaluator root _ =>
      ((evaluator.run context root).1.map some,
        (evaluator.run context root).2.context)

/-- An operation gets as far as needing the value of a context. -/
def Resolves (context : Context) : Operation → Prop
  | .resolve => True
  | .lookup _ => True
  | .evaluate evaluator root _ =>
      evaluator.Consults context ⟨evaluator.maxDepth, root⟩

end Operation

/--
The outcomes of operations one after the other, and the context at the end.
-/
def performAll (context : Context) :
    List Operation → List (Except ConditionError (Option Json)) × Context
  | [] => ([], context)
  | operation :: operations =>
      let (outcome, after) := operation.perform context
      let (outcomes, final) := performAll after operations
      (outcome :: outcomes, final)

theorem performAll_append
    (context : Context) (operations more : List Operation) :
    (performAll context (operations ++ more)).2 =
      (performAll (performAll context operations).2 more).2 := by
  induction operations generalizing context with
  | nil => rfl
  | cons operation operations ih => exact ih _

/--
An operation comes out the same for all contexts that resolve to the same, and
it resolves the context exactly if it gets as far as that.
-/
theorem Operation.perform_eq
    (operation : Operation) {context start : Context}
    (same : context.resolve.1 = start.resolve.1) :
    (operation.perform context).1 = (operation.perform start).1 ∧
      ResolvedIf (operation.Resolves start) context
        (operation.perform context).2 := by
  cases operation with
  | resolve =>
      refine ⟨congrArg (Except.map some) same, fun _ => rfl, ?_⟩
      exact fun unread => absurd trivial unread
  | lookup path =>
      have first := Evaluation.yields_lookupContext path ⟨context, []⟩ same
      have second := Evaluation.yields_lookupContext path ⟨start, []⟩ rfl
      exact ⟨first.1.trans second.1.symm, first.2⟩
  | evaluate evaluator root calls =>
      have yields := Evaluator.yields_evaluateWithin start calls
        evaluator.maxDepth ⟨context, []⟩ same
      exact ⟨congrArg (Except.map some) yields.1, yields.2⟩

/-- What holds of one operation holds of a run of them. -/
theorem performAll_eq
    (context start : Context) (operations : List Operation)
    (same : context.resolve.1 = start.resolve.1) :
    (performAll context operations).1 =
        operations.map (fun operation => (operation.perform start).1) ∧
      ResolvedIf (∃ operation ∈ operations, operation.Resolves start) context
        (performAll context operations).2 := by
  induction operations generalizing context with
  | nil =>
      refine ⟨rfl, ?_, fun _ => rfl⟩
      rintro ⟨_, ⟨⟩, _⟩
  | cons operation operations ih =>
      rcases operation.perform_eq same with ⟨outcome, reads⟩
      rcases ih _ (reads.resolve_eq.trans same) with ⟨outcomes, later⟩
      refine ⟨?_, (reads.trans later).congr ?_⟩
      · exact congrArg₂ List.cons outcome outcomes
      · simp only [List.mem_cons, exists_eq_or_imp]

/-- The memory of a context is kept through a run. -/
theorem isDecoded_performAll
    (operations : List Operation) {context : Context}
    (decoded : context.isDecoded = true) :
    (performAll context operations).2.isDecoded = true := by
  have reads := (performAll_eq context context operations rfl).2
  by_cases read : ∃ operation ∈ operations, operation.Resolves context
  · rw [reads.1 read]
    exact isDecoded_resolve decoded
  · rw [reads.2 read]
    exact decoded

/-- A text is decoded by the first operation that needs its value. -/
theorem isDecoded_performAll_raw
    (text : String) (operations : List Operation) :
    (performAll (raw text) operations).2.isDecoded = true ↔
      isBlankText text.toList = false ∧
        (Json.decode? text).isSome = true ∧
          ∃ operation ∈ operations, operation.Resolves (raw text) := by
  have reads := (performAll_eq (raw text) (raw text) operations rfl).2
  by_cases read : ∃ operation ∈ operations, operation.Resolves (raw text)
  · rw [reads.1 read, isDecoded_resolve_raw]
    simp only [read, and_true]
  · rw [reads.2 read]
    constructor
    · rintro ⟨⟩
    · exact fun ⟨_, _, needed⟩ => absurd needed read

/-- An operation that needs the value of a context fails if there is none. -/
theorem Operation.perform_eq_error
    {operation : Operation} {context : Context}
    (resolves : operation.Resolves context) {error : ConditionError}
    (unresolved : context.resolve.1 = .error error) :
    ∃ outer, (operation.perform context).1 = .error outer ∧
      outer.rootCause = error.rootCause := by
  cases operation with
  | resolve => exact ⟨error, by rw [perform, unresolved]; rfl, rfl⟩
  | lookup path =>
      have found := (Evaluation.yields_lookupContext path ⟨context, []⟩ rfl).1
      rw [unresolved] at found
      exact ⟨error, found, rfl⟩
  | evaluate evaluator root calls =>
      rcases resolves with ⟨path, looksUp⟩
      rcases looksUp.outcome_eq_error calls unresolved with
        ⟨outer, failed, same⟩
      exact ⟨outer, congrArg (Except.map some) failed, same⟩

/--
Lazy decoding cannot be seen: every operation of a run comes out as on a fresh
context, a text that decodes does as its value, and a blank text or no data at
all does as null.  Once decoded a context stays so; a text is decoded exactly if
it is not blank, decodes, and was needed; and a text that does not decode makes
every operation fail that needs it, however often.
-/
theorem lazy_decoding_is_invisible
    (source : ContextSource) (operations : List Operation) :
    (performAll (fresh source) operations).1 =
        operations.map (fun operation =>
          (operation.perform (fresh source)).1) ∧
      (∀ text value, source = .raw text → Json.decode? text = some value →
        (performAll (fresh source) operations).1 =
          (performAll (ofValue value) operations).1) ∧
      ((source = .empty ∨
          ∃ text, source = .raw text ∧ isBlankText text.toList = true) →
        (performAll (fresh source) operations).1 =
          (performAll (ofValue .null) operations).1) ∧
      (∀ more, (performAll (fresh source) operations).2.isDecoded = true →
        (performAll (fresh source) (operations ++ more)).2.isDecoded = true) ∧
      (∀ text, source = .raw text →
        ((performAll (fresh source) operations).2.isDecoded = true ↔
          isBlankText text.toList = false ∧
            (Json.decode? text).isSome = true ∧
              ∃ operation ∈ operations, operation.Resolves (fresh source))) ∧
      ∀ text, source = .raw text → isBlankText text.toList = false →
        Json.decode? text = none →
          (performAll (fresh source) operations).2.isDecoded = false ∧
            ∀ operation : Operation, operation.Resolves (fresh source) →
              ∃ error,
                (operation.perform
                  (performAll (fresh source) operations).2).1 =
                    .error error ∧
                  error.rootCause = .invalidContext := by
  have asValue : ∀ value, (fresh source).resolve.1 = .ok value →
      (performAll (fresh source) operations).1 =
        (performAll (ofValue value) operations).1 := by
    intro value resolves
    have first := performAll_eq _ (ofValue value) operations resolves
    have second := performAll_eq (ofValue value) _ operations rfl
    exact first.1.trans second.1.symm
  refine ⟨(performAll_eq _ _ operations rfl).1, ?_, ?_, ?_, ?_, ?_⟩
  · rintro text value rfl decodes
    exact asValue value (resolve_raw_of_decode? decodes)
  · rintro (rfl | ⟨text, rfl, blank⟩)
    · exact asValue .null rfl
    · exact asValue .null (resolve_raw_of_isBlankText blank)
  · intro more decoded
    rw [performAll_append]
    exact isDecoded_performAll more decoded
  · rintro text rfl
    exact isDecoded_performAll_raw text operations
  · rintro text rfl filled fails
    have unresolved := resolve_raw_of_not_decode? filled fails
    constructor
    · refine Bool.eq_false_iff.mpr fun decoded => ?_
      rcases (isDecoded_performAll_raw text operations).mp decoded with
        ⟨_, decodes, _⟩
      rw [fails] at decodes
      cases decodes
    · intro operation resolves
      have reads := (performAll_eq (raw text) (raw text) operations rfl).2
      rcases operation.perform_eq_error resolves unresolved with
        ⟨error, failed, cause⟩
      refine ⟨error, ?_, cause⟩
      exact (operation.perform_eq reads.resolve_eq).1.trans failed

/-- An opening brace alone is not decoded, however often it is tried. -/
theorem lazy_decoding_is_invisible_brace :
    isBlankText "\x7b".toList = false ∧ Json.decode? "\x7b" = none ∧
      (performAll (raw "\x7b") [.resolve, .lookup []]).2.isDecoded = false ∧
      ∃ error,
        (Operation.resolve.perform
          (performAll (raw "\x7b") [.resolve, .lookup []]).2).1 =
            .error error ∧
          error.rootCause = .invalidContext := by
  have filled : isBlankText "\x7b".toList = false := by decide
  have fails : Json.decode? "\x7b" = none := by decide
  have invisible :=
    lazy_decoding_is_invisible (.raw "\x7b") [.resolve, .lookup []]
  rcases invisible.2.2.2.2.2 "\x7b" rfl filled fails with ⟨undecoded, again⟩
  exact ⟨filled, fails, undecoded, again .resolve trivial⟩

end Criteria.Context
