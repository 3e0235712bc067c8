import DomainValues.Adapter
import DomainValues.Code.Evaluation
import Mathlib.Data.List.Basic

/-!
# Bodies of generated code

What the body of each printed function comes to, given what the functions answer that it calls.
A caller is never run through its callees: a body is run once, with `call` for whatever is called,
and the answer of `call` is a hypothesis.

The functions that make and read values come first, those of one kind after those of another, with
one proof for both sorts of numbers.  The texts, the scalars and the documents of values follow,
and the order of reals.
-/

namespace DomainValues

open Code Implementation

attribute [local simp] Function.answer? Function.frame? Function.returned Block.eval
  Statement.evalAll Expr.eval Expr.evalAll Expr.functions Expr.apply Frame.path Frame.invoke
  Frame.enter Literal.datum? combinators combine Library.core Library.runtime Library.check
  Library.uuid Library.decodeError Library.scalar Library.method Library.textMethod
  Library.realMethod Library.scalarMethod Library.sinkMethod Library.infixed Library.custom
  TypeExpr.lastName Datum.ofOption Datum.ofExcept Datum.ofParsed Datum.ofCheck

attribute [local simp] fn Function.exported Function.documented Function.shared Function.wide
  Function.withParameter Block.ofExpr Ident.plain var wrap own success on textOf coreItem
  runtimeItem selfItem generatedItem generatedType core primitive string runtimeType selfType
  associated Code.result Code.option Target.helper Target.nameText Target.malformed
  Target.fromViolation Target.checked Target.provided Target.type

variable {call : Calls} {type : Ident} {t : Target}

/-! ## Identifiers -/

theorem answer?_identifierParse (text : String) :
    (identifierParse t).answer? call type [.text text] =
      some (.ofOption (fun id => .wrapped type (.uuid id)) (Uuid.read? text)) := by
  cases read : Uuid.read? text <;> simp [identifierParse, ofUuid, read]

theorem answer?_identifierRead {text : String} {α : Type} {value : α → Datum} {parsed : Option α}
    (parse : call ⟨type, none, "try_parse"⟩ [.text text] = some (.ofOption value parsed)) :
    (Target.reading (identifierRead t)).answer? call type [.text text] =
      some (.ofExcept .decodeError value
        (parsed.elim (.error (.malformed t.declaration.name.bare text)) .ok)) := by
  cases parsed <;> simp [Target.reading, identifierRead, parse]

/-! ## Texts -/

theorem answer?_textValidate (min max : UInt64) (pattern : Option String) (text : String) :
    (textValidate t min max pattern).answer? call type [.text text] =
      some (.ofCheck (Params.validateText t.declaration.name.bare min max pattern text)) := by
  cases long : Constraint.length t.declaration.name.bare text min max with
  | error v => simp [textValidate, Params.validateText, long, bind, Except.bind]
  | ok _ =>
      cases pattern with
      | none =>
          simp [textValidate, patternCheck, Params.validateText, long, bind, Except.bind, pure,
            Except.pure]
      | some source =>
          cases matched : Params.matchPattern t.declaration.name.bare source text <;>
            simp [textValidate, patternCheck, Params.validateText, long, matched, bind,
              Except.bind]

section Text

variable {text : String} {valid : Except ConstraintViolation Unit}
  (validate : call ⟨type, none, "validate"⟩ [.text text] = some (.ofCheck valid))
include validate

theorem answer?_textNew : (textNew t).answer? call type [.text text] =
    some (.ofExcept .violation (fun _ => .wrapped type (.text text)) valid) := by
  cases valid <;> simp [textNew, validated, validate]

theorem answer?_textParse : textParse.answer? call type [.text text] =
    some (.ofOption (fun _ => .wrapped type (.text text)) valid.toOption) := by
  cases valid <;> simp [textParse, validated, validate, Except.toOption]

end Text

theorem answer?_textRead {text : String} {α : Type} {value : α → Datum}
    {made : Except ConstraintViolation α}
    (new : call ⟨type, none, "new"⟩ [.text text] = some (.ofExcept .violation value made)) :
    (Target.reading (textRead t)).answer? call type [.text text] =
      some (.ofExcept .decodeError value (made.mapError .violation)) := by
  cases made <;> simp [Target.reading, textRead, new, Except.mapError]

/-! ## Numbers -/

theorem answer?_integerNew (min max i : Int32) :
    ((NumberForm.integer min max).new t).answer? call type [.int32 i] =
      some (.ofExcept .violation (fun _ => .wrapped type (.int32 i))
        (Constraint.integer t.declaration.name.bare i min max)) := by
  cases within : Constraint.integer t.declaration.name.bare i min max <;>
    simp [NumberForm.integer, NumberForm.new, within]

theorem answer?_realNew (min max x : Binary64) :
    ((NumberForm.real min max).new t).answer? call type [.real x] =
      some (.ofExcept .violation (fun _ => .wrapped type (.real x.withoutNegativeZero))
        (Constraint.real t.declaration.name.bare x min max)) := by
  have zero : Binary64.read? ['0', '.', '0'] = some .zero := by decide +kernel
  cases within : Constraint.real t.declaration.name.bare x min max <;>
    simp [NumberForm.real, NumberForm.new, within, zero]

section Number

variable (form : NumberForm) {text : String} {α β : Type} {datum : α → Datum}
  {value : β → Datum} {read : Option α} {made : α → Except ConstraintViolation β}
  (parsed : Library.parse form.wrapped.name (String.ofList (Text.trim text.toList)) =
    some (.ofParsed datum read))
  (new : ∀ x, call ⟨type, none, "new"⟩ [datum x] = some (.ofExcept .violation value (made x)))
include parsed new

theorem answer?_numberParse : form.parse.answer? call type [.text text] =
    some (.ofOption value (read.bind fun x => (made x).toOption)) := by
  cases read with
  | none => simp [NumberForm.parse, NumberForm.parsed, parsed]
  | some x =>
      cases built : made x <;>
        simp [NumberForm.parse, NumberForm.parsed, parsed, new, built, Except.toOption]

theorem answer?_numberRead : (Target.reading (form.read t)).answer? call type [.text text] =
    some (.ofExcept .decodeError value
      (read.elim (.error (.malformed t.declaration.name.bare text)) fun x =>
        (made x).mapError .violation)) := by
  cases read with
  | none => simp [Target.reading, NumberForm.read, NumberForm.parsed, parsed]
  | some x =>
      cases built : made x <;>
        simp [Target.reading, NumberForm.read, NumberForm.parsed, parsed, new, built,
          Except.mapError]

end Number

/-! ## Showing values -/

theorem answer?_showing_identifier (id : Uuid) :
    (Target.showing (.borrow (on own "hyphenated" []))).answer? call type
      [.wrapped type (.uuid id), .sink] = some (.ok (.text id.text)) := by
  simp [Target.showing, Datum.shown?]

theorem answer?_showing_text (text : String) :
    (Target.showing (on own "as_str" [])).answer? call type
      [.wrapped type (.text text), .sink] = some (.ok (.text text)) := by
  simp [Target.showing, Datum.shown?]

theorem answer?_showing_number {number : Datum} {written : String}
    (shown : number.shown? = some written) :
    (Target.showing (.borrow own)).answer? call type [.wrapped type number, .sink] =
      some (.ok (.text written)) := by
  simp [Target.showing, shown]

/-! ## What the runtime and conversions call -/

theorem answer?_wrapping_new (primitive : Datum) :
    (t.wrapping (Expr.call (selfItem "new") [var "value"])).answer? call type [primitive] =
      call ⟨type, none, "new"⟩ [primitive] := by
  cases answer : call ⟨type, none, "new"⟩ [primitive] <;>
    simp [Target.wrapping, answer, Outcome.ofOption]

theorem answer?_wrapping_success (primitive : Datum) :
    (t.wrapping (success (wrap (var "value")))).answer? call type [primitive] =
      some (.ok (.wrapped type primitive)) := by
  simp [Target.wrapping]

theorem answer?_converting (primitive : TypeExpr) (value : Datum) :
    (Target.converting primitive).answer? call type [value] =
      call ⟨type, none, "new"⟩ [value] := by
  cases answer : call ⟨type, none, "new"⟩ [value] <;>
    simp [Target.converting, answer, Outcome.ofOption]

theorem answer?_unwrapping_own (primitive : Datum) :
    (Target.unwrapping own).answer? call type [.wrapped type primitive] = some primitive := by
  simp [Target.unwrapping]

theorem answer?_unwrapping_clone (primitive : Datum) :
    (Target.unwrapping (.call (coreItem ["clone", "Clone", "clone"]) [.borrow own])).answer? call
      type [.wrapped type primitive] = some primitive := by
  simp [Target.unwrapping]

theorem answer?_reparsing (text : Datum) :
    t.reparsing.answer? call type [text] = call ⟨t.name, none, "try_parse"⟩ [text] := by
  cases answer : call ⟨t.name, none, "try_parse"⟩ [text] <;>
    simp [Target.reparsing, answer, Outcome.ofOption]

/-! ## Scalars and documents -/

/-- The kind is exchanged as a text. -/
abbrev Kind.Textual (kind : Kind) : Prop := kind = .identifier ∨ kind = .boundedText

theorem textOf?_of_display {primitive : Datum} {written : String}
    (display : call ⟨type, some "Display", "fmt"⟩ [.wrapped type primitive, .sink] =
      some (.ok (.text written))) :
    Library.textOf? call (.wrapped type primitive) = some written := by
  rw [Library.textOf?, display]

section Adapter

variable {adapter value : Datum} {written : String} {α β : Type} {datum : α → Datum}
  {wrapped : β → Datum} {kind : Kind}

theorem answer?_encoding_text (textual : kind.Textual)
    (shown : Library.textOf? call value = some written) :
    (t.encoding kind).answer? call type [adapter, value] = some (.scalar (.text written)) := by
  rcases textual with rfl | rfl <;> simp [Target.encoding, Target.encode, shown]

theorem answer?_encoding_integer (i : Int32) :
    (t.encoding .boundedInteger).answer? call type [adapter, .wrapped t.name (.int32 i)] =
      some (.scalar (.integer (Int64.ofInt i.toInt))) := by
  simp [Target.encoding, Target.encode]

theorem answer?_encoding_real (x : Binary64) :
    (t.encoding .boundedReal).answer? call type [adapter, .wrapped t.name (.real x)] =
      some (.scalar (.real x)) := by
  simp [Target.encoding, Target.encode]

theorem answer?_decoding_text (textual : kind.Textual) {read : String → Except DecodeError β}
    (fromStr : ∀ s, call ⟨t.name, some "FromStr", "from_str"⟩ [.text s] =
      some (.ofExcept .decodeError wrapped (read s))) (s : Scalar) :
    (t.decoding kind).answer? call type [adapter, .scalar s] =
      some (.ofExcept .decodeError wrapped
        ((s.requireText t.declaration.name.bare).bind read)) := by
  cases has : s.requireText t.declaration.name.bare with
  | error e =>
      rcases textual with rfl | rfl <;> simp [Target.decoding, Target.decode, has, Except.bind]
  | ok text =>
      cases result : read text <;> rcases textual with rfl | rfl <;>
        simp [Target.decoding, Target.decode, Target.readText, has, Except.bind, fromStr, result]

theorem answer?_decoding_integer {min max : Int32} {made : Int32 → Except ConstraintViolation β}
    (least : call ⟨t.name, none, "MIN"⟩ [] = some (.int32 min))
    (greatest : call ⟨t.name, none, "MAX"⟩ [] = some (.int32 max))
    (new : ∀ i, call ⟨t.name, none, "new"⟩ [.int32 i] =
      some (.ofExcept .violation wrapped (made i))) (s : Scalar) :
    (t.decoding .boundedInteger).answer? call type [adapter, .scalar s] =
      some (.ofExcept .decodeError wrapped
        ((s.requireInteger t.declaration.name.bare).bind fun i =>
          ((Constraint.narrowInteger t.declaration.name.bare i min max).mapError
            .violation).bind fun i => (made i).mapError .violation)) := by
  cases has : s.requireInteger t.declaration.name.bare with
  | error e => simp [Target.decoding, Target.decode, has, Except.bind]
  | ok wide =>
      cases narrow : Constraint.narrowInteger t.declaration.name.bare wide min max with
      | error v =>
          simp [Target.decoding, Target.decode, has, least, greatest, narrow, Except.bind,
            Except.mapError]
      | ok i =>
          cases built : made i <;>
            simp [Target.decoding, Target.decode, has, least, greatest, narrow, new, built,
              Except.bind, Except.mapError]

theorem answer?_decoding_real {made : Binary64 → Except ConstraintViolation β}
    (new : ∀ x, call ⟨t.name, none, "new"⟩ [.real x] =
      some (.ofExcept .violation wrapped (made x))) (s : Scalar) :
    (t.decoding .boundedReal).answer? call type [adapter, .scalar s] =
      some (.ofExcept .decodeError wrapped
        ((s.requireReal t.declaration.name.bare).bind fun x => (made x).mapError .violation)) := by
  cases has : s.requireReal t.declaration.name.bare with
  | error e => simp [Target.decoding, Target.decode, has, Except.bind]
  | ok x =>
      cases built : made x <;>
        simp [Target.decoding, Target.decode, has, new, built, Except.bind, Except.mapError]

theorem answer?_writing_identifier (shown : Library.textOf? call value = some written) :
    (t.writing .identifier).answer? call type [value, .sink] =
      some (.ok (.document (.string written))) := by
  simp [Target.writing, Target.serialize, shown]

theorem answer?_writing_text (text : String) :
    (t.writing .boundedText).answer? call type [.wrapped t.name (.text text), .sink] =
      some (.ok (.document (.string text))) := by
  simp [Target.writing, Target.serialize]

theorem answer?_writing_integer (i : Int32) :
    (t.writing .boundedInteger).answer? call type [.wrapped t.name (.int32 i), .sink] =
      some (.ok (.document (.integer i.toInt))) := by
  simp [Target.writing, Target.serialize]

theorem answer?_writing_real (x : Binary64) :
    (t.writing .boundedReal).answer? call type [.wrapped t.name (.real x), .sink] =
      some (.ok (.document (if x.isFinite then .real x else .null))) := by
  simp [Target.writing, Target.serialize]

theorem answer?_restoring_identifier {read : String → Except DecodeError β}
    (fromStr : ∀ s, call ⟨t.name, some "FromStr", "from_str"⟩ [.text s] =
      some (.ofExcept .decodeError wrapped (read s))) (document : Json) :
    (t.restoring .identifier).answer? call type [.document document] =
      some (.ofExcept .readError wrapped
        (document.readText.bind fun text => (read text).mapError .refused)) := by
  cases has : document.readText with
  | error e => simp [Target.restoring, Target.serialized, Library.deserialize, has, Except.bind]
  | ok text =>
      cases result : read text <;>
        simp [Target.restoring, Target.serialized, Library.deserialize, Target.restore,
          Target.readText, has, fromStr, result, Except.bind, Except.mapError]

theorem answer?_restoring_new {read : Except ReadError α}
    {made : α → Except ConstraintViolation β} {document : Json} (bounded : kind ≠ .identifier)
    (reads : Library.deserialize (Target.serialized kind).lastName document =
      some (.ofExcept .readError datum read))
    (new : ∀ x, call ⟨t.name, none, "new"⟩ [datum x] =
      some (.ofExcept .violation wrapped (made x))) :
    (t.restoring kind).answer? call type [.document document] =
      some (.ofExcept .readError wrapped
        (read.bind fun x => (made x).mapError fun v => .refused (.violation v))) := by
  cases kind with
  | identifier => exact absurd rfl bounded
  | boundedText | boundedInteger | boundedReal =>
      simp only [Target.serialized, string, primitive, TypeExpr.lastName, List.getLast?,
        List.getLast, Option.map_some, Option.getD_some, Ident.plain] at reads
      cases read with
      | error e => simp [Target.restoring, Target.serialized, reads, Except.bind]
      | ok x =>
          cases built : made x <;>
            simp [Target.restoring, Target.serialized, Target.restore, reads, new, built,
              Except.bind, Except.mapError]

end Adapter

/-! ## Order -/

theorem answer?_realEqual (x y : Binary64) :
    realEqual.answer? call type [.wrapped type (.real x), .wrapped type (.real y)] =
      some (.flag (x.word == y.word)) := by
  simp [realEqual, bits, other]

theorem answer?_realCompare (x y : Binary64) :
    realCompare.answer? call type [.wrapped type (.real x), .wrapped type (.real y)] =
      some (.ordering (x.total y)) := by
  simp [realCompare, other]

theorem answer?_realPartialCompare {value operand answer : Datum}
    (compare : call ⟨type, some "Ord", "cmp"⟩ [.wrapped type value, operand] = some answer) :
    realPartialCompare.answer? call type [.wrapped type value, operand] =
      some (.some answer) := by
  simp [realPartialCompare, other, compare]

end DomainValues
