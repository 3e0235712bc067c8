import DomainValues.Proofs.CodeBodies
import DomainValues.Proofs.RealWords

/-!
# What generated code answers

The functions that are printed for a declaration answer what the functions of values answer
(`Declaration.implements`): whatever they are called with, running them among the items gives the
datum of the value, or of its error, that the model of values has.  So none of them gets stuck, and
none calls deeper than five functions.

Each is found among the items and its body is run under what its callees were shown to answer: the
checks first, then what makes values, what reads them, and what converts them.
-/

namespace DomainValues

open Code Implementation

namespace Code

variable {items : List Code.Item} {callee : Callee} {depth : Nat} {arguments : List Datum}

theorem run_of_function? {f : Function} {answer : Option Datum}
    (found : function? items callee = some f)
    (body : f.answer? (run items depth) callee.type arguments = answer) :
    run items (depth + 1) callee arguments = answer := by
  rw [run, found]
  exact body

theorem run_of_constant? {e : Expr} {value : Datum} (notCalled : function? items callee = none)
    (found : constant? items callee = some e)
    (body : e.eval (run items depth) ⟨callee.type, none, []⟩ = .value value) :
    run items (depth + 1) callee arguments = some value := by
  rw [run, notCalled, found]
  exact congrArg Outcome.answer? body

end Code

namespace Declaration

/-- The items that are printed for a declaration. -/
def items (o : Options) (d : Declaration) (p : Params) : List Code.Item :=
  (Implementation.ofDeclaration o d p).code ++ (Adapter.ofDeclaration o d p).code

section Members

variable {type : Ident} {trait : Option String} {t : Target} {of : TypeExpr} {name : Ident}
  {members : List Member}

theorem membersFor_struct {attributes : List Attribute} {doc : Doc} {derives : List String}
    {visibility : Visibility} {field : Option TypeExpr} :
    (Code.Item.struct attributes doc derives visibility name field).membersFor type trait = [] :=
  rfl

theorem membersFor_wrapper {derives : List String} {field : TypeExpr} :
    (t.wrapper derives field).membersFor type trait = [] := rfl

theorem membersFor_inherent : (inherent (generatedType name) members).membersFor type trait =
    if name = type ∧ none = trait then members else [] := rfl

theorem membersFor_implement : (implement of (generatedType name) members).membersFor type trait =
    if name = type ∧ some of.lastName = trait then members else [] := rfl

theorem membersFor_implementation {lifetime : String} :
    (Code.Item.implementation (some lifetime) (some of) (generatedType name) members).membersFor
      type trait = if name = type ∧ some of.lastName = trait then members else [] := rfl

theorem membersFor_provided :
    (implement of (t.provided name) members).membersFor type trait = [] := rfl

theorem membersFor_string : (implement of string members).membersFor type trait = [] := rfl

theorem membersFor_primitive :
    (implement of (primitive name) members).membersFor type trait = [] := rfl

theorem lastName_core {segments : List Ident} {arguments : List TypeExpr} :
    (core segments arguments).lastName = (segments.getLast?.map Ident.name).getD "" := rfl

theorem trait_integer {min max : Int32} :
    (NumberForm.integer min max).trait = Ident.plain "IntegerValue" := rfl

theorem trait_real {min max : Binary64} :
    (NumberForm.real min max).trait = Ident.plain "RealValue" := rfl

theorem lastName_provided : (t.provided name).lastName = name.name := rfl

theorem lastName_serialTrait {segments : List Ident} {arguments : List TypeExpr} :
    (t.serialTrait segments arguments).lastName =
      ((Ident.plain "serde" :: segments).getLast?.map Ident.name).getD "" := rfl

end Members

section Runs

variable (d : Declaration) (o : Options) (p : Params) (path : String)

theorem function?_items (callee : Callee) :
    function? (d.items o p) callee =
      (((Implementation.ofDeclaration o d p).code ++ (Adapter.ofDeclaration o d p).code).flatMap
        (Code.Item.membersFor callee.type callee.trait)).findSome?
          (Member.function? callee.name) := rfl

theorem constant?_items (callee : Callee) :
    constant? (d.items o p) callee =
      (((Implementation.ofDeclaration o d p).code ++ (Adapter.ofDeclaration o d p).code).flatMap
        (Code.Item.membersFor callee.type callee.trait)).findSome?
          (Member.constant? callee.name) := rfl

-- Simplification leaves the members of the type and the trait, among which the one of the name is
-- found by evaluation.  The lemmas that are taken out would turn this into statements about them.
attribute [-simp] Option.or_eq_some_iff List.findSome?_eq_none_iff

attribute [local simp] function?_items constant?_items membersFor_struct membersFor_wrapper
  membersFor_inherent membersFor_implement membersFor_implementation membersFor_provided
  membersFor_string membersFor_primitive lastName_core lastName_provided lastName_serialTrait
  trait_integer trait_real

attribute [local simp] ofDeclaration Adapter.ofDeclaration codeOf identifier boundedText
  boundedInteger boundedReal numberInherent numberTrait numberText realOrder Target.of Target.name
  Target.type Target.display Target.fromText Target.conversions Target.valueType
  Target.serialization Target.adapter Ident.plain

variable (depth : Nat)

theorem run_validate (min max : UInt64) (pattern : Option String) (text : String) :
    run (d.items o (.boundedText min max pattern)) (depth + 1) ⟨d.name.ident, none, "validate"⟩
      [.text text] = some (.ofCheck (Params.validateText d.name.bare min max pattern text)) := by
  refine run_of_function? (?_ : _ = some (textValidate (.of d o) min max pattern))
    (answer?_textValidate min max pattern text)
  simp
  rfl

theorem run_bounds (min max : Int32) :
    run (d.items o (.boundedInteger min max)) (depth + 1) ⟨d.name.ident, none, "MIN"⟩ [] =
        some (.int32 min) ∧
      run (d.items o (.boundedInteger min max)) (depth + 1) ⟨d.name.ident, none, "MAX"⟩ [] =
        some (.int32 max) := by
  constructor
  · refine run_of_constant? ?_ (?_ : _ = some (.literal (.int32 min))) rfl
    · simp
      exact ⟨rfl, rfl⟩
    · simp
      rfl
  · refine run_of_constant? ?_ (?_ : _ = some (.literal (.int32 max))) rfl
    · simp
      exact ⟨rfl, rfl⟩
    · simp
      rfl

theorem run_new (bounded : p ≠ .identifier) (x : p.Primitive) :
    run (d.items o p) (depth + 2) ⟨d.name.ident, none, "new"⟩ [p.datum x] =
      some (.ofExcept .violation (Value.datum d.name.ident)
        (Value.ofPrimitive ⟨path, d.name.bare, p⟩ x)) := by
  cases p with
  | identifier => exact absurd rfl bounded
  | boundedText min max pattern =>
      refine run_of_function? (?_ : _ = some (textNew (.of d o)))
        ((answer?_textNew (d.run_validate o depth min max pattern x)).trans ?_)
      · simp
        rfl
      · cases valid : Params.validateText d.name.bare min max pattern x <;>
          rw [Value.ofPrimitive, Params.check, valid] <;> rfl
  | boundedInteger min max =>
      refine run_of_function? (?_ : _ = some ((NumberForm.integer min max).new (.of d o)))
        ((answer?_integerNew min max x).trans ?_)
      · simp
        rfl
      · cases within : Constraint.integer d.name.bare x min max <;>
          simp only [Target.of, Value.ofPrimitive, Params.check, within] <;> rfl
  | boundedReal min max =>
      refine run_of_function? (?_ : _ = some ((NumberForm.real min max).new (.of d o)))
        ((answer?_realNew min max x).trans ?_)
      · simp
        rfl
      · cases within : Constraint.real d.name.bare x min max <;>
          simp only [Target.of, Value.ofPrimitive, Params.check, within] <;> rfl

theorem run_try_from_primitive (x : p.Primitive) :
    run (d.items o p) (depth + 3) ⟨d.name.ident, some "ValueType", "try_from_primitive"⟩
      [p.datum x] =
      some (.ofExcept .violation (Value.datum d.name.ident)
        (Value.ofPrimitive ⟨path, d.name.bare, p⟩ x)) := by
  cases p with
  | identifier =>
      refine run_of_function?
        (?_ : _ = some ((Target.of d o).wrapping (success (wrap (var "value")))))
        (answer?_wrapping_success _)
      simp
      rfl
  | boundedText | boundedInteger | boundedReal =>
      refine run_of_function?
        (?_ : _ = some ((Target.of d o).wrapping (Expr.call (selfItem "new") [var "value"])))
        ((answer?_wrapping_new _).trans (d.run_new o _ path depth (by nofun) x))
      simp
      rfl

theorem run_try_from (bounded : p ≠ .identifier) (x : p.Primitive) :
    run (d.items o p) (depth + 3) ⟨d.name.ident, some "TryFrom", "try_from"⟩ [p.datum x] =
      some (.ofExcept .violation (Value.datum d.name.ident)
        (Value.ofPrimitive ⟨path, d.name.bare, p⟩ x)) := by
  have found : ∃ primitive, function? (d.items o p)
      ⟨d.name.ident, some "TryFrom", "try_from"⟩ = some (Target.converting primitive) := by
    cases p with
    | identifier => exact absurd rfl bounded
    | boundedText =>
        refine ⟨string, ?_⟩
        simp
        rfl
    | boundedInteger =>
        refine ⟨Code.primitive "i32", ?_⟩
        simp
        rfl
    | boundedReal =>
        refine ⟨Code.primitive "f64", ?_⟩
        simp
        rfl
  obtain ⟨_, found⟩ := found
  exact run_of_function? found
    ((answer?_converting _ _).trans (d.run_new o p path depth bounded x))

theorem run_to_primitive (v : Value ⟨path, d.name.bare, p⟩) :
    run (d.items o p) (depth + 1) ⟨d.name.ident, some "ValueType", "to_primitive"⟩
      [v.datum d.name.ident] = some (p.datum v.primitive) := by
  cases p with
  | boundedText =>
      refine run_of_function? (?_ : _ = some (Target.unwrapping
        (.call (coreItem ["clone", "Clone", "clone"]) [.borrow own]))) (answer?_unwrapping_clone _)
      simp
      rfl
  | identifier | boundedInteger | boundedReal =>
      refine run_of_function? (?_ : _ = some (Target.unwrapping own)) (answer?_unwrapping_own _)
      simp
      rfl

theorem parse_integer (min max : Int32) (text : String) :
    Library.parse "i32" (String.ofList (Text.trim text.toList)) =
      some (.ofParsed .int32 (Params.read? (.boundedInteger min max) text)) := by
  rw [Library.parse, Library.int32?, String.toList_ofList, Params.read?]

theorem parse_real (min max : Binary64) (text : String) :
    Library.parse "f64" (String.ofList (Text.trim text.toList)) =
      some (.ofParsed .real (Params.read? (.boundedReal min max) text)) := by
  rw [Library.parse, Library.real?, String.toList_ofList, Params.read?]

theorem run_try_parse (text : String) :
    run (d.items o p) (depth + 3) ⟨d.name.ident, none, "try_parse"⟩ [.text text] =
      some (.ofOption (Value.datum d.name.ident)
        (Value.ofText? ⟨path, d.name.bare, p⟩ text)) := by
  cases p with
  | identifier =>
      refine run_of_function? (?_ : _ = some (identifierParse (.of d o)))
        ((answer?_identifierParse text).trans ?_)
      · simp
        rfl
      · rw [Value.ofText?]
        cases Uuid.read? text <;> rfl
  | boundedText min max pattern =>
      refine run_of_function? (?_ : _ = some textParse)
        ((answer?_textParse (d.run_validate o _ min max pattern text)).trans ?_)
      · simp
        rfl
      · rw [Value.ofText?]
        cases Params.validateText d.name.bare min max pattern text <;> rfl
  | boundedInteger min max =>
      refine run_of_function? (?_ : _ = some (NumberForm.integer min max).parse)
        (answer?_numberParse (.integer min max) (parse_integer min max text)
          (d.run_new o _ path depth (by nofun)))
      simp
      rfl
  | boundedReal min max =>
      refine run_of_function? (?_ : _ = some (NumberForm.real min max).parse)
        (answer?_numberParse (.real min max) (parse_real min max text)
          (d.run_new o _ path depth (by nofun)))
      simp
      rfl

theorem run_trait_try_parse (text : String) :
    run (d.items o p) (depth + 4) ⟨d.name.ident, some "ValueType", "try_parse"⟩ [.text text] =
      some (.ofOption (Value.datum d.name.ident)
        (Value.ofText? ⟨path, d.name.bare, p⟩ text)) := by
  refine run_of_function? (?_ : _ = some (Target.of d o).reparsing)
    ((answer?_reparsing _).trans (d.run_try_parse o p path depth text))
  cases p <;> simp <;> rfl

theorem run_from_str (text : String) :
    run (d.items o p) (depth + 4) ⟨d.name.ident, some "FromStr", "from_str"⟩ [.text text] =
      some (.ofExcept .decodeError (Value.datum d.name.ident)
        (Value.ofText ⟨path, d.name.bare, p⟩ text)) := by
  cases p with
  | identifier =>
      refine run_of_function? (?_ : _ = some (Target.reading (identifierRead (.of d o))))
        ((answer?_identifierRead (d.run_try_parse o .identifier path depth text)).trans ?_)
      · simp
        rfl
      · rw [Value.ofText, Value.ofText?, Params.read?]
        cases Uuid.read? text <;> rfl
  | boundedText min max pattern =>
      refine run_of_function? (?_ : _ = some (Target.reading (textRead (.of d o))))
        (answer?_textRead
          (d.run_new o (.boundedText min max pattern) path (depth + 1) (by nofun) text))
      simp
      rfl
  | boundedInteger min max =>
      refine run_of_function?
        (?_ : _ = some (Target.reading ((NumberForm.integer min max).read (.of d o))))
        ((answer?_numberRead (.integer min max) (parse_integer min max text)
          (d.run_new o (.boundedInteger min max) path (depth + 1) (by nofun))).trans ?_)
      · simp
        rfl
      · rw [Value.ofText]
        cases Params.read? (.boundedInteger min max) text <;> rfl
  | boundedReal min max =>
      refine run_of_function?
        (?_ : _ = some (Target.reading ((NumberForm.real min max).read (.of d o))))
        ((answer?_numberRead (.real min max) (parse_real min max text)
          (d.run_new o (.boundedReal min max) path (depth + 1) (by nofun))).trans ?_)
      · simp
        rfl
      · rw [Value.ofText]
        cases Params.read? (.boundedReal min max) text <;> rfl

theorem run_fmt (v : Value ⟨path, d.name.bare, p⟩) :
    run (d.items o p) (depth + 1) ⟨d.name.ident, some "Display", "fmt"⟩
      [v.datum d.name.ident, .sink] = some (.ok (.text v.format)) := by
  cases p with
  | identifier =>
      refine run_of_function? (?_ : _ = some (Target.showing (.borrow (on own "hyphenated" []))))
        (answer?_showing_identifier _)
      simp
      rfl
  | boundedText =>
      refine run_of_function? (?_ : _ = some (Target.showing (on own "as_str" [])))
        (answer?_showing_text _)
      simp
      rfl
  | boundedInteger | boundedReal =>
      refine run_of_function? (?_ : _ = some (Target.showing (.borrow own)))
        (answer?_showing_number rfl)
      simp
      rfl

theorem run_encode (adapter : Datum) (v : Value ⟨path, d.name.bare, p⟩) :
    run (d.items o p) (depth + 2) ⟨d.adapter, some "ScalarAdapter", "encode"⟩
      [adapter, v.datum d.name.ident] = some (.scalar v.toScalar) := by
  have shown := textOf?_of_display (d.run_fmt o p path depth v)
  refine run_of_function? (?_ : _ = some ((Target.of d o).encoding p.kind)) ?_
  · cases p <;> simp <;> rfl
  · cases p with
    | identifier => exact answer?_encoding_text (.inl rfl) shown
    | boundedText => exact answer?_encoding_text (.inr rfl) shown
    | boundedInteger => exact answer?_encoding_integer _
    | boundedReal => exact answer?_encoding_real _

theorem run_decode (adapter : Datum) (s : Scalar) :
    run (d.items o p) (depth + 5) ⟨d.adapter, some "ScalarAdapter", "decode"⟩
      [adapter, .scalar s] =
      some (.ofExcept .decodeError (Value.datum d.name.ident)
        (Value.ofScalar ⟨path, d.name.bare, p⟩ s)) := by
  refine run_of_function? (?_ : _ = some ((Target.of d o).decoding p.kind)) ?_
  · cases p <;> simp <;> rfl
  · cases p with
    | identifier =>
        exact answer?_decoding_text (.inl rfl) (d.run_from_str o .identifier path depth) s
    | boundedText min max pattern =>
        exact answer?_decoding_text (.inr rfl)
          (d.run_from_str o (.boundedText min max pattern) path depth) s
    | boundedInteger min max =>
        obtain ⟨least, greatest⟩ := d.run_bounds o (depth + 3) min max
        exact answer?_decoding_integer least greatest
          (d.run_new o (.boundedInteger min max) path (depth + 2) (by nofun)) s
    | boundedReal min max =>
        exact answer?_decoding_real
          (d.run_new o (.boundedReal min max) path (depth + 2) (by nofun)) s

theorem run_serialize (v : Value ⟨path, d.name.bare, p⟩) :
    run (d.items o p) (depth + 2) ⟨d.name.ident, some "Serialize", "serialize"⟩
      [v.datum d.name.ident, .sink] = some (.ok (.document v.serialize)) := by
  have shown := textOf?_of_display (d.run_fmt o p path depth v)
  refine run_of_function? (?_ : _ = some ((Target.of d o).writing p.kind)) ?_
  · cases p <;> simp <;> rfl
  · cases p with
    | identifier => exact answer?_writing_identifier shown
    | boundedText => exact answer?_writing_text _
    | boundedInteger => exact answer?_writing_integer _
    | boundedReal => exact answer?_writing_real _

theorem run_deserialize (document : Json) :
    run (d.items o p) (depth + 5) ⟨d.name.ident, some "Deserialize", "deserialize"⟩
      [.document document] =
      some (.ofExcept .readError (Value.datum d.name.ident)
        (Value.deserialize ⟨path, d.name.bare, p⟩ document)) := by
  refine run_of_function? (?_ : _ = some ((Target.of d o).restoring p.kind)) ?_
  · cases p <;> simp <;> rfl
  · cases p with
    | identifier =>
        exact answer?_restoring_identifier (d.run_from_str o .identifier path depth) document
    | boundedText min max pattern =>
        exact answer?_restoring_new (by nofun) rfl
          (d.run_new o (.boundedText min max pattern) path (depth + 2) (by nofun))
    | boundedInteger min max =>
        exact answer?_restoring_new (by nofun) rfl
          (d.run_new o (.boundedInteger min max) path (depth + 2) (by nofun))
    | boundedReal min max =>
        exact answer?_restoring_new (by nofun) rfl
          (d.run_new o (.boundedReal min max) path (depth + 2) (by nofun))

theorem run_default :
    run (d.items o .identifier) (depth + 2) ⟨d.name.ident, some "Default", "default"⟩ [] =
      (Value.nil? ⟨path, d.name.bare, .identifier⟩).map (Value.datum d.name.ident) := by
  have constant : run (d.items o .identifier) (depth + 1) ⟨d.name.ident, none, "EMPTY"⟩ [] =
      some (.wrapped d.name.ident (.uuid Uuid.nil)) := by
    refine run_of_constant? ?_ (?_ : _ = some (wrap (ofUuid (.of d o) "nil" []))) rfl <;>
      (simp; rfl)
  refine run_of_function?
    (?_ : _ = some (fn "default" [] selfType (selfItem "EMPTY"))) ?_
  · simp
    rfl
  · simp [Function.answer?, Function.frame?, fn, Block.eval, Statement.evalAll, Block.ofExpr,
      Expr.eval, selfItem, Frame.path, constant]
    exact ⟨_, rfl, rfl⟩

section Reals

variable (min max : Binary64) (v w : Value ⟨path, d.name.bare, .boundedReal min max⟩)

/-- Values are equal exactly if the words of their numbers are. -/
theorem run_eq :
    run (d.items o (.boundedReal min max)) (depth + 1) ⟨d.name.ident, some "PartialEq", "eq"⟩
      [v.datum d.name.ident, w.datum d.name.ident] = some (.flag (decide (v = w))) := by
  have same : (Binary64.word v.primitive == Binary64.word w.primitive) = decide (v = w) := by
    rw [Bool.eq_iff_iff, beq_iff_eq, decide_eq_true_iff]
    exact ⟨fun words => congrArg Value.mk (Binary64.word_injective words), fun h => h ▸ rfl⟩
  refine run_of_function? (?_ : _ = some realEqual) ((answer?_realEqual _ _).trans ?_)
  · simp
    rfl
  · rw [← same]

theorem run_cmp :
    run (d.items o (.boundedReal min max)) (depth + 1) ⟨d.name.ident, some "Ord", "cmp"⟩
      [v.datum d.name.ident, w.datum d.name.ident] = some (.ordering (v.order w)) := by
  refine run_of_function? (?_ : _ = some realCompare) (answer?_realCompare _ _)
  simp
  rfl

theorem run_partial_cmp :
    run (d.items o (.boundedReal min max)) (depth + 2)
      ⟨d.name.ident, some "PartialOrd", "partial_cmp"⟩
      [v.datum d.name.ident, w.datum d.name.ident] =
        some (.some (.ordering (v.order w))) := by
  refine run_of_function? (?_ : _ = some realPartialCompare)
    (answer?_realPartialCompare (d.run_cmp o path depth min max v w))
  simp
  rfl

end Reals

end Runs

end Declaration

/-! ## Whole types -/

/-- The functions that are printed for a type answer what the functions of its values answer.  The
adapter is a struct without fields, so that it does not matter which datum stands for it. -/
structure Code.Implements (items : List Code.Item) (name adapter : Ident) (t : ValueType)
    (depth : Nat) : Prop where
  /-- A value is made of a primitive that meets the constraint. -/
  new : t.kind ≠ .identifier → ∀ primitive,
    run items depth ⟨name, none, "new"⟩ [t.params.datum primitive] =
      some (.ofExcept .violation (Value.datum name) (Value.ofPrimitive t primitive))
  /-- The conversion from the primitive makes it, -/
  try_from : t.kind ≠ .identifier → ∀ primitive,
    run items depth ⟨name, some "TryFrom", "try_from"⟩ [t.params.datum primitive] =
      some (.ofExcept .violation (Value.datum name) (Value.ofPrimitive t primitive))
  /-- and so does the runtime. -/
  try_from_primitive : ∀ primitive,
    run items depth ⟨name, some "ValueType", "try_from_primitive"⟩ [t.params.datum primitive] =
      some (.ofExcept .violation (Value.datum name) (Value.ofPrimitive t primitive))
  /-- The nil identifier is the default. -/
  default : t.kind = .identifier →
    run items depth ⟨name, some "Default", "default"⟩ [] = (Value.nil? t).map (Value.datum name)
  /-- A text is read without a reason for failure, by the type or by the runtime. -/
  try_parse : ∀ trait ∈ [none, some "ValueType"], ∀ text,
    run items depth ⟨name, trait, "try_parse"⟩ [.text text] =
      some (.ofOption (Value.datum name) (Value.ofText? t text))
  /-- A text is read with a reason for failure. -/
  from_str : ∀ text, run items depth ⟨name, some "FromStr", "from_str"⟩ [.text text] =
    some (.ofExcept .decodeError (Value.datum name) (Value.ofText t text))
  /-- The canonical text is written. -/
  fmt : ∀ v : Value t, run items depth ⟨name, some "Display", "fmt"⟩ [v.datum name, .sink] =
    some (.ok (.text v.format))
  /-- The primitive is given away. -/
  to_primitive : ∀ v : Value t,
    run items depth ⟨name, some "ValueType", "to_primitive"⟩ [v.datum name] =
      some (t.params.datum v.primitive)
  /-- The adapter writes the scalar of a value -/
  encode : ∀ (self : Datum) (v : Value t),
    run items depth ⟨adapter, some "ScalarAdapter", "encode"⟩ [self, v.datum name] =
      some (.scalar v.toScalar)
  /-- and reads the value of a scalar. -/
  decode : ∀ (self : Datum) (s : Scalar),
    run items depth ⟨adapter, some "ScalarAdapter", "decode"⟩ [self, .scalar s] =
      some (.ofExcept .decodeError (Value.datum name) (Value.ofScalar t s))
  /-- A value is written as a document -/
  serialize : ∀ v : Value t,
    run items depth ⟨name, some "Serialize", "serialize"⟩ [v.datum name, .sink] =
      some (.ok (.document v.serialize))
  /-- and read from one. -/
  deserialize : ∀ document : Json,
    run items depth ⟨name, some "Deserialize", "deserialize"⟩ [.document document] =
      some (.ofExcept .readError (Value.datum name) (Value.deserialize t document))
  /-- Reals are told apart -/
  eq : t.kind = .boundedReal → ∀ v w : Value t,
    run items depth ⟨name, some "PartialEq", "eq"⟩ [v.datum name, w.datum name] =
      some (.flag (decide (v = w)))
  /-- and compared, -/
  cmp : t.kind = .boundedReal → ∀ v w : Value t,
    run items depth ⟨name, some "Ord", "cmp"⟩ [v.datum name, w.datum name] =
      some (.ordering (v.order w))
  /-- whichever two they are. -/
  partial_cmp : t.kind = .boundedReal → ∀ v w : Value t,
    run items depth ⟨name, some "PartialOrd", "partial_cmp"⟩ [v.datum name, w.datum name] =
      some (.some (.ordering (v.order w)))

/-- What is printed for a declaration implements the value type it declares, wherever that is. -/
theorem Declaration.implements (o : Options) (d : Declaration) (p : Params) (path : String)
    {depth : Nat} (deep : 5 ≤ depth) :
    Implements (d.items o p) d.name.ident d.adapter ⟨path, d.name.bare, p⟩ depth := by
  obtain ⟨depth, rfl⟩ := Nat.exists_eq_add_of_le' deep
  have bounded (h : p.kind ≠ .identifier) : p ≠ .identifier := fun same => h (same ▸ rfl)
  exact
    { new := fun h => d.run_new o p path (depth + 3) (bounded h)
      try_from := fun h => d.run_try_from o p path (depth + 2) (bounded h)
      try_from_primitive := d.run_try_from_primitive o p path (depth + 2)
      default := by
        intro h
        cases p with
        | identifier => exact d.run_default o path (depth + 3)
        | boundedText | boundedInteger | boundedReal => cases h
      try_parse := by
        intro trait listed text
        rcases List.mem_cons.1 listed with rfl | listed
        · exact d.run_try_parse o p path (depth + 2) text
        · obtain rfl := List.mem_singleton.1 listed
          exact d.run_trait_try_parse o p path (depth + 1) text
      from_str := d.run_from_str o p path (depth + 1)
      fmt := d.run_fmt o p path (depth + 4)
      to_primitive := d.run_to_primitive o p path (depth + 4)
      encode := d.run_encode o p path (depth + 3)
      decode := d.run_decode o p path depth
      serialize := d.run_serialize o p path (depth + 3)
      deserialize := d.run_deserialize o p path depth
      eq := by
        intro h
        cases p with
        | boundedReal min max => exact d.run_eq o path (depth + 4) min max
        | identifier | boundedText | boundedInteger => cases h
      cmp := by
        intro h
        cases p with
        | boundedReal min max => exact d.run_cmp o path (depth + 4) min max
        | identifier | boundedText | boundedInteger => cases h
      partial_cmp := by
        intro h
        cases p with
        | boundedReal min max => exact d.run_partial_cmp o path (depth + 3) min max
        | identifier | boundedText | boundedInteger => cases h }

end DomainValues
