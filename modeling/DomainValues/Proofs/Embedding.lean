import DomainValues.Proofs.CodeParts
import DomainValues.Proofs.Installing
import DomainValues.Proofs.NumberLiterals

/-!
# What generated code says of its declaration

The code of a type states its bounds and its pattern in constants, once on its own and once for the
trait of its kind, and passes them to a check of the runtime.  In all these places stand the same
literals.  The name of the type is written as text wherever the runtime is told of it.

The literals, written as the arguments of a directive, give the parameters that they were made from
(`Params.exists_arguments`), signs of zeros included.

Main statement: `Declaration.embeds_of_params`.
-/

namespace DomainValues

open Code

/-! ## Literals of parameters -/

/-- How the bounds of a kind are stated. -/
structure Bounds where
  /-- The trait of the kind. -/
  trait : Ident
  /-- The name of the constant of the lower bound. -/
  lowerName : String
  /-- The name of the constant of the upper bound. -/
  upperName : String
  /-- The check that is given the bounds. -/
  check : Ident
  /-- The lower bound. -/
  lower : Literal
  /-- The upper bound. -/
  upper : Literal

namespace Params

/-- The bounds, if the kind has any. -/
def bounds? : Params → Option Bounds
  | .identifier => none
  | .boundedText min max _ =>
      some ⟨"TextValue", "MIN_LENGTH", "MAX_LENGTH", "length", .length min, .length max⟩
  | .boundedInteger min max =>
      some ⟨"IntegerValue", "MIN", "MAX", "integer", .int32 min, .int32 max⟩
  | .boundedReal min max => some ⟨"RealValue", "MIN", "MAX", "real", .real min, .real max⟩

/-- The pattern, if there is one. -/
def pattern? : Params → Option String
  | .boundedText _ _ pattern => pattern
  | _ => none

/-- What the constants of the pattern are, if the kind may have one. -/
def patternConstants : Params → List Expr
  | .boundedText _ _ (some source) =>
      [.call (coreItem ["option", "Option", "Some"]) [textOf source]]
  | .boundedText _ _ none => [coreItem ["option", "Option", "None"]]
  | _ => []

/-- The literals of the bounds and of the pattern, in the order of the parameters. -/
def literals (p : Params) : List Literal :=
  (p.bounds?.toList.flatMap fun b => [b.lower, b.upper]) ++ p.pattern?.toList.map Literal.text

end Params

/-! ## Literals as arguments -/

/-- The tokens of a literal as the argument for a parameter, after its name or without one. -/
def Parameter.argumentTokens (named : Bool) (q : Parameter) (l : Literal) : List Token :=
  (if named then Token.ofWord q.name :: Token.symbol "=" else []) ++ l.tokens

/-- An argument for a parameter, with its name or without one. -/
def Parameter.argument (named : Bool) (q : Parameter) (value : ArgumentValue) : Argument :=
  ⟨if named then some ⟨.plain q.name, .start⟩ else none, value, .start⟩

/-- The literals of the values as arguments, separated by commas. -/
def Params.written (named : Bool) (p : Params) : List Token :=
  commas (List.zipWith (Parameter.argumentTokens named) p.kind.parameters p.literals)

open Directive

/-- A literal that is read as a value is an argument from which the value is read. -/
theorem Parameter.exists_argument {q : Parameter} {l : Literal} {α : Type} {value : α}
    {read : Parameter → Argument → Except ConfigurationError α} {Is : ArgumentValue → α → Prop}
    (named : Bool) (isReadAs : l.IsReadAs (Is · value))
    (reads : ∀ {a : Argument}, a.value.Unsigned → (read q a = .ok value ↔ Is a.value value))
    (isName : Source.Rule.isName (.plain q.name) = true) :
    ∃ v, ArgumentRow (q.argumentTokens named l) (q.argument named v) ∧
      read q (q.argument named v) = .ok value := by
  have found : ∃ v, ArgumentRow (q.argumentTokens named l) (q.argument named v) ∧ Is v value := by
    cases named with
    | true => exact isReadAs _ _ (.given isName)
    | false => exact isReadAs _ _ .absent
  obtain ⟨v, row, is⟩ := found
  exact ⟨v, row, (reads row.unsigned).2 is⟩

/-- Rows joined by commas are a list of arguments. -/
theorem argumentList_commas {row : List Token → Argument → Prop} {rows : List (List Token)}
    {args : List Argument} (h : List.Forall₂ row rows args) :
    ArgumentList row (commas rows) args := by
  induction h with
  | nil => exact .nil
  | @cons first a rest more read others ih =>
      cases others with
      | nil => exact .last read
      | cons =>
          rw [commas, joined, List.append_assoc]
          · exact .cons read ih
          · nofun

/-- Arguments in the order of the parameters, all with their names or all without, fill the
parameters in this order. -/
theorem Directive.bind_inOrder (kind : Kind) (position : Position) (named : Bool)
    (values : List ArgumentValue) (least : 2 ≤ values.length)
    (most : values.length ≤ kind.parameters.length) :
    Directive.bind
        ⟨kind, position, List.zipWith (Parameter.argument named) kind.parameters values⟩ =
      .ok (kind.parameters.mapIdx fun i q => values[i]?.map (q.argument named)) := by
  cases kind with
  | identifier => exact absurd (least.trans most) (by decide)
  | boundedText =>
      match values, least, most with
      | [_, _], _, _ => cases named <;> rfl
      | [_, _, _], _, _ => cases named <;> rfl
  | boundedInteger =>
      match values, least, most with
      | [_, _], _, _ => cases named <;> rfl
  | boundedReal =>
      match values, least, most with
      | [_, _], _, _ => cases named <;> rfl

/-- Values of arguments whose rows are those of the literals give what is read from them, in the
order of the parameters. -/
theorem Params.exists_arguments_of_values {p : Params} {named : Bool} (values : List ArgumentValue)
    (least : 2 ≤ values.length) (most : values.length ≤ p.kind.parameters.length)
    (rows : List.Forall₂ ArgumentRow
      (List.zipWith (Parameter.argumentTokens named) p.kind.parameters p.literals)
      (List.zipWith (Parameter.argument named) p.kind.parameters values))
    (reads : ∀ position args, (Directive.mk p.kind position args).readParams Pattern.compile
      (p.kind.parameters.mapIdx fun i q => values[i]?.map (q.argument named)) = .ok p) :
    ∃ args, ArgumentList ArgumentRow (p.written named) args ∧
      ∀ position, (Directive.mk p.kind position args).params = .ok p := by
  refine ⟨_, argumentList_commas rows, fun position => ?_⟩
  have bound := bind_inOrder p.kind position named values least most
  exact bind_eq_ok_iff.2 ⟨_, bound, reads position _⟩

/-- The literals of valid parameters, written as arguments, give the parameters. -/
theorem Params.exists_arguments {p : Params} (valid : p.Valid) (named : Bool) :
    ∃ args, ArgumentList ArgumentRow (p.written named) args ∧
      ∀ position, (Directive.mk p.kind position args).params = .ok p := by
  cases p with
  | identifier => exact ⟨[], .nil, fun _ => rfl⟩
  | boundedText min max pattern =>
      obtain ⟨inOrder, compiles⟩ := valid
      obtain ⟨low, lowRow, readLow⟩ := Parameter.exists_argument
        (q := ⟨"min_length", .length, true⟩) named (Literal.isReadAs_length min)
        readLength_eq_ok_iff (by decide)
      obtain ⟨high, highRow, readHigh⟩ := Parameter.exists_argument
        (q := ⟨"max_length", .length, true⟩) named (Literal.isReadAs_length max)
        readLength_eq_ok_iff (by decide)
      have checked := UInt64.not_lt.2 inOrder
      cases pattern with
      | none =>
          refine exists_arguments_of_values [low, high] (by simp) (by simp [kind, Kind.parameters])
            (.cons lowRow (.cons highRow .nil)) fun position args => ?_
          simp only [kind, readParams, bind_eq_ok_iff]
          exact ⟨min, readLow, max, readHigh, none, rfl, if_neg checked⟩
      | some source =>
          obtain ⟨text, textRow, readText⟩ := Parameter.exists_argument
            (q := ⟨"pattern", .pattern, false⟩) named (Literal.isReadAs_text (compiles source rfl))
            (fun _ => readPattern_eq_ok_iff) (by decide)
          refine exists_arguments_of_values [low, high, text] (by simp)
            (by simp [kind, Kind.parameters])
            (.cons lowRow (.cons highRow (.cons textRow .nil))) fun position args => ?_
          simp only [kind, readParams, bind_eq_ok_iff]
          exact ⟨min, readLow, max, readHigh, some source,
            map_eq_ok_iff.2 ⟨source, readText, rfl⟩, if_neg checked⟩
  | boundedInteger min max =>
      obtain ⟨low, lowRow, readLow⟩ := Parameter.exists_argument (q := ⟨"min", .int32, true⟩) named
        (Literal.isReadAs_int32 min) readInt32_eq_ok_iff (by decide)
      obtain ⟨high, highRow, readHigh⟩ := Parameter.exists_argument (q := ⟨"max", .int32, true⟩)
        named (Literal.isReadAs_int32 max) readInt32_eq_ok_iff (by decide)
      refine exists_arguments_of_values [low, high] (by simp) (by simp [kind, Kind.parameters])
        (.cons lowRow (.cons highRow .nil)) fun position args => ?_
      simp only [kind, readParams, bind_eq_ok_iff]
      exact ⟨min, readLow, max, readHigh, if_neg (Int32.not_lt.2 valid)⟩
  | boundedReal min max =>
      obtain ⟨_, _, minValue, maxValue, inOrder⟩ := valid
      obtain ⟨low, lowRow, readLow⟩ := Parameter.exists_argument (q := ⟨"min", .real, true⟩) named
        (Literal.isReadAs_real_of_value minValue) readReal_eq_ok_iff (by decide)
      obtain ⟨high, highRow, readHigh⟩ := Parameter.exists_argument (q := ⟨"max", .real, true⟩)
        named (Literal.isReadAs_real_of_value maxValue) readReal_eq_ok_iff (by decide)
      have checked : ¬ Binary64.lt max min = true := by
        rw [Binary64.not_lt_of_le ((Binary64.le_iff minValue maxValue).2 inOrder)]
        exact Bool.false_ne_true
      refine exists_arguments_of_values [low, high] (by simp) (by simp [kind, Kind.parameters])
        (.cons lowRow (.cons highRow .nil)) fun position args => ?_
      simp only [kind, readParams, bind_eq_ok_iff]
      exact ⟨min, readLow, max, readHigh, if_neg checked⟩

/-- An attribute whose arguments are the literals of parameters gives the parameters. -/
theorem Params.exists_directive {p : Params} (valid : p.Valid) (named : Bool) {a : Attribute}
    {delimiter : Delimiter} {opens closes : Position}
    (arguments : a.arguments = .list delimiter (p.written named) opens closes) :
    ∃ e, Directive.ofAttribute p.kind a = .ok e ∧ e.params = .ok p := by
  obtain ⟨args, list, gives⟩ := p.exists_arguments valid named
  have spelled : SpelledBy ReadableRow args a.arguments := by
    rw [arguments]
    exact (argumentList_iff.1 list).1
  exact ⟨_, ofAttribute_eq_ok_iff.2 ⟨rfl, rfl, spelled⟩, gives a.path.position⟩

/-! ## What code states -/

namespace Code

/-- Constants of a trait, or of the type itself, are bounds. -/
structure DefinesBounds (code : List Code.Item) (trait : Option Ident) (b : Bounds) : Prop where
  /-- One is the lower bound. -/
  lower : constants code trait b.lowerName = [.literal b.lower]
  /-- One is the upper bound. -/
  upper : constants code trait b.upperName = [.literal b.upper]

/-- Code states bounds: in constants of the type, in those of the trait, and in the only call of the
check. -/
structure StatesBounds (code : List Code.Item) (name : String) (b : Bounds) : Prop where
  /-- The type has the bounds. -/
  own : DefinesBounds code none b
  /-- The trait has the bounds. -/
  trait : DefinesBounds code (some b.trait) b
  /-- Both bounds are checked. -/
  checked : calls code ["check", b.check] =
    [[textOf name, var "value", .literal b.lower, .literal b.upper]]

/-- Code states the pattern of parameters, in constants where the kind may have one, and in the
check if there is one. -/
structure StatesPattern (code : List Code.Item) (name : String) (p : Params) : Prop where
  /-- The type has the pattern. -/
  own : constants code none "PATTERN" = p.patternConstants
  /-- The trait has the pattern. -/
  trait : constants code (some "TextValue") "PATTERN" = p.patternConstants
  /-- The pattern is compiled if there is one. -/
  compiled : calls code ["CompiledPattern", "new"] =
    p.pattern?.toList.map fun source => [textOf source]
  /-- It is checked if there is one. -/
  checked : methodCalls code "PATTERN" "check" =
    p.pattern?.toList.map fun _ => [textOf name, var "value"]

/-- Code states the name of its type, and no other name. -/
structure StatesName (code : List Code.Item) (name : String) : Prop where
  /-- The name is a constant. -/
  constant : constants code (some "ValueType") "NAME" = [textOf name]
  /-- Each text that is no pattern is the name. -/
  texts : ∀ text ∈ textsBeside "PATTERN" code, text = name

/-- Code states no bounds of its own.  What narrows a number is given the constants of the type. -/
structure RefersToBounds (code : List Code.Item) (name : Name) (kind : Kind) : Prop where
  /-- Each literal is the name of the type. -/
  literals : ∀ l ∈ literals code, l = .text name.bare
  /-- Bounds are constants of the type. -/
  narrowed : calls code ["check", "narrow_integer"] =
    if kind = .boundedInteger then [[textOf name.bare, var "raw",
      generatedItem name.ident "MIN", generatedItem name.ident "MAX"]]
    else []

end Code

section

variable {t : Target} {p : Params}

theorem statesBounds_codeOf {b : Bounds} (h : p.bounds? = some b) :
    StatesBounds (Implementation.codeOf t p) t.declaration.name.bare b := by
  cases p with
  | identifier => cases h
  | boundedText min max pattern =>
      obtain rfl := Option.some.inj h
      cases pattern <;> exact ⟨⟨rfl, rfl⟩, ⟨rfl, rfl⟩, rfl⟩
  | boundedInteger =>
      obtain rfl := Option.some.inj h
      exact ⟨⟨rfl, rfl⟩, ⟨rfl, rfl⟩, rfl⟩
  | boundedReal =>
      obtain rfl := Option.some.inj h
      exact ⟨⟨rfl, rfl⟩, ⟨rfl, rfl⟩, rfl⟩

theorem statesPattern_codeOf :
    StatesPattern (Implementation.codeOf t p) t.declaration.name.bare p := by
  cases p with
  | boundedText min max pattern => cases pattern <;> exact ⟨rfl, rfl, rfl, rfl⟩
  | _ => exact ⟨rfl, rfl, rfl, rfl⟩

theorem statesName_codeOf : StatesName (Implementation.codeOf t p) t.declaration.name.bare := by
  have texts : ∃ n, textsBeside "PATTERN" (Implementation.codeOf t p) =
      List.replicate n t.declaration.name.bare := by
    cases p with
    | identifier => exact ⟨2, rfl⟩
    | boundedText min max pattern =>
        cases pattern with
        | none => exact ⟨2, rfl⟩
        | some => exact ⟨3, rfl⟩
    | boundedInteger => exact ⟨3, rfl⟩
    | boundedReal => exact ⟨3, rfl⟩
  obtain ⟨n, texts⟩ := texts
  refine ⟨?_, fun text found => List.eq_of_mem_replicate (texts ▸ found)⟩
  cases p with
  | boundedText min max pattern => cases pattern <;> rfl
  | _ => rfl

/-- The literals are those of the parameters, names, and the zero that is added to reals. -/
theorem mem_literals_codeOf {l : Literal} (h : l ∈ literals (Implementation.codeOf t p)) :
    l ∈ p.literals ∨ l = .text t.declaration.name.bare ∨
      p.kind = .boundedReal ∧ l = .decimal "0.0" := by
  have rows : ∃ rows : List (List Literal), literals (Implementation.codeOf t p) = rows.flatten ∧
      ∀ row ∈ rows, row = p.literals ∨ row = [.text t.declaration.name.bare] ∨
        p.kind = .boundedReal ∧ row = [.decimal "0.0"] := by
    cases p with
    | identifier => exact ⟨[[_], [_]], rfl, by simp⟩
    | boundedText min max pattern =>
        let own := Params.literals (.boundedText min max pattern)
        cases pattern with
        | none => exact ⟨[own, [_], own, own, [_]], rfl, by simp [own]⟩
        | some => exact ⟨[own, [_], own, [_], own, [_]], rfl, by simp [own]⟩
    | boundedInteger min max =>
        let own := Params.literals (.boundedInteger min max)
        exact ⟨[own, [_], own, own, [_], [_]], rfl, by simp [own]⟩
    | boundedReal min max =>
        let own := Params.literals (.boundedReal min max)
        exact ⟨[own, [_], own, [_], own, [_], [_]], rfl, by simp [own, Params.kind]⟩
  obtain ⟨rows, all, each⟩ := rows
  rw [all] at h
  obtain ⟨row, listed, found⟩ := List.mem_flatten.1 h
  rcases each row listed with rfl | rfl | ⟨kind, rfl⟩
  · exact .inl found
  · exact .inr (.inl (List.mem_singleton.1 found))
  · exact .inr (.inr ⟨kind, List.mem_singleton.1 found⟩)

theorem refersToBounds_adapter {kind : Kind} :
    RefersToBounds (t.serialization kind ++ t.adapter kind) t.declaration.name kind := by
  have names : ∃ n, literals (t.serialization kind ++ t.adapter kind) =
      List.replicate n (.text t.declaration.name.bare) := by
    cases kind with
    | boundedInteger => exact ⟨2, rfl⟩
    | _ => exact ⟨1, rfl⟩
  obtain ⟨n, names⟩ := names
  refine ⟨fun l found => List.eq_of_mem_replicate (names ▸ found), ?_⟩
  cases kind <;> rfl

end

/-! ## Entries of registrations -/

/-- A registration knows a path by one name, which is in its table. -/
structure Registration.Names (r : Registration) (path : Expr) (name : String) : Prop where
  /-- There is an entry. -/
  entry : ⟨name, path⟩ ∈ r.entries
  /-- No other name has the path. -/
  only : ∀ e ∈ r.entries, e.adapter = path → e.name = name
  /-- The name is in the table. -/
  listed : name ∈ r.nameTable

/-- The registration of a pass knows the adapter of a product by the name of its declaration. -/
theorem Module.registration_names {m : Module} {o : Options} {flag : Nat → Bool}
    {r : Registration} {q : Product} (yields : (m.run o flag).registration = some r)
    (produced : q ∈ (m.run o flag).products) :
    r.Names (Adapter.ofDeclaration o q.declaration q.params).path q.declaration.name.bare := by
  obtain ⟨limit, same⟩ := exists_limit m o flag
  rw [same] at yields produced
  obtain ⟨-, made⟩ := registration_eq_some_made yields
  obtain rfl := Registration.ofAdapters?_eq_some made
  have value := (mem_products produced).2.adapter_value
  rw [← (mem_products produced).2.adapter]
  have mem {e : RegistrationEntry} :
      e ∈ Registration.entriesOf ((m.generate o limit).products.map Product.adapter) ↔
        ∃ q' ∈ (m.generate o limit).products, Registration.entryOf q'.adapter = e := by
    rw [(Registration.entriesOf_perm _).mem_iff]
    simp
  have entry := mem.2 ⟨q, produced, by rw [Registration.entryOf, value]⟩
  refine ⟨entry, fun e found samePath => ?_, ?_⟩
  · obtain ⟨q', produced', rfl⟩ := mem.1 found
    have samePath := List.append_inj_right' (Expr.path.inj samePath).2 rfl
    obtain rfl := product_eq_of_adapter_name produced' produced (List.head_eq_of_cons_eq samePath)
    exact congrArg Name.bare value
  · rw [Registration.nameTable_codeOf]
    exact List.mem_map_of_mem entry

/-! ## Declarations -/

/-- What is generated for a declaration states its parameters and its name. -/
structure Declaration.Embeds (d : Declaration) (o : Options) (p : Params) : Prop where
  /-- The bounds are the same in all places. -/
  bounds : ∀ b ∈ p.bounds?,
    StatesBounds (Implementation.ofDeclaration o d p).code d.name.bare b
  /-- The pattern is the same in all places, and checked if there is one. -/
  pattern : StatesPattern (Implementation.ofDeclaration o d p).code d.name.bare p
  /-- There are no other literals. -/
  literals : ∀ l ∈ literals (Implementation.ofDeclaration o d p).code,
    l ∈ p.literals ∨ l = .text d.name.bare ∨ p.kind = .boundedReal ∧ l = .decimal "0.0"
  /-- The type knows its name. -/
  name : StatesName (Implementation.ofDeclaration o d p).code d.name.bare
  /-- The adapter knows the name and refers to the bounds. -/
  adapter : RefersToBounds (Adapter.ofDeclaration o d p).code d.name p.kind
  /-- A registration knows the adapter by the name. -/
  registered : ∀ (m : Module) (flag : Nat → Bool), ∀ r ∈ (m.run o flag).registration,
    ∀ q ∈ (m.run o flag).products, q.declaration = d →
      r.Names (Adapter.ofDeclaration o d p).path d.name.bare
  /-- What the type states is in its tokens. -/
  inType : Spelled (Implementation.ofDeclaration o d p).code
    (Implementation.ofDeclaration o d p).tokens
  /-- What the adapter states is in its tokens. -/
  inAdapter : Spelled (Adapter.ofDeclaration o d p).code (Adapter.ofDeclaration o d p).tokens
  /-- The literals as the arguments of the directive give the parameters. -/
  rereads : ∀ (named : Bool) (a : Attribute) (delimiter : Delimiter) (opens closes : Position),
    a.arguments = .list delimiter (p.written named) opens closes →
      ∃ e, Directive.ofAttribute d.directive.kind a = .ok e ∧ e.params = .ok p

/-- What is generated for a declaration states the parameters of its directive. -/
theorem Declaration.embeds_of_params {d : Declaration} {p : Params}
    (validated : d.directive.params = .ok p) (o : Options) : d.Embeds o p where
  bounds := fun _ => statesBounds_codeOf
  pattern := statesPattern_codeOf
  literals := fun _ => mem_literals_codeOf
  name := statesName_codeOf
  adapter := refersToBounds_adapter
  registered := by
    rintro m flag r yields q produced rfl
    exact Module.registration_names yields produced
  inType := spelled_tokens _
  inAdapter := spelled_tokens _
  rereads := by
    intro named a delimiter opens closes arguments
    rw [← Directive.kind_of_params validated]
    exact Params.exists_directive (Directive.valid_of_params validated) named arguments

/-- A type with a raw name, whose bounds differ in nothing but the sign of zero:
`#[bounded_real(-0.0, 0)] pub struct r#type;`. -/
def Declaration.signedZeros : Declaration where
  name := ⟨⟨true, "type"⟩, ⟨1, 37⟩⟩
  scope := []
  directive := ⟨.boundedReal, ⟨1, 2⟩,
    [⟨none, .real true "0.0" "", ⟨1, 16⟩⟩, ⟨none, .integer false "0" "", ⟨1, 21⟩⟩]⟩
  visibility := .everywhere
  attributes := []
  slot := ⟨[], 0⟩

theorem Declaration.signedZeros_embeds :
    signedZeros.directive.params = .ok (.boundedReal (.negate .zero) .zero) ∧
      signedZeros.Embeds .default (.boundedReal (.negate .zero) .zero) := by
  have validated : signedZeros.directive.params = .ok (.boundedReal (.negate .zero) .zero) := by
    decide +kernel
  exact ⟨validated, embeds_of_params validated .default⟩

end DomainValues
