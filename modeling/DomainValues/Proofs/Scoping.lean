import DomainValues.Proofs.Discovery
import DomainValues.Proofs.Generation

/-!
# Names in scope

Generated code is written with paths.  A path that starts from a name means a type parameter if one
of that name is in scope, and the type of that name if not (`Use.meaning`).  The name of a declared
type is the user's, the names of the type parameters are those of the generated code.

Reading by the serialization library has the type parameter `D` and builds the declared type where
it is in scope.  So a type that is called `D` is not the one that is built.  No other name is taken
by a type parameter.

Main statement: `Declaration.hygienic_iff`, for which names every path of the code of a declaration
means what it is meant to.
-/

namespace DomainValues

open Code

namespace Code

/-! ## Paths in code -/

/-- A path that code is written with. -/
structure Mention where
  /-- What it is meant to start from. -/
  origin : Origin
  /-- What follows. -/
  segments : List Ident
  /-- Whether it is a single word that means a value. -/
  isValue : Bool
  deriving Repr

mutual

/-- The paths in a type. -/
def TypeExpr.mentions : TypeExpr → List Mention
  | .path origin segments arguments => ⟨origin, segments, false⟩ :: typeMentions arguments
  | .reference _ _ target => target.mentions
  | .slice element => element.mentions
  | .any bound => bound.mentions
  | .unit | .lifetime _ => []

/-- The paths in types. -/
def typeMentions : List TypeExpr → List Mention
  | [] => []
  | type :: rest => type.mentions ++ typeMentions rest

end

mutual

/-- The paths in an expression. -/
def Expr.mentions : Expr → List Mention
  | .path origin segments => [⟨origin, segments, segments.isEmpty⟩]
  | .qualified type trait _ => type.mentions ++ trait.mentions
  | .wrapped e | .borrow e | .propagate e | .closure _ e => e.mentions
  | .call f arguments => f.mentions ++ exprMentions arguments
  | .method e _ types arguments => e.mentions ++ typeMentions types ++ exprMentions arguments
  | .infixed _ left right => left.mentions ++ right.mentions
  | .array elements => exprMentions elements
  | .receiver | .unit | .literal _ => []

/-- The paths in expressions. -/
def exprMentions : List Expr → List Mention
  | [] => []
  | e :: rest => e.mentions ++ exprMentions rest

end

/-- The paths in a statement. -/
def Statement.mentions : Statement → List Mention
  | .bind _ value => value.mentions
  | .perform action => action.mentions
  | .static _ type value => type.mentions ++ value.mentions

/-- The paths in a function: in the bound of its type parameter, in its signature and in its
body. -/
def Function.mentions (f : Function) : List Mention :=
  f.parameter.toList.flatMap (fun p => p.bound.mentions) ++
    f.arguments.flatMap (fun (_, type) => type.mentions) ++
    f.result.toList.flatMap TypeExpr.mentions ++
    f.body.statements.flatMap Statement.mentions ++ f.body.value.toList.flatMap Expr.mentions

/-- A path and the type parameters in scope where it stands. -/
structure Use extends Mention where
  /-- The names of the type parameters. -/
  parameters : List Ident
  deriving Repr

/-- The paths in a member. -/
def Member.uses : Member → List Use
  | .constant _ _ _ type value => (type.mentions ++ value.mentions).map fun p => ⟨p, []⟩
  | .alias _ type => type.mentions.map fun p => ⟨p, []⟩
  | .function f => f.mentions.map fun p => ⟨p, f.parameter.toList.map TypeParameter.name⟩

/-- The paths in an item.  Only functions have type parameters. -/
def Item.uses : Item → List Use
  | .struct _ _ _ _ _ field => (field.toList.flatMap TypeExpr.mentions).map fun p => ⟨p, []⟩
  | .implementation _ trait type members =>
      (trait.toList.flatMap TypeExpr.mentions ++ type.mentions).map (fun p => ⟨p, []⟩) ++
        members.flatMap Member.uses

/-! ## Meanings -/

namespace Use

/-- The type parameter in scope that a name means; `r#` makes no difference. -/
def parameter? (u : Use) (name : Ident) : Option Ident :=
  u.parameters.find? fun q => q.name == name.name

/-- What a path starts from where it stands.  A single word that means a value is never a type
parameter. -/
def meaning (u : Use) : Origin :=
  match u.isValue, u.origin with
  | false, .generated name => (u.parameter? name).elim (.generated name) .parameter
  | false, .builtin name => (u.parameter? name).elim (.builtin name) .parameter
  | false, .parameter name => (u.parameter? name).elim (.generated name) .parameter
  | _, origin => origin

/-- Whether a path means what it is meant to. -/
def isKept (u : Use) : Bool :=
  match u.isValue, u.origin with
  | false, .generated name | false, .builtin name => (u.parameter? name).isNone
  | false, .parameter name => u.parameter? name == some name
  | _, _ => true

theorem isKept_iff {u : Use} : u.isKept = true ↔ u.meaning = u.origin := by
  obtain ⟨⟨origin, segments, isValue⟩, parameters⟩ := u
  cases isValue with
  | true => simp [isKept, meaning]
  | false =>
      cases origin with
      | generated name | builtin name =>
          simp only [isKept, meaning]
          cases parameter? _ name <;> simp
      | parameter name =>
          simp only [isKept, meaning]
          cases parameter? _ name <;> simp
      | crate _ | runtime _ | root | self | «variable» _ => simp [isKept, meaning]

end Use

/-- Every path in some code means what it is meant to. -/
def Hygienic (code : List Item) : Prop := ∀ u ∈ code.flatMap Item.uses, u.meaning = u.origin

/-- Whether every path in some code means what it is meant to. -/
def isHygienic (code : List Item) : Bool := (code.flatMap Item.uses).all Use.isKept

theorem isHygienic_iff {code : List Item} : isHygienic code = true ↔ Hygienic code := by
  simp only [isHygienic, Hygienic, List.all_eq_true, Use.isKept_iff]

theorem isHygienic_append (code more : List Item) :
    isHygienic (code ++ more) = (isHygienic code && isHygienic more) := by
  rw [isHygienic, List.flatMap_append, List.all_append]
  rfl

end Code

/-! ## The code of a declaration -/

namespace Target

/-- The code of a type builds the type by `Self` wherever it has a type parameter. -/
theorem isHygienic_codeOf (t : Target) (params : Params) :
    isHygienic (Implementation.codeOf t params) = true := by
  cases params with
  | identifier => rfl
  | boundedText min max pattern => cases pattern <;> rfl
  | boundedInteger min max => rfl
  | boundedReal min max => rfl

/-- An adapter has no type parameters. -/
theorem isHygienic_adapter (t : Target) (kind : Kind) : isHygienic (t.adapter kind) = true := by
  cases kind <;> rfl

/-- To read a value, the type is built by its name, where the type parameter is in scope. -/
theorem isHygienic_serialization (t : Target) (kind : Kind) :
    isHygienic (t.serialization kind) = decide (t.name.name ≠ "D") := by
  -- All other paths are kept whatever the type is called.
  have built : isHygienic (t.serialization kind) =
      (([Ident.plain "D"].find? fun q => q.name == t.name.name).isNone && true) := by
    cases kind <;> rfl
  rw [built, Bool.and_true, List.find?_singleton]
  by_cases taken : t.name.name = "D"
  · simp [taken, Ident.plain]
  · simp [taken, Ident.plain, Ne.symm taken]

end Target

/-- Every path in the code of a declaration means what it is meant to, exactly if the type is not
called `D`. -/
theorem Declaration.hygienic_iff (o : Options) (d : Declaration) (params : Params) :
    Hygienic ((Implementation.ofDeclaration o d params).code ++
      (Adapter.ofDeclaration o d params).code) ↔ d.name.bare ≠ "D" := by
  have code : isHygienic ((Implementation.ofDeclaration o d params).code ++
      (Adapter.ofDeclaration o d params).code) = decide (d.name.bare ≠ "D") := by
    let t := Target.of d o
    calc isHygienic ((Implementation.ofDeclaration o d params).code ++
          (Adapter.ofDeclaration o d params).code)
      _ = (isHygienic (Implementation.codeOf t params) &&
          (isHygienic (t.serialization params.kind) && isHygienic (t.adapter params.kind))) := by
        rw [isHygienic_append, ← isHygienic_append (t.serialization params.kind)]
        rfl
      _ = decide (d.name.bare ≠ "D") := by
        rw [t.isHygienic_codeOf, t.isHygienic_serialization, t.isHygienic_adapter, Bool.true_and,
          Bool.and_true]
        rfl
  rw [← isHygienic_iff, code, decide_eq_true_iff]

/-- The code of an identifier that is called `D` is not hygienic. -/
theorem Module.identifierD_not_hygienic :
    let m := ofItems [.unitStruct [.directive .identifier] .everywhere "D"]
    let g := m.generate .default none
    g.cancelled = false ∧ g.diagnostics = [] ∧
      ∃ p ∈ g.products, p.declaration.name.bare = "D" ∧ ¬ Hygienic p.code := by
  intro m g
  refine ⟨rfl, rfl, _, List.mem_cons_self, rfl, fun hygienic => ?_⟩
  have kept : isHygienic _ = true := isHygienic_iff.2 hygienic
  revert kept
  decide

end DomainValues
