import DomainValues.Generation
import DomainValues.Proofs.UnorderedCollisions

/-!
# Products without positions

Of what the user wrote, generated code has attributes and a visibility.  Tokens are *alike* if they
differ only in positions (`Token.Alike`), and so are the tokens of what is generated for a
declaration with and without positions.

Main statements: `product?_unplaced` and `refusal?_unplaced`.
-/

namespace DomainValues

/-! ## Tokens -/

namespace Token

mutual

theorem unplaced_unplaced : (t : Token) → t.unplaced.unplaced = t.unplaced
  | .word .. | .mark .. | .literal .. => by simp
  | .group d content p q => by
      rw [unplaced_group, unplaced_group, List.map_map, map_unplaced_unplaced content]

theorem map_unplaced_unplaced : (tokens : List Token) →
    tokens.map (unplaced ∘ unplaced) = tokens.map unplaced
  | [] => rfl
  | t :: rest => by
      rw [List.map_cons, List.map_cons, map_unplaced_unplaced rest, Function.comp_apply,
        unplaced_unplaced t]

end

/-- The same tokens, wherever they stand. -/
def Alike (s t : List Token) : Prop := s.map unplaced = t.map unplaced

theorem Alike.append {s s' t t' : List Token} (first : Alike s t) (second : Alike s' t') :
    Alike (s ++ s') (t ++ t') := by
  rw [Alike, List.map_append, List.map_append, first, second]

theorem Alike.refl (s : List Token) : Alike s s := rfl

theorem alike_unplaced (tokens : List Token) : Alike (tokens.map unplaced) tokens := by
  rw [Alike, List.map_map, map_unplaced_unplaced]

theorem Alike.group {s t : List Token} (same : Alike s t) (d : Delimiter) (p q p' q' : Position) :
    Alike [.group d s p q] [.group d t p' q'] := by
  rw [Alike, List.map_singleton, List.map_singleton, unplaced_group, unplaced_group, same]

end Token

open Token (Alike)

theorem NamePath.tokens_unplaced (p : NamePath) : Alike p.unplaced.tokens p.tokens := by
  have names (ns : List Name) : Alike (nameTokens (ns.map Name.unplaced)) (nameTokens ns) := by
    induction ns with
    | nil => rfl
    | cons n rest ih =>
        cases rest with
        | nil => simp [nameTokens, Alike, Token.ofName, Name.unplaced]
        | cons n' rest =>
            have name : Alike [Token.ofName n.unplaced] [Token.ofName n] := by
              simp [Alike, Token.ofName, Name.unplaced]
            exact (name.append (Alike.refl _)).append ih
  exact Alike.append (Alike.refl _) (names p.names)

theorem Attribute.tokens_unplaced (a : Attribute) : Alike a.unplaced.tokens a.tokens := by
  have arguments : Alike (argumentTokens a.arguments.unplaced) (argumentTokens a.arguments) := by
    cases a.arguments with
    | none => rfl
    | list d tokens p q => exact (Token.alike_unplaced tokens).group d _ _ _ _
    | value tokens => exact (Alike.refl _).append (Token.alike_unplaced tokens)
  have mark : Alike [.mark '#' false .start] [.mark '#' false a.position] := by simp [Alike]
  exact mark.append ((Alike.refl _).append
    ((a.path.tokens_unplaced.append arguments).group .bracket _ _ _ _))

theorem Attribute.tokensAll_unplaced (as : List Attribute) :
    Alike (tokensAll (as.map unplaced)) (tokensAll as) := by
  induction as with
  | nil => rfl
  | cons a rest ih => exact a.tokens_unplaced.append ih

theorem Visibility.tokens_unplaced (v : Visibility) : Alike v.unplaced.tokens v.tokens := by
  cases v with
  | inherited => rfl
  | everywhere => rfl
  | inside path spelled =>
      have inner : Alike ((if spelled then [.ofWord "in"] else []) ++ path.unplaced.tokens)
          ((if spelled then [.ofWord "in"] else []) ++ path.tokens) :=
        (Alike.refl _).append path.tokens_unplaced
      exact Alike.append (Alike.refl [.ofWord "pub"]) (inner.group .parenthesis _ _ _ _)

/-! ## Generated code -/

namespace Code

/-- An item without the positions of what the user wrote. -/
def Item.unplaced : Item → Item
  | .struct attributes doc derives visibility name field =>
      .struct (attributes.map Attribute.unplaced) doc derives visibility.unplaced name field
  | .implementation l trait type members => .implementation l trait type members

theorem Item.tokens_unplaced (item : Item) : Alike item.unplaced.tokens item.tokens := by
  cases item with
  | implementation l trait type members => rfl
  | struct attributes doc derives visibility name field =>
      refine Alike.append ?_ (Alike.refl _)
      refine Alike.append ?_ (Alike.refl _)
      refine Alike.append ?_ (Alike.refl _)
      refine Alike.append ?_ visibility.tokens_unplaced
      refine Alike.append ?_ (Alike.refl _)
      exact Alike.append (Attribute.tokensAll_unplaced attributes) (Alike.refl _)

theorem tokens_map_unplaced (code : List Item) :
    Alike ((code.map Item.unplaced).flatMap Item.tokens) (code.flatMap Item.tokens) := by
  induction code with
  | nil => rfl
  | cons item rest ih => exact item.tokens_unplaced.append ih

end Code

/-! ## Products -/

/-- What is generated for a type, apart from positions: its name, the names of the modules around
it, its kind, and the tokens. -/
def Implementation.output (i : Implementation) : Ident × List Ident × Kind × List Token :=
  (i.name.ident, i.scope.map Name.ident, i.kind, i.tokens.map Token.unplaced)

/-- What is generated for an adapter, apart from positions: its name, the name of the type, the
names of the modules around both, and the tokens. -/
def Adapter.output (a : Adapter) : Ident × Ident × List Ident × List Token :=
  (a.name, a.value.ident, a.scope.map Name.ident, a.tokens.map Token.unplaced)

/-- What is generated, apart from positions. -/
def Product.output (p : Product) :
    (Ident × List Ident × Kind × List Token) × (Ident × Ident × List Ident × List Token) :=
  (p.implementation.output, p.adapter.output)

variable (o : Options) (d : Declaration)

theorem Declaration.scope_unplaced : d.unplaced.scope.map Name.ident = d.scope.map Name.ident := by
  rw [Declaration.unplaced, List.map_map]
  rfl

theorem Implementation.codeOf_unplaced (params : Params) :
    codeOf (.of d.unplaced o) params = (codeOf (.of d o) params).map Code.Item.unplaced := by
  cases params <;> rfl

theorem Implementation.output_unplaced (params : Params) :
    (ofDeclaration o d.unplaced params).output = (ofDeclaration o d params).output := by
  have tokens : Alike (ofDeclaration o d.unplaced params).tokens
      (ofDeclaration o d params).tokens := by
    have code := Code.tokens_map_unplaced (codeOf (.of d o) params)
    rw [← codeOf_unplaced] at code
    exact code
  rw [output, output, tokens]
  exact congrArg (fun scope => (d.name.ident, scope, params.kind, _)) d.scope_unplaced

theorem Adapter.code_unplaced (params : Params) :
    (ofDeclaration o d.unplaced params).code =
      (ofDeclaration o d params).code.map Code.Item.unplaced := by
  cases params <;> rfl

theorem Adapter.output_unplaced (params : Params) :
    (ofDeclaration o d.unplaced params).output = (ofDeclaration o d params).output := by
  have tokens : Alike (ofDeclaration o d.unplaced params).tokens
      (ofDeclaration o d params).tokens := by
    have code := Code.tokens_map_unplaced (ofDeclaration o d params).code
    rw [← code_unplaced] at code
    exact code
  rw [output, output, tokens]
  exact congrArg (fun scope => (d.adapter, d.name.ident, scope, _)) d.scope_unplaced

theorem configured_unplaced :
    d.unplaced.configured =
      (d.unplaced, mapBoth ConfigurationError.unplaced id d.directive.params) := by
  rw [Declaration.configured]
  exact congrArg (d.unplaced, ·) d.directive.params_unplaced

/-- A declaration gives the same type and the same adapter without positions. -/
theorem product?_unplaced :
    (product? o d.unplaced.configured).map Product.output =
      (product? o d.configured).map Product.output := by
  rw [configured_unplaced, Declaration.configured]
  cases d.directive.params with
  | error e => rfl
  | ok params =>
      have implementation := Implementation.output_unplaced o d params
      have adapter := Adapter.output_unplaced o d params
      exact congrArg some (Prod.ext implementation adapter)

/-- A declaration is refused for the same reason without positions. -/
theorem refusal?_unplaced :
    (refusal? d.unplaced.configured).map Diagnostic.summary =
      (refusal? d.configured).map Diagnostic.summary := by
  rw [configured_unplaced, Declaration.configured]
  cases d.directive.params <;> rfl

end DomainValues
