import DomainValues.Proofs.CodeParts
import DomainValues.Proofs.RoundTrip

/-!
# Parsing with and without a reason

A text is parsed in two ways, one of which gives a reason where it fails.  They accept the same
texts and make the same values of them.  Both fail on a text that is no literal of the primitive
(`Params.IsLiteral`), and on a literal whose primitive does not meet the constraint; the reason
tells which.

Main statement: `Value.parsing_exact`, what both ways answer for every text.
-/

namespace DomainValues

open Code

/-- A text is parsed exactly by its literals. -/
structure ValueType.ParsesExactly (t : ValueType) (text : String) : Prop where
  /-- Without a reason comes what comes with one, but for the reason. -/
  agree : Value.ofText? t text = (Value.ofText t text).toOption
  /-- The text is a literal of one primitive at most. -/
  unique : ∀ x y, t.params.IsLiteral text x → t.params.IsLiteral text y → x = y
  /-- The text is malformed, as it stands, exactly if it is no literal. -/
  malformed : Value.ofText t text = .error (.malformed t.name text) ↔
    ∀ x, ¬t.params.IsLiteral text x
  /-- A literal gives what is made of its primitive, a violation included. -/
  literal : ∀ x, t.params.IsLiteral text x →
    Value.ofText t text = (Value.ofPrimitive t x).mapError .violation

/-- The values of a kind are exchanged as texts. -/
def Kind.IsTextual (k : Kind) : Prop := k = .identifier ∨ k = .boundedText

/-- The functions that parse in the code of a declaration call one another. -/
structure Declaration.SharesParsers (d : Declaration) (o : Options) (p : Params) : Prop where
  /-- The type has one function that parses without a reason. -/
  own : (functions (Implementation.ofDeclaration o d p).code none "try_parse").length = 1
  /-- The one of the trait calls it. -/
  trait : (functions (Implementation.ofDeclaration o d p).code (some "ValueType")
      "try_parse").map Function.body =
    [.ofExpr (.call (generatedItem d.name.ident "try_parse") [var "text"])]
  /-- The type has one function that parses with a reason. -/
  reasoned : (functions (Implementation.ofDeclaration o d p).code (some "FromStr")
    "from_str").length = 1
  /-- The adapter calls it on the text of a scalar, where values are exchanged as texts. -/
  adapter : p.kind.IsTextual →
    (functions (Adapter.ofDeclaration o d p).code (some "ScalarAdapter") "decode").map
        Function.body =
      [⟨[.bind "text" (.propagate (on (var "scalar") "require_text" [textOf d.name.bare]))],
        some (.call (.qualified (generatedType d.name.ident) (core ["str", "FromStr"] [])
          "from_str") [var "text"])⟩]

theorem Declaration.sharesParsers (d : Declaration) (o : Options) (p : Params) :
    d.SharesParsers o p := by
  cases p with
  | identifier => exact ⟨rfl, rfl, rfl, fun _ => rfl⟩
  | boundedText => exact ⟨rfl, rfl, rfl, fun _ => rfl⟩
  | boundedInteger => exact ⟨rfl, rfl, rfl, by simp [Kind.IsTextual, Params.kind]⟩
  | boundedReal => exact ⟨rfl, rfl, rfl, by simp [Kind.IsTextual, Params.kind]⟩

namespace Value

variable {t : ValueType} {text : String}

theorem parsesExactly (t : ValueType) (text : String) : t.ParsesExactly text := by
  have literal : ∀ x, t.params.IsLiteral text x →
      ofText t text = (ofPrimitive t x).mapError .violation := by
    intro x isLiteral
    rw [ofText, Params.read?_eq_some_iff.2 isLiteral]
  refine ⟨ofText?_eq_toOption t text, ?_, ⟨fun failed x isLiteral => ?_, fun none => ?_⟩, literal⟩
  · intro x y first second
    have read := Params.read?_eq_some_iff.2 first
    exact Option.some.inj (read.symm.trans (Params.read?_eq_some_iff.2 second))
  · -- What the constraint refuses is a violation.
    rw [literal x isLiteral] at failed
    cases made : ofPrimitive t x with
    | ok v =>
        rw [made] at failed
        cases failed
    | error violation =>
        rw [made] at failed
        cases failed
  · have unread : t.params.read? text = .none :=
      Option.eq_none_iff_forall_ne_some.2 fun x read => none x (Params.read?_eq_some_iff.1 read)
    rw [ofText, unread]

theorem ofPrimitive_of_not_finite {path name : String} {min max x : Binary64}
    (infinite : x.isFinite = false) :
    ofPrimitive ⟨path, name, .boundedReal min max⟩ x = .error ⟨name, .notFinite x⟩ := by
  have refused : Constraint.real name x min max = .error ⟨name, .notFinite x⟩ := by
    rw [Constraint.real, infinite]
    rfl
  rw [ofPrimitive, Params.check, refused]
  rfl

/-- Every text is parsed exactly by its literals.  All texts are literals of texts, and a literal of
a real that is not finite is refused for that.  Where values are exchanged as texts, the adapter
parses with a reason. -/
theorem parsing_exact :
    (∀ (t : ValueType) (text : String), t.ParsesExactly text) ∧
    (∀ (t : ValueType) (text : String), t.kind = .boundedText → ∃ x, t.params.IsLiteral text x) ∧
    (∀ (path name text : String) (min max x : Binary64),
      Params.IsLiteral (.boundedReal min max) text x → x.isFinite = false →
      ofText ⟨path, name, .boundedReal min max⟩ text = .error (.violation ⟨name, .notFinite x⟩)) ∧
    (∀ (text : String) (min max : Binary64) (word : List Char),
      Text.Padded Text.Blank word text.toList → IsRealWord word →
      ∃ x, Params.IsLiteral (.boundedReal min max) text x ∧ x.isFinite = false) ∧
    (∀ (t : ValueType) (text : String), t.kind.IsTextual →
      (ScalarAdapter.standard t).decode (.text text) = ofText t text) ∧
    ∀ (d : Declaration) (o : Options) (p : Params), d.SharesParsers o p := by
  refine ⟨parsesExactly, ?_, ?_, ?_, ?_, Declaration.sharesParsers⟩
  · rintro ⟨path, name, params⟩ text isText
    cases params with
    | boundedText => exact ⟨text, rfl⟩
    | identifier | boundedInteger | boundedReal => cases isText
  · intro path name text min max x isLiteral infinite
    rw [(parsesExactly ⟨path, name, .boundedReal min max⟩ text).literal x isLiteral,
      ofPrimitive_of_not_finite infinite]
    rfl
  · intro text min max word padded isWord
    obtain ⟨x, literal, infinite⟩ := isWord.exists_literal
    exact ⟨x, ⟨word, padded, literal⟩, infinite⟩
  · rintro ⟨path, name, params⟩ text textual
    cases params with
    | identifier | boundedText => rfl
    | boundedInteger | boundedReal => simp [Kind.IsTextual, ValueType.kind, Params.kind] at textual

end Value
end DomainValues
