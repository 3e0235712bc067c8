import DomainValues.Code.Tokens
import DomainValues.Installation

/-!
# Parts of generated code

Generated code is searched for the constants and the functions of a name, for the calls of a
function, and for literals.  What stands in the tree of the code stands in its tokens, perhaps in
the brackets of groups (`Code.spelled_tokens`).
-/

namespace DomainValues

/-! ## Rows in tokens -/

/-- A row stands in tokens, or in the brackets of a group of them. -/
inductive Token.Within (row : List Token) : List Token → Prop where
  /-- The row is one of neighbours. -/
  | here {tokens : List Token} : row <:+: tokens → Within row tokens
  /-- The row stands in a group. -/
  | inside {d : Delimiter} {content tokens : List Token} {p q : Position} :
      .group d content p q ∈ tokens → Within row content → Within row tokens

namespace Token.Within

variable {row tokens before after : List Token}

theorem self : Within tokens tokens := .here (List.infix_refl tokens)

theorem trans {content : List Token} (h : Within row content) (inner : Within content tokens) :
    Within row tokens := by
  induction inner with
  | here part =>
      cases h with
      | here found => exact .here (found.trans part)
      | inside group found => exact .inside (part.subset group) found
  | inside group _ ih => exact .inside group ih

theorem left (h : Within row tokens) : Within row (tokens ++ after) :=
  h.trans (.here (List.prefix_append ..).isInfix)

theorem right (h : Within row tokens) : Within row (before ++ tokens) :=
  h.trans (.here (List.suffix_append ..).isInfix)

theorem group {d : Delimiter} (h : Within row tokens) : Within row [.inGroup d tokens] :=
  .inside List.mem_cons_self h

end Token.Within

namespace Code

/-! ## Parts -/

mutual

/-- An expression and all expressions in it. -/
def Expr.parts : Expr → List Expr
  | .wrapped e => .wrapped e :: e.parts
  | .call f arguments => .call f arguments :: (f.parts ++ exprParts arguments)
  | .method e name types arguments =>
      .method e name types arguments :: (e.parts ++ exprParts arguments)
  | .borrow e => .borrow e :: e.parts
  | .propagate e => .propagate e :: e.parts
  | .closure binder body => .closure binder body :: body.parts
  | .infixed operator left right => .infixed operator left right :: (left.parts ++ right.parts)
  | .array elements => .array elements :: exprParts elements
  | e => [e]

/-- Expressions and all expressions in them. -/
def exprParts : List Expr → List Expr
  | [] => []
  | e :: rest => e.parts ++ exprParts rest

end

/-- The expression of a statement, with the name of the static whose value it is. -/
def Statement.stated : Statement → Option String × Expr
  | .bind _ value => (none, value)
  | .perform action => (none, action)
  | .static name _ value => (some name, value)

/-- The expressions of a member that are in no other ones, with the names of the constants and the
statics whose values they are. -/
def Member.stated : Member → List (Option String × Expr)
  | .constant _ _ name _ value => [(some name, value)]
  | .alias .. => []
  | .function f =>
      f.body.statements.map Statement.stated ++ (f.body.value.map fun e => (none, e)).toList

/-- The expressions of an item that are in no other ones. -/
def Item.stated (item : Item) : List (Option String × Expr) := item.members.flatMap Member.stated

/-- All expressions in some code. -/
def partsOf (code : List Item) : List Expr :=
  (code.flatMap Item.stated).flatMap fun (_, e) => e.parts

/-! ## What code states -/

/-- The literal that an expression is. -/
def Expr.literal? : Expr → Option Literal
  | .literal l => some l
  | _ => none

/-- The literals in some code. -/
def literals (code : List Item) : List Literal := (partsOf code).filterMap Expr.literal?

/-- The texts in some code, apart from constants and statics that have a name. -/
def textsBeside (name : String) (code : List Item) : List String :=
  ((code.flatMap Item.stated).filter fun (stated, _) => stated ≠ some name).flatMap
    fun (_, e) => e.parts.filterMap Expr.text?

/-- Whether an item is an `impl` block of a trait with a name, or an inherent one. -/
def Item.isFor (trait : Option Ident) : Item → Bool
  | .implementation _ (some (.path _ segments _)) _ _ => trait.isSome && segments.getLast? == trait
  | .implementation _ none _ _ => trait.isNone
  | _ => false

/-- The values of the constants with a name, in the `impl` blocks of a trait or in the inherent
ones. -/
def constants (code : List Item) (trait : Option Ident) (name : String) : List Expr :=
  ((code.filter (Item.isFor trait)).flatMap Item.members).filterMap (Member.constant? name)

/-- The functions with a name, in the `impl` blocks of a trait or in the inherent ones. -/
def functions (code : List Item) (trait : Option Ident) (name : String) : List Function :=
  ((code.filter (Item.isFor trait)).flatMap Item.members).filterMap (Member.function? name)

/-- The arguments of the calls of a function. -/
def calls (code : List Item) (function : List Ident) : List (List Expr) :=
  (partsOf code).filterMap fun
    | .call (.path _ segments) arguments => if segments = function then some arguments else none
    | _ => none

/-- The arguments of the calls of a method of a variable. -/
def methodCalls (code : List Item) (receiver : Ident) (method : String) : List (List Expr) :=
  (partsOf code).filterMap fun
    | .method (.path (.variable found) []) name _ arguments =>
        if found = receiver ∧ name = method then some arguments else none
    | _ => none

/-! ## The tokens of parts -/

/-- After the first of some expressions stand the others, perhaps after a comma. -/
theorem exists_exprTokens_cons (e : Expr) (rest : List Expr) :
    ∃ comma, exprTokens (e :: rest) = e.tokens ++ (comma ++ exprTokens rest) := by
  cases rest with
  | nil => exact ⟨[], by simp [exprTokens]⟩
  | cons f rest => exact ⟨Token.symbol ",", by simp [exprTokens]⟩

/-- An expression is in its own tokens, so only other parts have to be looked for. -/
theorem within_of_mem_cons {part e : Expr} {others : List Expr} (found : part ∈ e :: others)
    (other : part ∈ others → Token.Within part.tokens e.tokens) :
    Token.Within part.tokens e.tokens := by
  rcases List.mem_cons.1 found with rfl | found
  · exact .self
  · exact other found

mutual

theorem Expr.within_of_mem_parts {part : Expr} : (e : Expr) → part ∈ e.parts →
    Token.Within part.tokens e.tokens
  | .wrapped e, found => within_of_mem_cons found fun found =>
      (Expr.within_of_mem_parts e found).left.left
  | .call f arguments, found => within_of_mem_cons found fun found => by
      rcases List.mem_append.1 found with found | found
      · exact (Expr.within_of_mem_parts f found).left
      · exact (within_of_mem_exprParts arguments found).group.right
  | .method e name types arguments, found => within_of_mem_cons found fun found => by
      rcases List.mem_append.1 found with found | found
      · exact (Expr.within_of_mem_parts e found).left.left.left.left
      · exact (within_of_mem_exprParts arguments found).group.right
  | .borrow e, found => within_of_mem_cons found fun found =>
      (Expr.within_of_mem_parts e found).right
  | .propagate e, found => within_of_mem_cons found fun found =>
      (Expr.within_of_mem_parts e found).left
  | .closure binder body, found => within_of_mem_cons found fun found =>
      (Expr.within_of_mem_parts body found).right
  | .infixed operator left right, found => within_of_mem_cons found fun found => by
      rcases List.mem_append.1 found with found | found
      · exact (Expr.within_of_mem_parts left found).left.left
      · exact (Expr.within_of_mem_parts right found).right
  | .array elements, found => within_of_mem_cons found fun found =>
      (within_of_mem_exprParts elements found).group
  | .path .., found | .qualified .., found | .receiver, found | .unit, found
  | .literal _, found => within_of_mem_cons found nofun

theorem within_of_mem_exprParts {part : Expr} : (row : List Expr) → part ∈ exprParts row →
    Token.Within part.tokens (exprTokens row)
  | e :: rest, found => by
      obtain ⟨comma, tokens⟩ := exists_exprTokens_cons e rest
      rw [tokens]
      rcases List.mem_append.1 found with found | found
      · exact (Expr.within_of_mem_parts e found).left
      · exact (within_of_mem_exprParts rest found).right.right

end

/-- A row in one of some parts is in all of them. -/
theorem within_flatMap {α : Type} {f : α → List Token} {a : α} {all : List α} {row : List Token}
    (listed : a ∈ all) (h : Token.Within row (f a)) : Token.Within row (all.flatMap f) := by
  obtain ⟨before, after, rfl⟩ := List.append_of_mem listed
  rw [List.flatMap_append, List.flatMap_cons]
  exact h.left.right

theorem Statement.within_stated (s : Statement) : Token.Within s.stated.2.tokens s.tokens := by
  cases s with
  | bind => exact .left (.right .self)
  | perform => exact .left .self
  | static => exact .left (.right .self)

/-- What a member states is in its tokens. -/
theorem Member.within_of_mem_stated {m : Member} {name : Option String} {e : Expr}
    (h : (name, e) ∈ m.stated) : Token.Within e.tokens m.tokens := by
  cases m with
  | constant =>
      obtain ⟨-, rfl⟩ := Prod.mk.inj (List.mem_singleton.1 h)
      exact .left (.right .self)
  | «alias» => cases h
  | function f =>
      refine .right (.group ?_)
      rcases List.mem_append.1 h with found | found
      · obtain ⟨s, listed, same⟩ := List.mem_map.1 found
        have inStatement := s.within_stated
        rw [same] at inStatement
        exact .left (within_flatMap listed inStatement)
      · obtain ⟨value, is, same⟩ := Option.map_eq_some_iff.1 (Option.mem_toList.1 found)
        obtain ⟨-, rfl⟩ := Prod.mk.inj same
        rw [is]
        exact .right .self

theorem Item.within_of_mem_members {item : Item} {m : Member} (h : m ∈ item.members) :
    Token.Within m.tokens item.tokens := by
  cases item with
  | struct => cases h
  | implementation => exact .right (.group (within_flatMap h .self))

/-- The members and the expressions of code stand in tokens. -/
structure Spelled (code : List Item) (tokens : List Token) : Prop where
  /-- The members do. -/
  members : ∀ item ∈ code, ∀ m ∈ item.members, Token.Within m.tokens tokens
  /-- The expressions do. -/
  parts : ∀ e ∈ partsOf code, Token.Within e.tokens tokens

theorem spelled_tokens (code : List Item) : Spelled code (code.flatMap Item.tokens) := by
  have members : ∀ item ∈ code, ∀ m ∈ item.members,
      Token.Within m.tokens (code.flatMap Item.tokens) :=
    fun item listed m member => within_flatMap listed (Item.within_of_mem_members member)
  refine ⟨members, fun part h => ?_⟩
  obtain ⟨⟨name, e⟩, stated, found⟩ := List.mem_flatMap.1 h
  obtain ⟨item, listed, stated⟩ := List.mem_flatMap.1 stated
  obtain ⟨m, member, stated⟩ := List.mem_flatMap.1 stated
  have inExpr := Expr.within_of_mem_parts e found
  have inMember := Member.within_of_mem_stated stated
  exact inExpr.trans (inMember.trans (members item listed m member))

end Code
end DomainValues
