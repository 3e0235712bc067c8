import DomainValues.Code.Syntax
import DomainValues.Number.Text
import DomainValues.Text.Quoted

/-!
# The tokens of generated code

Each part of the tree is written as a row of tokens.  Numbers carry their type after their
digits and a minus sign is a token of its own.
-/

namespace DomainValues.Code

open Token

/-- An identifier. -/
def word (i : Ident) : Token := .word i .start

/-- Rows joined by a separator. -/
def joined (separator : List Token) : List (List Token) → List Token
  | [] => []
  | [row] => row
  | row :: rest => row ++ separator ++ joined separator rest

/-- Rows joined by commas. -/
def commas (rows : List (List Token)) : List Token := joined (symbol ",") rows

/-- Segments after the start of a path. -/
def segmentTokens (segments : List Ident) : List Token :=
  segments.flatMap fun i => symbol "::" ++ [word i]

/-- The start of a path. -/
def Origin.tokens : Origin → List Token
  | .crate name => symbol "::" ++ [word name]
  | .runtime path => path
  | .root => [ofWord "self"]
  | .self => [ofWord "Self"]
  | .generated name | .parameter name | .builtin name | .variable name => [word name]

mutual

/-- The tokens of a type. -/
def TypeExpr.tokens : TypeExpr → List Token
  | .path origin segments arguments =>
      origin.tokens ++ segmentTokens segments ++
        (if arguments.isEmpty then [] else symbol "<" ++ argumentTokens arguments ++ symbol ">")
  | .reference l mutable target =>
      symbol "&" ++ (l.map Token.lifetime).getD [] ++ (if mutable then [ofWord "mut"] else []) ++
        target.tokens
  | .slice element => [inGroup .bracket element.tokens]
  | .unit => [inGroup .parenthesis []]
  | .any bound => ofWord "impl" :: bound.tokens
  | .lifetime name => Token.lifetime name

/-- The tokens of generic arguments without their brackets. -/
def argumentTokens : List TypeExpr → List Token
  | [] => []
  | [t] => t.tokens
  | t :: u :: rest => t.tokens ++ symbol "," ++ argumentTokens (u :: rest)

end

/-- A digit text with its sign in front as a token of its own. -/
def signed (negative : Bool) (digits : String) : List Token :=
  (if negative then symbol "-" else []) ++ [.literal digits .start]

/-- The tokens of a literal. -/
def Literal.tokens : Literal → List Token
  | .length value => [.literal (toString value.toNat ++ "usize") .start]
  | .int32 value => signed (value.toInt < 0) (toString value.toInt.natAbs ++ "i32")
  | .real (.finite negative m) => signed negative (Layout.plain.text (.finite false m) ++ "f64")
  | .real value => [.literal (Layout.plain.text value ++ "f64") .start]
  | .decimal written => [.literal written .start]
  | .text value => [.literal (Text.literal value) .start]

/-- The tokens of the parameters of a closure. -/
def Binder.tokens : Binder → List Token
  | .nothing => symbol "||"
  | .unit => symbol "|" ++ [inGroup .parenthesis []] ++ symbol "|"
  | .ignored => symbol "|" ++ [ofWord "_"] ++ symbol "|"
  | .named name => symbol "|" ++ [ofWord name] ++ symbol "|"

/-- Closing brackets of generic arguments in a row: the first is joint. -/
def closeTwice : List Token → List Token
  | [] => symbol ">"
  | [.mark '>' _ p] => [.mark '>' true p] ++ symbol ">"
  | t :: rest => t :: closeTwice rest

mutual

/-- The tokens of an expression. -/
def Expr.tokens : Expr → List Token
  | .path origin segments => origin.tokens ++ segmentTokens segments
  | .qualified type trait name =>
      symbol "<" ++ type.tokens ++ [ofWord "as"] ++ closeTwice trait.tokens ++ symbol "::" ++
        [ofWord name]
  | .receiver => [ofWord "self"]
  | .unit => [inGroup .parenthesis []]
  | .literal value => value.tokens
  | .wrapped e => e.tokens ++ symbol "." ++ [.literal "0" .start]
  | .call f arguments => f.tokens ++ [inGroup .parenthesis (exprTokens arguments)]
  | .method e name types arguments =>
      e.tokens ++ symbol "." ++ [ofWord name] ++
        (if types.isEmpty then []
          else symbol "::" ++ symbol "<" ++ argumentTokens types ++ symbol ">") ++
        [inGroup .parenthesis (exprTokens arguments)]
  | .borrow e => symbol "&" ++ e.tokens
  | .propagate e => e.tokens ++ symbol "?"
  | .closure binder body => binder.tokens ++ body.tokens
  | .infixed operator left right => left.tokens ++ symbol operator ++ right.tokens
  | .array elements => [inGroup .bracket (exprTokens elements)]

/-- The tokens of expressions, separated by commas. -/
def exprTokens : List Expr → List Token
  | [] => []
  | [e] => e.tokens
  | e :: f :: rest => e.tokens ++ symbol "," ++ exprTokens (f :: rest)

end

/-- The tokens of a statement. -/
def Statement.tokens : Statement → List Token
  | .bind name value => ofWord "let" :: ofWord name :: symbol "=" ++ value.tokens ++ symbol ";"
  | .perform action => action.tokens ++ symbol ";"
  | .static name type value =>
      ofWord "static" :: ofWord name :: symbol ":" ++ type.tokens ++ symbol "=" ++ value.tokens ++
        symbol ";"

/-- The tokens of a block, in its braces. -/
def Block.tokens (b : Block) : Token :=
  inGroup .brace (b.statements.flatMap Statement.tokens ++ (b.value.map Expr.tokens).getD [])

/-- An attribute. -/
def bracketed (content : List Token) : List Token := symbol "#" ++ [inGroup .bracket content]

/-- Documentation that is written raw. -/
def rawDoc (text : String) : List Token :=
  bracketed (ofWord "doc" :: symbol "=" ++ [.literal ("r\" " ++ text ++ "\"") .start])

/-- Documentation, if there is any. -/
def docTokens (doc : Option String) : List Token := (doc.map rawDoc).getD []

/-- A word that stands there or not. -/
def wordIf (condition : Bool) (name : String) : List Token :=
  if condition then [ofWord name] else []

/-- A bound after the name of what it bounds. -/
def TypeParameter.tokens (p : TypeParameter) : List Token :=
  word p.name :: symbol ":" ++ p.bound.tokens

/-- The type parameter of a function, in its brackets. -/
def parameterTokens : Option TypeParameter → List Token
  | none => []
  | some p => symbol "<" ++ (if p.deferred then [word p.name] else p.tokens) ++ symbol ">"

/-- The `where` clause of a function. -/
def conditionTokens : Option TypeParameter → List Token
  | none => []
  | some p => if p.deferred then ofWord "where" :: p.tokens ++ symbol "," else []

/-- The receiver of a function. -/
def Receiver.rows : Receiver → List (List Token)
  | .absent => []
  | .owned => [[ofWord "self"]]
  | .shared => [symbol "&" ++ [ofWord "self"]]

/-- The tokens of a function. -/
def Function.tokens (f : Function) : List Token :=
  let parameters := f.receiver.rows ++ f.arguments.map fun (name, type) =>
    ofWord name :: symbol ":" ++ type.tokens
  docTokens f.doc ++ wordIf f.isPublic "pub" ++ wordIf f.isConst "const" ++
    [ofWord "fn", ofWord f.name] ++ parameterTokens f.parameter ++
    [inGroup .parenthesis (commas parameters ++ if f.trailing then symbol "," else [])] ++
    (f.result.map fun type => symbol "->" ++ type.tokens).getD [] ++
    conditionTokens f.parameter ++ [f.body.tokens]

/-- The tokens of a member. -/
def Member.tokens : Member → List Token
  | .constant doc isPublic name type value =>
      docTokens doc ++ wordIf isPublic "pub" ++ [ofWord "const", ofWord name] ++ symbol ":" ++
        type.tokens ++ symbol "=" ++ value.tokens ++ symbol ";"
  | .alias name type => [ofWord "type", ofWord name] ++ symbol "=" ++ type.tokens ++ symbol ";"
  | .function f => f.tokens

/-- The tokens of documentation. -/
def Doc.tokens : Doc → List Token
  | .nothing => []
  | .fixed text => rawDoc text
  | .composed text =>
      bracketed (ofWord "doc" :: symbol "=" ++ [.literal (Text.literal (" " ++ text)) .start])

/-- The tokens of an item. -/
def Item.tokens : Item → List Token
  | .struct attributes doc derives visibility name field =>
      Attribute.tokensAll attributes ++ doc.tokens ++
        bracketed
            [ofWord "derive", inGroup .parenthesis (commas (derives.map fun d => [ofWord d]))] ++
        visibility.tokens ++ [ofWord "struct", word name] ++
        (field.map fun type => [inGroup .parenthesis type.tokens]).getD [] ++ symbol ";"
  | .implementation l trait type members =>
      bracketed (if trait.isSome then [ofWord "automatically_derived"]
        else [ofWord "allow", inGroup .parenthesis [ofWord "dead_code"]]) ++
        [ofWord "impl"] ++
        (l.map fun name => symbol "<" ++ lifetime name ++ symbol ">").getD [] ++
        (trait.map fun t => t.tokens ++ [ofWord "for"]).getD [] ++ type.tokens ++
        [inGroup .brace (members.flatMap Member.tokens)]

end DomainValues.Code
