import DomainValues.Source.Rule

/-!
# The grammar of the parts that pass through

Most of a module passes through unread: types, expressions, patterns, statements, and the
details of most items.  The rules here say where such parts end and give them their uniform
form.  What a pass has to know of an item, its attributes, its visibility, the names it
introduces, is read elsewhere.

In uniform form, brackets of parameters and the words `where` and `:` are left out where nothing
stands in them.
-/

namespace DomainValues.Source

/-- The productions that refer to themselves or to one another. -/
inductive Production where
  /-- An attribute, outer or inner. -/
  | attribute (inner : Bool)
  /-- The brackets of generic arguments with what is in them. -/
  | arguments
  /-- A type.  The flag admits more bounds after a plus sign. -/
  | type (plus : Bool)
  /-- A bound of a type. -/
  | bound
  /-- The brackets of generic parameters, or nothing. -/
  | generics
  /-- A pattern without alternatives at its top. -/
  | pattern
  /-- An expression.  The flag admits struct literals. -/
  | expression (structs : Bool)
  /-- An expression up to its first infix operator. -/
  | operand (structs : Bool)
  /-- The statements of a block. -/
  | statements
  /-- What an import names.  The flag admits `::` in front of what stands in braces. -/
  | importTree (roots : Bool)
  /-- An item. -/
  | item
  deriving DecidableEq

namespace Grammar

open Rule

/-- A rule of this grammar. -/
abbrev Part := Rule Production

/-- A keyword. -/
abbrev kw (name : String) : Part := word name

/-- A comma-separated list in parentheses. -/
def inParentheses (r : Part) : Part := group .parenthesis r

/-- Any group, as it is. -/
def anyGroup : Part :=
  alt [group .parenthesis anything, group .bracket anything, group .brace anything]

/-- A literal of any form. -/
def anyLiteral : Part := literal fun _ => true

/-- A text in double quotes. -/
def textLiteral : Part :=
  literal fun cs => cs.head? = some '"' || cs.take 2 = ['r', '"'] || cs.take 2 = ['r', '#']

/-- Attributes. -/
def outerAttributes : Part := many (call (.attribute false))

/-- Attributes at the start of a body. -/
def innerAttributes : Part := many (call (.attribute true))

/-- A type. -/
def type : Part := call (.type true)

/-- A type that ends before a plus sign. -/
def plainType : Part := call (.type false)

/-- An expression. -/
def expression : Part := call (.expression true)

/-! ## Paths -/

/-- A segment of a path that is not followed by arguments. -/
def segment : Part := alt [ident, kw "super", kw "self", kw "Self", kw "crate", kw "try"]

/-- A segment of a path of names. -/
def nameSegment : Part := alt [ident, kw "super", kw "self", kw "Self", kw "crate"]

/-- A path of names only. -/
def namePath : Part := seq [opt (op "::"), joined (op "::") nameSegment]

/-- Arguments in parentheses with the type of the result. -/
def callArguments : Part :=
  seq [inParentheses (list type), opt (both (op "->") plainType)]

/-- A segment in a type, with its arguments. -/
def typeSegment : Part :=
  both segment (opt (alt [
    both (opt (both (op "::") (ahead (op "<")))) (both (absent (op "<=")) (call .arguments)),
    both (omitted (opt (both (op "::") (ahead (group .parenthesis anything))))) callArguments]))

/-- Generic arguments in angle brackets, with or without the colons before them. -/
def angleArguments : Part :=
  either (seq [op "::", ahead (op "<"), call .arguments])
    (both (absent (op "<=")) (call .arguments))

/-- A segment whose arguments, if it has any, are in angle brackets. -/
def angleSegment : Part :=
  alt [kw "super", kw "self", kw "crate", kw "try",
    both (either ident (kw "Self")) (opt angleArguments)]

/-- A segment in an expression, whose arguments need the colons. -/
def expressionSegment : Part :=
  both segment (opt (seq [op "::", ahead (op "<"), call .arguments]))

/-- The type in front of a qualified path, with its trait. -/
def qualifier (segment : Part) : Part :=
  seq [op "<", type, opt (both (kw "as") (seq [opt (op "::"), joined (op "::") segment])), op ">"]

/-- A path of segments of one form, qualified or not. -/
def pathOf (segment : Part) : Part :=
  alt [seq [qualifier typeSegment, op "::", joined (op "::") segment],
    seq [opt (op "::"), joined (op "::") segment]]

/-- A path in a type. -/
def typePath : Part := pathOf typeSegment

/-- A path in an expression. -/
def expressionPath : Part := pathOf expressionSegment

/-! ## Types -/

/-- The lifetimes that a bound or a function type is general in. -/
def forLifetimes : Part := seq [kw "for", op "<", list lifetime, op ">"]

/-- The convention by which a function is called. -/
def convention : Part := both (kw "extern") (opt textLiteral)

/-- Bounds joined by plus signs. -/
def bounds : Part := seq [call .bound, many (both (op "+") (call .bound)), opt (op "+")]

/-- A colon with bounds, left out without any. -/
def optionalBounds : Part := opt (either (both (op ":") bounds) (omitted (op ":")))

/-- A parameter of a function type. -/
def functionTypeParameter : Part :=
  seq [outerAttributes,
    opt (seq [either ident (kw "_"), absent (op "::"), op ":"]),
    either (op "...") type]

/-- The type of a function. -/
def functionType : Part :=
  seq [opt (kw "unsafe"), opt convention, kw "fn", inParentheses (list functionTypeParameter),
    opt (both (op "->") plainType)]

/-- A type, apart from more bounds after it. -/
def simpleType : Part :=
  alt [
    seq [opt forLifetimes, functionType],
    both forLifetimes typePath,
    inParentheses (list type),
    group .bracket (both type (opt (both (op ";") expression))),
    seq [op "*", either (kw "const") (kw "mut"), plainType],
    seq [op "&", opt lifetime, opt (kw "mut"), plainType],
    both (op "!") (absent (op "=")),
    both (kw "dyn") bounds,
    both (kw "impl") bounds,
    kw "_",
    seq [namePath, op "!", absent (op "="), anyGroup],
    typePath,
    lifetime,
    both (op "?") typePath]

/-- A bound. -/
def bound : Part :=
  alt [
    lifetime,
    seq [kw "use", op "<", list (either lifetime (either ident (kw "Self"))), op ">"],
    inParentheses (call .bound),
    seq [opt forLifetimes, opt (both (op "~") (kw "const")), opt (op "?"), opt forLifetimes,
      typePath]]

/-- An argument in the brackets of generic arguments. -/
def genericArgument : Part :=
  alt [
    both lifetime (absent (op "+")),
    both (opt (op "-")) anyLiteral,
    kw "true", kw "false",
    group .brace (call .statements),
    both type (opt (alt [
      both (op "=") (alt [both (opt (op "-")) anyLiteral, group .brace (call .statements), type]),
      seq [absent (op "::"), op ":", bounds]]))]

/-- A generic parameter. -/
def genericParameter : Part :=
  both outerAttributes (alt [
    both lifetime (opt (either
      (both (op ":") (seq [lifetime, many (both (op "+") lifetime), opt (op "+")]))
      (omitted (op ":")))),
    seq [kw "const", ident, op ":", type,
      opt (both (op "=") (alt [both (opt (op "-")) anyLiteral, group .brace (call .statements),
        type]))],
    seq [ident, optionalBounds, opt (both (op "=") type)]])

/-- A condition of a `where` clause. -/
def wherePredicate : Part :=
  alt [
    both lifetime (either (seq [op ":", lifetime, many (both (op "+") lifetime), opt (op "+")])
      (op ":")),
    seq [opt forLifetimes, type, either (both (op ":") bounds) (op ":")]]

/-- A `where` clause, left out without conditions. -/
def whereClause : Part :=
  opt (either
    (seq [kw "where", wherePredicate, many (both (op ",") wherePredicate), opt (op ",")])
    (omitted (kw "where")))

/-! ## Patterns -/

/-- A pattern with alternatives. -/
def patterns : Part := seq [opt (both (op "|") (absent (op "|"))), joined (op "|") (call .pattern)]

/-- A pattern of one field. -/
def fieldPattern : Part :=
  both outerAttributes (alt [
    op "..",
    seq [either ident anyLiteral, absent (op "::"), op ":", patterns],
    seq [opt (kw "box"), opt (kw "ref"), opt (kw "mut"), ident]])

/-- An end of a range of patterns. -/
def rangeEnd : Part :=
  alt [both (opt (op "-")) anyLiteral, group .brace (call .statements), expressionPath]

/-- The marks of a range. -/
def rangeMarks : Part := alt [op "..=", op "...", op ".."]

/-- A pattern. -/
def pattern : Part :=
  alt [
    kw "_",
    kw "true", kw "false",
    both (kw "const") (group .brace (call .statements)),
    seq [both (opt (op "-")) anyLiteral, opt (both rangeMarks (opt rangeEnd))],
    seq [op "&", opt (kw "mut"), call .pattern],
    inParentheses (list patterns),
    group .bracket (list patterns),
    seq [kw "box", call .pattern],
    seq [either (both (kw "ref") (opt (kw "mut"))) (kw "mut"), either ident (kw "self"),
      opt (seq [op "@", call .pattern])],
    seq [namePath, op "!", absent (op "="), anyGroup],
    seq [ident, op "@", call .pattern],
    both expressionPath (opt (alt [
      inParentheses (list patterns),
      group .brace (list fieldPattern),
      both rangeMarks (opt rangeEnd)])),
    both rangeMarks (opt rangeEnd)]

/-! ## Expressions -/

/-- A block. -/
def block : Part := group .brace (both innerAttributes (call .statements))

/-- The name of a loop or a block. -/
def label : Part := both lifetime (op ":")

/-- A condition, which admits no struct literals. -/
def condition : Part := call (.expression false)

/-- A conditional expression, whose alternative may be another. -/
def conditional : Part :=
  seq [kw "if", condition, block,
    many (seq [kw "else", kw "if", condition, block]),
    opt (both (kw "else") block)]

/-- An arm of a `match`. -/
def arm : Part :=
  seq [outerAttributes, patterns, opt (both (kw "if") expression), op "=>",
    alt [both block (either (op ",") (both (absent (alt [op ".", op "?"])) empty)),
      both expression (either (op ",") finish)]]

/-- An expression that ends in a block, and so needs no semicolon. -/
def blockLike : Part :=
  alt [
    conditional,
    seq [opt label, kw "while", condition, block],
    seq [opt label, kw "for", patterns, kw "in", condition, block],
    seq [opt label, kw "loop", block],
    seq [kw "match", condition, group .brace (both innerAttributes (many arm))],
    seq [kw "unsafe", block],
    seq [kw "const", block],
    seq [kw "async", opt (kw "move"), block],
    seq [kw "try", block],
    seq [opt label, block]]

/-- A parameter of a closure. -/
def closureParameter : Part :=
  seq [outerAttributes, call .pattern, opt (seq [absent (op "::"), op ":", type])]

/-- A closure.  The flag admits struct literals in its body. -/
def closure (structs : Bool) : Part :=
  seq [opt forLifetimes, opt (kw "const"), opt (kw "static"), opt (kw "async"), opt (kw "move"),
    op "|", opt (seq [closureParameter, many (both (op ",") closureParameter), opt (op ",")]),
    op "|",
    either (seq [op "->", plainType, block]) (call (.expression structs))]

/-- A field of a struct literal. -/
def fieldValue : Part :=
  both outerAttributes (either
    (seq [either ident anyLiteral, absent (op "::"), op ":", expression]) ident)

/-- The braces of a struct literal. -/
def structBody : Part :=
  group .brace (seq [
    many (seq [fieldValue, either (op ",") (ahead (either finish (op "..")))]),
    opt (both (op "..") (opt expression))])

/-- What an expression may start with, apart from prefix operators.  The flag admits struct
literals. -/
def primary (structs : Bool) : Part :=
  alt [
    anyLiteral,
    kw "true", kw "false",
    closure structs,
    blockLike,
    seq [kw "return", opt (call (.expression structs))],
    seq [kw "break", opt (both lifetime (absent (op ":"))), opt (call (.expression structs))],
    seq [kw "continue", opt lifetime],
    seq [kw "yield", opt (call (.expression structs))],
    seq [kw "let", patterns, op "=", call (.operand false)],
    kw "_",
    inParentheses (list expression),
    group .bracket (either (seq [expression, op ";", expression]) (list expression)),
    seq [namePath, op "!", absent (op "="), anyGroup],
    both expressionPath (if structs then opt structBody else empty)]

/-- What may follow an operand without an infix operator. -/
def operandRest : Part :=
  alt [
    op "?",
    inParentheses (list expression),
    group .bracket expression,
    seq [op ".", absent (op "."), kw "await"],
    seq [op ".", absent (op "."), ident,
      opt (both (op "::") (call .arguments)), opt (inParentheses (list expression))],
    seq [op ".", absent (op "."), anyLiteral]]

/-- The operators that stand between operands, longer ones first. -/
def binaryOperators : Part :=
  alt (["<<=", ">>=", "+=", "-=", "*=", "/=", "%=", "^=", "&=", "|=", "==", "!=", "<=", ">=",
    "&&", "||", "<<", ">>", "+", "-", "*", "/", "%", "^", "&", "|", "<", ">"].map op)

/-- What follows the first operand of an expression.  The flag admits struct literals. -/
def operation (structs : Bool) : Part :=
  alt [
    both (kw "as") plainType,
    both (alt [op "..=", op ".."]) (opt (call (.operand structs))),
    seq [absent (op "=>"), either binaryOperators (op "="), call (.operand structs)]]

/-! ## Statements -/

/-- A statement that binds a pattern. -/
def letStatement : Part :=
  seq [outerAttributes, kw "let", patterns, opt (both (op ":") type),
    opt (seq [op "=", expression, opt (both (kw "else") block)]), op ";"]

/-- A macro call that stands as a statement in braces. -/
def macroStatement : Part :=
  seq [outerAttributes, namePath, op "!", absent (op "="), opt ident, group .brace anything,
    absent (alt [op ".", op "?"]), opt (op ";")]

/-- A statement. -/
def statement : Part :=
  alt [
    op ";",
    call .item,
    letStatement,
    macroStatement,
    seq [outerAttributes, blockLike, absent (alt [op ".", op "?"]), opt (op ";")],
    seq [outerAttributes, expression, either (op ";") finish]]

/-! ## Items -/

/-- The visibility of an item or a field. -/
def visibility : Part :=
  opt (both (kw "pub") (opt (alt [
    inParentheses (alt [kw "crate", kw "self", kw "super"]),
    inParentheses (both (kw "in") namePath)])))

/-- The receiver of a method. -/
def receiver : Part :=
  both (opt (both (op "&") (opt lifetime)))
    (seq [opt (kw "mut"), kw "self", opt (seq [absent (op "::"), op ":", type])])

/-- A parameter of a function. -/
def functionParameter : Part :=
  both outerAttributes (alt [
    op "...",
    both receiver (either (ahead (op ",")) finish),
    seq [call .pattern, op ":", either (op "...") type]])

/-- A function up to its body. -/
def signature : Part :=
  seq [opt (kw "const"), opt (kw "async"), opt (kw "unsafe"), opt convention, kw "fn", ident,
    call .generics, inParentheses (list functionParameter), opt (both (op "->") type), whereClause]

/-- The body of a function or an `impl` after its inner attributes. -/
def functionBody : Part := call .statements

/-- A named field. -/
def namedField : Part := seq [outerAttributes, visibility, ident, op ":", type]

/-- A field without a name. -/
def unnamedField : Part := seq [outerAttributes, visibility, type]

/-- A variant of an enum. -/
def variant : Part :=
  seq [outerAttributes, visibility, ident,
    opt (either (group .brace (list namedField)) (inParentheses (list unnamedField))),
    opt (both (op "=") expression)]

/-- The value of a constant, if any. -/
def optionalValue : Part := opt (both (op "=") expression)

/-- A constant, without its semicolon. -/
def constant : Part :=
  seq [kw "const", either ident (kw "_"), call .generics, op ":", type, optionalValue, whereClause]

/-- An alias of a type, without its semicolon. -/
def typeAlias : Part :=
  seq [kw "type", ident, call .generics, opt (both (op ":") (opt bounds)), whereClause,
    opt (both (op "=") type), whereClause]

/-- A macro call in an item position.  It ends in a semicolon unless it is in braces. -/
def macroCall : Part :=
  seq [namePath, op "!", opt (either ident (kw "try")),
    either (group .brace anything)
      (both (either (group .parenthesis anything) (group .bracket anything)) (op ";"))]

/-- A member of a trait or an `impl`. -/
def associatedItem : Part :=
  both outerAttributes (alt [
    seq [visibility, opt (kw "default"), signature,
      either (op ";") (group .brace (both innerAttributes functionBody))],
    seq [visibility, opt (kw "default"), constant, op ";"],
    seq [visibility, opt (kw "default"), typeAlias, op ";"],
    macroCall])

/-- A member of an `extern` block. -/
def externalItem : Part :=
  both outerAttributes (alt [
    seq [visibility, opt (kw "safe"), signature, op ";"],
    seq [visibility, opt (kw "unsafe"), opt (kw "safe"), kw "static", opt (kw "mut"), ident, op ":",
      type, op ";"],
    seq [visibility, typeAlias, op ";"],
    macroCall])

/-- A trait up to its body. -/
def traitHead : Part :=
  seq [opt (kw "unsafe"), opt (kw "auto"), kw "trait", ident, call .generics, optionalBounds,
    whereClause]

/-- An alias of bounds, without its semicolon. -/
def traitAlias : Part :=
  seq [kw "trait", ident, call .generics, op "=", opt bounds, whereClause]

/-- Generic parameters after `impl`, which a qualified path may look like. -/
def implGenerics : Part :=
  opt (both (ahead (seq [op "<", alt [
      op ">", op "#", both (either ident lifetime)
        (alt [both (absent (op "::")) (op ":"), op ",", op ">", op "="]), kw "const"]]))
    (call .generics))

/-- An `impl` up to its body. -/
def implHead : Part :=
  seq [opt (kw "default"), opt (kw "unsafe"), kw "impl", implGenerics, opt (op "!"),
    type, opt (both (kw "for") type), whereClause]

/-- The fields of a struct, with the `where` clause and the semicolon in their places. -/
def structBodyItem : Part :=
  alt [
    seq [inParentheses (list unnamedField), whereClause, op ";"],
    seq [whereClause, either (group .brace (list namedField)) (op ";")]]

/-- What an import names.  The flag admits `::` in front of what stands in braces, but not after
a path. -/
def importTree (roots : Bool) : Part :=
  alt [
    op "*",
    group .brace (list (if roots
      then either (both (op "::") (call (.importTree false))) (call (.importTree true))
      else call (.importTree false))),
    both (alt [ident, kw "super", kw "self", kw "crate", kw "try"])
      (opt (either (both (op "::") (call (.importTree false)))
        (both (kw "as") (either ident (kw "_")))))]

/-- A macro that is defined by a single rule. -/
def macroDefinition : Part :=
  seq [kw "macro", ident, opt (group .parenthesis anything), group .brace anything]

/-- An item in a body, where nothing is read from it. -/
def item : Part :=
  both outerAttributes (both visibility (alt [
    seq [signature, either (op ";") (group .brace (both innerAttributes functionBody))],
    seq [kw "extern", kw "crate", either ident (kw "self"),
      opt (both (kw "as") (either ident (kw "_"))), op ";"],
    seq [opt (kw "unsafe"), convention, group .brace (both innerAttributes (many externalItem))],
    seq [kw "use", opt (op "::"), call (.importTree false), op ";"],
    seq [kw "static", opt (kw "mut"), ident, opt (both (op ":") type), optionalValue, op ";"],
    seq [constant, op ";"],
    seq [opt (kw "unsafe"), kw "mod", ident,
      either (op ";") (group .brace (both innerAttributes (many (call .item))))],
    seq [typeAlias, op ";"],
    seq [kw "struct", ident, call .generics, structBodyItem],
    seq [kw "enum", ident, call .generics, whereClause, group .brace (list variant)],
    seq [kw "union", ident, call .generics, whereClause, group .brace (list namedField)],
    seq [traitHead, group .brace (both innerAttributes (many associatedItem))],
    seq [traitAlias, op ";"],
    seq [implHead, group .brace (both innerAttributes (many associatedItem))],
    verbatim macroDefinition,
    macroCall]))

/-! ## Productions -/

/-- The rule of each production. -/
def rules : Production → Part
  | .attribute inner =>
      seq [op "#", if inner then op "!" else empty,
        group .bracket (both (either (kw "unsafe") namePath)
          (opt (either anyGroup (both (op "=") expression))))]
  | .arguments => seq [op "<", list genericArgument, op ">"]
  | .type plus =>
      if plus then seq [simpleType, many (both (op "+") (call .bound)), opt (op "+")]
      else simpleType
  | .bound => bound
  | .generics =>
      opt (either (omitted (both (op "<") (op ">"))) (seq [op "<", list genericParameter, op ">"]))
  | .pattern => pattern
  | .expression structs =>
      either
        (both (alt [op "..=", op ".."]) (opt (call (.operand structs))))
        (both (call (.operand structs)) (many (operation structs)))
  | .operand structs =>
      seq [outerAttributes,
        alt [
          seq [op "&", kw "raw", either (kw "const") (kw "mut"), call (.operand structs)],
          seq [op "&", opt (kw "mut"), call (.operand structs)],
          seq [alt [op "*", op "!", op "-"], call (.operand structs)],
          both (primary structs) (many operandRest)]]
  | .statements => many statement
  | .importTree roots => importTree roots
  | .item => item

/-- Takes what a rule describes from the start of a row, in uniform form. -/
def take? (r : Part) (tokens : List Token) : Option (List Token × List Token) :=
  Rule.take? rules r tokens

end Grammar
end DomainValues.Source
