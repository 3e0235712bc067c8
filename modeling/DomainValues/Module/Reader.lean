import DomainValues.Module.Item
import DomainValues.Source.Lexer

/-!
# Reading items

Items are told apart by their keywords.  Modules and structs are read into their parts.  Of every
other sort there is a form: the rule for its head, the rule for its body, and what in them the item
names.  What fits none of these may fit one of the forms that pass through verbatim: declarations
without a value or a body, and what only some compilers take.
-/

namespace DomainValues

open Source Source.Grammar Source.Rule

/-! ## Names in tokens -/

/-- The name after the first of some keywords, leaving out `mut`. -/
def nameAfter? (keywords : List String) : List Token → Option Name
  | .word i _ :: rest =>
      if !i.raw && keywords.contains i.name then
        match rest with
        | .word j q :: after =>
            if j = .plain "mut" then
              match after with
              | .word k r :: _ => some ⟨k, r⟩
              | _ => none
            else some ⟨j, q⟩
        | _ => none
      else nameAfter? keywords rest
  | _ :: rest => nameAfter? keywords rest
  | [] => none

/-- The parts of a row between the marks of a character. -/
def splitMarks (separator : Char) : List Token → List (List Token)
  | [] => [[]]
  | t :: rest =>
      let isSeparator := match t with
        | .mark c _ _ => c == separator
        | _ => false
      match splitMarks separator rest with
      | part :: parts => if isSeparator then [] :: part :: parts else (t :: part) :: parts
      | [] => [[t]]

/-- Reads what an import names.  The fuel bounds the tokens. -/
def readImportTree? : (fuel : Nat) → List Token → Option ImportTree
  | 0, _ => none
  | fuel + 1, tokens => match tokens with
      | .mark ':' _ _ :: .mark ':' _ _ :: rest => readImportTree? fuel rest
      | [.word i p] => some (.item ⟨i, p⟩)
      | [.word i p, .word _ _, .word j q] => some (.renamed ⟨i, p⟩ ⟨j, q⟩)
      | .word i p :: .mark ':' _ _ :: .mark ':' _ _ :: rest =>
          (readImportTree? fuel rest).map (.path ⟨i, p⟩)
      | [.mark '*' _ _] => some .everything
      | [.group _ content _ _] =>
          let parts := (splitMarks ',' content).filter fun part => !part.isEmpty
          (parts.mapM (readImportTree? fuel)).map .group
      | _ => none

/-- Reads what a `use` item names. -/
def readImport? (tokens : List Token) : Option ImportTree :=
  let tree := (tokens.dropWhile fun
    | .word i _ => i != .plain "use"
    | _ => true).drop 1
  readImportTree? (Token.sizes tree) tree.dropLast

/-- The names of the functions, statics and types in the body of an `extern` block. -/
def memberNames (body : List Token) : List Name :=
  (splitMarks ';' body).filterMap (nameAfter? ["fn", "static", "type"])

/-! ## Forms of items -/

/-- The form of a sort of items. -/
structure Form where
  /-- The rule for what precedes the body. -/
  head : Part
  /-- The rule for what follows the inner attributes in the body, if there is a body. -/
  body : Option Part
  /-- The sort with what it names, read from the head and the body. -/
  kind : List Token → List Token → Option ItemKind

/-- A sort that has the name after a keyword. -/
def named (keyword : String) (kind : Name → ItemKind) (head _body : List Token) : Option ItemKind :=
  (nameAfter? [keyword] head).map kind

/-- A path that is not qualified. -/
def traitPath : Part := seq [opt (op "::"), joined (op "::") typeSegment]

/-- The forms of items, which are tried in this order. -/
def forms : List Form :=
  [{ head := both visibility signature
     body := some functionBody
     kind := named "fn" .function },
   { head := seq [visibility, kw "extern", kw "crate", either ident (kw "self"),
       opt (both (kw "as") (either ident (kw "_"))), op ";"]
     body := none
     kind := fun head _ => (nameAfter? ["crate"] head).map fun name =>
       .externCrate name (nameAfter? ["as"] head) },
   { head := both (opt (kw "unsafe")) convention
     body := some (many externalItem)
     kind := fun _ body => some (.externBlock (memberNames body)) },
   { head := seq [visibility, kw "use", opt (op "::"), call (.importTree false), op ";"]
     body := none
     kind := fun head _ => (readImport? head).map .import },
   { head := seq [visibility, kw "static", opt (kw "mut"), ident, op ":", type, op "=", expression,
       op ";"]
     body := none
     kind := named "static" .static },
   { head := seq [visibility, kw "const", either ident (kw "_"), op ":", type, op "=", expression,
       op ";"]
     body := none
     kind := named "const" .constant },
   { head := seq [visibility, opt (kw "unsafe"), kw "mod", ident, op ";"]
     body := none
     kind := named "mod" .declaredModule },
   { head := seq [visibility, kw "type", ident, call .generics, whereClause, op "=", type, op ";"]
     body := none
     kind := named "type" .typeAlias },
   { head := seq [visibility, kw "enum", ident, call .generics, whereClause,
       group .brace (list variant)]
     body := none
     kind := named "enum" .enumeration },
   { head := seq [visibility, kw "union", ident, call .generics, whereClause,
       group .brace (list namedField)]
     body := none
     kind := named "union" .union },
   { head := both visibility traitHead
     body := some (many associatedItem)
     kind := named "trait" .trait },
   { head := seq [visibility, traitAlias, op ";"]
     body := none
     kind := named "trait" .traitAlias },
   { head := seq [opt (kw "default"), opt (kw "unsafe"), kw "impl", implGenerics, opt (op "!"),
       either (seq [traitPath, kw "for", type]) (both type (absent (kw "for"))), whereClause]
     body := some (many associatedItem)
     kind := fun _ _ => some .implementation },
   { head := macroCall
     body := none
     kind := fun _ _ => some .macroCall }]

/-- What passes through verbatim. -/
def unreadItem : Part :=
  both visibility (alt [
    both signature (op ";"),
    seq [kw "use", call (.importTree true), op ";"],
    seq [kw "static", opt (kw "mut"), ident, either (both (op "=") expression)
      (both (op ":") type), op ";"],
    both constant (op ";"),
    seq [kw "type", ident, call .generics, opt (both (op ":") (opt bounds)), whereClause,
      opt (both (op "=") type), op ";"],
    seq [opt (kw "default"), opt (kw "unsafe"), kw "impl", implGenerics,
      opt (both (opt (op "?")) (kw "const")), opt (op "!"), type, opt (both (kw "for") type),
      whereClause, group .brace (both innerAttributes (many associatedItem))],
    macroDefinition])

/-! ## Reading -/

/-- Reads an item of a form, after its outer attributes. -/
def Form.read? (form : Form) (attributes : List Attribute) (tokens : List Token) :
    Option (PlainItem × List Token) := do
  let (head, rest) ← Grammar.take? form.head tokens
  match form.body with
  | none => do
      let kind ← form.kind head []
      pure (⟨kind, attributes, head, none⟩, rest)
  | some rule =>
      let .group .brace content _ _ :: rest := rest | none
      let (inner, content) ← Attribute.readInner? content
      let (body, []) ← Grammar.take? rule content | none
      let kind ← form.kind head body
      pure (⟨kind, attributes ++ inner, head, some body⟩, rest)

/-- Reads a `where` clause, if there is one. -/
def readCondition (tokens : List Token) : Option (List Token) × List Token :=
  match tokens, Grammar.take? whereClause tokens with
  | .word i _ :: _, some (condition, rest) =>
      if i = .plain "where" then (some condition, rest) else (none, tokens)
  | _, _ => (none, tokens)

/-- Reads the fields of a struct and its `where` clause, on either side of them. -/
def readFields? (tokens : List Token) : Option (Option (List Token) × Fields × List Token) :=
  match tokens with
  | .group .parenthesis content opens closes :: rest => do
      let (content, []) ← Grammar.take? (list unnamedField) content | none
      let (condition, rest) := readCondition rest
      let (_, rest) ← Grammar.take? (op ";") rest
      pure (condition, .unnamed content opens closes, rest)
  | _ =>
      let (condition, rest) := readCondition tokens
      match rest with
      | .group .brace content opens closes :: rest => do
          let (content, []) ← Grammar.take? (list namedField) content | none
          pure (condition, .named content opens closes, rest)
      | _ => do
          let (_, rest) ← Grammar.take? (op ";") rest
          pure (condition, .unit, rest)

/-- Reads a struct, after its attributes. -/
def StructItem.read? (attributes : List Attribute) (tokens : List Token) :
    Option (StructItem × List Token) := do
  let (visibility, rest) := Visibility.take tokens
  let (_, rest) ← Grammar.take? (kw "struct") rest
  let ([.word i p], rest) ← Grammar.take? ident rest | none
  let (generics, rest) ← Grammar.take? (call .generics) rest
  let (condition, fields, rest) ← readFields? rest
  pure (⟨attributes, visibility, ⟨i, p⟩, generics, condition, fields⟩, rest)

/-- Reads a module up to its body, after its attributes. -/
def ModuleHead.read? (attributes : List Attribute) (tokens : List Token) :
    Option (ModuleHead × List Token) := do
  let (visibility, rest) := Visibility.take tokens
  let (mark, rest) ← Grammar.take? (opt (kw "unsafe")) rest
  let (_, rest) ← Grammar.take? (kw "mod") rest
  let ([.word i p], rest) ← Grammar.take? ident rest | none
  pure (⟨attributes, visibility, !mark.isEmpty, ⟨i, p⟩⟩, rest)

/-- Reads an item that is not an inline module, after its attributes. -/
def readFlatItem? (attributes : List Attribute) (tokens : List Token) :
    Option (Item × List Token) :=
  match StructItem.read? attributes tokens with
  | some (s, rest) => some (.struct s, rest)
  | none => forms.findSome? fun form =>
      (form.read? attributes tokens).map fun (p, rest) => (.plain p, rest)

mutual

/-- Reads an item.  The fuel bounds the tokens in it and after it. -/
def readItem? : (fuel : Nat) → List Token → Option (Item × List Token)
  | 0, _ => none
  | fuel + 1, tokens => do
      let (attributes, rest) ← Attribute.readOuter? tokens
      match ModuleHead.read? attributes rest with
      | some (head, .group .brace content _ _ :: rest) => do
          let (inner, content) ← Attribute.readInner? content
          let items ← readItems? fuel content
          pure (.inlineModule { head with attributes := attributes ++ inner } items, rest)
      | _ =>
          match readFlatItem? attributes rest with
          | some found => some found
          | none => do
              let (_, rest) ← Grammar.take? unreadItem rest
              pure (.verbatim (tokens.take (tokens.length - rest.length)), rest)

/-- Reads items up to the end of the row. -/
def readItems? : (fuel : Nat) → List Token → Option (List Item)
  | _, [] => some []
  | 0, _ :: _ => none
  | fuel + 1, t :: tokens => do
      let (item, rest) ← readItem? fuel (t :: tokens)
      let items ← readItems? fuel rest
      pure (item :: items)

end

namespace Module

/-- Reads a module, with its body or without. -/
def ofTokens? (tokens : List Token) : Option Module := do
  let (attributes, rest) ← Attribute.readOuter? tokens
  let (head, rest) ← ModuleHead.read? attributes rest
  match rest with
  | [.group .brace content _ _] => do
      let (inner, content) ← Attribute.readInner? content
      let items ← readItems? (2 * Token.sizes content + 1) content
      pure ⟨{ head with attributes := attributes ++ inner }, some items⟩
  | [.mark ';' _ _] => some ⟨head, none⟩
  | _ => none

/-- Reads the text of a module. -/
def read? (text : String) : Option Module := (Source.tokens? text).bind ofTokens?

end Module
end DomainValues
