import DomainValues.Directive
import DomainValues.Module.Reader
import DomainValues.Module.Site

/-!
# Declarations

A declaration is a unit struct with exactly one directive, anywhere in the tree of inline modules
of the annotated module.  A site whose item carries a directive gives a declaration or the
diagnostic that says what keeps it from being one.

`Module.discover` lists both, an inline module after what it contains, and all the names that
the items introduce, an inline module before what it contains.
-/

namespace DomainValues

/-- A declared value type. -/
structure Declaration where
  /-- Its name. -/
  name : Name
  /-- The names of the modules around it, from the outermost one below the root. -/
  scope : List Name
  /-- Its directive. -/
  directive : Directive
  /-- Who may name it. -/
  visibility : Visibility
  /-- Its other attributes. -/
  attributes : List Attribute
  /-- Its place. -/
  slot : Slot
  deriving Repr

/-- Names joined by `::`. -/
def joinNames (names : List Name) : String := "::".intercalate (names.map Name.text)

/-- The name of a declaration, with the modules around it. -/
def Declaration.qualified (d : Declaration) : String := joinNames (d.scope ++ [d.name])

/-- A name that an item introduces, and the modules around the item. -/
structure NamedItem where
  /-- The names of the modules around it. -/
  scope : List Name
  /-- The name. -/
  name : Name
  deriving Repr

/-- The name with the modules around it. -/
def NamedItem.qualified (n : NamedItem) : String := joinNames (n.scope ++ [n.name])

/-! ## What keeps an item from being a declaration -/

/-- Why an item with a directive is no declaration. -/
inductive ShapeFault where
  /-- It is no struct. -/
  | notAStruct (directive found : String)
  /-- It has fields. -/
  | hasFields (name : String)
  /-- It has generic parameters or a `where` clause. -/
  | generic (name : String)
  /-- It derives a trait that the generated type has anyway. -/
  | generatedDerive (name derive : String)
  /-- It has more than one directive. -/
  | conflictingDirectives (name : String)
  /-- The root cannot name it. -/
  | unreachable (name scope : String)
  deriving DecidableEq, Repr

namespace ShapeFault

/-- The fault in words. -/
def message : ShapeFault → String
  | notAStruct directive found =>
      "`#[" ++ directive ++ "]` can only be applied to a struct, found " ++ found
  | hasFields name =>
      "`" ++ name ++ "` must be a unit struct; the generator provides the wrapped field"
  | generic name => "`" ++ name ++ "` must not have generic parameters"
  | generatedDerive name derive =>
      "`" ++ name ++ "` cannot derive `" ++ derive ++
        "`; the generated value type supplies that impl"
  | conflictingDirectives name => "`" ++ name ++ "` carries more than one value-kind directive"
  | unreachable name scope =>
      "`" ++ name ++ "` is declared in `" ++ scope ++
        "` with visibility the registration cannot see"

/-- The code of the fault. -/
def code : ShapeFault → ErrorCode
  | notAStruct .. | hasFields .. | generic .. | generatedDerive .. => .v1001
  | conflictingDirectives .. => .v1002
  | unreachable .. => .v1003

/-- What to do about the fault. -/
def help : ShapeFault → List String
  | notAStruct .. => []
  | hasFields name | generic name => ["declare it as `struct " ++ name ++ ";`"]
  | generatedDerive _ derive => ["remove `" ++ derive ++ "` from the derive list"]
  | conflictingDirectives _ => ["keep a single directive"]
  | unreachable .. => ["declare it `pub` or `pub(crate)` so the registration can name it"]

/-- The report of the fault at a place. -/
def diagnostic (fault : ShapeFault) (position : Position) : Diagnostic :=
  { code := fault.code, message := fault.message, position, notes := [], help := fault.help }

end ShapeFault

/-- The traits that a generated type has, or has in a way of its own. -/
def generatedTraits : List String :=
  ["Clone", "Copy", "Debug", "Default", "PartialEq", "Eq", "PartialOrd", "Ord", "Hash",
    "Serialize", "Deserialize"]

open Source in
/-- The last name of a path, and what follows the path.  The fuel bounds its length. -/
def takeLastName? : (fuel : Nat) → List Token → Option (Name × List Token)
  | 0, _ => none
  | fuel + 1, tokens =>
      match Grammar.take? Grammar.angleSegment tokens with
      | some (.word i p :: _, rest) =>
          match Rule.takeMarks [':', ':'] rest with
          | some (_, after) => match after with
              | .group .parenthesis .. :: _ => some (⟨i, p⟩, rest)
              | _ => takeLastName? fuel after
          | none => some (⟨i, p⟩, rest)
      | _ => none

open Source in
/-- The last names of paths that are separated by commas, up to the end of the row.  The fuel
bounds their number. -/
def lastNames? : (fuel : Nat) → List Token → Option (List Name)
  | _, [] => some []
  | 0, _ :: _ => none
  | fuel + 1, t :: tokens => do
      let path := match Rule.takeMarks [':', ':'] (t :: tokens) with
        | some (_, rest) => rest
        | none => t :: tokens
      let (name, rest) ← takeLastName? path.length path
      match rest with
      | [] => pure [name]
      | .mark ',' _ _ :: rest => do
          let names ← lastNames? fuel rest
          pure (name :: names)
      | _ => none

namespace Attribute

/-- The attributes that are no directives. -/
def withoutDirectives (attributes : List Attribute) : List Attribute :=
  attributes.filter fun a => a.kind?.isNone

/-- The last names of the paths that a derive list names.  A list that is not well formed names
none. -/
def derived (a : Attribute) : List Name :=
  match a.name?, a.arguments with
  | some i, .list _ tokens _ _ =>
      if i.text = "derive" then (lastNames? (tokens.length + 1) tokens).getD [] else []
  | _, _ => []

end Attribute

/-! ## What a site gives -/

/-- The attributes of an item that are directives. -/
def Item.directives (item : Item) : List (Attribute × Kind) :=
  item.attributes.filterMap fun a => a.kind?.map fun kind => (a, kind)

namespace Site

/-- Where the generic parameters of a struct start; what has none starts nowhere. -/
def genericsPosition (s : StructItem) : Position :=
  (s.generics.head?.map Token.position).getD .start

/-- The first derived name that is one of a generated trait. -/
def generatedDerive? (s : StructItem) : Option Name :=
  (s.attributes.flatMap Attribute.derived).find? fun n => n.text ∈ generatedTraits

/-- What keeps the struct at a site from being a declaration, apart from the arguments of its
directive, with the places.  The directives after the first are given. -/
def shapeFaults (site : Site) (s : StructItem) (others : List (Attribute × Kind)) :
    List (ShapeFault × Position) :=
  let name := s.name.text
  (others.head?.map fun second => (.conflictingDirectives name, second.1.position)).toList ++
    (s.fields.position?.map fun position => (.hasFields name, position)).toList ++
    (if s.generics.isEmpty && s.condition.isNone then []
      else [(.generic name, genericsPosition s)]) ++
    ((generatedDerive? s).map fun derive =>
      (.generatedDerive name derive.text, derive.position)).toList ++
    (if s.visibility.reaches site.scope.length then []
      else [(.unreachable name (joinNames site.scope), s.name.position)])

/-- What the struct at a site gives, given its first directive and the others.  The first fault
is reported. -/
def ofStruct (site : Site) (s : StructItem) (first : Attribute × Kind)
    (others : List (Attribute × Kind)) : Except Diagnostic Declaration :=
  match site.shapeFaults s others with
  | (fault, position) :: _ => .error (fault.diagnostic position)
  | [] => match Directive.ofAttribute first.2 first.1 with
      | .error e => .error (e.diagnostic .v1004)
      | .ok directive => .ok
          { name := s.name
            scope := site.scope
            directive
            visibility := s.visibility
            attributes := Attribute.withoutDirectives s.attributes
            slot := site.slot }

/-- What a site gives, if its item carries a directive. -/
def verdict? (site : Site) : Option (Except Diagnostic Declaration) :=
  match site.item.directives with
  | [] => none
  | first :: others => some <| match site.item with
      | .struct s => site.ofStruct s first others
      | item => .error
          ((ShapeFault.notAStruct first.2.directiveName item.describe).diagnostic first.1.position)

end Site

mutual

/-- The names that an item introduces, and then those in it. -/
def namesOfItem (scope : List Name) : Item → List NamedItem
  | .inlineModule head items =>
      ⟨scope, head.name⟩ :: namesOfItems (scope ++ [head.name]) items
  | item => item.names.map fun n => ⟨scope, n⟩

/-- The names that items introduce. -/
def namesOfItems (scope : List Name) : List Item → List NamedItem
  | [] => []
  | item :: rest => namesOfItem scope item ++ namesOfItems scope rest

end

/-- What a module declares. -/
structure Discovery where
  /-- The declarations. -/
  declarations : List Declaration
  /-- The reports of the sites that give none. -/
  diagnostics : List Diagnostic
  /-- All names that the items introduce. -/
  names : List NamedItem
  deriving Repr

namespace Module

/-- What the sites of a module give, in their order. -/
def verdicts (m : Module) : List (Except Diagnostic Declaration) := m.sites.filterMap Site.verdict?

/-- The declarations of a module, and why other sites give none.  Attributes of the module itself
are not looked at. -/
def discover (m : Module) : Discovery :=
  { declarations := m.verdicts.filterMap Except.toOption
    diagnostics := m.verdicts.filterMap fun
      | .error d => some d
      | .ok _ => none
    names := namesOfItems [] m.items }

end Module
end DomainValues
