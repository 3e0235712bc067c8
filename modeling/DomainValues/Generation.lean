import DomainValues.Log
import DomainValues.Registration

/-!
# Generation

One pass over a module: declarations are found, those that collide are put aside, the others are
configured and generated one by one, and the results take the places of the declarations.  Of
every other item only the directives are removed.  The registration is the last item.

A pass may be cancelled: it looks at a flag before each declaration (`Module.run`).  A pass that
sees the flag generates nothing.  What a pass produces depends only on how many declarations it
handles before (`Module.generate`).

In a build that checks for overflow, a pass may also stop without a result (`Module.runIn?`).
-/

namespace DomainValues

/-! ## Replacing declarations -/

mutual

/-- An item with what takes the place of the declarations in it, and without directives. -/
def substituteItem (replacement : Slot → Option (List Code.Item)) (modules : List Nat)
    (index : Nat) : Item → Item
  | .inlineModule head items =>
      .inlineModule { head with attributes := Attribute.withoutDirectives head.attributes }
        (substituteItems replacement (modules ++ [index]) 0 items)
  | .struct s =>
      match replacement ⟨modules, index⟩ with
      | some code => .generated code
      | none => .struct { s with attributes := Attribute.withoutDirectives s.attributes }
  | .plain p => .plain { p with attributes := Attribute.withoutDirectives p.attributes }
  | .verbatim tokens => .verbatim tokens
  | .generated code => .generated code

/-- Items, numbered from an index, with what takes the place of the declarations in them. -/
def substituteItems (replacement : Slot → Option (List Code.Item)) (modules : List Nat)
    (index : Nat) : List Item → List Item
  | [] => []
  | item :: rest =>
      substituteItem replacement modules index item ::
        substituteItems replacement modules (index + 1) rest

end

/-! ## Generating -/

/-- A declaration with the values of its parameters, or why it has none. -/
abbrev Configured := Declaration × Except ConfigurationError Params

/-- Configures a declaration. -/
def Declaration.configured (d : Declaration) : Configured := (d, d.directive.params)

/-- What a pass generates for a declaration. -/
structure Product where
  /-- The declaration. -/
  declaration : Declaration
  /-- The values of its parameters. -/
  params : Params
  /-- The type. -/
  implementation : Implementation
  /-- The adapter. -/
  adapter : Adapter
  deriving Repr

/-- The product of a configured declaration, if it has one. -/
def product? (o : Options) : Configured → Option Product
  | (d, .ok params) => some ⟨d, params, .ofDeclaration o d params, .ofDeclaration o d params⟩
  | (_, .error _) => none

/-- The report of a declaration whose configuration is refused. -/
def refusal? : Configured → Option Diagnostic
  | (_, .ok _) => none
  | (d, .error e) => some (e.diagnostic d.qualified)

/-- What happened to a declaration. -/
def eventOf : Configured → Event
  | (d, .ok params) => .generated d.qualified params.kind d.adapter.text
  | (d, .error e) => .refused d.qualified e.fault.message

/-- The code of a product: the type and then the adapter. -/
def Product.code (p : Product) : List Code.Item := p.implementation.code ++ p.adapter.code

/-- What takes the place of the item at a slot. -/
def replacement (products : List Product) (slot : Slot) : Option (List Code.Item) :=
  (products.find? fun p => p.declaration.slot == slot).map Product.code

/-- What a pass produced. -/
structure Generation where
  /-- The module after the pass. -/
  module : Module
  /-- The generated types and adapters. -/
  products : List Product
  /-- The registration, if there is one. -/
  registration : Option Registration
  /-- The reports. -/
  diagnostics : List Diagnostic
  /-- Whether the pass was cancelled while declarations were left. -/
  cancelled : Bool
  /-- What happened. -/
  events : List Event
  deriving Repr

namespace Generation

/-- The generated types. -/
def implementations (g : Generation) : List Implementation := g.products.map Product.implementation

/-- The generated adapters. -/
def adapters (g : Generation) : List Adapter := g.products.map Product.adapter

/-- The tokens of the module after the pass, and then a compile error for each report. -/
def tokens (g : Generation) : List Token :=
  g.module.tokens ++ g.diagnostics.flatMap Diagnostic.compileError

end Generation

/-- The events before the first declaration is generated. -/
def openingEvents (m : Module) (found : Discovery) (c : Collisions) (o : Options) : List Event :=
  [.passStarted m.head.name.text] ++
    found.declarations.map (fun d => .discovered d.qualified d.directive.kind) ++
    c.rejected.map (fun (d, report) => .collided d.qualified report.code) ++
    (if c.registryAvailable then [] else [.registryTaken o.registry.name])

/-- The items of a module after a pass. -/
def itemsAfter (products : List Product) (registration : Option Registration) (items : List Item) :
    List Item :=
  substituteItems (replacement products) [] 0 items ++
    (registration.map fun r => .generated r.code).toList

/-- What a pass over a module produces.  With a limit, the pass is cancelled after so many
declarations. -/
def Module.generate (m : Module) (o : Options) (limit : Option Nat) : Generation :=
  let found := m.discover
  let c := found.collisions o.registry
  let processed := match limit with
    | some n => c.kept.take n
    | none => c.kept
  let cancelled := decide (processed.length < c.kept.length)
  let configured := processed.map Declaration.configured
  let products := if cancelled then [] else configured.filterMap (product? o)
  let registration := if c.registryAvailable then
      Registration.ofAdapters? o (products.map Product.adapter)
    else none
  let diagnostics := found.diagnostics ++ c.diagnostics ++ configured.filterMap refusal?
  { module := { m with items? := m.items?.map (itemsAfter products registration) }
    products
    registration
    diagnostics
    cancelled
    events := openingEvents m found c o ++ configured.map eventOf ++
      (if cancelled then [.passCancelled] else []) ++
      [.passFinished products.length diagnostics.length] }

/-! ## Declarations one by one -/

/-- How far a pass has come with the declarations. -/
structure Progress where
  /-- What it generated. -/
  products : List Product
  /-- The reports of declarations whose configuration is refused. -/
  refusals : List Diagnostic
  /-- What happened to the declarations. -/
  events : List Event
  /-- Whether it saw the cancellation flag. -/
  cancelled : Bool
  deriving Repr

namespace Progress

/-- Before the first declaration. -/
def start : Progress := ⟨[], [], [], false⟩

/-- After one more declaration, configured. -/
def add (o : Options) (g : Progress) (c : Configured) : Progress :=
  { g with
    products := g.products ++ (product? o c).toList
    refusals := g.refusals ++ (refusal? c).toList
    events := g.events ++ [eventOf c] }

/-- After one more declaration. -/
def step (o : Options) (g : Progress) (d : Declaration) : Progress := g.add o d.configured

/-- After some more declarations, unless the flag is seen: it is looked at before each of them, and
`flag` tells what each check shows. -/
def handle (o : Options) (flag : Nat → Bool) (check : Nat) (g : Progress) :
    List Declaration → Progress
  | [] => g
  | d :: rest =>
      if flag check then { g with cancelled := true }
      else handle o flag (check + 1) (g.step o d) rest

end Progress

/-- Puts together what a pass over a module produced. -/
def Module.finish (m : Module) (o : Options) (g : Progress) : Generation :=
  let found := m.discover
  let c := found.collisions o.registry
  let products := if g.cancelled then [] else g.products
  let registration := if g.cancelled || !c.registryAvailable then none
    else Registration.ofAdapters? o (products.map Product.adapter)
  let diagnostics := found.diagnostics ++ c.diagnostics ++ g.refusals
  { module := { m with items? := m.items?.map (itemsAfter products registration) }
    products
    registration
    diagnostics
    cancelled := g.cancelled
    events := openingEvents m found c o ++ g.events ++
      (if g.cancelled then [.passCancelled] else []) ++
      [.passFinished products.length diagnostics.length] }

/-- Runs a pass over a module with a cancellation flag, given what each check of the flag shows. -/
def Module.run (m : Module) (o : Options) (flag : Nat → Bool) : Generation :=
  m.finish o (Progress.start.handle o flag 0 (m.discover.collisions o.registry).kept)

/-! ## Builds -/

/-- Configures a declaration in a build, unless the program stops. -/
def Declaration.configuredIn? (b : Build) (d : Declaration) : Option Configured :=
  (d.directive.paramsIn b).run.map fun params => (d, params)

/-- After some more declarations in a build, unless the flag is seen or the program stops. -/
def Progress.handleIn? (b : Build) (o : Options) (flag : Nat → Bool) (check : Nat) (g : Progress) :
    List Declaration → Option Progress
  | [] => some g
  | d :: rest =>
      if flag check then some { g with cancelled := true }
      else (d.configuredIn? b).bind fun c => handleIn? b o flag (check + 1) (g.add o c) rest

/-- Runs a pass in a build, unless the program stops. -/
def Module.runIn? (b : Build) (m : Module) (o : Options) (flag : Nat → Bool) : Option Generation :=
  (Progress.start.handleIn? b o flag 0 (m.discover.collisions o.registry).kept).map (m.finish o)

/-! ## Expanding -/

/-- What stands in the place of an annotated item, given the tokens of the options and of the
item.  Refused options count as none, and their report comes first. -/
def expand (options item : List Token) : List Token :=
  let (o, refused) := match Options.read options with
    | .ok o => (o, [])
    | .error e => (.default, [e.diagnostic .v2008])
  match Module.ofTokens? item with
  | none => compileError "`#[value_types]` expects an inline module"
  | some m =>
      if m.items?.isNone then
        compileError "`#[value_types]` needs the module body inline: `mod name \x7b ... \x7d`"
      else
        let g := m.generate o none
        { g with diagnostics := refused ++ g.diagnostics }.tokens

end DomainValues
