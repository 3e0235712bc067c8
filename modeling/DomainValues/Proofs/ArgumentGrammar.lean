import DomainValues.Proofs.Numerals
import DomainValues.Proofs.Validation

/-!
# The grammar of directive arguments

The arguments of a directive are a comma-separated list, which may be empty and may end in a comma.
An argument is a literal, with a name and an equals sign before it or without (`NameRow`).  A number
may have one minus sign before it (`SignRow`).  `ArgumentList ArgumentRow` is this grammar over rows
of tokens, with the arguments that the rows stand for.

The reader accepts more: a minus sign and a number after it are also one literal, so it takes a
second minus sign, which it leaves in the numeral (`DoubleMinusRow`).

Main statements:

* `readArgument_eq_ok_iff`, `readArguments_eq_ok_iff`: what is read, exactly.
* `argumentList_iff`: the rows of the grammar are those that are read without a sign in a numeral.
* `ofAttribute_exact`: both for directives.
-/

namespace DomainValues.Directive

open Source

/-! ## Rows -/

/-- A name that is no keyword and an equals sign, or nothing. -/
inductive NameRow : List Token → Option Name → Prop where
  /-- No name. -/
  | absent : NameRow [] none
  /-- A name. -/
  | given {i : Ident} {p q : Position} {joint : Bool} : Rule.isName i = true →
      NameRow [.word i p, .mark '=' joint q] (some ⟨i, p⟩)

/-- A minus sign, or nothing. -/
inductive SignRow : List Token → Bool → Prop where
  /-- No sign. -/
  | absent : SignRow [] false
  /-- A sign. -/
  | minus {joint : Bool} {p : Position} : SignRow [.mark '-' joint p] true

/-- The value of an argument is what a literal denotes, a number with its sign or a text that has
none. -/
inductive Denotes (negative : Bool) : LiteralValue → ArgumentValue → Prop where
  /-- A whole number. -/
  | integer {numeral suffix : String} :
      Denotes negative (.integer numeral suffix) (.integer negative numeral suffix)
  /-- A real number. -/
  | real {numeral suffix : String} :
      Denotes negative (.real numeral suffix) (.real negative numeral suffix)
  /-- A text. -/
  | text {value : String} : negative = false → Denotes negative (.text value) (.text value)

/-- A row that is an argument. -/
inductive ArgumentRow : List Token → Argument → Prop where
  /-- A name or none, a sign or none, and a literal. -/
  | intro {before sign : List Token} {name : Option Name} {negative : Bool} {text : String}
      {p : Position} {value : ArgumentValue} : NameRow before name → SignRow sign negative →
      Denotes negative (literalValue text) value →
      ArgumentRow (before ++ (sign ++ [.literal text p])) ⟨name, value, p⟩

/-- A row that is a number after two minus signs.  The first one makes the argument negative, and
the second one stays in the numeral. -/
inductive DoubleMinusRow : List Token → Argument → Prop where
  /-- A name or none, two signs, and a number. -/
  | intro {before : List Token} {name : Option Name} {joint joint' : Bool} {p q r : Position}
      {text : String} {value : ArgumentValue} : NameRow before name →
      (literalValue text).IsNumber → Denotes true (literalValue text).negated value →
      DoubleMinusRow (before ++ [.mark '-' joint p, .mark '-' joint' q, .literal text r])
        ⟨name, value, q⟩

/-- Rows separated by commas, with what they stand for.  A comma may follow the last one. -/
inductive ArgumentList (row : List Token → Argument → Prop) :
    List Token → List Argument → Prop where
  /-- No row. -/
  | nil : ArgumentList row [] []
  /-- A last row. -/
  | last {tokens : List Token} {a : Argument} : row tokens a → ArgumentList row tokens [a]
  /-- A row, a comma, and the others. -/
  | cons {tokens rest : List Token} {a : Argument} {more : List Argument} {joint : Bool}
      {p : Position} : row tokens a → ArgumentList row rest more →
      ArgumentList row (tokens ++ .mark ',' joint p :: rest) (a :: more)

/-- A row that is read as an argument. -/
def ReadableRow (tokens : List Token) (a : Argument) : Prop :=
  ArgumentRow tokens a ∨ DoubleMinusRow tokens a

/-! ## One argument -/

/-- Whether a row starts with a word. -/
def StartsWithWord (tokens : List Token) : Prop := ∃ i p rest, tokens = .word i p :: rest

theorem exists_nameRow (tokens : List Token) :
    ∃ row, NameRow row (takeName tokens).1 ∧ tokens = row ++ (takeName tokens).2 := by
  unfold takeName
  split
  · split
    case isTrue named => exact ⟨_, .given named, rfl⟩
    case isFalse => exact ⟨[], .absent, rfl⟩
  · exact ⟨[], .absent, rfl⟩

theorem takeName_append {row rest : List Token} {name : Option Name} (h : NameRow row name)
    (next : ¬ StartsWithWord rest) : takeName (row ++ rest) = (name, rest) := by
  cases h with
  | given named =>
      rw [List.cons_append, List.cons_append, List.nil_append, takeName, if_pos named]
  | absent =>
      rw [List.nil_append]
      unfold takeName
      split
      · exact absurd ⟨_, _, _, rfl⟩ next
      · rfl

theorem exists_signRow (tokens : List Token) :
    ∃ row, SignRow row (takeMinus tokens).1 ∧ tokens = row ++ (takeMinus tokens).2 := by
  unfold takeMinus
  split
  · exact ⟨_, .minus, rfl⟩
  · exact ⟨[], .absent, rfl⟩

/-- What is left unsigned does not start with a minus sign. -/
theorem takeMinus_false (tokens : List Token) (h : (takeMinus tokens).1 = false) :
    ∀ joint p rest, (takeMinus tokens).2 ≠ .mark '-' joint p :: rest := by
  unfold takeMinus at h ⊢
  split at h
  · cases h
  case h_2 unsigned => exact unsigned

theorem argumentValue_eq_ok_iff {negative : Bool} {found : Found} {p : Position}
    {value : ArgumentValue} :
    argumentValue negative found p = .ok value ↔
      ∃ v, found = .value v ∧ Denotes negative v value := by
  constructor
  · intro h
    unfold argumentValue at h
    split at h
    · obtain rfl := Except.ok.inj h
      exact ⟨_, rfl, .integer⟩
    · obtain rfl := Except.ok.inj h
      exact ⟨_, rfl, .real⟩
    · split at h
      case isTrue => cases h
      case isFalse positive =>
        obtain rfl := Except.ok.inj h
        exact ⟨_, rfl, .text (Bool.not_eq_true _ ▸ positive)⟩
    · cases h
  · rintro ⟨v, rfl, denotes⟩
    cases denotes with
    | integer => rfl
    | real => rfl
    | text positive => rw [positive]; rfl

theorem readLiteral_eq_ok_iff {closes p : Position} {tokens rest : List Token}
    {v : LiteralValue} :
    readLiteral closes tokens = .ok (.value v, p, rest) ↔
      (∃ text, tokens = .literal text p :: rest ∧ v = literalValue text) ∨
        ∃ text joint q, tokens = .mark '-' joint p :: .literal text q :: rest ∧
          (literalValue text).IsNumber ∧ v = (literalValue text).negated := by
  constructor
  · intro h
    unfold readLiteral at h
    split at h
    · cases h
    · cases h
      exact .inl ⟨_, rfl, rfl⟩
    · split at h
      · cases h
      · cases h
    · split at h
      case h_1 found =>
        cases h
        exact .inr ⟨_, _, _, rfl, numberValue?_true_eq_some_iff.1 found⟩
      case h_2 => cases h
    · cases h
  · rintro (⟨text, rfl, rfl⟩ | ⟨text, joint, q, rfl, number⟩)
    · rfl
    · rw [readLiteral, numberValue?_true_eq_some_iff.2 number]

/-- A sign and a literal are read after a name or without one. -/
theorem readArgument_append {closes p : Position} {before sign rest : List Token}
    {name : Option Name} {negative : Bool} {v : LiteralValue} {value : ArgumentValue}
    {body : List Token} (named : NameRow before name) (noName : ¬ StartsWithWord (sign ++ body))
    (sign' : takeMinus (sign ++ body) = (negative, body))
    (literal : readLiteral closes body = .ok (.value v, p, rest))
    (denotes : Denotes negative v value) :
    readArgument closes (before ++ (sign ++ body)) = .ok (⟨name, value, p⟩, rest) := by
  unfold readArgument
  rw [takeName_append named noName]
  dsimp only
  rw [sign']
  exact bind_eq_ok_iff.2 ⟨_, literal,
    bind_eq_ok_iff.2 ⟨value, argumentValue_eq_ok_iff.2 ⟨v, rfl, denotes⟩, rfl⟩⟩

/-- What is read as an argument, exactly: a row of the grammar, or a number after two minus
signs. -/
theorem readArgument_eq_ok_iff {closes : Position} {tokens rest : List Token} {a : Argument} :
    readArgument closes tokens = .ok (a, rest) ↔
      ∃ row, tokens = row ++ rest ∧ ReadableRow row a := by
  constructor
  · intro h
    obtain ⟨before, named, split⟩ := exists_nameRow tokens
    obtain ⟨sign, signed, split'⟩ := exists_signRow (takeName tokens).2
    have unsigned := takeMinus_false (takeName tokens).2
    unfold readArgument at h
    dsimp only at h
    obtain ⟨⟨found, p, rest'⟩, literal, h⟩ := bind_eq_ok_iff.1 h
    obtain ⟨value, given, h⟩ := bind_eq_ok_iff.1 h
    obtain ⟨rfl, rfl⟩ := Prod.mk.inj (Except.ok.inj h)
    obtain ⟨v, found_eq, denotes⟩ := argumentValue_eq_ok_iff.1 given
    dsimp only at found_eq literal ⊢
    rw [found_eq] at literal
    rcases readLiteral_eq_ok_iff.1 literal with
      ⟨text, after, rfl⟩ | ⟨text, joint, q, after, number, rfl⟩
    · refine ⟨before ++ (sign ++ [.literal text p]), ?_, .inl (.intro named signed denotes)⟩
      rw [split, split', after]
      simp
    · -- A minus sign that is left is the second one.
      cases negative : (takeMinus (takeName tokens).2).1 with
      | false => exact absurd after (unsigned negative _ _ _)
      | true =>
          rw [negative] at signed denotes
          cases signed with
          | @minus joint₁ p₁ =>
              refine ⟨before ++ [.mark '-' joint₁ p₁, .mark '-' joint p, .literal text q], ?_,
                .inr (.intro named number denotes)⟩
              rw [split, split', after]
              simp
  · rintro ⟨row, rfl, ⟨named, signed, denotes⟩ | ⟨named, number, denotes⟩⟩
    · cases signed with
      | absent =>
          simp only [List.append_assoc]
          exact readArgument_append named (by simp [StartsWithWord]) rfl
            (readLiteral_eq_ok_iff.2 (.inl ⟨_, rfl, rfl⟩)) denotes
      | minus =>
          simp only [List.append_assoc]
          exact readArgument_append named (by simp [StartsWithWord]) rfl
            (readLiteral_eq_ok_iff.2 (.inl ⟨_, rfl, rfl⟩)) denotes
    · rw [List.append_assoc]
      change readArgument closes
        (_ ++ ([.mark '-' _ _] ++ (.mark '-' _ _ :: .literal _ _ :: rest))) = _
      exact readArgument_append named (by simp [StartsWithWord]) rfl
        (readLiteral_eq_ok_iff.2 (.inr ⟨_, _, _, rfl, number, rfl⟩)) denotes

/-! ## All arguments -/

theorem ReadableRow.ne_nil {tokens : List Token} {a : Argument} (h : ReadableRow tokens a) :
    tokens ≠ [] := by
  rcases h with ⟨-, -, -⟩ | ⟨-, -, -⟩ <;> simp

/-- Rows that are not empty stand for no argument only if there is no token. -/
theorem argumentList_nil_iff {args : List Argument} :
    ArgumentList ReadableRow [] args ↔ args = [] := by
  constructor
  · generalize none : ([] : List Token) = tokens
    intro h
    cases h with
    | nil => rfl
    | last row => exact absurd none.symm row.ne_nil
    | cons row => exact absurd none.symm (by simp)
  · rintro rfl
    exact .nil

/-- Tokens that are rows start with one, which is the last one or has a comma after it. -/
theorem argumentList_cons_iff {row : List Token → Argument → Prop} {t : Token}
    {tokens : List Token} {args : List Argument} :
    ArgumentList row (t :: tokens) args ↔
      (∃ a, row (t :: tokens) a ∧ args = [a]) ∨
        ∃ front joint p rest a more, t :: tokens = front ++ .mark ',' joint p :: rest ∧
          row front a ∧ ArgumentList row rest more ∧ args = a :: more := by
  constructor
  · generalize same : t :: tokens = all
    intro h
    cases h with
    | nil => cases same
    | last first => exact .inl ⟨_, first, rfl⟩
    | cons first others => exact .inr ⟨_, _, _, _, _, _, rfl, first, others, rfl⟩
  · rintro (⟨a, last, rfl⟩ | ⟨front, joint, p, rest, a, more, same, first, others, rfl⟩)
    · exact .last last
    · rw [same]
      exact .cons first others

/-- What is read as the arguments of a directive, exactly, if the fuel is enough. -/
theorem readArguments_eq_ok_iff {closes : Position} {fuel : Nat} {tokens : List Token}
    (enough : tokens.length ≤ fuel) {args : List Argument} :
    readArguments closes fuel tokens = .ok args ↔ ArgumentList ReadableRow tokens args := by
  induction fuel generalizing tokens args with
  | zero =>
      obtain rfl := List.length_eq_zero_iff.1 (Nat.le_zero.1 enough)
      rw [argumentList_nil_iff, readArguments, Except.ok.injEq, eq_comm]
  | succ fuel ih =>
      cases tokens with
      | nil => rw [argumentList_nil_iff, readArguments, Except.ok.injEq, eq_comm]
      | cons t tokens =>
          -- An argument has a token, so what follows it is shorter.
          have shorter {front rest : List Token} {u : Token}
              (split : t :: tokens = front ++ u :: rest) : rest.length ≤ fuel := by
            have := congrArg List.length split
            simp only [List.length_cons, List.length_append] at this enough
            omega
          rw [readArguments, bind_eq_ok_iff, argumentList_cons_iff]
          constructor
          · rintro ⟨⟨a, rest⟩, read, h⟩
            obtain ⟨front, split, row⟩ := readArgument_eq_ok_iff.1 read
            dsimp only at h
            split at h
            · obtain rfl := Except.ok.inj h
              rw [List.append_nil] at split
              exact .inl ⟨a, split ▸ row, rfl⟩
            · obtain ⟨more, others, h⟩ := bind_eq_ok_iff.1 h
              obtain rfl := Except.ok.inj h
              exact .inr ⟨front, _, _, _, a, more, split, row,
                (ih (shorter split)).1 others, rfl⟩
            · cases h
          · rintro (⟨a, last, rfl⟩ | ⟨front, joint, p, rest, a, more, split, first, others, rfl⟩)
            · exact ⟨⟨a, []⟩, readArgument_eq_ok_iff.2 ⟨_, (List.append_nil _).symm, last⟩, rfl⟩
            · exact ⟨⟨a, _⟩, readArgument_eq_ok_iff.2 ⟨front, split, first⟩,
                bind_eq_ok_iff.2 ⟨more, (ih (shorter split)).2 others, rfl⟩⟩

/-! ## Signs in numerals -/

/-- The numerals of the grammar have no signs. -/
theorem ArgumentRow.unsigned {tokens : List Token} {a : Argument} (h : ArgumentRow tokens a) :
    a.value.Unsigned := by
  obtain ⟨-, -, denotes⟩ := h
  generalize found : literalValue _ = v at denotes
  cases denotes with
  | integer => exact isWholeNumeral_of_literalValue found
  | real => exact exists_writtenAs_of_literalValue found
  | text => trivial

/-- A second minus sign stays in the numeral. -/
theorem DoubleMinusRow.not_unsigned {tokens : List Token} {a : Argument}
    (h : DoubleMinusRow tokens a) : ¬ a.value.Unsigned := by
  obtain ⟨-, number, denotes⟩ := h
  intro unsigned
  generalize literalValue _ = v at number denotes
  cases v with
  | integer numeral suffix =>
      cases denotes
      exact unsigned.ne_minus (String.toList_ofList)
  | real numeral suffix =>
      cases denotes
      obtain ⟨d, written⟩ := unsigned
      exact written.ne_minus (String.toList_ofList)
  | text => cases number
  | other => cases number

/-- The rows of the grammar are those that are read without a sign in a numeral. -/
theorem argumentRow_iff {tokens : List Token} {a : Argument} :
    ArgumentRow tokens a ↔ ReadableRow tokens a ∧ a.value.Unsigned := by
  constructor
  · exact fun row => ⟨.inl row, row.unsigned⟩
  · rintro ⟨row | row, unsigned⟩
    · exact row
    · exact absurd unsigned row.not_unsigned

theorem argumentList_iff {tokens : List Token} {args : List Argument} :
    ArgumentList ArgumentRow tokens args ↔
      ArgumentList ReadableRow tokens args ∧ ∀ a ∈ args, a.value.Unsigned := by
  constructor
  · intro h
    induction h with
    | nil => exact ⟨.nil, nofun⟩
    | last row => exact ⟨.last (.inl row), by simpa using row.unsigned⟩
    | cons row _ ih => exact ⟨.cons (.inl row) ih.1, by simpa using ⟨row.unsigned, ih.2⟩⟩
  · rintro ⟨h, unsigned⟩
    induction h with
    | nil => exact .nil
    | last row => exact .last (argumentRow_iff.2 ⟨row, unsigned _ List.mem_cons_self⟩)
    | cons row _ ih =>
        exact .cons (argumentRow_iff.2 ⟨row, unsigned _ List.mem_cons_self⟩)
          (ih fun a found => unsigned a (List.mem_cons_of_mem _ found))

/-! ## Directives -/

/-- Arguments as an attribute spells them in rows.  It spells none if it has no delimiters, and a
value after an equals sign is no argument. -/
def SpelledBy (row : List Token → Argument → Prop) (args : List Argument) :
    AttributeArguments → Prop
  | .none => args = []
  | .list _ tokens _ _ => ArgumentList row tokens args
  | .value _ => False

/-- An attribute is read as the directive of its path with the arguments that it spells in readable
rows. -/
theorem ofAttribute_eq_ok_iff {kind : Kind} {a : Attribute} {d : Directive} :
    ofAttribute kind a = .ok d ↔ d.kind = kind ∧ d.position = a.path.position ∧
      SpelledBy ReadableRow d.arguments a.arguments := by
  obtain ⟨kind', p, args⟩ := d
  unfold ofAttribute
  cases a.arguments with
  | none => simp [SpelledBy, eq_comm]
  | list delimiter tokens opens closes =>
      simp only [map_eq_ok_iff, mk.injEq, readArguments_eq_ok_iff (Nat.le_succ tokens.length)]
      constructor
      · rintro ⟨args, rows, rfl, rfl, rfl⟩
        exact ⟨rfl, rfl, rows⟩
      · rintro ⟨rfl, rfl, rows⟩
        exact ⟨args, rows, rfl, rfl, rfl⟩
  | value => simp [SpelledBy]

/-- An attribute is read as the directive of its path with the arguments that it spells in
readable rows, and it is not read if it spells none so.  The grammar gives those of them that have
no sign in a numeral. -/
theorem ofAttribute_exact (kind : Kind) (a : Attribute) (d : Directive) :
    (ofAttribute kind a = .ok d ↔
      d.kind = kind ∧ d.position = a.path.position ∧
        SpelledBy ReadableRow d.arguments a.arguments) ∧
    (ofAttribute kind a = .ok d ∧ (∀ x ∈ d.arguments, x.value.Unsigned) ↔
      d.kind = kind ∧ d.position = a.path.position ∧
        SpelledBy ArgumentRow d.arguments a.arguments) := by
  obtain ⟨kind', p, args⟩ := d
  have read : ofAttribute kind a = .ok ⟨kind', p, args⟩ ↔
      kind' = kind ∧ p = a.path.position ∧ SpelledBy ReadableRow args a.arguments :=
    ofAttribute_eq_ok_iff
  have unsigned : SpelledBy ArgumentRow args a.arguments ↔
      SpelledBy ReadableRow args a.arguments ∧ ∀ x ∈ args, x.value.Unsigned := by
    cases a.arguments with
    | none =>
        refine ⟨fun none => ⟨none, ?_⟩, And.left⟩
        obtain rfl := none
        nofun
    | list => exact argumentList_iff
    | value => exact ⟨nofun, And.left⟩
  refine ⟨read, ?_⟩
  rw [read, unsigned, and_assoc, and_assoc]

/-- An attribute with a number after two minus signs: `#[bounded_integer(- -5, 10)]`. -/
def doubleMinus : Attribute where
  position := ⟨1, 0⟩
  inner := false
  path := ⟨⟨1, 2⟩, false, [⟨.plain "bounded_integer", ⟨1, 2⟩⟩]⟩
  arguments := .list .parenthesis
    [.mark '-' false ⟨1, 18⟩, .mark '-' false ⟨1, 20⟩, .literal "5" ⟨1, 21⟩,
      .mark ',' false ⟨1, 22⟩, .literal "10" ⟨1, 24⟩] ⟨1, 17⟩ ⟨1, 26⟩

/-- An attribute may be read although its arguments are none of the grammar. -/
theorem doubleMinus_not_grammatical :
    doubleMinus.kind? = some .boundedInteger ∧
      ofAttribute .boundedInteger doubleMinus = .ok ⟨.boundedInteger, ⟨1, 2⟩,
        [⟨none, .integer true "-5" "", ⟨1, 20⟩⟩, ⟨none, .integer false "10" "", ⟨1, 24⟩⟩]⟩ ∧
      ¬ ∃ args, SpelledBy ArgumentRow args doubleMinus.arguments := by
  refine ⟨rfl, by decide, ?_⟩
  rintro ⟨args, rows⟩
  obtain ⟨read, unsigned⟩ := argumentList_iff.1 rows
  have found : readArguments ⟨1, 26⟩ 5 _ = .ok args := (readArguments_eq_ok_iff (by decide)).2 read
  obtain rfl := Except.ok.inj found
  have numeral : IsWholeNumeral ['-', '5'] := unsigned _ List.mem_cons_self
  exact numeral.ne_minus rfl

end DomainValues.Directive
