import DomainValues.Source.Lexer
import Mathlib.Data.Prod.Lex

/-!
# The order of tokens in source text

Places are ordered by line and column.  The places of tokens are met in this order: a group opens
before its content and closes after it.  Some tokens may share a place, those of the attribute that
a documentation comment stands for, but after a bracket that closes, after one that opens and is not
square, and after a semicolon the text has moved on (`Token.Step.firm`).

Main statement: `Source.ordered_of_tokens?`, the tokens of a text are met in order.
-/

namespace DomainValues

/-! ## Places in order -/

namespace Position

/-- Places are ordered by line, and on one line by column. -/
instance : LinearOrder Position :=
  LinearOrder.lift' (fun p => toLex (p.line, p.column)) fun p q same => by
    cases p
    cases q
    simpa using same

theorem lt_iff {p q : Position} :
    p < q ↔ p.line < q.line ∨ p.line = q.line ∧ p.column < q.column :=
  Prod.Lex.lt_iff ..

theorem lt_next (p : Position) (c : Char) : p < p.next c := by
  rw [lt_iff, next]
  split <;> simp

theorem le_advance (p : Position) (cs : List Char) : p ≤ p.advance cs := by
  induction cs generalizing p with
  | nil => exact le_refl p
  | cons c cs ih => exact (p.lt_next c).le.trans (ih (p.next c))

theorem lt_advance (p : Position) {cs : List Char} (some : cs ≠ []) : p < p.advance cs := by
  cases cs with
  | nil => exact absurd rfl some
  | cons c cs => exact (p.lt_next c).trans_le (le_advance (p.next c) cs)

end Position

/-! ## Steps through tokens -/

namespace Token

/-- A place of a token. -/
structure Step where
  /-- The place. -/
  place : Position
  /-- Whether all that follows stands after this place, not at it. -/
  firm : Bool

mutual

/-- The places of a token, in their order. -/
def steps : Token → List Step
  | .word _ p => [⟨p, false⟩]
  | .mark c _ p => [⟨p, c == ';'⟩]
  | .literal _ p => [⟨p, false⟩]
  | .group d content p q => ⟨p, d != .bracket⟩ :: (allSteps content ++ [⟨q, true⟩])

/-- The places of the tokens of a row, in their order. -/
def allSteps : List Token → List Step
  | [] => []
  | t :: rest => steps t ++ allSteps rest

end

theorem allSteps_append (row more : List Token) :
    allSteps (row ++ more) = allSteps row ++ allSteps more := by
  induction row with
  | nil => rfl
  | cons t row ih => rw [List.cons_append, allSteps, allSteps, ih, List.append_assoc]

/-- How two places stand to each other, the first met before the second. -/
def Step.Before (a b : Step) : Prop := a.place ≤ b.place ∧ (a.firm = true → a.place < b.place)

/-- Tokens are met in the order of their places. -/
def Ordered (row : List Token) : Prop := (allSteps row).Pairwise Step.Before

/-- The places of the tokens of a row. -/
def places (row : List Token) : List Position := (allSteps row).map Step.place

end Token

/-! ## Comments -/

namespace Source

open Token (Step)

theorem length_splitLine_le (cs : List Char) : (splitLine cs).2.length ≤ cs.length := by
  induction cs using splitLine.induct with
  | case1 | case2 | case3 => simp [splitLine]
  | case4 c rest newline returned line after split ih =>
      rw [splitLine]
      · exact Nat.le_succ_of_le ih
      · exact newline
      · exact returned

theorem length_of_splitBlock? {depth : Nat} {cs inside after : List Char}
    (h : splitBlock? depth cs = some (inside, after)) : after.length ≤ cs.length := by
  induction depth, cs using splitBlock?.induct generalizing inside after with
  | case1 depth => rw [splitBlock?] at h; cases h
  | case2 depth rest ih =>
      rw [splitBlock?] at h
      obtain ⟨⟨inside', after'⟩, found, same⟩ := Option.map_eq_some_iff.1 h
      cases same
      exact (ih found).trans (Nat.le_add_right rest.length 2)
  | case3 rest =>
      rw [splitBlock?] at h
      cases h
      exact Nat.le_add_right rest.length 2
  | case4 depth rest ih =>
      rw [splitBlock?] at h
      obtain ⟨⟨inside', after'⟩, found, same⟩ := Option.map_eq_some_iff.1 h
      cases same
      exact (ih found).trans (Nat.le_add_right rest.length 2)
  | case5 depth c rest opened closed closed' ih =>
      rw [splitBlock?] at h
      · obtain ⟨⟨inside', after'⟩, found, same⟩ := Option.map_eq_some_iff.1 h
        cases same
        exact Nat.le_succ_of_le (ih found)
      all_goals assumption

/-- A documentation comment takes at least its opening. -/
theorem length_of_documentation {cs text after : List Char} {inner : Bool}
    (h : comment? cs = some (.documentation inner text after)) : after.length < cs.length := by
  unfold comment? at h
  split at h
  · cases h
    exact (Nat.lt_succ_of_le (length_splitLine_le _)).trans (by simp)
  · cases h
  · cases h
    exact (Nat.lt_succ_of_le (length_splitLine_le _)).trans (by simp)
  · cases h
  · cases h
  · obtain ⟨⟨_, _⟩, -, same⟩ := Option.map_eq_some_iff.1 h
    cases same
  · obtain ⟨⟨inside, after'⟩, found, same⟩ := Option.map_eq_some_iff.1 h
    have shorter := length_of_splitBlock? found
    dsimp only at same
    split at same
    case h_1 => cases same; simp only [List.length_cons]; omega
    case h_2 => cases same; simp only [List.length_cons]; omega
    case h_3 => cases same
  · cases h

/-! ## Lexemes -/

/-- The places of a lexeme. -/
def Lexeme.steps : Lexeme → List Step
  | .leaf t => t.steps
  | .opening d p => [⟨p, d != .bracket⟩]
  | .closing _ p => [⟨p, true⟩]

/-- What is found at the start of a text stands at one place.  Only the last of it is firm, and then
the text moves on. -/
structure FoundAt (p : Position) (cs : List Char) (steps : List Step) (rest : List Char) :
    Prop where
  /-- All stands there. -/
  place : ∀ s ∈ steps, s.place = p
  /-- Only the last may be firm. -/
  last : steps.Pairwise fun s _ => s.firm = false
  /-- After what is firm the text is shorter. -/
  shorter : ∀ s ∈ steps, s.firm = true → rest.length < cs.length

theorem FoundAt.nil {p : Position} {cs rest : List Char} : FoundAt p cs [] rest :=
  ⟨nofun, .nil, nofun⟩

theorem FoundAt.single {p : Position} {firm : Bool} {cs rest : List Char}
    (shorter : firm = true → rest.length < cs.length) : FoundAt p cs [⟨p, firm⟩] rest where
  place := by simp
  last := List.pairwise_singleton ..
  shorter := by simpa using shorter

theorem foundAt_of_mark? {p : Position} {cs rest : List Char} {t : Token}
    (h : mark? p cs = some (t, rest)) : FoundAt p cs t.steps rest := by
  unfold mark? at h
  split at h
  case isFalse => cases h
  case isTrue =>
    split at h
    · obtain ⟨⟨i, after⟩, -, h⟩ := Option.bind_eq_some_iff.1 h
      dsimp only at h
      split at h
      · cases h
      · cases h
        exact .single fun _ => Nat.lt_succ_self _
    · cases h
      exact .single fun _ => Nat.lt_succ_self _
    · cases h

theorem foundAt_of_leaf? {p : Position} {cs rest : List Char} {t : Token}
    (h : leaf? p cs = some (t, rest)) : FoundAt p cs t.steps rest := by
  unfold leaf? at h
  split at h
  · cases h
    exact .single nofun
  · split at h
    case h_1 found marked =>
      cases h
      exact foundAt_of_mark? marked
    case h_2 =>
      split at h
      · cases h
      · obtain ⟨⟨i, after⟩, -, same⟩ := Option.map_eq_some_iff.1 h
        cases same
        exact .single nofun

theorem foundAt_documentation {p : Position} {cs rest text : List Char} {inner : Bool}
    (shorter : rest.length < cs.length) :
    FoundAt p cs ((documentation inner text p).flatMap Lexeme.steps) rest where
  place := by cases inner <;> simp [documentation, Lexeme.steps, Token.steps]
  last := by cases inner <;> simp [documentation, Lexeme.steps, Token.steps]
  shorter := fun _ _ _ => shorter

theorem foundAt_of_lexeme? {p : Position} {cs rest : List Char} {found : List Lexeme}
    (h : lexeme? p cs = some (found, rest)) :
    FoundAt p cs (found.flatMap Lexeme.steps) rest := by
  unfold lexeme? at h
  split at h
  · cases h
  case h_2 c after =>
    split at h
    · cases h
      exact .nil
    · split at h
      · cases h
        exact .nil
      case h_2 comment =>
        split at h
        · cases h
          exact foundAt_documentation (length_of_documentation comment)
        · cases h
      · split at h
        · cases h
          exact .single nofun
        · split at h
          · cases h
            exact .single fun _ => Nat.lt_succ_self _
          · cases h
            exact .single fun _ => Nat.lt_succ_self _
          · obtain ⟨⟨t, after'⟩, leaf, same⟩ := Option.map_eq_some_iff.1 h
            cases same
            rw [List.flatMap_singleton]
            exact foundAt_of_leaf? leaf

/-- The lexemes of a text are met in order, from where the text starts. -/
theorem ordered_of_lexemes? {fuel : Nat} {p : Position} {cs : List Char} {lexemes : List Lexeme}
    (h : lexemes? fuel p cs = some lexemes) :
    (lexemes.flatMap Lexeme.steps).Pairwise Step.Before ∧
      ∀ s ∈ lexemes.flatMap Lexeme.steps, p ≤ s.place := by
  induction fuel generalizing p cs lexemes with
  | zero =>
      cases cs with
      | nil => rw [lexemes?] at h; cases h; exact ⟨.nil, nofun⟩
      | cons c cs => rw [lexemes?] at h; cases h
  | succ fuel ih =>
      cases cs with
      | nil => rw [lexemes?] at h; cases h; exact ⟨.nil, nofun⟩
      | cons c cs =>
          rw [lexemes?] at h
          obtain ⟨⟨found, rest⟩, first, h⟩ := Option.bind_eq_some_iff.1 h
          obtain ⟨more, others, h⟩ := Option.bind_eq_some_iff.1 h
          obtain rfl := Option.some.inj h
          obtain ⟨ordered, later⟩ := ih others
          obtain ⟨place, last, shorter⟩ := foundAt_of_lexeme? first
          have on := p.le_advance ((c :: cs).take (cs.length + 1 - rest.length))
          simp only [List.flatMap_append, List.forall_mem_append]
          refine ⟨List.pairwise_append.2 ⟨?_, ordered, ?_⟩, ?_, ?_⟩
          · refine last.imp_of_mem fun {a b} here here' soft => ⟨?_, ?_⟩
            · rw [place a here, place b here']
            · intro firm
              rw [soft] at firm
              cases firm
          · intro a here b after
            rw [Step.Before, place a here]
            refine ⟨on.trans (later b after), fun firm => ?_⟩
            have moved := shorter a here firm
            rw [List.length_cons] at moved
            refine lt_of_lt_of_le (p.lt_advance ?_) (later b after)
            rw [Ne, ← List.length_eq_zero_iff, List.length_take, List.length_cons]
            omega
          · intro s here
            rw [place s here]
          · intro s after
            exact on.trans (later s after)

/-! ## Groups -/

/-- The places met so far, while some groups are open. -/
def openedSteps : List OpenGroup → List Token → List Step
  | [], tokens => Token.allSteps tokens.reverse
  | g :: stack, tokens =>
      openedSteps stack g.before ++ [⟨g.position, g.delimiter != .bracket⟩] ++
        Token.allSteps tokens.reverse

theorem openedSteps_cons (stack : List OpenGroup) (t : Token) (tokens : List Token) :
    openedSteps stack (t :: tokens) = openedSteps stack tokens ++ t.steps := by
  cases stack <;> simp [openedSteps, Token.allSteps_append, Token.allSteps]

/-- Matching brackets keeps the places in their order. -/
theorem allSteps_of_assemble? {stack : List OpenGroup} {tokens row : List Token}
    {lexemes : List Lexeme} (h : assemble? stack tokens lexemes = some row) :
    Token.allSteps row = openedSteps stack tokens ++ lexemes.flatMap Lexeme.steps := by
  induction stack, tokens, lexemes using assemble?.induct with
  | case1 tokens =>
      rw [assemble?] at h
      cases h
      simp [openedSteps]
  | case2 => rw [assemble?] at h; cases h
  | case3 stack tokens t rest ih =>
      rw [assemble?] at h
      rw [ih h, openedSteps_cons]
      simp [Lexeme.steps]
  | case4 stack tokens d p rest ih =>
      rw [assemble?] at h
      rw [ih h]
      simp [openedSteps, Lexeme.steps, Token.allSteps]
  | case5 => rw [assemble?] at h; cases h
  | case6 tokens p rest g stack ih =>
      rw [assemble?, if_pos rfl] at h
      rw [ih h, openedSteps_cons]
      simp [openedSteps, Lexeme.steps, Token.steps]
  | case7 tokens d p rest g stack different =>
      rw [assemble?, if_neg different] at h
      cases h

/-- The tokens of a text are met in order, from where the text starts. -/
theorem ordered_of_tokens? {text : String} {tokens : List Token}
    (h : tokens? text = some tokens) :
    Token.Ordered tokens ∧ ∀ p ∈ Token.places tokens, Position.start ≤ p := by
  unfold tokens? at h
  dsimp only at h
  obtain ⟨lexemes, read, matched⟩ := Option.bind_eq_some_iff.1 h
  have same : Token.allSteps tokens = lexemes.flatMap Lexeme.steps := allSteps_of_assemble? matched
  obtain ⟨ordered, later⟩ := ordered_of_lexemes? read
  rw [Token.Ordered, Token.places, same]
  refine ⟨ordered, fun p found => ?_⟩
  obtain ⟨s, listed, rfl⟩ := List.mem_map.1 found
  refine le_trans ?_ (later s listed)
  -- The text starts at the start or after a byte order mark.
  split
  · exact (Position.lt_next ..).le
  · exact le_refl _

end Source
end DomainValues
