import DomainValues.Proofs.SourceOrder
import DomainValues.Source.Visibility

/-!
# The places of what is taken

What a rule takes from the start of a row is made of tokens of the row: it stands where they stand
(`Source.Rule.run_passes`, by induction on the fuel, with a case for each form of a rule).  So does
what is read of attributes.

A rule that ends in a group or a semicolon whatever it takes (`Source.Rule.endsFirm`) stops at a
place after which the text has moved on (`Source.Rule.run_stopsFirm`), so that all it takes stands
before all that is left (`Token.Ordered.lt`).
-/

namespace DomainValues

/-! ## Places of rows -/

namespace Token

@[simp] theorem places_nil : places [] = [] := rfl

@[simp] theorem places_word {i : Ident} {p : Position} {rest : List Token} :
    places (.word i p :: rest) = p :: places rest := by simp [places, allSteps, steps]

@[simp] theorem places_mark {c : Char} {joint : Bool} {p : Position} {rest : List Token} :
    places (.mark c joint p :: rest) = p :: places rest := by simp [places, allSteps, steps]

@[simp] theorem places_literal {text : String} {p : Position} {rest : List Token} :
    places (.literal text p :: rest) = p :: places rest := by simp [places, allSteps, steps]

@[simp] theorem places_group {d : Delimiter} {content rest : List Token} {p q : Position} :
    places (.group d content p q :: rest) = p :: (places content ++ q :: places rest) := by
  simp [places, allSteps, steps]

@[simp] theorem places_append (row more : List Token) :
    places (row ++ more) = places row ++ places more := by
  rw [places, allSteps_append, List.map_append, places, places]

/-- The places of a row are those of its tokens. -/
theorem mem_places_iff {row : List Token} {p : Position} :
    p ∈ places row ↔ ∃ t ∈ row, p ∈ places [t] := by
  induction row with
  | nil => simp
  | cons t rest ih =>
      rw [← List.singleton_append, places_append, List.mem_append, ih]
      simp

theorem places_mono {row more : List Token} (h : row ⊆ more) :
    ∀ p ∈ places row, p ∈ places more := by
  intro p here
  obtain ⟨t, listed, here⟩ := mem_places_iff.1 here
  exact mem_places_iff.2 ⟨t, h listed, here⟩

theorem position_mem_places (t : Token) (rest : List Token) :
    t.position ∈ places (t :: rest) := by
  cases t <;> simp [position]

/-! ## Passing tokens -/

/-- From a row to what is left of it a reader passes tokens that have these places. -/
def Passes (row rest : List Token) (found : List Position) : Prop :=
  ∃ used, row = used ++ rest ∧ ∀ p ∈ found, p ∈ places used

namespace Passes

variable {row mid rest : List Token} {found others : List Position}

theorem nothing : Passes row row [] := ⟨[], rfl, nofun⟩

theorem everything : Passes row [] (places row) :=
  ⟨row, (List.append_nil row).symm, fun _ here => here⟩

theorem one (t : Token) : Passes (t :: rest) rest (places [t]) := ⟨[t], rfl, fun _ here => here⟩

theorem mono (h : Passes row rest found) (fewer : ∀ p ∈ others, p ∈ found) :
    Passes row rest others := by
  obtain ⟨used, same, places⟩ := h
  exact ⟨used, same, fun p here => places p (fewer p here)⟩

theorem unplaced (h : Passes row rest found) : Passes row rest [] := h.mono nofun

/-- What is passed first and what is passed then. -/
theorem append (first : Passes row mid found) (second : Passes mid rest others) :
    Passes row rest (found ++ others) := by
  obtain ⟨used, rfl, places⟩ := first
  obtain ⟨used', rfl, places'⟩ := second
  refine ⟨used ++ used', (List.append_assoc ..).symm, fun p here => ?_⟩
  rw [places_append]
  rcases List.mem_append.1 here with here | here
  · exact List.mem_append_left _ (places p here)
  · exact List.mem_append_right _ (places' p here)

theorem places_rest (h : Passes row rest found) : ∀ p ∈ places rest, p ∈ places row := by
  obtain ⟨used, rfl, -⟩ := h
  exact places_mono (List.subset_append_right used rest)

theorem mem_places (h : Passes row rest found) : ∀ p ∈ found, p ∈ places row := by
  obtain ⟨used, rfl, inUsed⟩ := h
  intro p here
  rw [places_append]
  exact List.mem_append_left _ (inUsed p here)

end Passes

/-! ## Where the text moves on -/

/-- The last place of a row is firm. -/
def EndsFirm (row : List Token) : Prop :=
  ∃ before last, allSteps row = before ++ [last] ∧ last.firm = true

theorem endsFirm_group {d : Delimiter} {content : List Token} {p q : Position} :
    EndsFirm [.group d content p q] :=
  ⟨⟨p, d != .bracket⟩ :: allSteps content, ⟨q, true⟩, by simp [allSteps, steps], rfl⟩

theorem endsFirm_semicolon {joint : Bool} {p : Position} : EndsFirm [.mark ';' joint p] :=
  ⟨[], ⟨p, true⟩, rfl, rfl⟩

theorem EndsFirm.append (row : List Token) {more : List Token} (h : EndsFirm more) :
    EndsFirm (row ++ more) := by
  obtain ⟨before, last, same, firm⟩ := h
  exact ⟨allSteps row ++ before, last, by rw [allSteps_append, same, List.append_assoc], firm⟩

theorem Ordered.left {row more : List Token} (h : Ordered (row ++ more)) : Ordered row := by
  rw [Ordered, allSteps_append] at h
  exact (List.pairwise_append.1 h).1

theorem Ordered.right {row more : List Token} (h : Ordered (row ++ more)) : Ordered more := by
  rw [Ordered, allSteps_append] at h
  exact (List.pairwise_append.1 h).2.1

theorem Passes.ordered_rest {row rest : List Token} {found : List Position}
    (h : Passes row rest found) (ordered : Ordered row) : Ordered rest := by
  obtain ⟨used, rfl, -⟩ := h
  exact ordered.right

/-- All that is met up to a firm place stands before all that follows. -/
theorem Ordered.lt {row more : List Token} (h : Ordered (row ++ more)) (firm : EndsFirm row) :
    ∀ p ∈ places row, ∀ q ∈ places more, p < q := by
  obtain ⟨before, last, same, firm⟩ := firm
  rw [Ordered, allSteps_append, same] at h
  obtain ⟨upTo, -, across⟩ := List.pairwise_append.1 h
  intro p here q after
  obtain ⟨b, follows, rfl⟩ := List.mem_map.1 after
  have last_lt := (across last (by simp) b follows).2 firm
  obtain ⟨a, met, rfl⟩ := List.mem_map.1 here
  rw [same] at met
  rcases List.mem_append.1 met with met | met
  · exact ((List.pairwise_append.1 upTo).2.2 a met last (by simp)).1.trans_lt last_lt
  · rwa [List.mem_singleton.1 met]

/-- A row is ordered, and so is what stands in a group of it. -/
theorem Ordered.content {d : Delimiter} {content : List Token} {p q : Position}
    (h : Ordered [.group d content p q]) : Ordered content := by
  rw [Ordered, allSteps, allSteps, steps, List.append_nil] at h
  exact (List.pairwise_append.1 (List.pairwise_cons.1 h).2).1

/-- What stands in front of a group that is not in square brackets stands before its content. -/
theorem Ordered.lt_content {row content : List Token} {d : Delimiter} {p q : Position}
    (h : Ordered (row ++ [.group d content p q])) (round : d ≠ .bracket) :
    ∀ a ∈ places row, ∀ b ∈ places content, a < b := by
  rw [Ordered, allSteps_append] at h
  obtain ⟨-, inside, across⟩ := List.pairwise_append.1 h
  rw [allSteps, allSteps, steps, List.append_nil] at inside across
  intro a here b within
  obtain ⟨s, met, rfl⟩ := List.mem_map.1 here
  obtain ⟨t, follows, rfl⟩ := List.mem_map.1 within
  have opens := (List.pairwise_cons.1 inside).1 t (List.mem_append_left _ follows)
  exact (across s met _ List.mem_cons_self).1.trans_lt (opens.2 (by simpa using round))

/-- A reader passes tokens, the last of which is firm. -/
def StopsFirm (row rest : List Token) : Prop := ∃ used, row = used ++ rest ∧ EndsFirm used

theorem Passes.stopsFirm {row mid rest : List Token} {found : List Position}
    (first : Passes row mid found) (second : StopsFirm mid rest) : StopsFirm row rest := by
  obtain ⟨used, rfl, -⟩ := first
  obtain ⟨used', rfl, firm⟩ := second
  exact ⟨used ++ used', (List.append_assoc ..).symm, firm.append used⟩

end Token

/-! ## Rules -/

namespace Source.Rule

open Token (places Passes StopsFirm)

variable {π : Type} {grammar : π → Rule π}

theorem takeMarks_passes {marks : List Char} {row taken rest : List Token}
    (h : takeMarks marks row = some (taken, rest)) : Passes row rest (places taken) := by
  induction marks generalizing row taken rest with
  | nil =>
      cases h
      exact .nothing
  | cons c more ih =>
      rcases row with _ | ⟨_ | ⟨d, joint, p⟩ | _ | _, row⟩
      case cons.mark =>
        rw [takeMarks] at h
        split at h
        · obtain ⟨⟨taken', rest'⟩, others, same⟩ := Option.map_eq_some_iff.1 h
          cases same
          exact ((Passes.one _).append (ih others)).mono (by simp)
        · cases h
      all_goals cases h

theorem takeOne_passes {test : Token → Bool} {row taken rest : List Token}
    (h : takeOne test row = some (taken, rest)) : Passes row rest (places taken) := by
  cases row with
  | nil => cases h
  | cons t row =>
      rw [takeOne] at h
      split at h
      · cases h
        exact .one t
      · cases h

section Run

variable {fuel : Nat} {row taken rest : List Token}

/-- A group is entered, and its whole content is taken. -/
theorem group_of_run {delimiter : Delimiter} {content : Rule π}
    (h : run grammar (fuel + 1) (.group delimiter content) row = some (taken, rest)) :
    ∃ inside within p q, row = .group delimiter inside p q :: rest ∧
      run grammar fuel content inside = some (within, []) ∧
        taken = [.group delimiter within p q] := by
  rcases row with _ | ⟨_ | _ | _ | ⟨d, inside, p, q⟩, row⟩
  case cons.group =>
    rw [run] at h
    split at h
    case isTrue same =>
      cases same
      split at h
      case h_1 within found =>
        cases h
        exact ⟨inside, within, p, q, rfl, found, rfl⟩
      case h_2 => cases h
    case isFalse => cases h
  all_goals cases h

/-- Where two rules stand, the first and then the second takes something. -/
theorem both_of_run {first second : Rule π}
    (h : run grammar (fuel + 1) (.both first second) row = some (taken, rest)) :
    ∃ taken' mid more, run grammar fuel first row = some (taken', mid) ∧
      run grammar fuel second mid = some (more, rest) ∧ taken = taken' ++ more := by
  obtain ⟨⟨taken', mid⟩, head, h⟩ := Option.bind_eq_some_iff.1 h
  obtain ⟨⟨more, rest'⟩, tail, h⟩ := Option.bind_eq_some_iff.1 h
  cases h
  exact ⟨taken', mid, more, head, tail, rfl⟩

/-- Where one of two rules stands, one of them takes what is taken. -/
theorem either_of_run {first second : Rule π}
    (h : run grammar (fuel + 1) (.either first second) row = some (taken, rest)) :
    run grammar fuel first row = some (taken, rest) ∨
      run grammar fuel second row = some (taken, rest) := by
  rw [run] at h
  split at h
  case h_1 found head =>
    cases h
    exact .inl head
  case h_2 => exact .inr h

/-- A repetition is over, or the rule takes something and then the repetition or nobody does. -/
theorem many_of_run {r : Rule π}
    (h : run grammar (fuel + 1) (.many r) row = some (taken, rest)) :
    (taken = [] ∧ rest = row) ∨ run grammar fuel r row = some (taken, rest) ∨
      ∃ taken' mid more, run grammar fuel r row = some (taken', mid) ∧
        run grammar fuel (.many r) mid = some (more, rest) ∧ taken = taken' ++ more := by
  rw [run] at h
  split at h
  case h_1 =>
    cases h
    exact .inl ⟨rfl, rfl⟩
  case h_2 taken' mid head =>
    split at h
    · obtain ⟨⟨more, rest'⟩, tail, same⟩ := Option.map_eq_some_iff.1 h
      cases same
      exact .inr (.inr ⟨taken', mid, more, head, tail, rfl⟩)
    · cases h
      exact .inr (.inl head)

end Run

/-- What a rule takes stands where the tokens stand that it passes. -/
theorem run_passes {fuel : Nat} {rule : Rule π} {row taken rest : List Token}
    (h : run grammar fuel rule row = some (taken, rest)) : Passes row rest (places taken) := by
  induction fuel generalizing rule row taken rest with
  | zero => cases h
  | succ fuel ih =>
      -- What two rules take one after the other stands where they both pass.
      have inTurn {first second : Rule π} {taken' mid more : List Token}
          (head : run grammar fuel first row = some (taken', mid))
          (tail : run grammar fuel second mid = some (more, rest)) :
          Passes row rest (places (taken' ++ more)) :=
        ((ih head).append (ih tail)).mono (by simp)
      cases rule with
      | empty =>
          cases h
          exact .nothing
      | impossible => cases h
      | word _ | ident | anyWord | literal _ =>
          rw [run_of_single? rfl] at h
          exact takeOne_passes h
      | operator marks => exact takeMarks_passes h
      | lifetime =>
          simp only [run] at h
          split at h
          · cases h
            exact (Passes.one _).append (.one _)
          · cases h
      | group delimiter content =>
          obtain ⟨inside, within, p, q, rfl, found, rfl⟩ := group_of_run h
          refine (Passes.one _).mono fun r here => ?_
          have known := (ih found).mem_places r
          simp only [Token.places_group, List.mem_cons, List.mem_append] at here ⊢
          tauto
      | anything =>
          cases h
          exact .everything
      | both first second =>
          obtain ⟨_, _, _, head, tail, rfl⟩ := both_of_run h
          exact inTurn head tail
      | either first second => exact (either_of_run h).elim ih ih
      | many r =>
          obtain ⟨rfl, rfl⟩ | head | ⟨_, _, _, head, tail, rfl⟩ := many_of_run h
          · exact .nothing
          · exact ih head
          · exact inTurn head tail
      | ahead r =>
          obtain ⟨_, -, same⟩ := Option.map_eq_some_iff.1 h
          cases same
          exact .nothing
      | absent r =>
          rw [run] at h
          split at h
          · cases h
          · cases h
            exact .nothing
      | finish =>
          rw [run] at h
          split at h
          case isTrue ended =>
            cases h
            rw [List.isEmpty_iff.1 ended]
            exact .nothing
          case isFalse => cases h
      | omitted r =>
          obtain ⟨⟨taken', rest'⟩, found, same⟩ := Option.map_eq_some_iff.1 h
          cases same
          exact (ih found).unplaced
      | verbatim r =>
          obtain ⟨⟨taken', rest'⟩, found, same⟩ := Option.map_eq_some_iff.1 h
          cases same
          obtain ⟨used, rfl, -⟩ := ih found
          exact ⟨used, rfl, by simp⟩
      | call production => exact ih h

theorem take?_passes {rule : Rule π} {row taken rest : List Token}
    (h : take? grammar rule row = some (taken, rest)) : Passes row rest (places taken) :=
  run_passes h

/-- Whether all that a rule takes ends in a group or a semicolon. -/
def endsFirm : Rule π → Bool
  | group .. => true
  | operator marks => marks == [';']
  | both _ second => second.endsFirm
  | either first second => first.endsFirm && second.endsFirm
  | _ => false

theorem run_stopsFirm {fuel : Nat} {rule : Rule π} {row taken rest : List Token}
    (firm : rule.endsFirm = true) (h : run grammar fuel rule row = some (taken, rest)) :
    StopsFirm row rest := by
  induction rule generalizing fuel row taken rest with
  | group delimiter content =>
      cases fuel with
      | zero => cases h
      | succ fuel =>
          obtain ⟨inside, _, p, q, rfl, -⟩ := group_of_run h
          exact ⟨[.group delimiter inside p q], rfl, Token.endsFirm_group⟩
  | operator marks =>
      cases fuel with
      | zero => cases h
      | succ fuel =>
          obtain rfl : marks = [';'] := by simpa [endsFirm] using firm
          rcases row with _ | ⟨_ | ⟨d, joint, p⟩ | _ | _, row⟩
          case cons.mark =>
            simp only [run, takeMarks] at h
            split at h
            case isTrue semicolon =>
              obtain ⟨rfl, -⟩ := semicolon
              cases h
              exact ⟨[.mark ';' joint p], rfl, Token.endsFirm_semicolon⟩
            case isFalse => cases h
          all_goals cases h
  | both first second _ ih =>
      cases fuel with
      | zero => cases h
      | succ fuel =>
          obtain ⟨_, _, _, head, tail, -⟩ := both_of_run h
          exact (run_passes head).stopsFirm (ih firm tail)
  | either first second ihFirst ihSecond =>
      cases fuel with
      | zero => cases h
      | succ fuel =>
          obtain ⟨firmFirst, firmSecond⟩ := Bool.and_eq_true_iff.1 firm
          exact (either_of_run h).elim (ihFirst firmFirst) (ihSecond firmSecond)
  | _ => cases firm

end Source.Rule

/-! ## Attributes -/

open Source Token

/-- The places that are kept of a path. -/
def NamePath.places (p : NamePath) : List Position := if p.names.isEmpty then [] else [p.position]

/-- The places that are kept of what follows the path of an attribute. -/
def AttributeArguments.places : AttributeArguments → List Position
  | .list _ tokens _ closes => Token.places tokens ++ [closes]
  | .none | .value _ => []

namespace Attribute

/-- The places that are kept of an attribute. -/
def places (a : Attribute) : List Position := a.position :: (a.path.places ++ a.arguments.places)

theorem ofTokens_places (taken : List Token) :
    ∀ p ∈ (NamePath.ofTokens taken).places, p ∈ Token.places taken := by
  cases taken with
  | nil => nofun
  | cons t rest =>
      rw [NamePath.places]
      split
      · nofun
      · intro p here
        rw [List.mem_singleton.1 here]
        exact position_mem_places t rest

theorem ofContent?_places {position : Position} {inner : Bool} {content : List Token}
    {a : Attribute} (h : ofContent? position inner content = some a) :
    ∀ p ∈ a.places, p = position ∨ p ∈ Token.places content := by
  unfold ofContent? at h
  obtain ⟨⟨path, rest⟩, read, kept⟩ := Option.bind_eq_some_iff.1 h
  obtain ⟨used, rfl, inUsed⟩ := Rule.take?_passes read
  have ofPath : ∀ p ∈ (NamePath.ofTokens path).places, p ∈ Token.places (used ++ rest) := by
    intro p here
    rw [places_append]
    exact List.mem_append_left _ (inUsed p (ofTokens_places path p here))
  dsimp only at kept
  split at kept
  · cases kept
    simpa [places, AttributeArguments.places] using fun p here => Or.inr (ofPath p here)
  · cases kept
    intro p here
    simp only [places, AttributeArguments.places, List.mem_cons, List.mem_append] at here
    rcases here with rfl | here | here
    · exact .inl rfl
    · exact .inr (ofPath p here)
    · refine .inr ?_
      simp only [places_append, places_group, List.mem_append, List.mem_cons]
      tauto
  · obtain ⟨⟨value, after⟩, -, kept⟩ := Option.bind_eq_some_iff.1 kept
    split at kept
    · cases kept
      simpa [places, AttributeArguments.places] using fun p here => Or.inr (ofPath p here)
    · cases kept

/-- Attributes before an item stand where they are read. -/
theorem readOuter?_passes {row rest : List Token} {attributes : List Attribute}
    (h : readOuter? row = some (attributes, rest)) :
    Passes row rest (attributes.flatMap places) := by
  induction row using readOuter?.induct generalizing attributes rest with
  | case1 joint p content opens closes after ih =>
      rw [readOuter?] at h
      obtain ⟨first, read, h⟩ := Option.bind_eq_some_iff.1 h
      obtain ⟨⟨more, rest'⟩, others, h⟩ := Option.bind_eq_some_iff.1 h
      cases h
      refine (((Passes.one _).append (.one _)).append (ih others)).mono fun q here => ?_
      rw [List.flatMap_cons, List.mem_append] at here
      have known := ofContent?_places read q
      simp only [places_mark, places_group, List.mem_append, List.mem_cons]
      tauto
  | case2 p joint rest other =>
      rw [readOuter?] at h
      · cases h
      · exact other
  | case3 tokens other other' =>
      rw [readOuter?] at h
      · cases h
        exact .nothing
      · exact other
      · exact other'

/-- Attributes in a body stand where they are read, before all that follows them. -/
theorem readInner?_passes {row rest : List Token} {attributes : List Attribute}
    (h : readInner? row = some (attributes, rest)) :
    Passes row rest (attributes.flatMap places) ∧ (row = rest ∨ StopsFirm row rest) := by
  induction row using readInner?.induct generalizing attributes rest with
  | case1 joint p joint' p' content opens closes after ih =>
      rw [readInner?] at h
      obtain ⟨first, read, h⟩ := Option.bind_eq_some_iff.1 h
      obtain ⟨⟨more, rest'⟩, others, h⟩ := Option.bind_eq_some_iff.1 h
      cases h
      obtain ⟨passed, stops⟩ := ih others
      have opening : Passes (.mark '#' joint p :: .mark '!' joint' p' ::
          .group .bracket content opens closes :: after) after _ :=
        ((Passes.one _).append (.one _)).append (.one _)
      refine ⟨(opening.append passed).mono fun q here => ?_, .inr ?_⟩
      · rw [List.flatMap_cons, List.mem_append] at here
        have known := ofContent?_places read q
        simp only [places_mark, places_group, List.mem_append, List.mem_cons]
        tauto
      · rcases stops with rfl | stops
        · exact ((Passes.one _).append (.one _)).stopsFirm ⟨[_], rfl, endsFirm_group⟩
        · exact opening.stopsFirm stops
  | case2 p joint p' joint' rest other =>
      rw [readInner?] at h
      · cases h
      · exact other
  | case3 tokens other other' =>
      rw [readInner?] at h
      · cases h
        exact ⟨.nothing, .inl rfl⟩
      · exact other
      · exact other'

end Attribute

theorem Visibility.take_passes (row : List Token) : Passes row (Visibility.take row).2 [] := by
  unfold Visibility.take
  split
  case h_1 found rest read => exact (Rule.take?_passes read).unplaced
  case h_2 => exact .nothing

end DomainValues
