import DomainValues.Uuid
import Mathlib.Algebra.Ring.Nat
import Mathlib.Data.List.Basic

/-!
# Identifiers read back from their text

The canonical text of an identifier has its 32 hexadecimal digits in groups that are joined by
hyphens.  A reader takes the groups apart by their lengths, and the digits determine the bits.  The
canonical text is one of four spellings that are read (`Uuid.SpelledBy`).

Main statements:

* `Uuid.digitsValue?_hexDigits`: the digits of a number have its value.
* `Uuid.joinGroups?_cut`: joined groups are taken apart again.
* `Uuid.read?_eq_some_iff`: an identifier is read from exactly its spellings.
* `Uuid.spelledBy_text`: the canonical text is one of them.
-/

namespace DomainValues.Uuid

/-! ## Digits -/

theorem digit?_digitChar {d : Nat} (h : d < 16) : digit? (Nat.digitChar d) = some d := by
  have digits : ∀ d : Fin 16, digit? (Nat.digitChar d) = some d.val := by decide
  exact digits ⟨d, h⟩

theorem length_hexDigits (count n : Nat) : (hexDigits count n).length = count := by
  induction count generalizing n with
  | zero => rfl
  | succ count ih => rw [hexDigits, List.length_append, ih, List.length_singleton]

theorem digitsValue?_append (start : Nat) (a b : List Char) :
    digitsValue? start (a ++ b) = (digitsValue? start a).bind fun n => digitsValue? n b := by
  induction a generalizing start with
  | nil => rfl
  | cons c rest ih =>
      rw [List.cons_append, digitsValue?, digitsValue?]
      cases digit? c with
      | none => rfl
      | some d => exact ih (16 * start + d)

/-- The digits of a number have its value. -/
theorem digitsValue?_hexDigits {count n : Nat} (start : Nat) (h : n < 16 ^ count) :
    digitsValue? start (hexDigits count n) = some (16 ^ count * start + n) := by
  induction count generalizing n with
  | zero =>
      obtain rfl : n = 0 := by omega
      rw [hexDigits, digitsValue?, Nat.pow_zero, Nat.one_mul, Nat.add_zero]
  | succ count ih =>
      have leading : n / 16 < 16 ^ count := by
        rw [Nat.div_lt_iff_lt_mul (by decide), ← Nat.pow_succ]
        exact h
      have last : digit? (Nat.digitChar (n % 16)) = some (n % 16) :=
        digit?_digitChar (Nat.mod_lt n (by decide))
      rw [hexDigits, digitsValue?_append, ih leading, Option.bind_some, digitsValue?, last]
      dsimp only
      rw [digitsValue?, Nat.pow_succ', Nat.mul_assoc]
      congr 1
      omega

/-! ## Groups -/

/-- Groups cut from a text and joined by hyphens have one more character for each hyphen. -/
theorem length_joined (n : Nat) (ns : List Nat) {cs : List Char} (h : cs.length = (n :: ns).sum) :
    (List.intercalate ['-'] (cut (n :: ns) cs)).length = cs.length + ns.length := by
  induction ns generalizing n cs with
  | nil =>
      rw [List.sum_singleton] at h
      rw [cut, cut, List.intercalate_singleton, List.take_of_length_le (by omega)]
      rfl
  | cons k ns ih =>
      rw [List.sum_cons] at h
      have rest : (cs.drop n).length = (k :: ns).sum := by
        rw [List.length_drop]
        omega
      have tail := ih k rest
      rw [cut] at tail
      rw [cut, cut, List.intercalate_cons_cons, List.length_append, List.length_append, tail,
        List.length_take, List.length_drop, List.length_singleton, List.length_cons]
      omega

/-- Joined groups are taken apart again. -/
theorem joinGroups?_cut (n : Nat) (ns : List Nat) {cs : List Char}
    (h : cs.length = (n :: ns).sum) :
    joinGroups? (n :: ns) (List.intercalate ['-'] (cut (n :: ns) cs)) = some cs := by
  induction ns generalizing n cs with
  | nil =>
      rw [List.sum_singleton] at h
      rw [cut, cut, List.intercalate_singleton, List.take_of_length_le (by omega), joinGroups?,
        if_pos h]
  | cons k ns ih =>
      rw [List.sum_cons] at h
      have rest : (cs.drop n).length = (k :: ns).sum := by
        rw [List.length_drop]
        omega
      have taken : (cs.take n).length = n := by
        rw [List.length_take]
        omega
      have tail := ih k rest
      rw [cut] at tail
      rw [cut, cut, List.intercalate_cons_cons, List.append_assoc, List.singleton_append,
        joinGroups?, List.drop_left' taken, List.take_left' taken]
      · change (joinGroups? (k :: ns) _).map (cs.take n ++ ·) = some cs
        rw [tail, Option.map_some, List.take_append_drop]
      · nofun

/-! ## Spellings -/

/-- A row of hexadecimal digits denotes a number. -/
def IsHexNumeral (digits : List Char) (n : Nat) : Prop :=
  ∃ values : List Nat, digits.map digit? = values.map some ∧
    values.foldl (fun n d => 16 * n + d) 0 = n

/-- A row of 32 hexadecimal digits gives the bits of an identifier. -/
def HasDigits (u : Uuid) (digits : List Char) : Prop :=
  digits.length = 32 ∧ ∃ n, IsHexNumeral digits n ∧ u.bits = BitVec.ofNat 128 n

/-- A row of digits in groups, joined by hyphens. -/
def hyphenate (digits : List Char) : List Char := List.intercalate ['-'] (cut groups digits)

/-- A text spells an identifier. -/
inductive SpelledBy (u : Uuid) : List Char → Prop where
  /-- The digits alone. -/
  | digits {digits : List Char} : u.HasDigits digits → SpelledBy u digits
  /-- The groups. -/
  | groups {digits : List Char} : u.HasDigits digits → SpelledBy u (hyphenate digits)
  /-- The groups in braces. -/
  | braced {digits : List Char} : u.HasDigits digits →
      SpelledBy u ('\x7b' :: (hyphenate digits ++ ['\x7d']))
  /-- The groups after the name of a scheme, which is written in any case. -/
  | named {scheme digits : List Char} : scheme.map Char.toLower = "urn:uuid:".toList →
      u.HasDigits digits → SpelledBy u (scheme ++ hyphenate digits)

variable {u : Uuid} {cs : List Char}

theorem digitsValue?_eq_some_iff {start n : Nat} : digitsValue? start cs = some n ↔
    ∃ values : List Nat, cs.map digit? = values.map some ∧
      values.foldl (fun n d => 16 * n + d) start = n := by
  induction cs generalizing start with
  | nil =>
      constructor
      · rintro ⟨⟩
        exact ⟨[], rfl, rfl⟩
      · rintro ⟨values, none, rfl⟩
        obtain rfl := List.map_eq_nil_iff.1 none.symm
        rfl
  | cons c rest ih =>
      rw [digitsValue?]
      constructor
      · intro h
        split at h
        case h_1 d digit =>
          obtain ⟨values, digits, rfl⟩ := ih.1 h
          refine ⟨d :: values, ?_, rfl⟩
          rw [List.map_cons, List.map_cons, digit, digits]
        case h_2 => cases h
      · rintro ⟨values, digits, rfl⟩
        cases values with
        | nil => cases digits
        | cons d values =>
            rw [List.map_cons, List.map_cons] at digits
            obtain ⟨digit, digits⟩ := List.cons.inj digits
            rw [digit]
            exact ih.2 ⟨values, digits, rfl⟩

theorem readSimple?_eq_some_iff : readSimple? cs = some u ↔ u.HasDigits cs := by
  unfold readSimple? HasDigits IsHexNumeral
  obtain ⟨bits⟩ := u
  split
  case isTrue length =>
    rw [and_iff_right length, Option.map_eq_some_iff]
    refine exists_congr fun n => ?_
    rw [digitsValue?_eq_some_iff, Uuid.mk.injEq, eq_comm (a := bits)]
  case isFalse length => exact ⟨nofun, fun h => absurd h.1 length⟩

theorem joinGroups?_eq_some_iff (n : Nat) (ns : List Nat) {digits : List Char} :
    joinGroups? (n :: ns) cs = some digits ↔ digits.length = (n :: ns).sum ∧
      cs = List.intercalate ['-'] (cut (n :: ns) digits) := by
  constructor
  · intro h
    induction ns generalizing n cs digits with
    | nil =>
        rw [joinGroups?] at h
        split at h
        case isTrue length =>
          obtain rfl := Option.some.inj h
          rw [List.sum_singleton, cut, cut, List.intercalate_singleton,
            List.take_of_length_le (by omega)]
          exact ⟨length, rfl⟩
        case isFalse => cases h
    | cons k ns ih =>
        rw [joinGroups?] at h
        · split at h
          case h_1 rest found =>
            obtain ⟨more, read, rfl⟩ := Option.map_eq_some_iff.1 h
            obtain ⟨length, rfl⟩ := ih k read
            have inside : n < cs.length := by
              have counted := congrArg List.length found
              rw [List.length_drop, List.length_cons] at counted
              omega
            have taken : (cs.take n).length = n := by
              rw [List.length_take]
              omega
            constructor
            · rw [List.length_append, taken, length, List.sum_cons (a := n)]
            · rw [cut, List.take_left' taken, List.drop_left' taken]
              calc cs = cs.take n ++ cs.drop n := (List.take_append_drop n cs).symm
                _ = cs.take n ++ ['-'] ++ List.intercalate ['-'] (cut (k :: ns) more) := by
                  rw [found, List.append_assoc, List.singleton_append]
                _ = List.intercalate ['-'] (cs.take n :: cut (k :: ns) more) := by
                  rw [cut, List.intercalate_cons_cons]
          case h_2 => cases h
        · nofun
  · rintro ⟨length, rfl⟩
    exact joinGroups?_cut n ns length

theorem readHyphenated?_eq_some_iff :
    readHyphenated? cs = some u ↔ ∃ digits, u.HasDigits digits ∧ cs = hyphenate digits := by
  unfold readHyphenated?
  rw [Option.bind_eq_some_iff]
  refine exists_congr fun digits => ?_
  rw [groups, joinGroups?_eq_some_iff, readSimple?_eq_some_iff]
  exact ⟨fun h => ⟨h.2, h.1.2⟩, fun h => ⟨⟨h.1.1, h.2⟩, h.1⟩⟩

theorem HasDigits.length_hyphenate {digits : List Char} (h : u.HasDigits digits) :
    (hyphenate digits).length = 36 := by
  have length : digits.length = groups.sum := h.1
  rw [hyphenate, groups, length_joined 8 _ length, h.1]
  rfl

theorem inBraces?_eq_some_iff {inner : List Char} :
    inBraces? cs = some inner ↔ cs = '\x7b' :: (inner ++ ['\x7d']) := by
  unfold inBraces?
  constructor
  · intro h
    split at h
    case h_1 rest =>
      split at h
      case isTrue last =>
        obtain ⟨inside, rfl⟩ := List.getLast?_eq_some_iff.1 last
        obtain rfl := Option.some.inj h
        rw [List.dropLast_concat]
      case isFalse => cases h
    case h_2 => cases h
  · rintro rfl
    refine (if_pos List.getLast?_concat).trans ?_
    rw [List.dropLast_concat]

theorem afterUrn?_eq_some_iff {rest : List Char} :
    afterUrn? cs = some rest ↔ ∃ scheme, scheme.map Char.toLower = urn ∧ cs = scheme ++ rest := by
  unfold afterUrn?
  constructor
  · intro h
    split at h
    case isTrue name =>
      obtain rfl := Option.some.inj h
      exact ⟨_, name, (List.take_append_drop _ cs).symm⟩
    case isFalse => cases h
  · rintro ⟨scheme, name, rfl⟩
    have length : scheme.length = urn.length := by
      rw [← name, List.length_map]
    rw [List.take_left' length, List.drop_left' length, if_pos name]

theorem spelledBy_of_read? {text : String} (h : read? text = some u) : u.SpelledBy text.toList := by
  unfold read? at h
  dsimp only at h
  split at h
  case isTrue => exact .digits (readSimple?_eq_some_iff.1 h)
  split at h
  case isTrue =>
    obtain ⟨digits, bits, same⟩ := readHyphenated?_eq_some_iff.1 h
    exact same ▸ .groups bits
  split at h
  case h_1 inner _ inside =>
    obtain ⟨digits, bits, rfl⟩ := readHyphenated?_eq_some_iff.1 h
    exact inBraces?_eq_some_iff.1 inside ▸ .braced bits
  case h_2 rest _ after =>
    obtain ⟨digits, bits, rfl⟩ := readHyphenated?_eq_some_iff.1 h
    obtain ⟨scheme, name, same⟩ := afterUrn?_eq_some_iff.1 after
    exact same ▸ .named name bits
  case h_3 => cases h

theorem SpelledBy.read? {text : String} (h : u.SpelledBy text.toList) : read? text = some u := by
  unfold Uuid.read?
  generalize text.toList = cs at h
  dsimp only
  cases h with
  | digits bits => rw [if_pos bits.1, readSimple?_eq_some_iff.2 bits]
  | groups bits =>
      rw [if_neg (by simp [bits.length_hyphenate]), if_pos bits.length_hyphenate,
        readHyphenated?_eq_some_iff.2 ⟨_, bits, rfl⟩]
  | braced bits =>
      rw [if_neg (by simp [bits.length_hyphenate]), if_neg (by simp [bits.length_hyphenate]),
        inBraces?_eq_some_iff.2 rfl]
      exact readHyphenated?_eq_some_iff.2 ⟨_, bits, rfl⟩
  | @named scheme digits name bits =>
      have length : scheme.length = 9 := by
        rw [← List.length_map (f := Char.toLower), name]
        rfl
      have noBraces : inBraces? (scheme ++ hyphenate digits) = none := by
        rw [Option.eq_none_iff_forall_ne_some]
        intro inner inside
        have braces := inBraces?_eq_some_iff.1 inside
        cases scheme with
        | nil => cases length
        | cons c rest =>
            obtain rfl := (List.cons.inj braces).1
            exact absurd (List.cons.inj name).1 (by decide)
      rw [if_neg (by simp [length, bits.length_hyphenate]),
        if_neg (by simp [length, bits.length_hyphenate]), noBraces,
        afterUrn?_eq_some_iff.2 ⟨scheme, name, rfl⟩]
      exact readHyphenated?_eq_some_iff.2 ⟨_, bits, rfl⟩

/-- An identifier is read from exactly its spellings. -/
theorem read?_eq_some_iff {text : String} : read? text = some u ↔ u.SpelledBy text.toList :=
  ⟨spelledBy_of_read?, SpelledBy.read?⟩

/-! ## The canonical text -/

/-- The digits of the bits give an identifier. -/
theorem hasDigits_hexDigits (u : Uuid) : u.HasDigits (hexDigits 32 u.bits.toNat) := by
  have small : u.bits.toNat < 16 ^ 32 := u.bits.isLt
  have value := digitsValue?_hexDigits 0 small
  rw [Nat.mul_zero, Nat.zero_add] at value
  refine ⟨length_hexDigits 32 _, _, digitsValue?_eq_some_iff.1 value, ?_⟩
  rw [BitVec.ofNat_toNat, BitVec.setWidth_eq]

/-- The canonical text of an identifier spells it. -/
theorem spelledBy_text (u : Uuid) : u.SpelledBy u.text.toList := by
  rw [text, String.toList_ofList]
  exact .groups u.hasDigits_hexDigits

end DomainValues.Uuid
