import DomainValues.Proofs.ByteOrder
import DomainValues.Proofs.UuidText
import DomainValues.Value

/-!
# Identifiers and texts in the order of their canonical texts

Identifiers and texts are compared by the bytes they are stored in.  Of two rows of digits of one
length, those of the lower number come first (`Uuid.positional_lt`), whatever the base is: the
bytes of an identifier are such a row, and so are the digits of its text.  Hyphens stand at the same
places in all texts of identifiers and change nothing (`Uuid.joined_lt`).

Main statement: `Value.text_order_exact`, the order of the bytes is the order of the canonical texts
by their characters.
-/

namespace DomainValues

/-! ## Rows -/

namespace Text

/-- Comparison of rows by their first members that differ.  A row comes before those that go on
after it. -/
def lexicographic (a b : List Nat) : Ordering := List.compareLex compare a b

instance : Std.OrientedCmp lexicographic :=
  inferInstanceAs (Std.OrientedCmp (List.compareLex compare))

instance : Std.LawfulEqCmp lexicographic :=
  inferInstanceAs (Std.LawfulEqCmp (List.compareLex compare))

theorem lexicographic_eq_lt_iff {a b : List Nat} : lexicographic a b = .lt ↔ a < b := by
  unfold lexicographic
  induction a generalizing b with
  | nil => cases b <;> simp [List.compareLex]
  | cons x a ih =>
      cases b with
      | nil => simp [List.compareLex]
      | cons y b =>
          rw [List.cons_lt_cons_iff, ← ih, List.compareLex]
          cases order : compare x y with
          | lt => simp [Nat.compare_eq_lt.1 order]
          | eq => simp [Nat.compare_eq_eq.1 order]
          | gt =>
              have greater := Nat.compare_eq_gt.1 order
              simp only [reduceCtorEq, false_iff, not_or, not_and]
              exact ⟨by omega, by omega⟩

theorem lexicographic_self (a : List Nat) : lexicographic a a = .eq := Std.ReflCmp.compare_self

/-- Rows that rise with what they are made from are compared as it is. -/
theorem lexicographic_eq {α : Type} (order : α → α → Ordering) [Std.OrientedCmp order]
    [Std.LawfulEqCmp order] (row : α → List Nat)
    (rises : ∀ x y, order x y = .lt → row x < row y) (x y : α) :
    lexicographic (row x) (row y) = order x y := by
  cases h : order x y with
  | lt => exact lexicographic_eq_lt_iff.2 (rises x y h)
  | eq =>
      rw [Std.LawfulEqCmp.eq_of_compare h]
      exact lexicographic_self _
  | gt =>
      have less := lexicographic_eq_lt_iff.2 (rises y x (Std.OrientedCmp.gt_iff_lt.1 h))
      exact Std.OrientedCmp.gt_iff_lt.2 less

/-- The code points of a text. -/
def codePoints (text : String) : List Nat := text.toList.map Char.toNat

theorem codePoints_lt {s t : String} (less : s.toList < t.toList) : codePoints s < codePoints t :=
  List.map_lt (fun _ _ lower => lower) less

end Text

/-! ## Identifiers -/

namespace Uuid

/-- The digits of a number to the base of 256, a given count of them. -/
def byteDigits : Nat → Nat → List UInt8
  | 0, _ => []
  | count + 1, n => byteDigits count (n / 256) ++ [UInt8.ofNat (n % 256)]

/-- The bytes of an identifier, the highest first. -/
def bytes (u : Uuid) : List UInt8 := byteDigits 16 u.bits.toNat

/-! ### Rows of digits -/

theorem append_lt_append {α : Type} [LT α] {a b s t : List α} (less : a < b)
    (length : a.length = b.length) : a ++ s < b ++ t := by
  induction a generalizing b with
  | nil =>
      obtain rfl := List.length_eq_zero_iff.1 length.symm
      exact absurd less (List.not_lt_nil [])
  | cons x a ih =>
      cases b with
      | nil => cases length
      | cons y b =>
          rw [List.cons_lt_cons_iff] at less
          rw [List.cons_append, List.cons_append, List.cons_lt_cons_iff]
          exact less.imp_right fun ⟨same, rest⟩ => ⟨same, ih rest (Nat.succ.inj length)⟩

/-- Of two numbers written with the same count of digits, the lower one has the lower digits. -/
theorem positional_lt {α : Type} [LT α] {base : Nat} {digit : Nat → α}
    {digits : Nat → Nat → List α}
    (next : ∀ count n, digits (count + 1) n = digits count (n / base) ++ [digit (n % base)])
    (length : ∀ count n, (digits count n).length = count)
    (rises : ∀ i j, i < j → j < base → digit i < digit j) {count n m : Nat} (less : n < m)
    (bound : m < base ^ count) : digits count n < digits count m := by
  induction count generalizing n m with
  | zero =>
      rw [Nat.pow_zero] at bound
      omega
  | succ count ih =>
      have positive : 0 < base := by
        rcases Nat.eq_zero_or_pos base with rfl | positive
        · simp at bound
        · exact positive
      rw [next, next]
      by_cases same : n / base = m / base
      · rw [same]
        apply List.append_left_lt
        have last : n % base < m % base := by
          have := Nat.div_add_mod n base
          have := Nat.div_add_mod m base
          rw [same] at *
          omega
        exact List.cons_lt_cons_iff.2 (.inl (rises _ _ last (Nat.mod_lt m positive)))
      · have leading : n / base < m / base :=
          lt_of_le_of_ne (Nat.div_le_div_right less.le) same
        have leadingBound : m / base < base ^ count := by
          rw [Nat.div_lt_iff_lt_mul positive, ← Nat.pow_succ]
          exact bound
        exact append_lt_append (ih leading leadingBound) (by rw [length, length])

theorem length_byteDigits (count n : Nat) : (byteDigits count n).length = count := by
  induction count generalizing n with
  | zero => rfl
  | succ count ih => rw [byteDigits, List.length_append, ih, List.length_singleton]

theorem byteDigits_lt {count n m : Nat} (less : n < m) (bound : m < 256 ^ count) :
    byteDigits count n < byteDigits count m := by
  have next (k i : Nat) :
      byteDigits (k + 1) i = byteDigits k (i / 256) ++ [UInt8.ofNat (i % 256)] := rfl
  refine positional_lt next length_byteDigits (fun i j lower bound => ?_) less bound
  rw [UInt8.lt_iff_toNat_lt, UInt8.toNat_ofNat_of_lt' bound,
    UInt8.toNat_ofNat_of_lt' (lower.trans bound)]
  exact lower

theorem hexDigits_lt {count n m : Nat} (less : n < m) (bound : m < 16 ^ count) :
    hexDigits count n < hexDigits count m := by
  have next (k i : Nat) : hexDigits (k + 1) i = hexDigits k (i / 16) ++ [Nat.digitChar (i % 16)] :=
    rfl
  have digits : ∀ j i : Fin 16, i < j → Nat.digitChar i < Nat.digitChar j := by decide
  refine positional_lt next length_hexDigits (fun i j lower bound => ?_) less bound
  exact digits ⟨j, bound⟩ ⟨i, lower.trans bound⟩ lower

/-! ### Canonical texts -/

/-- Of two rows of one length, the lower one is lower before a place, or equal before it and lower
after it. -/
theorem take_lt_or_drop_lt {α : Type} [LT α] {a b : List α} (less : a < b) (n : Nat)
    (length : a.length = b.length) :
    a.take n < b.take n ∨ a.take n = b.take n ∧ a.drop n < b.drop n := by
  induction n generalizing a b with
  | zero => exact .inr ⟨rfl, less⟩
  | succ n ih =>
      cases a with
      | nil =>
          obtain rfl := List.length_eq_zero_iff.1 length.symm
          exact absurd less (List.not_lt_nil [])
      | cons x a =>
          cases b with
          | nil => cases length
          | cons y b =>
              rw [List.take_succ_cons, List.take_succ_cons, List.drop_succ_cons,
                List.drop_succ_cons, List.cons_lt_cons_iff]
              rcases List.cons_lt_cons_iff.1 less with first | ⟨rfl, rest⟩
              · exact .inl (.inl first)
              · rcases ih rest (Nat.succ.inj length) with before | ⟨same, after⟩
                · exact .inl (.inr ⟨rfl, before⟩)
                · exact .inr ⟨congrArg _ same, after⟩

/-- Hyphens between the same groups of digits keep the order. -/
theorem joined_lt {cs ds : List Char} (less : cs < ds) (ns : List Nat) (n : Nat)
    (lengthC : cs.length = (n :: ns).sum) (lengthD : ds.length = (n :: ns).sum) :
    List.intercalate ['-'] (cut (n :: ns) cs) < List.intercalate ['-'] (cut (n :: ns) ds) := by
  induction ns generalizing n cs ds with
  | nil =>
      rw [List.sum_singleton] at lengthC lengthD
      rw [cut, cut, cut, cut, List.intercalate_singleton, List.intercalate_singleton,
        List.take_of_length_le (by omega), List.take_of_length_le (by omega)]
      exact less
  | cons k ns ih =>
      have length : cs.length = ds.length := by rw [lengthC, lengthD]
      have unfolded (es : List Char) : List.intercalate ['-'] (cut (n :: k :: ns) es) =
          es.take n ++ '-' :: List.intercalate ['-'] (cut (k :: ns) (es.drop n)) := by
        rw [cut, cut, List.intercalate_cons_cons, List.append_assoc]
        rfl
      rw [unfolded, unfolded]
      rcases take_lt_or_drop_lt less n length with before | ⟨same, after⟩
      · exact append_lt_append before (by rw [List.length_take, List.length_take, length])
      · rw [same]
        apply List.append_left_lt
        rw [List.cons_lt_cons_iff]
        rw [List.sum_cons] at lengthC lengthD
        exact .inr ⟨rfl, ih after k (by rw [List.length_drop]; omega)
          (by rw [List.length_drop]; omega)⟩

theorem text_lt {u v : Uuid} (less : u.bits.toNat < v.bits.toNat) :
    u.text.toList < v.text.toList := by
  have bound : v.bits.toNat < 16 ^ 32 := v.bits.isLt
  rw [text, text, String.toList_ofList, String.toList_ofList]
  exact joined_lt (hexDigits_lt less bound) [4, 4, 4, 12] 8 (length_hexDigits 32 _)
    (length_hexDigits 32 _)

instance : Std.OrientedCmp order :=
  inferInstanceAs (Std.OrientedCmp (compareOn fun u : Uuid => u.bits.toNat))

instance : Std.LawfulEqCmp order where
  eq_of_compare same :=
    congrArg Uuid.mk (BitVec.eq_of_toNat_eq (Std.LawfulEqCmp.eq_of_compare same))
  compare_self := Std.ReflCmp.compare_self

end Uuid

/-! ## Values -/

namespace Value

variable {t : ValueType}

/-- Two values that are stored in given bytes are ordered as their canonical texts. -/
structure OrderedAsText (v w : Value t) (bytes bytes' : List UInt8) : Prop where
  /-- Their order is that of the bytes. -/
  byBytes : v.order w = Text.lexicographic (bytes.map UInt8.toNat) (bytes'.map UInt8.toNat)
  /-- Their order is that of the texts by code points. -/
  byText : v.order w = Text.lexicographic (Text.codePoints v.format) (Text.codePoints w.format)
  /-- They are equal exactly if the bytes are. -/
  sameBytes : v = w ↔ bytes = bytes'
  /-- They are equal exactly if the texts are. -/
  sameText : v = w ↔ v.format = w.format

/-- Bytes and texts that rise with the values order them. -/
theorem orderedAsText_of_lt (t : ValueType)
    (order : t.params.Primitive → t.params.Primitive → Ordering) [Std.OrientedCmp order]
    [Std.LawfulEqCmp order] (isOrder : t.params.order = order)
    (bytes : t.params.Primitive → List UInt8)
    (bytesRise : ∀ x y, order x y = .lt → bytes x < bytes y)
    (textRises : ∀ x y, order x y = .lt → (t.params.format x).toList < (t.params.format y).toList)
    (v w : Value t) : v.OrderedAsText w (bytes v.primitive) (bytes w.primitive) := by
  have ordered : v.order w = order v.primitive w.primitive := by rw [Value.order, isOrder]
  have byBytes := Text.lexicographic_eq order (fun x => (bytes x).map UInt8.toNat)
    (fun x y less => List.map_lt (fun _ _ => UInt8.lt_iff_toNat_lt.1) (bytesRise x y less))
    v.primitive w.primitive
  have byText := Text.lexicographic_eq order (fun x => Text.codePoints (t.params.format x))
    (fun x y less => Text.codePoints_lt (textRises x y less)) v.primitive w.primitive
  have level (same : order v.primitive w.primitive = .eq) : v = w := by
    cases v
    cases w
    exact congrArg Value.mk (Std.LawfulEqCmp.eq_of_compare same)
  refine ⟨ordered.trans byBytes.symm, ordered.trans byText.symm,
    ⟨by rintro rfl; rfl, fun same => level ?_⟩, ⟨by rintro rfl; rfl, fun same => level ?_⟩⟩
  · rw [← byBytes, same]
    exact Text.lexicographic_self _
  · rw [← byText]
    change Text.lexicographic (Text.codePoints v.format) (Text.codePoints w.format) = .eq
    rw [same]
    exact Text.lexicographic_self _

/-- All identifiers and all texts are ordered by the bytes they are stored in, which is the order of
their canonical texts by code points, and are equal exactly if these texts are. -/
theorem text_order_exact (path name : String) :
    (∀ v w : Value ⟨path, name, .identifier⟩,
      v.OrderedAsText w (Uuid.bytes v.primitive) (Uuid.bytes w.primitive)) ∧
    ∀ (min max : UInt64) (pattern : Option String)
      (v w : Value ⟨path, name, .boundedText min max pattern⟩),
      v.OrderedAsText w (Text.bytes v.primitive) (Text.bytes w.primitive) := by
  constructor
  · apply orderedAsText_of_lt ⟨path, name, .identifier⟩ Uuid.order rfl Uuid.bytes
    · exact fun x y less => Uuid.byteDigits_lt (Nat.compare_eq_lt.1 less) y.bits.isLt
    · exact fun x y less => Uuid.text_lt (Nat.compare_eq_lt.1 less)
  · intro min max pattern
    apply orderedAsText_of_lt ⟨path, name, .boundedText min max pattern⟩
      (compare : String → String → Ordering) rfl Text.bytes
    · exact fun x y less => Text.bytes_lt (Std.LawfulLTCmp.eq_lt_iff_lt.1 less)
    · exact fun x y less => String.lt_iff_toList_lt.1 (Std.LawfulLTCmp.eq_lt_iff_lt.1 less)

end Value
end DomainValues
