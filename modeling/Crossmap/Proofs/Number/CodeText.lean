import Crossmap.Conversion.Resolve
import Mathlib.Data.List.Induction

/-! # Codes in text

A code is written in decimal digits with a minus sign where it is negative, and reading what was
written gives the code again (`ofText?_text`), the least and the greatest code included. So does
reading it as the name of a member of a document (`ofName?_text`), where it has to stand without
leading zeros. What reads as a code is an optional sign and digits with white space around them
(`exists_ofText?_eq_some_iff`), and it reads as the code that these spell (`ofText?_eq_some_iff`).
-/

namespace Crossmap

/-- No digit is a blank. -/
theorem Text.isBlank_eq_false_of_isDigit {c : Char} (digit : c.isDigit = true) :
    isBlank c = false := by
  simp only [Char.isDigit, ge_iff_le, Bool.and_eq_true, decide_eq_true_eq,
    UInt32.le_iff_toNat_le] at digit
  change 48 ≤ c.toNat ∧ c.toNat ≤ 57 at digit
  simp only [isBlank, inRanges, blankRanges, List.any_cons, List.any_nil, Bool.or_false,
    Bool.or_eq_false_iff, Bool.and_eq_false_iff, decide_eq_false_iff_not]
  omega

/-- Dropping blanks drops those in front of what has none. -/
theorem Text.dropWhile_isBlank_append {blanks cs : List Char} (blank : ∀ c ∈ blanks, isBlank c)
    (ne : cs ≠ []) (solid : ∀ c ∈ cs, isBlank c = false) (rest : List Char) :
    (blanks ++ (cs ++ rest)).dropWhile isBlank = cs ++ rest := by
  rw [List.dropWhile_append_of_pos blank]
  cases cs with
  | nil => exact absurd rfl ne
  | cons c cs =>
      rw [List.cons_append, List.dropWhile_cons_of_neg]
      rw [solid c List.mem_cons_self]
      exact Bool.false_ne_true

/-- The blanks at both ends of a text go, and no others. -/
theorem Text.strip_append {before cs after : List Char} (blankBefore : ∀ c ∈ before, isBlank c)
    (ne : cs ≠ []) (solid : ∀ c ∈ cs, isBlank c = false) (blankAfter : ∀ c ∈ after, isBlank c) :
    strip (before ++ (cs ++ after)) = cs := by
  have front := dropWhile_isBlank_append blankBefore ne solid after
  have back : (after.reverse ++ (cs.reverse ++ [])).dropWhile isBlank = cs.reverse ++ [] :=
    dropWhile_isBlank_append (fun c member => blankAfter c (List.mem_reverse.mp member))
      (mt List.reverse_eq_nil_iff.mp ne) (fun c member => solid c (List.mem_reverse.mp member)) []
  rw [List.append_nil] at back
  rw [strip, front, List.reverse_append, back, List.reverse_reverse]

/-- What is taken off both ends of a text is blank. -/
theorem Text.exists_eq_append_strip (cs : List Char) :
    ∃ before after, cs = before ++ (strip cs ++ after) ∧ (∀ c ∈ before, isBlank c) ∧
      ∀ c ∈ after, isBlank c := by
  have blank (ds : List Char) : ∀ c ∈ ds.takeWhile isBlank, isBlank c :=
    List.all_eq_true.mp List.all_takeWhile
  refine ⟨cs.takeWhile isBlank, ((cs.dropWhile isBlank).reverse.takeWhile isBlank).reverse, ?_,
    blank cs, fun c member => blank _ c (List.mem_reverse.mp member)⟩
  rw [strip, ← List.reverse_append, List.takeWhile_append_dropWhile, List.reverse_reverse,
    List.takeWhile_append_dropWhile]

/-- Nothing is taken off a text without blanks. -/
theorem Text.strip_eq_self {cs : List Char} (solid : ∀ c ∈ cs, isBlank c = false) :
    strip cs = cs := by
  cases cs with
  | nil => rfl
  | cons c cs =>
      have kept : strip ([] ++ ((c :: cs) ++ [])) = c :: cs :=
        strip_append (by simp) (List.cons_ne_nil c cs) solid (by simp)
      rwa [List.nil_append, List.append_nil] at kept

namespace Code

theorem isDigit_of_mem_toDigits {n : Nat} {c : Char} (member : c ∈ Nat.toDigits 10 n) :
    c.isDigit = true :=
  Nat.isDigit_of_mem_toDigits (by decide) (by decide) member

/-- The decimal digits of a number have its value. -/
theorem digitsValue_toDigits (n : Nat) : digitsValue (Nat.toDigits 10 n) = n :=
  Nat.ofDigitChars_ten_toDigits

/-- Every code is the code of its number. -/
theorem ofInt?_toInt (c : Code) : ofInt? c.toInt = some c := by
  have below : c.toInt ≤ greatest := Int.le_sub_one_of_lt c.toInt_lt
  rw [ofInt?, if_pos ⟨c.le_toInt, below⟩, Int64.ofInt_toInt]

/-- A number that is in the range of codes is the number of one code. -/
theorem ofInt?_eq_some_iff {i : Int} {c : Code} : ofInt? i = some c ↔ i = c.toInt := by
  constructor
  · intro made
    rw [ofInt?] at made
    split at made
    · next within =>
        obtain ⟨low, high⟩ := within
        obtain rfl := Option.some.inj made
        exact (Int64.toInt_ofInt_of_le low (Int.lt_add_one_of_le high)).symm
    · cases made
  · rintro rfl
    exact ofInt?_toInt c

/-- The digits of the size of a code, read with its sign, write the code. -/
theorem ofDigits?_toDigits (c : Code) {negative : Bool} (sign : negative = decide (c.toInt < 0)) :
    ofDigits? negative (Nat.toDigits 10 c.toInt.natAbs) = some c := by
  have value : (if negative then -(c.toInt.natAbs : Int) else c.toInt.natAbs) = c.toInt := by
    subst sign
    by_cases below : c.toInt < 0
    · rw [decide_eq_true below, if_pos rfl]
      omega
    · rw [decide_eq_false below, if_neg Bool.false_ne_true]
      omega
  rw [ofDigits?, digitsValue_toDigits, value, ofInt?_toInt]

/-- The digits of a code behind its sign are read as the code. -/
theorem ofUnsigned?_toDigits (c : Code) {negative : Bool}
    (sign : negative = decide (c.toInt < 0)) :
    ofUnsigned? negative (Nat.toDigits 10 c.toInt.natAbs) = some c := by
  have digits : (Nat.toDigits 10 c.toInt.natAbs).all Char.isDigit = true :=
    List.all_eq_true.mpr fun _ member => isDigit_of_mem_toDigits member
  rw [ofUnsigned?, digits, ofDigits?_toDigits c sign]
  simp [Nat.toDigits_ne_nil]

/-- A code is written in decimal, a negative one behind a minus sign. -/
theorem toList_text (c : Code) :
    c.text.toList =
      if c.toInt < 0 then '-' :: Nat.toDigits 10 c.toInt.natAbs
      else Nat.toDigits 10 c.toInt.natAbs := by
  rw [text, intText]
  split <;> simp [natText]

/-- There are no blanks in the text of a code. -/
theorem isBlank_eq_false_of_mem_text {c : Code} {d : Char} (member : d ∈ c.text.toList) :
    Text.isBlank d = false := by
  rw [toList_text] at member
  split at member
  · rcases List.mem_cons.mp member with rfl | digit
    · decide
    · exact Text.isBlank_eq_false_of_isDigit (isDigit_of_mem_toDigits digit)
  · exact Text.isBlank_eq_false_of_isDigit (isDigit_of_mem_toDigits member)

/-- A text that begins with a digit is read without a sign. -/
theorem read?_of_isDigit {d : Char} {ds : List Char} (digit : d.isDigit = true) :
    read? (d :: ds) = ofUnsigned? false (d :: ds) := by
  unfold read?
  split
  · next same =>
      obtain ⟨rfl, -⟩ := List.cons.inj same
      exact absurd digit (by decide)
  · next same =>
      obtain ⟨rfl, -⟩ := List.cons.inj same
      exact absurd digit (by decide)
  · rfl

/-- The characters of a code in decimal write the code. -/
theorem read?_text (c : Code) : read? c.text.toList = some c := by
  rw [toList_text]
  split
  · next below => exact ofUnsigned?_toDigits c (decide_eq_true below).symm
  · next notBelow =>
      cases digits : Nat.toDigits 10 c.toInt.natAbs with
      | nil => exact absurd digits Nat.toDigits_ne_nil
      | cons d ds =>
          have digit : d.isDigit = true :=
            isDigit_of_mem_toDigits (n := c.toInt.natAbs) (digits ▸ List.mem_cons_self)
          rw [read?_of_isDigit digit, ← digits]
          exact ofUnsigned?_toDigits c (decide_eq_false notBelow).symm

/-- The digits of a number other than zero do not begin with zero. -/
theorem head?_toDigits_ne_zero {n : Nat} (pos : 0 < n) : (Nat.toDigits 10 n).head? ≠ some '0' := by
  induction n using Nat.strongRecOn with
  | ind n ih =>
      by_cases small : n < 10
      · rw [Nat.toDigits_of_lt_base small, List.head?_cons]
        have single : ∀ k < 10, 0 < k → some (Nat.digitChar k) ≠ some '0' := by decide
        exact single n small pos
      · have front := ih (n / 10) (Nat.div_lt_self pos (by decide)) (by omega)
        rw [Nat.toDigits_of_base_le (by decide) (by omega), List.head?_append]
        cases digits : Nat.toDigits 10 (n / 10) with
        | nil => exact absurd digits Nat.toDigits_ne_nil
        | cons d ds =>
            rw [digits] at front
            exact front

/-- The name of a member that begins with a digit other than zero is read without a sign. -/
theorem ofName?_of_isDigit {d : Char} {ds : List Char} (digit : d.isDigit = true) (ne : d ≠ '0') :
    ofName? (d :: ds) = ofUnsigned? false (d :: ds) := by
  unfold ofName?
  split
  · next same => exact absurd (List.cons.inj same).1 ne
  · next same =>
      obtain ⟨rfl, -⟩ := List.cons.inj same
      exact absurd digit (by decide)
  · next same =>
      obtain ⟨rfl, rfl⟩ := List.cons.inj same
      rw [if_neg ne]
  · next same => cases same

/-- The characters of a code in decimal are the name of the code in a document. -/
theorem ofName?_text (c : Code) : ofName? c.text.toList = some c := by
  rw [toList_text]
  by_cases zero : c.toInt = 0
  · have sign : false = decide (c.toInt < 0) := by rw [zero]; rfl
    have value := ofDigits?_toDigits c sign
    rw [zero] at value ⊢
    exact value
  · have first := head?_toDigits_ne_zero (n := c.toInt.natAbs) (by omega)
    cases digits : Nat.toDigits 10 c.toInt.natAbs with
    | nil => exact absurd digits Nat.toDigits_ne_nil
    | cons d ds =>
        rw [digits, List.head?_cons] at first
        have ne : d ≠ '0' := fun same => first (congrArg some same)
        split
        · next below =>
            rw [ofName?, if_neg ne, ← digits]
            exact ofUnsigned?_toDigits c (decide_eq_true below).symm
        · next notBelow =>
            have digit : d.isDigit = true :=
              isDigit_of_mem_toDigits (n := c.toInt.natAbs) (digits ▸ List.mem_cons_self)
            rw [ofName?_of_isDigit digit ne, ← digits]
            exact ofUnsigned?_toDigits c (decide_eq_false notBelow).symm

/-- **What a code is written as reads as that code.** -/
theorem ofText?_text (c : Code) : ofText? c.text = some c := by
  rw [ofText?, Text.strip_eq_self fun _ member => isBlank_eq_false_of_mem_text member, read?_text]

/-! ## Texts that write codes -/

/-- The number that an optional sign and at least one digit write. -/
inductive SignedDigits : List Char → Int → Prop
  | bare {digits : List Char} (ne : digits ≠ []) (all : ∀ d ∈ digits, d.isDigit) :
      SignedDigits digits (digitsValue digits)
  | plus {digits : List Char} (ne : digits ≠ []) (all : ∀ d ∈ digits, d.isDigit) :
      SignedDigits ('+' :: digits) (digitsValue digits)
  | minus {digits : List Char} (ne : digits ≠ []) (all : ∀ d ∈ digits, d.isDigit) :
      SignedDigits ('-' :: digits) (-(digitsValue digits : Int))

/-- Digits behind a sign are read as a code exactly if there are any, all are digits, and their
number with the sign is that of the code. -/
theorem ofUnsigned?_eq_some_iff {negative : Bool} {digits : List Char} {c : Code} :
    ofUnsigned? negative digits = some c ↔
      digits ≠ [] ∧ (∀ d ∈ digits, d.isDigit) ∧
        (if negative then -(digitsValue digits : Int) else digitsValue digits) = c.toInt := by
  rw [ofUnsigned?, ← ofInt?_eq_some_iff, ofDigits?]
  cases digits with
  | nil => simp
  | cons d ds =>
      have ne : d :: ds ≠ [] := List.cons_ne_nil d ds
      by_cases all : ∀ c ∈ d :: ds, c.isDigit
      · rw [List.all_eq_true.mpr all]
        exact ⟨fun made => ⟨ne, all, made⟩, fun made => made.2.2⟩
      · rw [Bool.eq_false_iff.mpr (mt List.all_eq_true.mp all)]
        exact iff_of_false (Option.some_ne_none c).symm fun made => all made.2.1

/-- Characters without blanks around them are read as a code exactly if they are an optional sign
and digits that make its number. -/
theorem read?_eq_some_iff {cs : List Char} {c : Code} :
    read? cs = some c ↔ SignedDigits cs c.toInt := by
  constructor
  · intro written
    unfold read? at written
    split at written
    · obtain ⟨ne, all, value⟩ := ofUnsigned?_eq_some_iff.mp written
      exact value ▸ .plus ne all
    · obtain ⟨ne, all, value⟩ := ofUnsigned?_eq_some_iff.mp written
      exact value ▸ .minus ne all
    · obtain ⟨ne, all, value⟩ := ofUnsigned?_eq_some_iff.mp written
      exact value ▸ .bare ne all
  · intro written
    generalize value : c.toInt = i at written
    cases written with
    | bare ne all =>
        cases cs with
        | nil => exact absurd rfl ne
        | cons d ds =>
            rw [read?_of_isDigit (all d List.mem_cons_self)]
            exact ofUnsigned?_eq_some_iff.mpr ⟨ne, all, value.symm⟩
    | plus ne all => exact ofUnsigned?_eq_some_iff.mpr ⟨ne, all, value.symm⟩
    | minus ne all => exact ofUnsigned?_eq_some_iff.mpr ⟨ne, all, value.symm⟩

/-- Whether a text writes a code: an optional sign and at least one digit, with white space around
them, of a number in the range of codes. -/
def IsWritten (s : String) : Prop :=
  ∃ (before digits after : List Char) (i : Int), s.toList = before ++ (digits ++ after) ∧
    (∀ c ∈ before, Text.isBlank c) ∧ (∀ c ∈ after, Text.isBlank c) ∧ SignedDigits digits i ∧
    least ≤ i ∧ i ≤ greatest

/-- An optional sign and digits are not nothing, and hold no blanks. -/
theorem SignedDigits.solid {cs : List Char} {i : Int} (signed : SignedDigits cs i) :
    cs ≠ [] ∧ ∀ c ∈ cs, Text.isBlank c = false := by
  cases signed with
  | bare ne all => exact ⟨ne, fun c member => Text.isBlank_eq_false_of_isDigit (all c member)⟩
  | plus _ all =>
      refine ⟨List.cons_ne_nil _ _, List.forall_mem_cons.mpr ⟨by decide, fun c member => ?_⟩⟩
      exact Text.isBlank_eq_false_of_isDigit (all c member)
  | minus _ all =>
      refine ⟨List.cons_ne_nil _ _, List.forall_mem_cons.mpr ⟨by decide, fun c member => ?_⟩⟩
      exact Text.isBlank_eq_false_of_isDigit (all c member)

/-- **What reads as a code is what writes one.** -/
theorem exists_ofText?_eq_some_iff {s : String} : (∃ c, ofText? s = some c) ↔ IsWritten s := by
  constructor
  · rintro ⟨c, read⟩
    obtain ⟨before, after, text, blankBefore, blankAfter⟩ := Text.exists_eq_append_strip s.toList
    exact ⟨before, _, after, c.toInt, text, blankBefore, blankAfter, read?_eq_some_iff.mp read,
      c.le_toInt, Int.le_sub_one_of_lt c.toInt_lt⟩
  · rintro ⟨before, digits, after, i, text, blankBefore, blankAfter, signed, low, high⟩
    obtain ⟨ne, solid⟩ := signed.solid
    refine ⟨Int64.ofInt i, ?_⟩
    rw [ofText?, text, Text.strip_append blankBefore ne solid blankAfter, read?_eq_some_iff,
      Int64.toInt_ofInt_of_le low (Int.lt_add_one_of_le high)]
    exact signed

/-! ## Spellings of a code -/

/-- The digits of a number behind zeros. -/
def paddedDigits (zeros n : Nat) : List Char := List.replicate zeros '0' ++ Nat.toDigits 10 n

/-- A number in decimal. Its digits stand behind any zeros, after a minus sign if it is negative and
after a plus sign or none if it is positive; zero stands after either sign or none. -/
inductive Decimal : Int → List Char → Prop
  | bare (zeros n : Nat) : Decimal n (paddedDigits zeros n)
  | plus (zeros n : Nat) : Decimal n ('+' :: paddedDigits zeros n)
  | minus (zeros n : Nat) : Decimal (-n) ('-' :: paddedDigits zeros n)

/-- Whether a text spells a code: it is the code in decimal, with white space around it. -/
def SpelledBy (c : Code) (s : String) : Prop :=
  ∃ before decimal after, s.toList = before ++ (decimal ++ after) ∧
    (∀ d ∈ before, Text.isBlank d) ∧ (∀ d ∈ after, Text.isBlank d) ∧ Decimal c.toInt decimal

/-- Zeros in front of digits do not change their value. -/
theorem digitsValue_replicate_append (zeros : Nat) (ds : List Char) :
    digitsValue (List.replicate zeros '0' ++ ds) = digitsValue ds := by
  induction zeros with
  | zero => rfl
  | succ zeros ih =>
      rw [List.replicate_succ, List.cons_append, digitsValue, Nat.ofDigitChars_cons]
      exact ih

/-- The digits of a number have its value behind any zeros. -/
theorem digitsValue_paddedDigits (zeros n : Nat) : digitsValue (paddedDigits zeros n) = n := by
  rw [paddedDigits, digitsValue_replicate_append, digitsValue_toDigits]

theorem paddedDigits_ne_nil (zeros n : Nat) : paddedDigits zeros n ≠ [] :=
  List.append_ne_nil_of_right_ne_nil _ Nat.toDigits_ne_nil

theorem isDigit_of_mem_paddedDigits {zeros n : Nat} {d : Char} (member : d ∈ paddedDigits zeros n) :
    d.isDigit = true := by
  rcases List.mem_append.mp member with padding | digit
  · rw [List.eq_of_mem_replicate padding]
    decide
  · exact isDigit_of_mem_toDigits digit

/-- The character of a digit is that of its value. -/
theorem digitChar_of_isDigit {d : Char} (digit : d.isDigit = true) :
    d.toNat - 48 < 10 ∧ Nat.digitChar (d.toNat - 48) = d := by
  simp only [Char.isDigit, ge_iff_le, Bool.and_eq_true, decide_eq_true_eq,
    UInt32.le_iff_toNat_le] at digit
  change 48 ≤ d.toNat ∧ d.toNat ≤ 57 at digit
  have small : d.toNat - 48 < 10 := by omega
  refine ⟨small, Char.toNat_inj.mp ?_⟩
  rw [Nat.toNat_digitChar_of_lt_ten small]
  omega

/-- Digits are those of their value behind zeros. -/
theorem exists_eq_paddedDigits {ds : List Char} (ne : ds ≠ []) (all : ∀ d ∈ ds, d.isDigit) :
    ∃ zeros, ds = paddedDigits zeros (digitsValue ds) := by
  induction ds using List.reverseRecOn with
  | nil => exact absurd rfl ne
  | append_singleton front d ih =>
      obtain ⟨small, char⟩ := digitChar_of_isDigit (all d (by simp))
      have last : Nat.toDigits 10 (d.toNat - 48) = [d] := by
        rw [Nat.toDigits_of_lt_base small, char]
      have value : digitsValue (front ++ [d]) = 10 * digitsValue front + (d.toNat - 48) := by
        rw [digitsValue, Nat.ofDigitChars_append, Nat.ofDigitChars_cons]
        rfl
      rw [value]
      by_cases empty : front = []
      · subst empty
        have none : digitsValue [] = 0 := rfl
        rw [none, Nat.mul_zero, Nat.zero_add]
        exact ⟨0, last.symm⟩
      · obtain ⟨zeros, padded⟩ := ih empty fun d' member => all d' (List.mem_append_left _ member)
        by_cases zero : digitsValue front = 0
        · -- The digit zero of the front part is one more zero before the last digit.
          rw [zero] at padded ⊢
          refine ⟨zeros + 1, ?_⟩
          rw [padded, paddedDigits, paddedDigits, Nat.mul_zero, Nat.zero_add, last,
            List.replicate_succ']
          rfl
        · refine ⟨zeros, ?_⟩
          rw [paddedDigits, ← Nat.toDigits_append_toDigits (by decide) (Nat.pos_of_ne_zero zero)
            small, last, ← List.append_assoc, ← paddedDigits, ← padded]

/-- An optional sign and digits write the number that they are in decimal, behind zeros. -/
theorem signedDigits_iff_decimal {cs : List Char} {i : Int} : SignedDigits cs i ↔ Decimal i cs := by
  constructor
  · intro signed
    cases signed with
    | bare ne all =>
        obtain ⟨zeros, padded⟩ := exists_eq_paddedDigits ne all
        rw [padded, digitsValue_paddedDigits]
        exact .bare zeros _
    | plus ne all =>
        obtain ⟨zeros, padded⟩ := exists_eq_paddedDigits ne all
        rw [padded, digitsValue_paddedDigits]
        exact .plus zeros _
    | minus ne all =>
        obtain ⟨zeros, padded⟩ := exists_eq_paddedDigits ne all
        rw [padded, digitsValue_paddedDigits]
        exact .minus zeros _
  · have digits (zeros n : Nat) : ∀ d ∈ paddedDigits zeros n, d.isDigit :=
      fun _ member => isDigit_of_mem_paddedDigits member
    intro decimal
    cases decimal with
    | bare zeros n =>
        have signed := SignedDigits.bare (paddedDigits_ne_nil zeros n) (digits zeros n)
        rwa [digitsValue_paddedDigits] at signed
    | plus zeros n =>
        have signed := SignedDigits.plus (paddedDigits_ne_nil zeros n) (digits zeros n)
        rwa [digitsValue_paddedDigits] at signed
    | minus zeros n =>
        have signed := SignedDigits.minus (paddedDigits_ne_nil zeros n) (digits zeros n)
        rwa [digitsValue_paddedDigits] at signed

/-- **A text reads as a code exactly if it spells the code.** -/
theorem ofText?_eq_some_iff {s : String} {c : Code} : ofText? s = some c ↔ c.SpelledBy s := by
  constructor
  · intro read
    obtain ⟨before, after, text, blankBefore, blankAfter⟩ := Text.exists_eq_append_strip s.toList
    exact ⟨before, _, after, text, blankBefore, blankAfter,
      signedDigits_iff_decimal.mp (read?_eq_some_iff.mp read)⟩
  · rintro ⟨before, decimal, after, text, blankBefore, blankAfter, writes⟩
    have signed := signedDigits_iff_decimal.mpr writes
    obtain ⟨ne, solid⟩ := signed.solid
    rw [ofText?, text, Text.strip_append blankBefore ne solid blankAfter]
    exact read?_eq_some_iff.mpr signed

end Code

/-- Numbers that are written alike are the same. -/
theorem natText_injective : Function.Injective natText := by
  intro n n' same
  have digits : Nat.toDigits 10 n = Nat.toDigits 10 n' := String.ofList_injective same
  rw [← Code.digitsValue_toDigits n, digits, Code.digitsValue_toDigits]

end Crossmap
