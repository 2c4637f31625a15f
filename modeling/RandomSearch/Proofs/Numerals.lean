import RandomSearch.Value.Text

/-!
# Integers read back

What is written of an integer consists of decimal digits and perhaps a minus before them.  It is
read as that integer, and there is no integer that can be written and not be read.
-/

namespace RandomSearch

namespace Text

/-! ## Digits -/

/-- The digits that integers are written in. -/
def decimalDigits : List Char :=
  ['0', '1', '2', '3', '4', '5', '6', '7', '8', '9']

theorem mem_decimalDigits {c : Char} (digit : c.isDigit = true) : c ∈ decimalDigits := by
  have bounds : 48 ≤ c.toNat ∧ c.toNat ≤ 57 := by
    simpa [Char.isDigit, UInt32.le_iff_toNat_le] using digit
  have numbered : Char.ofNat c.toNat ∈ decimalDigits := by
    have codes : ∀ code : Fin 58, 48 ≤ code.val → Char.ofNat code ∈ decimalDigits := by decide
    exact codes ⟨c.toNat, by omega⟩ bounds.1
  rwa [Char.ofNat_toNat] at numbered

theorem mem_decimalDigits_of_mem_toDigits {n : Nat} {c : Char} (member : c ∈ Nat.toDigits 10 n) :
    c ∈ decimalDigits :=
  mem_decimalDigits (Nat.isDigit_of_mem_toDigits (by decide) (by decide) member)

theorem digitValue?_of_mem {c : Char} (digit : c ∈ decimalDigits) :
    digitValue? c = some (c.toNat - '0'.toNat) := by
  have values :
      (decimalDigits.all fun c => digitValue? c == some (c.toNat - '0'.toNat)) = true := by decide
  exact beq_iff_eq.mp (List.all_eq_true.mp values c digit)

theorem isIntegerBlank_of_mem {c : Char} (digit : c ∈ decimalDigits) :
    isIntegerBlank c = false := by
  have filled : (decimalDigits.all fun c => !isIntegerBlank c) = true := by decide
  simpa using List.all_eq_true.mp filled c digit

/-! ## Reading -/

theorem takeDigits_of_forall_mem {characters : List Char} {digitDue : Bool}
    (digits : ∀ c ∈ characters, c ∈ decimalDigits) (some : characters ≠ [] ∨ digitDue = false) :
    takeDigits digitValue? digitDue characters =
      .some (characters.map fun c => c.toNat - '0'.toNat, []) := by
  induction characters generalizing digitDue with
  | nil =>
      cases some.resolve_left fun none => none rfl
      rfl
  | cons c rest inductionHypothesis =>
      obtain ⟨first, others⟩ := List.forall_mem_cons.mp digits
      rw [takeDigits, digitValue?_of_mem first]
      dsimp only
      rw [inductionHypothesis others (Or.inr rfl)]
      rfl

theorem ofDigits_toDigits (n : Nat) :
    ofDigits 10 ((Nat.toDigits 10 n).map fun c => c.toNat - '0'.toNat) = n := by
  rw [ofDigits, List.foldl_map]
  exact Nat.ofDigitChars_toDigits (by decide) (by decide)

theorem takeSign_of_mem {c : Char} (digit : c ∈ decimalDigits) (rest : List Char) :
    takeSign (c :: rest) = (false, c :: rest) := by
  have noPlus : c ≠ '+' := by
    rintro rfl
    exact absurd digit (by decide)
  have noMinus : c ≠ '-' := by
    rintro rfl
    exact absurd digit (by decide)
  unfold takeSign
  split
  · rename_i same
    exact absurd (List.cons.inj same).1 noPlus
  · rename_i same
    exact absurd (List.cons.inj same).1 noMinus
  · rfl

/-- Digits that are few enough are read, with or without a minus before them. -/
theorem readInteger_of_takeSign {characters : List Char} (negative : Bool) {n : Nat}
    (signed : takeSign (characters.dropWhile isIntegerBlank) = (negative, Nat.toDigits 10 n))
    (short : (Nat.toDigits 10 n).length ≤ mostDigits) :
    readInteger characters = .ok (if negative then -(n : Int) else n) := by
  have digits : ∀ c ∈ Nat.toDigits 10 n, c ∈ decimalDigits :=
    fun c => mem_decimalDigits_of_mem_toDigits
  unfold readInteger
  rw [signed]
  dsimp only
  rw [takeDigits_of_forall_mem digits (Or.inl Nat.toDigits_ne_nil)]
  dsimp only
  rw [List.length_map, if_neg (Nat.not_lt.mpr short), ofDigits_toDigits]
  rfl

end Text

namespace Value

theorem toChars_integerText_natCast (n : Nat) :
    (integerText n).toChars = Nat.toDigits 10 n := by
  rw [integerText, Text.ofString, Text.toChars_ofChars]
  exact Nat.toList_repr

theorem toChars_integerText_negSucc (n : Nat) :
    (integerText (.negSucc n)).toChars = '-' :: Nat.toDigits 10 (n + 1) := by
  rw [integerText, Text.ofString, Text.toChars_ofChars]
  change ("-" ++ (n + 1).repr).toList = _
  rw [String.toList_append, Nat.toList_repr]
  rfl

theorem isWritable_int_iff {n : Int} :
    (Value.int n).isWritable = true ↔ n.natAbs < writtenLimit := by
  rw [isWritable, decide_eq_true_eq]

/-- What can be written has no more digits than are read. -/
theorem length_toDigits_le {n : Nat} (short : n < writtenLimit) :
    (Nat.toDigits 10 n).length ≤ Text.mostDigits := by
  have few : ∀ digits, 0 < digits → n < Nat.pow 10 digits →
      (Nat.toDigits 10 n).length ≤ digits :=
    fun digits some less => (Nat.length_toDigits_le_iff (by decide) some).mpr less
  unfold writtenLimit at short
  exact few Text.mostDigits (by decide) short

/-- What is written of an integer is read as that integer. -/
theorem readInteger_integerText {n : Int} (writable : (Value.int n).isWritable = true) :
    Text.readInteger (integerText n).toChars = .ok n := by
  have short := isWritable_int_iff.mp writable
  cases n with
  | ofNat n =>
      refine Text.readInteger_of_takeSign false ?_ (length_toDigits_le short)
      change Text.takeSign ((integerText (n : Int)).toChars.dropWhile Text.isIntegerBlank) = _
      rw [toChars_integerText_natCast]
      obtain ⟨c, rest, digits⟩ :=
        List.exists_cons_of_ne_nil (Nat.toDigits_ne_nil (b := 10) (n := n))
      have first : c ∈ Text.decimalDigits :=
        Text.mem_decimalDigits_of_mem_toDigits (digits ▸ List.mem_cons_self)
      have filled : ¬ Text.isIntegerBlank c = true := by
        rw [Text.isIntegerBlank_of_mem first]
        exact Bool.false_ne_true
      rw [digits, List.dropWhile_cons_of_neg filled, Text.takeSign_of_mem first]
  | negSucc n =>
      refine Text.readInteger_of_takeSign true ?_ (length_toDigits_le short)
      rw [toChars_integerText_negSucc]
      rfl

theorem mem_integerText {n : Int} {point : CodePoint} (member : point ∈ integerText n) :
    ∃ c, point = .scalar c ∧ (c = '-' ∨ c ∈ Text.decimalDigits) := by
  obtain ⟨c, among, rfl⟩ := List.mem_map.mp member
  refine ⟨c, rfl, ?_⟩
  have written : c ∈ (integerText n).toChars := by
    rw [integerText, Text.ofString, Text.toChars_ofChars]
    exact among
  cases n with
  | ofNat n =>
      refine Or.inr (Text.mem_decimalDigits_of_mem_toDigits (n := n) ?_)
      rw [← toChars_integerText_natCast]
      exact written
  | negSucc n =>
      rw [toChars_integerText_negSucc] at written
      exact (List.mem_cons.mp written).imp_right Text.mem_decimalDigits_of_mem_toDigits

/-- No other character than these is among those of an integer. -/
theorem notMem_integerText {c : Char} (other : c ≠ '-' ∧ c ∉ Text.decimalDigits) (n : Int) :
    CodePoint.scalar c ∉ integerText n := by
  intro member
  obtain ⟨_, same, minus | digit⟩ := mem_integerText member
  · cases same
    exact other.1 minus
  · cases same
    exact other.2 digit

end Value

end RandomSearch
