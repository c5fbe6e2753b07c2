import Haptics.Numeral.Decimal
import Haptics.Text.Cut

/-!
# What numerals spell

`Spells` says which number a text spells, without reading it from the left: digits, at least one,
after a plus sign or none.  A text is read as a word exactly if it spells that word's number
(`readWord_eq_ok`), so a number that is too large is refused and never wraps.  `SpellsInteger` adds
the minus sign, and signed integers are read alike (`readInt64_eq_ok`).  The decimal form of either
is read back (`readWord_toString`, `readInt64_toString`), and no numeral holds a blank.
-/

namespace Haptics.Text

/-- A text without blanks. -/
def Unbroken (cs : List Char) : Prop :=
  ∀ c ∈ cs, isBlank c = false

theorem unbroken_cons {c : Char} {cs : List Char} :
    Unbroken (c :: cs) ↔ isBlank c = false ∧ Unbroken cs :=
  List.forall_mem_cons

theorem unbroken_append {first second : List Char} :
    Unbroken (first ++ second) ↔ Unbroken first ∧ Unbroken second :=
  List.forall_mem_append

instance : DecidablePred Unbroken := fun cs =>
  decidable_of_iff ((cs.all fun c => !isBlank c) = true) (by simp [Unbroken])

end Haptics.Text

namespace Haptics.Numeral

def Spells (cs : List Char) (n : Nat) : Prop :=
  ∃ digits, (cs = digits ∨ cs = '+' :: digits) ∧ digits ≠ [] ∧
    (∀ c ∈ digits, c.isDigit = true) ∧ valueOfDigits digits = n

/-! ## Digits -/

theorem isDigit_iff {c : Char} : c.isDigit = true ↔ '0' ≤ c ∧ c ≤ '9' := by
  simp only [Char.isDigit, Char.le_def, Bool.and_eq_true, decide_eq_true_eq, ge_iff_le]

theorem digit?_eq_some {c : Char} {d : Nat} :
    digit? c = some d ↔ c.isDigit = true ∧ c.toNat - '0'.toNat = d := by
  rw [digit?, isDigit_iff]
  split
  · rename_i h
    rw [Option.some.injEq]
    exact (and_iff_right h).symm
  · rename_i h
    exact iff_of_false nofun fun hd => h hd.1

/-- The number written by digits after those of `value`. -/
def valueAfter (value : Nat) (digits : List Char) : Nat :=
  digits.foldl (fun value c => 10 * value + (c.toNat - '0'.toNat)) value

theorem valueAfter_cons (value : Nat) (c : Char) (rest : List Char) :
    valueAfter value (c :: rest) = valueAfter (10 * value + (c.toNat - '0'.toNat)) rest := by
  rw [valueAfter, List.foldl_cons, valueAfter]

/-- More digits never lower a number. -/
theorem le_valueAfter (value : Nat) (digits : List Char) : value ≤ valueAfter value digits := by
  induction digits generalizing value with
  | nil => exact Nat.le_refl value
  | cons c rest ih =>
    calc value ≤ 10 * value + (c.toNat - '0'.toNat) := by omega
      _ ≤ valueAfter value (c :: rest) := ih _

/-- Reading digits succeeds exactly where all are digits and the number they write is within the
limit. -/
theorem readDigits_eq_ok {limit value n : Nat} {cs : List Char} (hvalue : value ≤ limit) :
    readDigits limit value cs = .ok n
      ↔ (∀ c ∈ cs, c.isDigit = true) ∧ valueAfter value cs = n ∧ n ≤ limit := by
  induction cs generalizing value with
  | nil =>
    simp only [readDigits, Except.ok.injEq, List.not_mem_nil, false_imp_iff, implies_true,
      true_and, valueAfter, List.foldl_nil]
    exact ⟨fun h => ⟨h, h ▸ hvalue⟩, And.left⟩
  | cons c rest ih =>
    rw [readDigits, valueAfter_cons, List.forall_mem_cons]
    cases hdigit : digit? c with
    | none =>
      have hnot : ¬ c.isDigit = true := fun h => by
        rw [digit?_eq_some.2 ⟨h, rfl⟩] at hdigit
        cases hdigit
      exact iff_of_false nofun fun h => hnot h.1.1
    | some d =>
      obtain ⟨hc, rfl⟩ := digit?_eq_some.1 hdigit
      dsimp only
      split
      · -- the number is past the limit already, and stays so
        rename_i hlimit
        refine iff_of_false nofun fun ⟨_, hn, hle⟩ => ?_
        have hgrows := le_valueAfter (10 * value + (c.toNat - '0'.toNat)) rest
        omega
      · rename_i hlimit
        rw [ih (Nat.le_of_not_lt hlimit)]
        simp only [hc, true_and]

/-! ## Numerals -/

theorem not_isDigit_plus {digits : List Char} : ¬ ∀ c ∈ '+' :: digits, c.isDigit = true :=
  fun h => absurd (h '+' List.mem_cons_self) (by decide)

theorem readNat_eq_ok {limit n : Nat} {cs : List Char} :
    readNat limit cs = .ok n ↔ Spells cs n ∧ n ≤ limit := by
  have hread (digits : List Char) : readDigits limit 0 digits = .ok n
      ↔ (∀ c ∈ digits, c.isDigit = true) ∧ valueOfDigits digits = n ∧ n ≤ limit :=
    readDigits_eq_ok (Nat.zero_le limit)
  unfold readNat
  split
  · refine iff_of_false nofun ?_
    rintro ⟨⟨digits, rfl | hplus, hne, -⟩, -⟩
    · exact hne rfl
    · cases hplus
  · rename_i c rest
    rw [hread]
    constructor
    · rintro ⟨hdigits, hn, hle⟩
      exact ⟨⟨_, .inr rfl, List.cons_ne_nil c rest, hdigits, hn⟩, hle⟩
    · rintro ⟨⟨digits, rfl | hplus, hne, hdigits, hn⟩, hle⟩
      · exact absurd hdigits not_isDigit_plus
      · obtain rfl := List.tail_eq_of_cons_eq hplus
        exact ⟨hdigits, hn, hle⟩
  · rename_i hempty hplain
    rw [hread]
    constructor
    · rintro ⟨hdigits, hn, hle⟩
      exact ⟨⟨cs, .inl rfl, fun h => hempty h, hdigits, hn⟩, hle⟩
    · rintro ⟨⟨digits, rfl | rfl, hne, hdigits, hn⟩, hle⟩
      · exact ⟨hdigits, hn, hle⟩
      · -- digits after a plus sign are the case before
        cases digits with
        | nil => exact absurd rfl hne
        | cons c rest => exact absurd rfl (hplain c rest)

/-- What a reader takes is taken if nothing is kept of its faults. -/
theorem toOption_eq_some {ε β : Type} {result : Except ε β} {value : β} :
    result.toOption = some value ↔ result = .ok value := by
  cases result <;> simp [Except.toOption]

def SpellsWord (text : String) (w : UInt32) : Prop :=
  Spells text.toList w.toNat

theorem readWord_eq_ok {text : String} {w : UInt32} :
    readWord text = .ok w ↔ SpellsWord text w := by
  constructor
  · intro h
    rw [readWord] at h
    cases hread : readNat (UInt32.size - 1) text.toList with
    | error fault =>
      rw [hread] at h
      cases h
    | ok n =>
      rw [hread] at h
      obtain ⟨hspells, hle⟩ := readNat_eq_ok.1 hread
      have hlt : n < UInt32.size := Nat.lt_of_le_pred (by decide) hle
      obtain rfl : UInt32.ofNat n = w := Except.ok.inj h
      rwa [SpellsWord, UInt32.toNat_ofNat_of_lt' hlt]
  · intro h
    have hread : readNat (UInt32.size - 1) text.toList = .ok w.toNat :=
      readNat_eq_ok.2 ⟨h, Nat.le_pred_of_lt w.toNat_lt_size⟩
    rw [readWord, hread]
    exact congrArg Except.ok UInt32.ofNat_toNat

/-! ## Signed numerals -/

/-- A text that spells an integer: a number, or after a minus sign the digits of its opposite. -/
def SpellsInteger (cs : List Char) (i : Int) : Prop :=
  (∃ n : Nat, Spells cs n ∧ i = n) ∨
    ∃ digits, cs = '-' :: digits ∧ digits ≠ [] ∧ (∀ c ∈ digits, c.isDigit = true) ∧
      i = -(valueOfDigits digits : Int)

/-- Digits carry no sign. -/
theorem not_spells_minus {rest : List Char} {n : Nat} : ¬ Spells ('-' :: rest) n := by
  rintro ⟨digits, rfl | hplus, -, hdigits, -⟩
  · exact absurd (hdigits '-' List.mem_cons_self) (by decide)
  · simp at hplus

theorem readSigned_eq_ok {cs : List Char} {i : Int} :
    readSigned cs = .ok i
      ↔ SpellsInteger cs i ∧ -(greatestInt64 + 1 : Int) ≤ i ∧ i ≤ greatestInt64 := by
  unfold readSigned
  split
  · rename_i c rest
    have hread (n : Nat) : readDigits (greatestInt64 + 1) 0 (c :: rest) = .ok n
        ↔ (∀ d ∈ c :: rest, d.isDigit = true) ∧ valueOfDigits (c :: rest) = n ∧
          n ≤ greatestInt64 + 1 :=
      readDigits_eq_ok (Nat.zero_le _)
    constructor
    · intro h
      cases hdigits : readDigits (greatestInt64 + 1) 0 (c :: rest) with
      | error fault =>
        rw [hdigits] at h
        cases fault <;> cases h
      | ok n =>
        rw [hdigits] at h
        obtain rfl := Except.ok.inj h
        obtain ⟨hall, hvalue, hle⟩ := (hread n).1 hdigits
        refine ⟨.inr ⟨_, rfl, List.cons_ne_nil c rest, hall, by rw [hvalue]⟩, ?_, ?_⟩ <;> omega
    · rintro ⟨⟨n, hspells, -⟩ | ⟨digits, hcs, -, hall, rfl⟩, hleast, -⟩
      · exact absurd hspells not_spells_minus
      · obtain rfl := List.tail_eq_of_cons_eq hcs
        rw [(hread (valueOfDigits (c :: rest))).2 ⟨hall, rfl, by omega⟩]
  · rename_i hplain
    constructor
    · intro h
      cases hread : readNat greatestInt64 cs with
      | error fault =>
        rw [hread] at h
        cases h
      | ok n =>
        rw [hread] at h
        obtain rfl : Int.ofNat n = i := Except.ok.inj h
        obtain ⟨hspells, hle⟩ := readNat_eq_ok.1 hread
        refine ⟨.inl ⟨n, hspells, rfl⟩, ?_, ?_⟩ <;> simp only [Int.ofNat_eq_natCast] <;> omega
    · rintro ⟨⟨n, hspells, rfl⟩ | ⟨digits, rfl, hne, -⟩, -, hgreatest⟩
      · rw [readNat_eq_ok.2 ⟨hspells, by omega⟩]
        rfl
      · -- digits after a minus sign are the case before
        cases digits with
        | nil => exact absurd rfl hne
        | cons c rest => exact absurd rfl (hplain c rest)

def SpellsInt64 (text : String) (n : Int64) : Prop :=
  SpellsInteger text.toList n.toInt

theorem readInt64_eq_ok {text : String} {n : Int64} :
    readInt64 text = .ok n ↔ SpellsInt64 text n := by
  constructor
  · intro h
    rw [readInt64] at h
    cases hread : readSigned text.toList with
    | error fault =>
      rw [hread] at h
      cases h
    | ok i =>
      rw [hread] at h
      obtain ⟨hspells, hleast, hgreatest⟩ := readSigned_eq_ok.1 hread
      obtain rfl : Int64.ofInt i = n := Except.ok.inj h
      have hi : (Int64.ofInt i).toInt = i :=
        Int64.toInt_ofInt_of_le (by simpa [greatestInt64] using hleast)
          (by simpa [greatestInt64] using Int.lt_add_one_of_le hgreatest)
      rwa [SpellsInt64, hi]
  · intro h
    have hread : readSigned text.toList = .ok n.toInt := by
      refine readSigned_eq_ok.2 ⟨h, ?_, ?_⟩
      · simpa [greatestInt64] using n.le_toInt
      · exact Int.le_of_lt_add_one (by simpa [greatestInt64] using n.toInt_lt)
    rw [readInt64, hread]
    exact congrArg Except.ok n.ofInt_toInt

/-! ## Decimal forms -/

/-- The decimal form of a number is made of digits that write it. -/
theorem valueOfDigits_repr (n : Nat) : valueOfDigits n.repr.toList = n := by
  rw [Nat.toList_repr]
  exact Nat.ofDigitChars_ten_toDigits

theorem isDigit_of_mem_repr {n : Nat} {c : Char} (h : c ∈ n.repr.toList) : c.isDigit = true := by
  rw [Nat.toList_repr] at h
  exact Nat.isDigit_of_mem_toDigits (by decide) (by decide) h

theorem toList_repr_ne_nil (n : Nat) : n.repr.toList ≠ [] := by
  rw [Nat.toList_repr]
  exact Nat.toDigits_ne_nil

theorem spells_repr (n : Nat) : Spells n.repr.toList n :=
  ⟨_, .inl rfl, toList_repr_ne_nil n, fun _ => isDigit_of_mem_repr, valueOfDigits_repr n⟩

theorem spellsInteger_toString (i : Int) : SpellsInteger (toString i).toList i := by
  cases i with
  | ofNat n => exact .inl ⟨n, spells_repr n, rfl⟩
  | negSucc n =>
    have htext : (toString (Int.negSucc n)).toList = '-' :: (n + 1).repr.toList := by
      change ("-" ++ (n + 1).repr).toList = _
      rw [String.toList_append]
      rfl
    refine .inr ⟨_, htext, toList_repr_ne_nil _, fun _ => isDigit_of_mem_repr, ?_⟩
    rw [valueOfDigits_repr]
    rfl

theorem readWord_toString (w : UInt32) : readWord (toString w) = .ok w :=
  readWord_eq_ok.2 (spells_repr w.toNat)

theorem readInt64_toString (n : Int64) : readInt64 (toString n.toInt) = .ok n :=
  readInt64_eq_ok.2 (spellsInteger_toString n.toInt)

/-! ## Blanks -/

theorem isBlank_of_isDigit {c : Char} (h : c.isDigit = true) : Text.isBlank c = false := by
  obtain ⟨hlow, hhigh⟩ := isDigit_iff.1 h
  have hlow : 48 ≤ c.toNat := hlow
  have hhigh : c.toNat ≤ 57 := hhigh
  simp only [Text.isBlank, Text.blankRanges, List.any_cons, List.any_nil, Bool.or_false,
    Bool.or_eq_false_iff, Bool.and_eq_false_iff, decide_eq_false_iff_not]
  omega

theorem unbroken_of_digits {digits : List Char} (h : ∀ c ∈ digits, c.isDigit = true) :
    Text.Unbroken digits := fun c hc => isBlank_of_isDigit (h c hc)

theorem Spells.unbroken {cs : List Char} {n : Nat} (h : Spells cs n) : Text.Unbroken cs := by
  obtain ⟨digits, rfl | rfl, -, hdigits, -⟩ := h
  · exact unbroken_of_digits hdigits
  · exact Text.unbroken_cons.2 ⟨by decide, unbroken_of_digits hdigits⟩

theorem Spells.ne_nil {cs : List Char} {n : Nat} (h : Spells cs n) : cs ≠ [] := by
  obtain ⟨digits, rfl | rfl, hne, -, -⟩ := h
  · exact hne
  · exact List.cons_ne_nil _ _

theorem SpellsInteger.ne_nil {cs : List Char} {i : Int} (h : SpellsInteger cs i) : cs ≠ [] := by
  obtain ⟨n, hspells, -⟩ | ⟨digits, rfl, -, -, -⟩ := h
  · exact hspells.ne_nil
  · exact List.cons_ne_nil _ _

theorem SpellsInteger.unbroken {cs : List Char} {i : Int} (h : SpellsInteger cs i) :
    Text.Unbroken cs := by
  obtain ⟨n, hspells, -⟩ | ⟨digits, rfl, -, hdigits, -⟩ := h
  · exact hspells.unbroken
  · exact Text.unbroken_cons.2 ⟨by decide, unbroken_of_digits hdigits⟩

end Haptics.Numeral
