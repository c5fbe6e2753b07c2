import Haptics.Waveform.Effect

/-!
# Moves between slots

A move is to end at the slot at either end where there is none further on.  The position that it
leads to is a sum of 32-bit words, which is taken before it is limited.  Where the sum is a word,
the move does end at the nearest slot; where it is too great for one, the sum fails although there
is a nearest slot, the strongest, and the move has no outcome (`move?_eq_none`).  That takes one of
the four greatest offsets (`far_of_overflow`), which no strength has.
-/

namespace Haptics

/-- A checked sum is the exact one. -/
theorem addChecked?_eq_some {a b sum : Int32} :
    addChecked? a b = some sum ↔ sum.toInt = a.toInt + b.toInt := by
  rw [addChecked?]
  split <;> rename_i h
  · rw [Option.some_inj, ← h, Int32.toInt_inj, eq_comm]
  · refine ⟨nofun, fun hsum => absurd ?_ h⟩
    rw [Int32.toInt_add, ← hsum]
    exact Int.bmod_eq_of_le sum.le_toInt sum.toInt_lt

namespace Slot

/-- The position that a move leads to, whether or not there is a slot. -/
def reached (slot : Slot) (offset : Int32) : Int :=
  slot.index + offset.toInt

def greatestWord : Int :=
  2147483647

/-- The position of a slot that is nearest to a given one. -/
def limited (position : Int) : Int :=
  max 0 (min 4 position)

section
variable {slot other moved : Slot} {offset further : Int32}

theorem index_ofIndex (position : Nat) : (ofIndex position).index = min position 4 := by
  match position with
  | 0 | 1 | 2 | 3 => rfl
  | n + 4 =>
    rw [Nat.min_eq_right (Nat.le_add_left 4 n)]
    rfl

theorem ofIndex_index (slot : Slot) : ofIndex slot.index = slot := by
  cases slot <;> rfl

theorem index_inj : slot.index = other.index ↔ slot = other :=
  ⟨fun h => by rw [← ofIndex_index slot, h, ofIndex_index], congrArg index⟩

/-- The slot that is found at a position is the one that is nearest to it. -/
theorem ofIndex_toNat_eq_iff {position : Int} :
    ofIndex position.toNat = moved ↔ (moved.index : Int) = limited position := by
  rw [← index_inj, index_ofIndex, limited]
  omega

theorem toInt_index (slot : Slot) : (Int32.ofNat slot.index).toInt = slot.index :=
  Int32.toInt_ofNat_of_lt (Nat.lt_trans slot.index_lt (by decide))

/-- The sum is never too low for a word, as the position of a slot is not negative. -/
theorem exists_toInt_eq_reached :
    (∃ position : Int32, position.toInt = slot.reached offset) ↔
      slot.reached offset ≤ greatestWord := by
  have hlow := offset.le_toInt
  constructor
  · rintro ⟨position, h⟩
    have hhigh := position.toInt_lt
    rw [greatestWord]
    omega
  · intro h
    rw [reached, greatestWord] at h
    exact ⟨Int32.ofInt (slot.reached offset),
      Int32.toInt_ofInt_of_le (by rw [reached]; omega) (by rw [reached]; omega)⟩

theorem move?_eq_some :
    slot.move? offset = some moved ↔
      slot.reached offset ≤ greatestWord ∧ (moved.index : Int) = limited (slot.reached offset) := by
  simp only [move?, Option.map_eq_some_iff, addChecked?_eq_some, toInt_index, ofIndex_toNat_eq_iff]
  rw [← exists_toInt_eq_reached, reached]
  constructor
  · rintro ⟨position, hsum, hmoved⟩
    exact ⟨⟨position, hsum⟩, hsum ▸ hmoved⟩
  · rintro ⟨⟨position, hsum⟩, hmoved⟩
    exact ⟨position, hsum, hsum ▸ hmoved⟩

theorem move?_eq_none : slot.move? offset = none ↔ greatestWord < slot.reached offset := by
  rw [← Int.not_le, ← exists_toInt_eq_reached, not_exists, Option.eq_none_iff_forall_ne_some]
  simp only [move?, ne_eq, Option.map_eq_some_iff, addChecked?_eq_some, toInt_index, reached]
  exact ⟨fun h position hsum => h _ ⟨position, hsum, rfl⟩,
    fun h _ ⟨position, hsum, _⟩ => h position hsum⟩

/-- It takes a slot above the weakest and one of the four greatest offsets. -/
theorem far_of_overflow (h : greatestWord < slot.reached offset) :
    slot ≠ .textureTick ∧ greatestWord - 4 < offset.toInt := by
  have hslot := slot.index_lt
  have hhigh := offset.toInt_lt
  rw [reached, greatestWord] at h
  rw [greatestWord]
  refine ⟨?_, by omega⟩
  rintro rfl
  simp only [index] at h
  omega

theorem limited_of_overflow (h : greatestWord < slot.reached offset) :
    limited (slot.reached offset) = top.index := by
  rw [greatestWord] at h
  rw [limited, index]
  omega

theorem reached_mono (hslot : slot.index ≤ other.index) (hoffset : offset ≤ further) :
    slot.reached offset ≤ other.reached further := by
  rw [Int32.le_iff_toInt_le] at hoffset
  rw [reached, reached]
  omega

theorem limited_mono {low high : Int} (h : low ≤ high) : limited low ≤ limited high := by
  rw [limited, limited]
  omega

/-- A move that ends somewhere bounds those of lesser slots and offsets. -/
theorem move?_of_le (hslot : slot.index ≤ other.index) (hoffset : offset ≤ further)
    (hmoved : other.move? further = some moved) :
    ∃ lesser, slot.move? offset = some lesser ∧ lesser.index ≤ moved.index := by
  have hreached := reached_mono hslot hoffset
  obtain ⟨hword, hindex⟩ := move?_eq_some.1 hmoved
  cases h : slot.move? offset with
  | none => exact absurd (move?_eq_none.1 h) (Int.not_lt.2 (Int.le_trans hreached hword))
  | some lesser =>
    have hlimited := limited_mono hreached
    rw [← hindex, ← (move?_eq_some.1 h).2] at hlimited
    exact ⟨lesser, rfl, Int.ofNat_le.1 hlimited⟩

theorem move?_slotOffset (slot : Slot) (strength : Strength) :
    slot.move? strength.slotOffset = some (slot.shifted strength) :=
  (Option.some_get _).symm

end

/-- **A move ends at the nearest slot exactly if the sum of position and offset is a word.**  Then
no move from no stronger a slot by no greater an offset ends at a stronger slot.  Where the sum is
too great for a word, which takes a slot above the weakest and an offset among the greatest, it
fails and the move has no outcome, although the strongest slot is the nearest.  The moves that
strengths make are never among these. -/
theorem move_limited_unless_sum_overflows (slot : Slot) (offset : Int32) :
    (∀ moved, slot.move? offset = some moved ↔
      slot.reached offset ≤ greatestWord ∧
        (moved.index : Int) = limited (slot.reached offset)) ∧
    (∀ moved, slot.move? offset = some moved →
      ∀ (other : Slot) (lesser : Int32), other.index ≤ slot.index → lesser ≤ offset →
        ∃ lower, other.move? lesser = some lower ∧ lower.index ≤ moved.index) ∧
    (slot.move? offset = none ↔ greatestWord < slot.reached offset) ∧
    (slot.move? offset = none →
      slot ≠ .textureTick ∧ greatestWord - 4 < offset.toInt ∧
        limited (slot.reached offset) = top.index) ∧
    ∀ strength : Strength,
      slot.move? strength.slotOffset = some (slot.shifted strength) ∧
        ((slot.shifted strength).index : Int) = limited (slot.reached strength.slotOffset) := by
  refine ⟨fun moved => move?_eq_some, fun moved h other lesser hslot hoffset =>
    move?_of_le hslot hoffset h, move?_eq_none, fun h => ?_, fun strength => ?_⟩
  · have hover := move?_eq_none.1 h
    exact ⟨(far_of_overflow hover).1, (far_of_overflow hover).2, limited_of_overflow hover⟩
  · have hmoved := move?_slotOffset slot strength
    exact ⟨hmoved, (move?_eq_some.1 hmoved).2⟩

theorem tick_moved_to_either_end :
    Slot.tick.move? 2147483646 = some .top ∧
      (∃ lower, Slot.tick.move? (-2147483648) = some lower ∧ lower.index ≤ Slot.top.index) ∧
      Slot.tick.move? 2147483647 = none ∧
      limited (Slot.tick.reached 2147483647) = Slot.top.index := by
  have hend : Slot.tick.move? 2147483646 = some .top :=
    ((move_limited_unless_sum_overflows .tick 2147483646).1 .top).2 (by decide)
  have hover : Slot.tick.move? 2147483647 = none :=
    (move_limited_unless_sum_overflows .tick 2147483647).2.2.1.2 (by decide)
  exact ⟨hend, (move_limited_unless_sum_overflows .tick 2147483646).2.1 .top hend .tick
      (-2147483648) (by decide) (by decide),
    hover, ((move_limited_unless_sum_overflows .tick 2147483647).2.2.2.1 hover).2.2⟩

/-- One step more than the greatest word holds leads nowhere, in place of the strongest slot. -/
theorem greatest_offset_overflows :
    Slot.tick.move? 2147483647 = none ∧
      limited (Slot.tick.reached 2147483647) = Slot.top.index ∧
      Slot.tick.move? 2147483646 = some .top := by
  decide

end Slot
end Haptics
