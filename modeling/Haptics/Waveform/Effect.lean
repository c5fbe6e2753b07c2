import Haptics.Text.Cut

/-!
# Effects

The effects a caller may ask for, how strongly, and the slots of the over-drive clamp that they
are driven at.
-/

namespace Haptics

/-- The effects a caller may ask for. -/
inductive Effect where
  | click
  | doubleClick
  | tick
  | thud
  | pop
  | heavyClick
  | textureTick
deriving DecidableEq, Repr

namespace Effect

def all : List Effect :=
  [click, doubleClick, tick, thud, pop, heavyClick, textureTick]

def name : Effect → String
  | click => "click"
  | doubleClick => "double_click"
  | tick => "tick"
  | thud => "thud"
  | pop => "pop"
  | heavyClick => "heavy_click"
  | textureTick => "texture_tick"

/-- Reads an effect's name; blanks around it and the case of ASCII letters do not matter, and a
hyphen may stand for an underscore. -/
def ofName? (text : String) : Option Effect :=
  let wanted := (Text.lowerAscii (Text.trim text)).map fun c => if c = '-' then '_' else c
  all.find? fun effect => effect.name == wanted

end Effect

/-- How strongly an effect is played. -/
inductive Strength where
  | light
  | medium
  | strong
deriving DecidableEq, Repr

namespace Strength

def all : List Strength :=
  [light, medium, strong]

def name : Strength → String
  | light => "light"
  | medium => "medium"
  | strong => "strong"

/-- Reads a strength's name; blanks around it and the case of ASCII letters do not matter. -/
def ofName? (text : String) : Option Strength :=
  let wanted := Text.lowerAscii (Text.trim text)
  all.find? fun strength => strength.name == wanted

/-- How many slots a strength moves the drive of an effect. -/
def slotOffset : Strength → Int32
  | light => -1
  | medium => 0
  | strong => 1

end Strength

/-- The slots of the over-drive clamp for effects, the weakest first. -/
inductive Slot where
  | textureTick
  | tick
  | click
  | heavyClick
  | top
deriving DecidableEq, Repr

/-- The sum of two words, if it is a word. -/
def addChecked? (a b : Int32) : Option Int32 :=
  if (a + b).toInt = a.toInt + b.toInt then some (a + b) else none

namespace Slot

def all : List Slot :=
  [textureTick, tick, click, heavyClick, top]

def index : Slot → Nat
  | textureTick => 0
  | tick => 1
  | click => 2
  | heavyClick => 3
  | top => 4

/-- There are five slots. -/
theorem index_lt (slot : Slot) : slot.index < 5 := by
  cases slot <;> decide

/-- The slot at a position, and the strongest one for positions beyond it. -/
def ofIndex : Nat → Slot
  | 0 => textureTick
  | 1 => tick
  | 2 => click
  | 3 => heavyClick
  | _ => top

/-- The slot `offset` places further up, and the slot at the end where there is none.  Positions
are added before they are limited, as 32-bit words; a sum that is too great for one ends the
program, and there is no slot. -/
def move? (slot : Slot) (offset : Int32) : Option Slot :=
  (addChecked? (Int32.ofNat slot.index) offset).map fun position => ofIndex position.toInt.toNat

/-- No strength moves a slot that far. -/
theorem isSome_move?_slotOffset (slot : Slot) (strength : Strength) :
    (slot.move? strength.slotOffset).isSome := by
  cases slot <;> cases strength <;> decide

/-- The slot at which a strength drives the effects of a slot. -/
def shifted (slot : Slot) (strength : Strength) : Slot :=
  (slot.move? strength.slotOffset).get (isSome_move?_slotOffset slot strength)

end Slot
end Haptics
