import Rk3399.Common.Memory
import Rk3399.Common.Word
import Rk3399.Led.Model.InfoLed
/-!
# What the LED driver is given

The two encodings of `InfoLed.cpp` for the colours of the LEDs. Each LED has
three entries, one for each of green, red and blue: in `led_multi_data` these
are records, in the words of a scroll or of a breath they are bits.
-/

namespace Rk3399

namespace Led

def MULTI_TRIGGER_NONE : Nat := 0
def MULTI_TRIGGER_DEFAULT_ON : Nat := 1
def LED_BRIGHTNESS_FULL : Nat := 255

/-- `struct led_ctrl_data`. -/
structure LedCtrlData where
  trigger : Nat
  delayedTriggerMs : Nat
  brightness : Nat
  delayOn : Nat
  delayOff : Nat
  deriving DecidableEq, Repr

/-- `{MULTI_TRIGGER_DEFAULT_ON, 0, LED_BRIGHTNESS_FULL, 0, 0}`. -/
def lit : LedCtrlData := ⟨MULTI_TRIGGER_DEFAULT_ON, 0, LED_BRIGHTNESS_FULL, 0, 0⟩

/-- `{0, 0, 0, 0, 0}`. -/
def unlit : LedCtrlData := ⟨0, 0, 0, 0, 0⟩

/-- `led_multi_mode`. -/
def ledMultiMode : Color → List LedCtrlData
  | .green => [lit, unlit, unlit]
  | .red => [unlit, lit, unlit]
  | .blue => [unlit, unlit, lit]
  | .white => [lit, lit, lit]
  | .black => [unlit, unlit, unlit]
  | .nonGreen => [unlit, lit, lit]
  | .nonRed => [lit, unlit, lit]
  | .nonBlue => [lit, lit, unlit]

/-- `leds_color_bitmap`. -/
def ledsColorBitmap : Color → BitVec 64
  | .green => 1#64 <<< 0
  | .red => 1#64 <<< 1
  | .blue => 1#64 <<< 2
  | .white => 1#64 <<< 0 ||| 1#64 <<< 1 ||| 1#64 <<< 2
  | .black => 0
  | .nonGreen => 1#64 <<< 1 ||| 1#64 <<< 2
  | .nonRed => 1#64 <<< 0 ||| 1#64 <<< 2
  | .nonBlue => 1#64 <<< 0 ||| 1#64 <<< 1

/-! ## Records -/

/-- `leds_multi_set_one_led`. -/
def ledsMultiSetOneLed (index : Nat) (color : Color) (data : Nat → LedCtrlData) :
    Nat → LedCtrlData :=
  poke (index * 3) (ledMultiMode color) data

/-- `leds_multi_all_on`. -/
def ledsMultiAllOn (ledsNum : Nat) (color : Color) (data : Nat → LedCtrlData) :
    Nat → LedCtrlData :=
  (List.range (ledsNum / 3)).foldl (fun data i => ledsMultiSetOneLed i color data) data

/-- `leds_multi_certain_on_with_bgcolor`. -/
def ledsMultiCertainOnWithBgcolor (ledsNum : Nat) (idxBitmap : BitVec 32) (bgColor color : Color)
    (data : Nat → LedCtrlData) : Nat → LedCtrlData :=
  (List.range (ledsNum / 3)).foldl
    (fun data i =>
      if idxBitmap &&& 1#32 <<< i ≠ 0#32 then ledsMultiSetOneLed i color data
      else ledsMultiSetOneLed i bgColor data)
    (poke 0 (List.replicate ledsNum unlit) data)

/-! ## Words -/

/-- `struct led_ctrl_scroll_data`. -/
structure LedCtrlScrollData where
  initBitmap : BitVec 64
  shifts : Nat
  shiftDelayMs : Nat

/-- `struct led_ctrl_breath_data`. -/
structure LedCtrlBreathData where
  backgroundBitmap : BitVec 64
  breathBitmap : BitVec 64
  changeDelayMs : Nat
  breathSteps : Nat

/-- The bits of a colour for each of the first `n` LEDs, `shift` bits on from one to the next. -/
def colorBits (color : Nat → Color) (shift n : Nat) : BitVec 64 :=
  (List.range n).foldl (fun word i => word ||| ledsColorBitmap (color i) <<< u32 (i * shift)) 0

/-- `leds_multi_set_scroll`. -/
def ledsMultiSetScroll (ledsNum : Nat) (bitmapColor : BitVec 64) (color bgColor : Color)
    (shift delayMs : Nat) : LedCtrlScrollData where
  initBitmap := colorBits
    (fun i => if bitmapColor &&& 1#64 <<< i ≠ 0#64 then color else bgColor) shift
    (ledsNum / 3)
  shifts := shift
  shiftDelayMs := delayMs

/-- `leds_multi_set_breath`. -/
def ledsMultiSetBreath (ledsNum : Nat) (breathColor bgColor : Color) (delayMs steps : Nat) :
    LedCtrlBreathData where
  backgroundBitmap := colorBits (fun _ => bgColor) 3 (ledsNum / 3)
  breathBitmap := colorBits (fun _ => breathColor) 3 (ledsNum / 3)
  changeDelayMs := delayMs
  breathSteps := steps

end Led

end Rk3399
