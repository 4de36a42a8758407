import Rk3399.Common.Program
/-!
# `set_pipeline.sh`

The script that configures the formats and crops of the ISP: what it does with
its variables once the options are parsed, up to the commands it sends to the
video nodes of the main path and of the self path. The `media-ctl` commands and
the controls for exposure and gain are left out.

The variables hold texts, and the shell reads a text anew wherever an expression
names its variable. An empty text and a decimal one are read here. What the
shell makes of any other text (a number in another base, one that has a digit
too many, the name of a variable, an expression) is a parameter, which sees all
variables; where it rejects the text, the `let` fails and its variable keeps
what it holds. A text that may assign a variable is the fault of the model.
-/

namespace Rk3399

namespace Isp

open Prog

abbrev Str := List Char

/-- An operand that may assign a variable. -/
inductive Fault where
  | assignment
  deriving DecidableEq, Repr

/-- The places the script is left at with `exit 1`. -/
inductive Refusal where
  | noResolution
  | sensorIncomplete
  | sensorBayer
  | ispinfmt
  | rawCropSize
  | mainYuvIspRaw
  | mainRawIspYuv
  | selfRaw
  | selfWidth
  deriving DecidableEq, Repr

/-- The variables the options set, `mpfmt` being `NV12` by default. -/
structure Options where
  sensorname : Str := []
  sensorbayer : Str := []
  sensorres : Str := []
  ispinfmt : Str := []
  ispincrop : Str := []
  ispoutcrop : Str := []
  ispoutfmt : Str := []
  mpnode : Str := []
  mpcrop : Str := []
  mpfmt : Str := "NV12".toList
  mpres : Str := []
  spnode : Str := []
  spcrop : Str := []
  spfmt : Str := []
  spres : Str := []

/-- `crop_temp_w`, `crop_temp_h`, `crop_temp_off_h` and `crop_temp_off_v`. -/
structure Temp where
  w : Str := []
  h : Str := []
  offH : Str := []
  offV : Str := []
  deriving DecidableEq, Repr

/-- The local variables of `calcCrop`; the ratios are unset before they are computed. -/
structure Locals where
  fullW : Str := []
  fullH : Str := []
  targetW : Str := []
  targetH : Str := []
  ratioFull : Option Int := none
  ratioTarget : Option Int := none
  deriving DecidableEq, Repr

/-- The variables the script writes, and the arguments of the commands for the format and the
crop that it sends to a node. -/
structure Shell where
  mpcrop : Str := []
  mpfmt : Str := []
  spcrop : Str := []
  spfmt : Str := []
  temp : Temp := {}
  locals : Locals := {}
  /-- A `let` failed. -/
  failed : Bool := false
  mainSent : List (Str × Str) := []
  selfSent : List (Str × Str) := []

/-- What the shell makes of an operand it has to evaluate, with the variables as they are:
nothing where it rejects it. -/
abbrev Reading := Options → Shell → Str → Option Int

abbrev Script (α : Type) := Prog Fault Refusal Shell α

/-! ## Sizes -/

/-- `${s%x*}`. -/
def beforeX (s : Str) : Str :=
  if 'x' ∈ s then (s.reverse.dropWhile fun c => c ≠ 'x').tail.reverse else s

/-- `${s#*x}`. -/
def afterX (s : Str) : Str := if 'x' ∈ s then (s.dropWhile fun c => c ≠ 'x').tail else s

/-- The number digits stand for. -/
def digitsValue (s : Str) : Nat := s.foldl (fun n c => 10 * n + (c.toNat - '0'.toNat)) 0

/-- Digits without a leading zero, which would make the number an octal one. -/
def IsNumeral (s : Str) : Prop :=
  s ≠ [] ∧ (∀ c ∈ s, c.isDigit = true) ∧ (s.head? = some '0' → s = ['0'])

instance (s : Str) : Decidable (IsNumeral s) :=
  haveI : Decidable (∀ c ∈ s, c.isDigit = true) := List.decidableBAll _ s
  inferInstanceAs (Decidable (_ ∧ _))

/-- A decimal constant. -/
def IsConstant (s : Str) : Prop := IsNumeral s ∧ digitsValue s < 2 ^ 63

instance (s : Str) : Decidable (IsConstant s) := inferInstanceAs (Decidable (_ ∧ _))

/-- The value of a decimal text of 64 bits, as the script writes them. -/
def decimalValue (s : Str) : Option Int :=
  if IsConstant s then some (digitsValue s)
  else if s.head? = some '-' ∧ IsNumeral s.tail ∧ digitsValue s.tail ≤ 2 ^ 63 then
    some (-(digitsValue s.tail : Int))
  else none

/-- A text the shell may assign a variable or run a command for. -/
def MayAssign (s : Str) : Prop :=
  '=' ∈ s ∨ '[' ∈ s ∨ ['+', '+'] <:+: s ∨ ['-', '-'] <:+: s

instance (s : Str) : Decidable (MayAssign s) := inferInstanceAs (Decidable (_ ∨ _))

/-- A 64-bit integer. -/
def wrap64 (n : Int) : Int := (n + 2 ^ 63) % 2 ^ 64 - 2 ^ 63

/-- The value of an operand. -/
def Shell.read (other : Reading) (o : Options) (s : Shell) (text : Str) : Option Int :=
  if text = [] then some 0 else (decimalValue text).or ((other o s text).map wrap64)

/-- `a/b`. -/
def divide (a b : Int) : Option Int := if b = 0 then none else some (wrap64 (a.tdiv b))

/-- `v & ~1`. -/
def andNot1 (v : Int) : Int := v - v % 2

def decimal (n : Int) : Str := (toString n).toList

/-- `let "v=e"`: where `e` has no value the shell complains, and `v` keeps what it holds. -/
def letVar (e : Shell → Option Int) (set : Int → Shell → Shell) : Script Unit :=
  modify fun s => match e s with
    | some v => set v s
    | none => { s with failed := true }

section calcCrop

variable (other : Reading) (o : Options)

/-- `w*100/h`. -/
def ratioOf (w h : Str) (s : Shell) : Option Int := do
  let w ← s.read other o w
  let h ← s.read other o h
  divide (wrap64 (w * 100)) h

/-- The width and the height before they are made even. An unset ratio is zero. -/
def cropSize : Script Unit := do
  let l ← gets (·.locals)
  let ratioFull := l.ratioFull.getD 0
  let ratioTarget := l.ratioTarget.getD 0
  if ratioFull = ratioTarget then
    modify fun s => { s with temp.w := l.fullW, temp.h := l.fullH }
  else if ratioTarget < ratioFull then do
    letVar (fun s => do divide (wrap64 (ratioTarget * (← s.read other o l.fullH))) 100)
      fun v s => { s with temp.w := decimal v }
    modify fun s => { s with temp.h := l.fullH }
  else do
    modify fun s => { s with temp.w := l.fullW }
    letVar (fun s => do divide (wrap64 ((← s.read other o l.fullW) * 100)) ratioTarget)
      fun v s => { s with temp.h := decimal v }

/-- The crop made even and put in the middle. -/
def centreCrop : Script Unit := do
  letVar (fun s => (s.read other o s.temp.w).map andNot1) fun v s =>
    { s with temp.w := decimal v }
  letVar (fun s => (s.read other o s.temp.h).map andNot1) fun v s =>
    { s with temp.h := decimal v }
  letVar (fun s => do
      let full ← s.read other o s.locals.fullW
      let w ← s.read other o s.temp.w
      return (wrap64 (full - w)).tdiv 2)
    fun v s => { s with temp.offH := decimal v }
  letVar (fun s => do
      let full ← s.read other o s.locals.fullH
      let h ← s.read other o s.temp.h
      return (wrap64 (full - h)).tdiv 2)
    fun v s => { s with temp.offV := decimal v }

/-- The texts of a size. -/
def sizeTexts (s : Str) : List Str := [beforeX s, afterX s]

/-- `calcCrop`. -/
def calcCrop (full target : Str) : Script Unit := do
  exitIf .noResolution fun _ => full = [] ∨ target = []
  assert .assignment fun _ => ∀ text ∈ sizeTexts full ++ sizeTexts target, ¬ MayAssign text
  modify fun s => { s with
    locals := {
      fullW := beforeX full, fullH := afterX full
      targetW := beforeX target, targetH := afterX target } }
  letVar (ratioOf other o (beforeX full) (afterX full)) fun v s =>
    { s with locals.ratioFull := some v }
  letVar (ratioOf other o (beforeX target) (afterX target)) fun v s =>
    { s with locals.ratioTarget := some v }
  cropSize other o
  centreCrop other o
  modify fun s => { s with locals := {} }

end calcCrop

/-! ## Arguments -/

/-- `--set-selection=target=crop,top=…,left=…,width=…,height=…`. -/
def selection (c : Temp) : Str :=
  "--set-selection=target=crop,top=".toList ++ c.offV ++ ",left=".toList ++ c.offH ++
    ",width=".toList ++ c.w ++ ",height=".toList ++ c.h

/-- `--set-fmt-video=width=${res%x*},height=${res#*x},pixelformat=$fmt`. -/
def fmtVideo (res fmt : Str) : Str :=
  "--set-fmt-video=width=".toList ++ beforeX res ++ ",height=".toList ++ afterX res ++
    ",pixelformat=".toList ++ fmt

/-! ## The options of the sensor and the ISP -/

/-- The formats that are raw. -/
def rawFormats : List Str := ["BG10", "GB10", "RG10", "BA10"].map String.toList

/-- The bayer formats of a sensor. -/
def bayerFormats : List Str :=
  ["SBGGR10_1X10", "SGBGR10_1X10", "SRGGB10_1X10", "SGRGB10_1X10"].map String.toList

section script

variable (other : Reading) (o : Options)

/-- `$ispincrop` when the paths are configured. -/
def Options.incrop : Str := if o.sensorbayer = [] then o.ispincrop else o.sensorres

/-- `$ispoutcrop` when the paths are configured. -/
def Options.outcrop : Str := if o.ispoutcrop = [] then o.incrop else o.ispoutcrop

/-- `$mpoutputraw`. -/
def Options.MainRaw : Prop := o.mpfmt ∈ rawFormats

/-- `$ispoutputraw`. -/
def Options.IspRaw : Prop := o.outcrop ≠ [] ∧ o.ispoutfmt ∈ rawFormats

instance : Decidable o.MainRaw := inferInstanceAs (Decidable (_ ∈ _))

instance : Decidable o.IspRaw := inferInstanceAs (Decidable (_ ∧ _))

/-- The options of the sensor are complete and known, and so is the format of the ISP. -/
def checkOptions : Script Unit := do
  exitIf .sensorIncomplete fun _ =>
    (o.sensorres ≠ [] ∨ o.sensorbayer ≠ [] ∨ o.sensorname ≠ []) ∧
      (o.sensorres = [] ∨ o.sensorbayer = [] ∨ o.sensorname = [])
  exitIf .sensorBayer fun _ => o.sensorbayer ≠ [] ∧ o.sensorbayer ∉ bayerFormats
  exitIf .ispinfmt fun _ =>
    o.sensorbayer = [] ∧ o.ispinfmt ≠ [] ∧ o.ispincrop ≠ [] ∧ o.ispinfmt ∉ rawFormats

/-! ## The paths -/

/-- The crop and the format of the main path, where all its options are there. -/
def mainPath : Script Unit := do
  exitIf .rawCropSize fun s => o.MainRaw ∧ o.IspRaw ∧ o.mpres ≠ s.mpcrop
  exitIf .mainYuvIspRaw fun _ => ¬ o.MainRaw ∧ o.IspRaw
  exitIf .mainRawIspYuv fun _ => o.MainRaw ∧ ¬ o.IspRaw
  let s ← gets id
  calcCrop other o s.mpcrop o.mpres
  modify fun s => { s with mpcrop := selection s.temp }
  modify fun s => { s with mpfmt := fmtVideo o.mpres s.mpfmt }

/-- The crop and the format of the self path, where all its options are there. A width the
shell rejects is not above 1920. -/
def selfPath : Script Unit := do
  exitIf .selfRaw fun _ => o.IspRaw
  assert .assignment fun _ => ¬ MayAssign (beforeX o.spres)
  exitIf .selfWidth fun s => 1920 < (s.read other o (beforeX o.spres)).getD 0
  let s ← gets id
  calcCrop other o s.spcrop o.spres
  modify fun s => { s with spcrop := selection s.temp }
  modify fun s => { s with spfmt := fmtVideo o.mpres s.spfmt }

/-- The two paths, each with the output crop of the ISP where it has none of its own. -/
def configPaths : Script Unit := do
  modify fun s => if s.mpcrop = [] then { s with mpcrop := o.outcrop } else s
  whenever (fun s => o.mpnode ≠ [] ∧ s.mpfmt ≠ [] ∧ o.mpres ≠ [] ∧ s.mpcrop ≠ []) (mainPath other o)
  modify fun s => if s.spcrop = [] then { s with spcrop := o.outcrop } else s
  whenever (fun s => o.spnode ≠ [] ∧ s.spfmt ≠ [] ∧ o.spres ≠ [] ∧ s.spcrop ≠ []) (selfPath other o)

/-- `v4l2-ctl -d $mpnode …`. -/
def sendMain (arg : Shell → Str) : Script Unit :=
  modify fun s => { s with mainSent := s.mainSent ++ [(o.mpnode, arg s)] }

/-- `v4l2-ctl -d $spnode …`. -/
def sendSelf (arg : Shell → Str) : Script Unit :=
  modify fun s => { s with selfSent := s.selfSent ++ [(o.spnode, arg s)] }

/-- The commands to the nodes. -/
def sendPaths : Script Unit := do
  whenever (fun s => s.mpcrop ≠ [] ∧ o.mpnode ≠ []) (sendMain o (·.mpcrop))
  whenever (fun s => s.mpfmt ≠ [] ∧ o.mpres ≠ [] ∧ o.mpnode ≠ []) (sendMain o (·.mpfmt))
  whenever (fun s => s.spcrop ≠ [] ∧ o.spnode ≠ []) (sendSelf o (·.spcrop))
  whenever (fun s => s.spfmt ≠ [] ∧ o.spres ≠ [] ∧ o.spnode ≠ []) (sendSelf o (·.spfmt))

/-- The script behind the parsing of the options. -/
def setPipeline : Script Unit := do
  checkOptions o
  configPaths other o
  sendPaths o

/-- The variables when the options are parsed. -/
def Options.shell : Shell where
  mpcrop := o.mpcrop
  mpfmt := o.mpfmt
  spcrop := o.spcrop
  spfmt := o.spfmt

end script

end Isp

end Rk3399
