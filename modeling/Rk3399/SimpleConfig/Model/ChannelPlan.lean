import Mathlib.Algebra.Order.Ring.Int
import Mathlib.Tactic.Common
/-!
# The channel hopper

The loop of `main` in `rtw_simple_config`, up to the end of the configuration:
it goes over the channels of the plan, and stays on the channel of the access
point in the decode phase. The labels of the source are the places of the state
machine; what the other threads and the library say is the input of a step. A
line written to the monitor file is kept with the index it was read at.
-/

namespace Rk3399

namespace SimpleConfig

/-- `struct _chplan`. -/
structure Chplan where
  ch : UInt8
  bwOs : UInt8
  deriving DecidableEq, Repr

def HAL_PRIME_CHNL_OFFSET_DONT_CARE : UInt8 := 0
def HAL_PRIME_CHNL_OFFSET_LOWER : UInt8 := 1
def HAL_PRIME_CHNL_OFFSET_UPPER : UInt8 := 2

/-- What `init_chplan` makes of an entry: `+` is 43 and `-` is 45. -/
def Chplan.init (c : Chplan) : Chplan where
  ch := c.ch
  bwOs := if c.bwOs = 43 then HAL_PRIME_CHNL_OFFSET_LOWER
    else if c.bwOs = 45 then HAL_PRIME_CHNL_OFFSET_UPPER
    else HAL_PRIME_CHNL_OFFSET_DONT_CARE

/-- `init_chplan`. -/
def initChplan (plan : List Chplan) : List Chplan := plan.map Chplan.init

/-! ## `atoi` -/

def isSpace (c : UInt8) : Bool := c = 32 || (9 ≤ c && c ≤ 13)

def isDigit (c : UInt8) : Bool := 48 ≤ c && c ≤ 57

/-- The number the digits at the start stand for. -/
def digits (s : List UInt8) : Int :=
  (s.takeWhile isDigit).foldl (fun n c => 10 * n + (c.toNat - 48)) 0

/-- `atoi`. -/
def atoi (s : List UInt8) : Int :=
  match s.dropWhile isSpace with
  | [] => 0
  | c :: rest =>
    if c = 45 then - digits rest else if c = 43 then digits rest else digits (c :: rest)

/-! ## The loop -/

/-- Where `main` is: at the label `sc_reinit`, at the head of its loop, at the label
`find_channel`, at the tests behind it, or behind the loop. -/
inductive Place where
  | scReinit
  | loop
  | findChannel
  | tests
  | done
  deriving DecidableEq, Repr

/-- What a step finds: `g_reinit`, whether the decode phase has begun, the channel `parse_scanres`
returns with `TRUE`, and whether the configuration is done or stopped. -/
structure Input where
  reinit : Bool := false
  decode : Bool := false
  ch : Option (List UInt8) := none
  finished : Bool := false
  deriving DecidableEq, Repr

/-- The variables, and the lines of the monitor file: the index and what is there in the plan. -/
structure Hopper where
  plan : List Chplan
  chidx : Nat
  place : Place
  monitor : List (Nat × Option Chplan)
  deriving DecidableEq, Repr

namespace Hopper

/-- The variables when `main` comes to `sc_reinit`. -/
def start (plan : List Chplan) : Hopper where
  plan := plan
  chidx := 0
  place := .scReinit
  monitor := []

section

variable (s : Hopper)

/-- `echo ch bw_os 1 > …/monitor`. -/
def echo : Hopper := { s with monitor := s.monitor ++ [(s.chidx, s.plan[s.chidx]?)] }

/-- The part from `find_channel` on. -/
def findChannel (ch : Option (List UInt8)) : Hopper :=
  match ch with
  | none => s
  | some [] => s
  | some ch =>
    let s := { s with chidx := s.plan.findIdx fun c => atoi ch = c.ch.toNat }
    if s.chidx = s.plan.length then s else { s.echo with place := .tests }

/-- `if (++chidx == chnum) chidx = 0`. -/
def advance : Hopper :=
  { s with chidx := if s.chidx + 1 = s.plan.length then 0 else s.chidx + 1 }

/-- One step of `main`. -/
def step (e : Input) : Hopper :=
  match s.place with
  | .scReinit => { s with plan := initChplan s.plan, place := .loop }
  | .loop =>
    if e.reinit then { s with place := .scReinit }
    else { s.echo with place := if e.decode then .findChannel else .tests }
  | .findChannel => s.findChannel e.ch
  | .tests => if e.finished then { s with place := .done } else { s.advance with place := .loop }
  | .done => s

end

end Hopper

end SimpleConfig

end Rk3399
