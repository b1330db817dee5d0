import Inkwell.Meter.Price
import Inkwell.Meter.Entry
set_option autoImplicit false

/-! The budget of a run: ink, stack words and memory pages. -/

namespace Inkwell

inductive MeterError where
  | outOfInk
  | outOfMemory (pages limit : Nat)
  | outOfStack
  deriving DecidableEq, Repr

def MeterError.message : MeterError → String
  | .outOfInk => "out of ink"
  | .outOfMemory pages limit => s!"out of memory: {pages} pages open, limit {limit}"
  | .outOfStack => "out of stack"

structure Meter where
  price : InkPrice
  pagePrice : PagePrice
  inkLimit : Nat
  inkLeft : Nat
  maxStack : Nat
  stackLeft : Nat
  pagesOpen : Nat
  pagesEver : Nat
  pageLimit : Nat
  deriving DecidableEq, Repr

namespace Meter

def start (p : Params) (inkLimit pagesOpen pagesEver : Nat) : Meter where
  price := ⟨p.inkPrice.toNat⟩
  pagePrice := p.pagePrice
  inkLimit := inkLimit
  inkLeft := inkLimit
  maxStack := p.maxStackDepth.toNat
  stackLeft := p.maxStackDepth.toNat
  pagesOpen := pagesOpen
  pagesEver := pagesEver
  pageLimit := p.pageLimit.toNat

def inkUsed (m : Meter) : Nat := m.inkLimit - m.inkLeft

def gasLeft (m : Meter) : Nat := m.price.toGas m.inkLeft

abbrev Step := Meter × Option MeterError

def requireInk (ink : Nat) (m : Meter) : Step :=
  (m, if m.inkLeft < ink then some .outOfInk else none)

/-- Spends ink, all that is left when it is too little. -/
def buyInk (ink : Nat) (m : Meter) : Step :=
  if m.inkLeft < ink then ({ m with inkLeft := 0 }, some .outOfInk)
  else ({ m with inkLeft := m.inkLeft - ink }, none)

def buyGas (gas : Nat) (m : Meter) : Step := m.buyInk (m.price.toInk gas)

/-- Pays for pages and opens them; beyond the limit nothing is paid. -/
def grow (pages : Nat) (m : Meter) : Step :=
  if pages = 0 then (m, none)
  else
    let opened := m.pagesOpen + pages
    if m.pageLimit < opened then (m, some (.outOfMemory opened m.pageLimit))
    else match m.buyGas (m.pagePrice.cost pages m.pagesOpen m.pagesEver) with
      | (m, some e) => (m, some e)
      | (m, none) => ({ m with pagesOpen := opened, pagesEver := max m.pagesEver opened }, none)

/-- Takes stack words, all that are left when they are too few. -/
def enter (words : Nat) (m : Meter) : Step :=
  if m.stackLeft < words then ({ m with stackLeft := 0 }, some .outOfStack)
  else ({ m with stackLeft := m.stackLeft - words }, none)

/-- Gives stack words back, up to the depth at the start. -/
def exit (words : Nat) (m : Meter) : Step :=
  ({ m with stackLeft := min (m.stackLeft + words) m.maxStack }, none)

inductive Op where
  | requireInk (ink : Nat)
  | buyInk (ink : Nat)
  | buyGas (gas : Nat)
  | grow (pages : Nat)
  | enter (words : Nat)
  | exit (words : Nat)
  deriving DecidableEq, Repr

def run (m : Meter) : Op → Step
  | .requireInk n => m.requireInk n
  | .buyInk n => m.buyInk n
  | .buyGas n => m.buyGas n
  | .grow n => m.grow n
  | .enter n => m.enter n
  | .exit n => m.exit n

/-- Runs all operations, whether or not earlier ones fail; one step for each. -/
def trace (m : Meter) : List Op → List Step
  | [] => []
  | op :: ops => let s := m.run op; s :: trace s.1 ops

/-- Runs operations until one fails; gives one step for each that was run. -/
def traceUntilError (m : Meter) : List Op → List Step
  | [] => []
  | op :: ops =>
    match m.run op with
    | (m, some e) => [(m, some e)]
    | (m, none) => (m, none) :: traceUntilError m ops

end Meter
end Inkwell
