import PageFeedback.Binary64.Decimal

set_option autoImplicit false

namespace PageFeedback

structure ProgressSettings where
  minimum : Binary64
  trickle : Bool
  showSpinner : Bool
deriving DecidableEq

namespace ProgressSettings

def default : ProgressSettings := ⟨Decimal.toBinary64 false ⟨8, -2⟩, true, false⟩

end ProgressSettings

class ProgressIndicator (P : Type) where
  start : P → P
  done : P → P
  isStarted : P → Bool

structure ProgressBar where
  settings : ProgressSettings
  status : Option Binary64
  starts : Nat
  completions : Nat
deriving DecidableEq

namespace ProgressBar

def ceiling : Binary64 := Decimal.toBinary64 false ⟨994, -3⟩

def new (settings : ProgressSettings) : ProgressBar := ⟨settings, none, 0, 0⟩

def isStarted (bar : ProgressBar) : Bool := bar.status.isSome

def set (bar : ProgressBar) (value : Binary64) : ProgressBar :=
  let fill := (value.larger bar.settings.minimum).smaller Binary64.one
  let starts := if bar.isStarted then bar.starts else bar.starts + 1
  if Binary64.one ≤ fill then { bar with status := none, starts, completions := bar.completions + 1 }
  else { bar with status := some fill, starts }

def start (bar : ProgressBar) : ProgressBar :=
  if bar.isStarted then bar else bar.set Binary64.zero

def done (bar : ProgressBar) : ProgressBar :=
  if bar.isStarted then bar.set Binary64.one else bar

def trickleStep (fill : Binary64) : Binary64 :=
  if fill < Decimal.toBinary64 false ⟨2, -1⟩ then Decimal.toBinary64 false ⟨1, -1⟩
  else if fill < Decimal.toBinary64 false ⟨5, -1⟩ then Decimal.toBinary64 false ⟨4, -2⟩
  else if fill < Decimal.toBinary64 false ⟨8, -1⟩ then Decimal.toBinary64 false ⟨2, -2⟩
  else if fill < Decimal.toBinary64 false ⟨99, -2⟩ then Decimal.toBinary64 false ⟨5, -3⟩
  else Binary64.zero

def inc (bar : ProgressBar) (amount : Option Binary64) : ProgressBar :=
  match bar.status with
  | none => bar.start
  | some fill => bar.set ((fill + amount.getD (trickleStep fill)).clamp Binary64.zero ceiling)

def trickle (bar : ProgressBar) : ProgressBar :=
  if bar.settings.trickle && bar.isStarted then bar.inc none else bar

instance : ProgressIndicator ProgressBar := ⟨start, done, isStarted⟩

end ProgressBar

inductive BarAction
  | start
  | done
  | set (value : Binary64)
  | inc (amount : Option Binary64)
  | trickle
deriving DecidableEq

namespace ProgressBar

def act (bar : ProgressBar) : BarAction → ProgressBar
  | .start => bar.start
  | .done => bar.done
  | .set value => bar.set value
  | .inc amount => bar.inc amount
  | .trickle => bar.trickle

def run (bar : ProgressBar) (actions : List BarAction) : ProgressBar := actions.foldl act bar

end ProgressBar

structure TerminalBar where
  model : ProgressBar
deriving DecidableEq

namespace TerminalBar

def new (settings : ProgressSettings) : TerminalBar := ⟨ProgressBar.new settings⟩

def tick (bar : TerminalBar) : TerminalBar := ⟨bar.model.trickle⟩

instance : ProgressIndicator TerminalBar where
  start bar := ⟨bar.model.start⟩
  done bar := ⟨bar.model.done⟩
  isStarted bar := bar.model.isStarted

end TerminalBar

end PageFeedback
