import PageFeedback.Log.Directive

set_option autoImplicit false

namespace PageFeedback

namespace LogSpan

def isCoveredBy (span : LogSpan) (directive : Directive) : Bool :=
  directive.isFree && directive.coversTarget span.target

end LogSpan

namespace LogEntry

def hasField (entry : LogEntry) (name : String) : Bool :=
  name = "message" || entry.fields.any fun field => field.1 = name

def isCoveredBy (entry : LogEntry) (directive : Directive) : Bool :=
  directive.isFree && directive.coversTarget entry.target &&
    directive.field.all fun field => entry.hasField field.name

end LogEntry

structure LogFilter where
  directives : List Directive
deriving DecidableEq, Repr

namespace LogFilter

def ownTargets : List String := ["agw_cli", "agw_feedback", "agw_model"]

def upTo (threshold : Threshold) : LogFilter :=
  ⟨Directive.ofTarget none (Threshold.lesser (.upTo .warn) threshold) ::
    ownTargets.map fun target => Directive.ofTarget (some target) threshold⟩

def text (filter : LogFilter) : String := ",".intercalate (filter.directives.map Directive.text)

def splitCommas : List Char → List (List Char)
  | [] => [[]]
  | c :: rest =>
      if c = ',' then [] :: splitCommas rest
      else match splitCommas rest with
        | [] => [[c]]
        | part :: parts => (c :: part) :: parts

def ofText? (text : String) : Option LogFilter :=
  let parts := (splitCommas text.toList).filter fun part => !part.isEmpty
  if parts.isEmpty then some ⟨[Directive.ofTarget none (.upTo .error)]⟩
  else (parts.mapM Directive.ofChars?).map LogFilter.mk

def lasting : List Directive → List Directive
  | [] => []
  | directive :: rest =>
      if rest.any directive.sameScope then lasting rest else directive :: lasting rest

-- The threshold beyond which nothing is kept. While the value of a field is
-- asked for, there is none. Directives count here that others replace.
def bound (filter : LogFilter) : Threshold :=
  if filter.directives.any Directive.asksForValue then .upTo .trace
  else (filter.directives.map Directive.threshold).foldl Threshold.greater .off

def deciding (filter : LogFilter) (covers : Directive → Bool) : Threshold :=
  let best := ((lasting filter.directives).filter covers).foldl (fun best directive =>
    match best with
    | some other => if other.precedes directive then some other else some directive
    | none => some directive) none
  best.elim .off Directive.threshold

def thresholdWithin (filter : LogFilter) (span : LogSpan) : Threshold :=
  (((lasting filter.directives).filter (·.holdsIn span)).map Directive.threshold).foldl
    Threshold.greater .off

def enters (filter : LogFilter) (span : LogSpan) : Bool :=
  filter.bound.admits span.level &&
    (filter.directives.any (·.watches span) ||
      (filter.deciding span.isCoveredBy).admits span.level)

def keep? (filter : LogFilter) (entry : LogEntry) : Option LogEntry :=
  let within := entry.within.filter filter.enters
  let inside := within.elim .off filter.thresholdWithin
  if (Threshold.greater inside (filter.deciding entry.isCoveredBy)).admits entry.level then
    some { entry with within }
  else none

end LogFilter

end PageFeedback
