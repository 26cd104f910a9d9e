import ErrorOrigin.Location
import ErrorOrigin.Resolution
import ErrorOrigin.Stack.Reader
import ErrorOrigin.Stack.Writer

/-!
# Retracing stacks

Every frame with a position and a module is moved to where it was authored; every other frame
stays as it is. Neither the number of frames nor their order changes.
-/

namespace ErrorOrigin.Stack

/-- The frame at its authored position, if it has one. -/
def Frame.retrace [DomainForms] (settings : Settings) (f : Frame) : Inquiry Frame :=
  match f.position? with
  | none => pure f
  | some p => do
    match ← Resolution.resolveIdentifier settings p.file with
    | some found => pure (f.moveTo (← found.module.locate p))
    | none => pure f

def retraceFrames [DomainForms] (settings : Settings) : List Frame → Inquiry (List Frame)
  | [] => pure []
  | f :: rest => do
    let f ← f.retrace settings
    let rest ← retraceFrames settings rest
    pure (f :: rest)

/-- The stack with its frames at their authored positions. -/
def retrace [DomainForms] (settings : Settings) (stack : String) (header : Option Header) :
    Inquiry String := do
  pure (write (← retraceFrames settings (read stack settings.frameLimit)) header)

end ErrorOrigin.Stack
