import UriDispatch.Capture

/-! A single pattern to which URIs are submitted. Whoever submits one makes the call that comes
back, so that a submission that does not match leads to no call. -/

namespace UriDispatch

structure Call where
  params : Params
  uri : String
deriving DecidableEq

structure Route where
  capture : Capture
deriving DecidableEq

namespace Route

def compile (pattern : String) (fragments : Fragments) : Logged (Except CaptureError Route) := do
  return (← Capture.compile pattern fragments).map (⟨·⟩)

def setDefaults (route : Route) (defaults : Defaults) : Route :=
  ⟨route.capture.setDefaults defaults⟩

def submit (route : Route) (uri : String) : Logged (Option Call) := do
  return (← route.capture.exec uri).map (⟨·, uri⟩)

end Route

end UriDispatch
