/-! What the library reports while it works, in the order in which it happens. -/

namespace UriDispatch

inductive Event where
  | undeclaredGroup (pattern group : String)
  | patternCompiled (pattern regex : String) (names : List String)
  | uriMatched (pattern uri : String)
  | uriMissed (pattern uri : String)
  | routeRegistered (route pattern regex : String)
  | defaultsIgnored
  | routeMatched (route uri : String)
  | noRouteMatched (uri : String)
  | routeFileLoaded (routes : Nat)
deriving DecidableEq, Repr

namespace Event

inductive Level where
  | trace
  | debug
  | warn
deriving DecidableEq, Repr

def level : Event → Level
  | .undeclaredGroup _ _ | .defaultsIgnored => .warn
  | .uriMatched _ _ | .uriMissed _ _ => .trace
  | .patternCompiled _ _ _ | .routeRegistered _ _ _ | .routeMatched _ _ | .noRouteMatched _
  | .routeFileLoaded _ => .debug

def message : Event → String
  | .undeclaredGroup _ _ => "Sub-pattern given for undeclared group, ignoring"
  | .patternCompiled _ _ _ => "Pattern compiled"
  | .uriMatched _ _ => "Matched"
  | .uriMissed _ _ => "No match"
  | .routeRegistered _ _ _ => "Route registered"
  | .defaultsIgnored => "set_default called before any route was added, ignoring"
  | .routeMatched _ _ => "Route matched"
  | .noRouteMatched _ => "No route matched"
  | .routeFileLoaded _ => "Route file loaded"

private def insertReport (event : Event) : List Event → List Event
  | [] => [event]
  | next :: later =>
      match event, next with
      | .undeclaredGroup pattern group, .undeclaredGroup nextPattern nextGroup =>
          if pattern = nextPattern ∧ nextGroup < group then next :: insertReport event later
          else event :: next :: later
      | _, _ => event :: next :: later

/-- The order in which events are shown. Which undeclared group of a pattern comes up first says
nothing, so those that follow each other are shown by name. -/
def inReportOrder (events : List Event) : List Event := events.foldr insertReport []

example : inReportOrder [.defaultsIgnored, .undeclaredGroup "/" "b", .undeclaredGroup "/" "a"] =
    [.defaultsIgnored, .undeclaredGroup "/" "a", .undeclaredGroup "/" "b"] := by decide

end Event

/-! ## Values with a log -/

structure Logged (Value : Type) where
  value : Value
  events : List Event
deriving DecidableEq, Repr

namespace Logged

instance : Monad Logged where
  pure value := ⟨value, []⟩
  bind first next := ⟨(next first.value).value, first.events ++ (next first.value).events⟩

def report (event : Event) : Logged Unit := ⟨(), [event]⟩

def reportAll (events : List Event) : Logged Unit := ⟨(), events⟩

variable {Value Other : Type}

@[simp] theorem value_pure (value : Value) : (pure value : Logged Value).value = value := rfl

@[simp] theorem events_pure (value : Value) : (pure value : Logged Value).events = [] := rfl

@[simp] theorem value_bind (first : Logged Value) (next : Value → Logged Other) :
    (first >>= next).value = (next first.value).value := rfl

@[simp] theorem events_bind (first : Logged Value) (next : Value → Logged Other) :
    (first >>= next).events = first.events ++ (next first.value).events := rfl

@[simp] theorem value_map (transform : Value → Other) (first : Logged Value) :
    (transform <$> first).value = transform first.value := rfl

@[simp] theorem events_map (transform : Value → Other) (first : Logged Value) :
    (transform <$> first).events = first.events := List.append_nil _

instance : LawfulMonad Logged := .mk' Logged
  (fun first => congrArg (Logged.mk first.value) (List.append_nil first.events))
  (fun _ _ => rfl)
  (fun _ _ _ => by simp only [bind, List.append_assoc])

end Logged

end UriDispatch
