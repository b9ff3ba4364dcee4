import Stencil.Compile.Event

/-!
# Runs

A run is what happened and how it ended. Runs follow each other: the second begins only if the first
ended well, and what happened in the first comes first.
-/

namespace Stencil.Compile

/-- The events of a computation and its result. -/
structure Run (α : Type) where
  events : List Event
  result : Except Fault α

namespace Run

variable {α β : Type}

def done (a : α) : Run α :=
  ⟨[], .ok a⟩

def ofExcept (r : Except Fault α) : Run α :=
  ⟨[], r⟩

/-- The run in which one thing happens. -/
def note (e : Event) : Run Unit :=
  ⟨[e], .ok ()⟩

def andThen (r : Run α) (f : α → Run β) : Run β :=
  match r.result with
  | .ok a => ⟨r.events ++ (f a).events, (f a).result⟩
  | .error e => ⟨r.events, .error e⟩

instance : Monad Run where
  pure := done
  bind := andThen

theorem events_andThen_of_ok {r : Run α} {a : α} (h : r.result = .ok a) (f : α → Run β) :
    (r.andThen f).events = r.events ++ (f a).events := by
  simp [andThen, h]

def reports (r : Run α) : List Report :=
  r.events.filterMap Event.report?

def requests (r : Run α) : List Request :=
  r.events.filterMap Event.request?

def invocations (r : Run α) : List Invocation :=
  r.events.filterMap Event.invocation?

end Run

end Stencil.Compile
