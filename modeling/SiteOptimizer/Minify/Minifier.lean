import SiteOptimizer.Minify.Target
import SiteOptimizer.Minify.Css
import SiteOptimizer.Minify.Js
import SiteOptimizer.Minify.Html

/-!
# Minifiers

A minifier is started before the first file of a run and closed at its end, and it works only in
between. What it does with code is the business of a back end, which may fail on some texts.
Starting checks the targets; a start that fails leaves the minifier as it was.
-/

namespace SiteOptimizer
namespace Minify

structure Backend where
  css : Text → Except Fault Text
  js : Text → Except Fault Text
  html : Text → Except Fault Text

/-- The back end of this library. It fails only on pages with a marked section that is none. -/
def Backend.standard : Backend where
  css code := .ok (Css.minify code)
  js code := .ok (Js.minify code)
  html := Html.minify

structure Minifier where
  /-- The list of targets that it was made with. -/
  target : Option Text
  /-- The targets that it was started for. -/
  targets : List Text
  running : Bool
  deriving DecidableEq, Repr

namespace Minifier

def ofTarget (target : Option Text) : Minifier :=
  ⟨target, [], false⟩

def start (m : Minifier) : Except Fault Minifier :=
  (Minify.targets m.target).map fun targets => { m with targets, running := true }

def close (m : Minifier) : Minifier :=
  { m with running := false }

/-- Minifies code with a part of a back end, which only a running minifier does. -/
def apply (m : Minifier) (part : Text → Except Fault Text) (code : Text) : Except Fault Text :=
  if m.running then part code else .error (.setup .notRunning)

def guard (m : Minifier) (backend : Backend) : Backend where
  css := m.apply backend.css
  js := m.apply backend.js
  html := m.apply backend.html

theorem running_close (m : Minifier) : m.close.running = false := rfl

end Minifier

/-- How a run gets its minifier: a back end, and a fault if starting is refused. -/
structure Supply where
  backend : Backend
  refusal : Option Fault

def Supply.standard : Supply := ⟨.standard, none⟩

/-- Starts a minifier. Any fault but a fault of the set-up becomes one. -/
def Supply.start (supply : Supply) (m : Minifier) : Except Fault Minifier :=
  let started : Except Fault Minifier :=
    match supply.refusal with
    | some fault => .error fault
    | none => m.start
  started.mapError fun
    | .setup trouble => .setup trouble
    | fault => .setup (.noStart fault.message)

end Minify
end SiteOptimizer
