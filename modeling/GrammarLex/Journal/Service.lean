import GrammarLex.Journal.Store
import GrammarLex.Settings.Limits
import GrammarLex.Settings.Preferences

/-!
# Services

A service passes entries up to its level on to an outlet: a store, or one of two ways to print.
What comes of it besides is a result here. It may be a line with the channel it belongs on, where errors
have a channel of their own; and a store that cannot make room panics.
-/
namespace GrammarLex

inductive Channel where
  | out
  | err
  deriving DecidableEq, Repr

/-- What a printed line says. -/
inductive Print where
  | plain (text : String)
  -- The entry, written as JSON.
  | json (e : Entry)
  deriving DecidableEq, Repr

/-- A printed line, without its line end. -/
structure Line where
  channel : Channel
  print : Print
  deriving DecidableEq, Repr

def Line.text (line : Line) : String :=
  match line.print with
  | .plain text => text
  | .json e => e.renderJson

/-- What comes of taking an entry in, besides what the outlet keeps of it. -/
inductive Effect where
  | silent
  | prints (line : Line)
  -- Whoever handed the entry over does not get control back.
  | panics
  deriving DecidableEq, Repr

inductive Outlet where
  | keep (store : Store)
  -- Those up to a level are printed for people.
  | console (level : LogLevel)
  -- Those up to a level are printed as JSON.
  | structured (level : LogLevel)
  deriving Repr

namespace Outlet

def channelOf (level : LogLevel) : Channel := if level = .error then .err else .out

/-- Take an entry in, and print it if this is an outlet that prints. A store that panics is left as it
was. -/
def take (e : Entry) : Outlet → Outlet × Effect
  | .keep store =>
    match store.push? e with
    | some store => (.keep store, .silent)
    | none => (.keep store, .panics)
  | .console level =>
    (.console level,
      if e.level ≤ level then .prints ⟨channelOf e.level, .plain e.render⟩ else .silent)
  | .structured level =>
    (.structured level, if e.level ≤ level then .prints ⟨channelOf e.level, .json e⟩ else .silent)

end Outlet

structure Service where
  outlet : Outlet
  -- The most talkative level that is passed on.
  level : LogLevel
  deriving Repr

namespace Service

def accepts (s : Service) (level : LogLevel) : Bool := level ≤ s.level

def force (e : Entry) (s : Service) : Service × Effect :=
  match s with
  | ⟨outlet, level⟩ =>
    match outlet.take e with
    | (outlet, effect) => (⟨outlet, level⟩, effect)

/-- Pass an entry on, if its level is accepted. -/
def log (e : Entry) (s : Service) : Service × Effect :=
  if s.accepts e.level then s.force e else (s, .silent)

/-- The service that preferences ask for. Without a console the entries are kept. -/
def configured (limits : LogLimits) (preferences : LoggingPreferences) (level : LogLevel) :
    Service where
  level := level
  outlet :=
    if !preferences.enableConsoleLogging then .keep (.empty limits.bufferSize)
    else if preferences.useStructuredLogging then .structured level
    else .console level

def store? (s : Service) : Option Store :=
  match s.outlet with
  | .keep store => some store
  | _ => none

def clear (s : Service) : Service :=
  match s with
  | ⟨.keep store, level⟩ => ⟨.keep store.clear, level⟩
  | s => s

end Service

end GrammarLex
