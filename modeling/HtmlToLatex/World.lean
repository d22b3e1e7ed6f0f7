import HtmlToLatex.Fetch
import HtmlToLatex.Options

set_option autoImplicit false

/-! # Conversions and their effects

A conversion reads its setting, which stays the same, and changes the world: files, requests for
images, the generated ids, and what is logged. There are messages of two levels, for debugging and
for tracing; each level has its own list, and how the two interleave is left out. -/

namespace HtmlToLatex

/-- What a conversion depends on and does not change. -/
structure Setting where
  options : Options := {}
  fetcher : Fetcher := Fetcher.offline
  /-- The id that is generated as the `n`-th one, counted from zero. -/
  ids : Nat → String

/-- What conversions change. -/
structure World where
  files : FileSystem := {}
  /-- The requests made, in order. -/
  fetches : List FetchRequest := []
  /-- The messages logged for debugging, in order. -/
  log : List String := []
  /-- The messages logged for tracing, in order. -/
  trace : List String := []
  /-- How many ids were generated. -/
  idsDrawn : Nat := 0
  deriving Inhabited

/-- A computation with effects on the world. -/
abbrev Conversion := StateM World

namespace Conversion

/-- Logs messages for debugging. -/
def logAll (messages : List String) : Conversion Unit :=
  modify fun w => { w with log := w.log ++ messages }

/-- Logs a message for tracing. -/
def trace (message : String) : Conversion Unit :=
  modify fun w => { w with trace := w.trace ++ [message] }

/-- Generates an id. -/
def drawId (setting : Setting) : Conversion String :=
  modifyGet fun w => (setting.ids w.idsDrawn, { w with idsDrawn := w.idsDrawn + 1 })

/-- Makes a directory and those above it. -/
def makeDirectories (p : Path) : Conversion (Except FileError Unit) :=
  modifyGet fun w =>
    let (files, outcome) := w.files.makeDirectories p
    (outcome, { w with files })

/-- Makes a request. -/
def fetch (setting : Setting) (request : FetchRequest) : Conversion (Except FetchError Unit) :=
  modifyGet fun w =>
    let reply := setting.fetcher w.fetches request w.files
    (reply.outcome, {
      w with
      files := reply.files
      fetches := w.fetches ++ [request]
      log := w.log ++ reply.messages })

end Conversion
end HtmlToLatex
