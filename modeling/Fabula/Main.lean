import Fabula.Console

set_option autoImplicit false

namespace Fabula.Console

structure Streams where
  input : IO.FS.Stream
  output : IO.FS.Stream
  trace : IO.FS.Stream

def Streams.emit (s : Streams) (events : List Event) : IO Unit := do
  for e in events do
    match e with
    | .shown text => s.output.putStr (text ++ "\n")
    | .asked _ => pure ()
    | .traced _ line => s.trace.putStr (line ++ "\n")
  s.output.flush
  s.trace.flush

def wantsLine (g : Game) : Bool :=
  g.session.state == .suspended || g.session.state == .awaitingInput

partial def interact (s : Streams) (g : Game) (unread : Lines) : IO (Option Fault) := do
  if wantsLine g then
    s.output.putStr g.catalogue.prompt
    s.output.flush
  let unread ←
    if wantsLine g && unread.isEmpty then do pure (inputLines (← s.input.getLine)) else pure unread
  if wantsLine g && unread.isEmpty then
    let t := g.run []
    s.emit t.outcome.events
    pure t.outcome.fault
  else
    let t := g.tick unread
    s.emit t.outcome.events
    match t.outcome.fault with
    | some fault => pure (some fault)
    | none => if t.alive then interact s t.outcome.game t.unread else pure none

def denied : IO.Error → Denied
  | .inappropriateType _ 21 _ => .isFolder
  | .inappropriateType .. => .notFolder
  | .invalidArgument _ 22 _ => .unusable
  | .invalidArgument .. => .nameTooLong
  | _ => .absent

def octetsAt (path : String) : IO (Except Denied ByteArray) := do
  try pure (.ok (← IO.FS.readBinFile path)) catch e => pure (.error (denied e))

def playOn (s : Streams) (i : Invocation) : IO UInt32 := do
  let document ← match i.document with
    | some path => do pure (Node.ofOctets path (← octetsAt (Path.normal path)))
    | none => pure (.ok Sample.document)
  let o := Opening.ofSources (Catalogue.load Folder.catalogues i.language)
    (i.document.getD samplePath) document (i.tracing != .off)
  s.emit o.events
  match o.game with
  | .error (.reported "") => pure 0
  | .error (.reported word) => do IO.eprintln word; pure 1
  | .error (.broken _) => do IO.eprintln "The document could not be read."; pure 1
  | .ok g =>
    match ← interact s g [] with
    | none => pure 0
    | some _ => do IO.eprintln "The session broke off."; pure 1

def usage : String := "usage: fabula [-h] [--language LANGUAGE] [--debug [FILE]] [world]"

def start (i : Invocation) : IO UInt32 := do
  let input ← IO.getStdin
  let output ← IO.getStdout
  match i.tracing with
  | .toFile path =>
    let file ← IO.FS.Handle.mk path .write
    playOn ⟨input, output, IO.FS.Stream.ofHandle file⟩ i
  | _ => playOn ⟨input, output, ← IO.getStderr⟩ i

end Fabula.Console

open Fabula in
def main (args : List String) : IO UInt32 :=
  match Invocation.ofArguments args with
  | .refused => do IO.eprintln Console.usage; pure 2
  | .help => do IO.println Console.usage; pure 0
  | .play i => Console.start i
