import Credentials.CommandLine.Parse
import Credentials.Config.Load
import Credentials.Http.Transport
import Credentials.Terminal.Basic

/-!
# Carrying out commands

`Invocation.execute` does what a command asks for. A credential to be stored is made and checked before
the configuration is looked up, so what is wrong with it is reported without any contact to the server;
what a command prints, it prints when all else has succeeded. The scripts for shells are the world's.
-/

namespace Credentials

open Http (Reply Transport)

namespace CommandLine

/-- Makes a transport to the server of the configuration. -/
def connect (w : World) (config : Option String) : Run (List Reply) Transport := do
  let c ← Config.load w config
  let t ← Transport.configure w c.url c.options
  return { t with token := c.token }

/-- Prints a document over several lines. -/
def printDocument (j : Json) : Run (List Reply) Unit := .emit (.printed (j.pretty ++ "\n"))

/-- The name that a text stands for. -/
def nameOf (raw : String) : Except Error Name :=
  match Name.ofString? raw with
  | some n => .ok n
  | none => .error (.validation .emptyName)

/-- Prints a version of a credential, or all versions or the newest of a name. -/
def get (w : World) (config : Option String) (which : Selector) (latest : Bool) :
    Run (List Reply) Unit := do
  let t ← connect w config
  match which with
  | .id id =>
    let d ← Client.getById (t.send w) id none
    printDocument d.toJson
  | .name raw =>
    let name ← .ofExcept (nameOf raw)
    let vs ← Client.getByName (t.send w) name none
    match vs.latest?, latest with
    | some d, true => printDocument d.toJson
    | _, _ => printDocument vs.toJson

/-- The request for a credential that is described by arguments. -/
def draw (w : World) (raw : String) (kind : Kind) (overwrite : Bool) (fields : Fields)
    (grants : List Permission) : Run (List Reply) Request := do
  let name ← .ofExcept (nameOf raw)
  let value ← fields.makeValue w kind
  let draft : Draft := ⟨some name, overwrite, some value, grants⟩
  draft.make

/-- Stores a credential and prints what the server keeps. -/
def set (w : World) (config : Option String) (raw : String) (kind : Kind) (overwrite : Bool)
    (fields : Fields) (grants : List Permission) : Run (List Reply) Unit := do
  let r ← draw w raw kind overwrite fields grants
  let t ← connect w config
  let d ← Client.write (t.send w) r
  printDocument d.toJson

/-- Deletes all versions of a credential. -/
def delete (w : World) (config : Option String) (raw : String) : Run (List Reply) Unit := do
  let name ← .ofExcept (nameOf raw)
  let t ← connect w config
  Client.deleteByName (t.send w) name
  .emit (.printed (Terminal.success (Terminal.areMarksColored w) ("deleted " ++ name.text) ++ "\n"))

/-- Carries out a command. -/
def Invocation.execute (w : World) (i : Invocation) : Run (List Reply) Unit :=
  match i.command with
  | .get which latest => get w i.config which latest
  | .set name kind overwrite fields grants => set w i.config name kind overwrite fields grants
  | .delete name => delete w i.config name
  | .completions shell => .emit (.printed (w.completions shell.word))

end CommandLine

end Credentials
