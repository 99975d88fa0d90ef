import Courier.CommandLine.Args
import Courier.Text.Search

/-! Command lines: each flag at most once, as `--flag value` or `--flag=value`, in any order. -/

namespace Courier.CommandLine

inductive Refusal where
  | help
  | version
  | unknown (argument : String)
  | repeated (flag : Flag)
  | value (flag : Flag) (text : String) (error : ValueError)
  | unneeded (argument text : String)
  deriving DecidableEq, Repr

inductive Argument where
  | terminator
  | long (name : String) (value : Option String)
  | short (letters : List Char)
  | plain (text : String)
  deriving DecidableEq, Repr

def Argument.ofText (text : String) : Argument :=
  match text.toList with
  | ['-', '-'] => .terminator
  | '-' :: '-' :: rest =>
      match Text.cutFirst? ['='] rest with
      | some (name, value) => .long (String.ofList name) (some (String.ofList value))
      | none => .long (String.ofList rest) none
  | '-' :: c :: rest => .short (c :: rest)
  | _ => .plain text

/-- What has been read so far. The last flag stays open until the next one or the end. -/
structure Progress where
  args : Args
  given : List Flag
  opened : Option (Flag × Option String)
  deriving DecidableEq, Repr

namespace Progress

def give (progress : Progress) (flag : Flag) (text : String) : Except Refusal Progress :=
  if flag ∈ progress.given then .error (.repeated flag)
  else
    match flag.read text with
    | .error e => .error (.value flag text e)
    | .ok value => .ok ⟨progress.args.set flag value, flag :: progress.given, none⟩

def settle (progress : Progress) : Except Refusal Progress :=
  match progress.opened with
  | none => .ok progress
  | some (flag, none) => .error (.value flag "" .missing)
  | some (flag, some text) => progress.give flag text

/-- Ends the command line with a refusal, unless the open flag does so before. -/
def stop (progress : Progress) (refusal : Refusal) : Refusal :=
  match progress.settle with
  | .error earlier => earlier
  | .ok _ => refusal

def readShort (progress : Progress) : List Char → Refusal
  | 'h' :: _ => progress.stop .help
  | 'V' :: _ => progress.stop .version
  | c :: _ => .unknown (String.ofList ['-', c])
  | [] => .unknown "-"

def readLong (progress : Progress) (name : String) (value : Option String) :
    Except Refusal Progress :=
  match name, value with
  | "help", none => .error (progress.stop .help)
  | "version", none => .error (progress.stop .version)
  | "help", some text | "version", some text => .error (.unneeded ("--" ++ name) text)
  | _, _ =>
      match Flag.ofName? name with
      | none => .error (.unknown ("--" ++ name))
      | some flag =>
          match progress.settle with
          | .error refusal => .error refusal
          | .ok progress =>
              match value with
              | some text => progress.give flag text
              | none => .ok { progress with opened := some (flag, none) }

def read (progress : Progress) : List String → Except Refusal Progress
  | [] => progress.settle
  | text :: rest =>
      match Argument.ofText text with
      | .terminator =>
          match rest with
          | [] => progress.settle
          | text :: _ => .error (.unknown text)
      | .long name value =>
          match progress.readLong name value with
          | .error refusal => .error refusal
          | .ok progress => progress.read rest
      | .short letters => .error (progress.readShort letters)
      | .plain text =>
          match progress.opened with
          | some (flag, none) => { progress with opened := some (flag, some text) }.read rest
          | _ => .error (.unknown text)

end Progress

def Args.parse (arguments : List String) : Except Refusal Args :=
  (Progress.read ⟨{}, [], none⟩ arguments).map (·.args)

def parse (arguments : List String) : Except Refusal Config :=
  (Args.parse arguments).map Args.toConfig

end Courier.CommandLine
