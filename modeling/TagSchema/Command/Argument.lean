import TagSchema.Text.Fields

/-!
# Command line arguments

Arguments are options, some with a value, and operands. An option is spelled out behind two hyphens,
with its value behind an equals sign or in the next argument, or it is one letter behind one hyphen,
where letters may share the hyphen. Behind two hyphens alone there are only operands.
-/

namespace TagSchema.Command

structure OptionName where
  long : String
  short : Option Char
  takesValue : Bool
  deriving DecidableEq, Repr

inductive Argument where
  | flag (long : String)
  | value (long value : String)
  | operand (s : String)
  deriving DecidableEq, Repr

namespace Argument

/-- Whether an argument is no value because it looks like an option. -/
def isHyphened (arg : String) : Bool := arg.startsWith "-" && arg != "-"

/-- The options among letters that share a hyphen. The value of the last may be the rest of the
text, or else is expected next: then its name comes with the others. -/
def letters (names : List OptionName) : List Char → Option (List Argument × Option String)
  | [] => some ([], none)
  | c :: cs => do
    let name ← names.find? (·.short == some c)
    if name.takesValue then
      match cs with
      | [] => return ([], some name.long)
      | '=' :: rest => return ([.value name.long (String.ofList rest)], none)
      | rest => return ([.value name.long (String.ofList rest)], none)
    else
      let (found, expected) ← letters names cs
      return (.flag name.long :: found, expected)

/-- The option behind two hyphens, or the name of one whose value is expected next. -/
def word (names : List OptionName) (text : List Char) : Option (List Argument × Option String) := do
  let (long, attached) := match Text.cutAt ['='] text with
    | some (long, v) => (long, some (String.ofList v))
    | none => (text, none)
  let name ← names.find? (·.long == String.ofList long)
  match name.takesValue, attached with
  | true, some v => return ([.value name.long v], none)
  | true, none => return ([], some name.long)
  | false, none => return ([.flag name.long], none)
  | false, some _ => none

/-- The arguments of a command line; `expected` names an option whose value comes next. An unknown
option and a missing value are refused. -/
def readAll (names : List OptionName) (expected : Option String) : List String →
    Option (List Argument)
  | [] => if expected.isNone then some [] else none
  | arg :: args =>
    match expected with
    | some long =>
      if isHyphened arg then none
      else (readAll names none args).map (.value long arg :: ·)
    | none =>
      if arg = "--" then some (args.map .operand)
      else if !isHyphened arg then (readAll names none args).map (.operand arg :: ·)
      else do
        let (found, expected) ← match arg.toList with
          | '-' :: '-' :: text => word names text
          | text => letters names (text.drop 1)
        return found ++ (← readAll names expected args)

/-- How often an option is given. -/
def count (long : String) (as : List Argument) : Nat :=
  as.countP fun a => match a with
    | .flag l | .value l _ => l == long
    | .operand _ => false

/-- The values given for an option, in order. -/
def values (long : String) (as : List Argument) : List String :=
  as.filterMap fun a => match a with
    | .value l v => if l = long then some v else none
    | _ => none

def operands (as : List Argument) : List String :=
  as.filterMap fun a => match a with
    | .operand s => some s
    | _ => none

end Argument

end TagSchema.Command
