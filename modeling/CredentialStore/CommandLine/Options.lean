/-!
# Options of a command

The arguments behind the name of a command: options with or without a value, each at most once,
positional arguments, and possibly the name of a command below it with the arguments for that one.
The value of an option stands behind an equals sign or is the next argument, and in that case does
not look like an option. Behind two hyphens all arguments are positional.
-/

namespace CredentialStore.CommandLine

/-- What a command takes. -/
structure Options where
  /-- The options with a value. -/
  valued : List String := []
  /-- The options without a value. -/
  flags : List String := []
  /-- The commands below it; a command that has any takes no positional arguments. -/
  commands : List String := []
  deriving Repr

/-- What a command is given. -/
structure Given where
  values : List (String × String) := []
  flags : List String := []
  positional : List String := []
  /-- A command below it, and the arguments for that one. -/
  command : Option (String × List String) := none
  deriving Repr

/-- The value given for an option. -/
def Given.value? (g : Given) (option : String) : Option String :=
  (g.values.find? (·.1 == option)).map Prod.snd

/-- The name of an option, and its value if it has one behind an equals sign. -/
def splitOption (cs : List Char) : String × Option String :=
  let rest := cs.dropWhile (· ≠ '=')
  (String.ofList (cs.takeWhile (· ≠ '=')),
    if rest.isEmpty then none else some (String.ofList (rest.drop 1)))

/-- Whether an argument looks like an option; a single hyphen does not. -/
def looksLikeOption (arg : String) : Bool :=
  match arg.toList with
  | '-' :: _ :: _ => true
  | _ => false

/-- Adds a value; no option is given twice. -/
def Given.addValue (g : Given) (option value : String) : Option Given :=
  if (g.value? option).isSome then none
  else some { g with values := g.values ++ [(option, value)] }

/-- Adds an option without a value; no option is given twice. -/
def Given.addFlag (g : Given) (option : String) : Option Given :=
  if g.flags.contains option then none else some { g with flags := g.flags ++ [option] }

/-- Adds positional arguments to a command that takes them. -/
def Options.addPositional (o : Options) (g : Given) (args : List String) : Option Given :=
  if args.isEmpty then some g
  else if o.commands.isEmpty then some { g with positional := g.positional ++ args }
  else none

/-- Reads the arguments of a command. -/
def Options.read? (o : Options) (g : Given) : List String → Option Given
  | [] => some g
  | arg :: rest =>
    match arg.toList with
    | ['-', '-'] => o.addPositional g rest
    | '-' :: '-' :: cs =>
      match splitOption cs with
      | (option, none) =>
        if o.flags.contains option then (g.addFlag option).bind fun g => o.read? g rest
        else match rest with
          | value :: rest =>
            if o.valued.contains option && !looksLikeOption value then
              (g.addValue option value).bind fun g => o.read? g rest
            else none
          | [] => none
      | (option, some value) =>
        if o.valued.contains option then (g.addValue option value).bind fun g => o.read? g rest
        else none
    | _ =>
      if looksLikeOption arg then none
      else if o.commands.contains arg then some { g with command := some (arg, rest) }
      else (o.addPositional g [arg]).bind fun g => o.read? g rest

end CredentialStore.CommandLine
