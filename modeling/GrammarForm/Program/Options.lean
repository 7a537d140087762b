/-!
# Options of a command line

An argument that begins with a hyphen is an option.  Long names begin with two hyphens and may be
followed by an equals sign and a value; several short names may stand behind one hyphen, and the
last one may be followed by its value.  Otherwise the value is the next argument, whatever it looks
like.  Two hyphens alone end the options.

## Main definitions

* `OptionForm` : an option with its names.
* `Arguments` : the options and the other arguments of a command line.
* `Arguments.read` : the options and the other arguments of a list of texts.
-/

namespace GrammarForm

/-- An option: its names, and whether it takes a value. -/
structure OptionForm where
  /-- The long name, with its hyphens. -/
  long : String
  /-- The short name, without its hyphen. -/
  short : Option Char := none
  takesValue : Bool
deriving DecidableEq, Repr

/-- The options of a command line by their long names, and the other arguments.  An option that
takes no value has the empty text. -/
structure Arguments where
  options : List (String × String)
  others : List String
deriving DecidableEq, Repr

namespace Arguments

/-- The last value of an option. -/
def value? (a : Arguments) (long : String) : Option String :=
  a.options.reverse.lookup long

/-- Whether an option is given. -/
def has (a : Arguments) (long : String) : Bool :=
  a.options.any (·.1 == long)

/-- Arguments with one more option in front. -/
def withOption (long value : String) (a : Arguments) : Arguments :=
  { a with options := (long, value) :: a.options }

/-- Arguments with several more options in front. -/
def withOptions (options : List (String × String)) (a : Arguments) : Arguments :=
  { a with options := options ++ a.options }

/-- Arguments with one more argument in front that is no option. -/
def withOther (s : String) (a : Arguments) : Arguments :=
  { a with others := s :: a.others }

/-- What an argument means that begins with a hyphen. -/
inductive Meaning where
  /-- Options with their values. -/
  | complete (options : List (String × String))
  /-- Options, the last of which takes the next argument as its value. -/
  | waiting (options : List (String × String)) (long : String)
deriving DecidableEq, Repr

/-- Short names behind one hyphen. -/
def shortNames (forms : List OptionForm) : List Char → Option Meaning
  | [] => some (.complete [])
  | c :: cs =>
    match forms.find? fun f => f.short = some c with
    | none => none
    | some f =>
      if f.takesValue then
        if cs.isEmpty then some (.waiting [] f.long)
        else some (.complete [(f.long, String.ofList cs)])
      else
        (shortNames forms cs).map fun
          | .complete options => .complete ((f.long, "") :: options)
          | .waiting options long => .waiting ((f.long, "") :: options) long

/-- What an argument means that begins with a hyphen; nothing if there is no such option. -/
def meaning? (forms : List OptionForm) (argument : String) : Option Meaning :=
  let cs := argument.toList
  let name := String.ofList (cs.takeWhile (· != '='))
  let value? :=
    match cs.dropWhile (· != '=') with
    | [] => none
    | _ :: value => some (String.ofList value)
  match forms.find? fun f => f.long = name with
  | some f =>
    match f.takesValue, value? with
    | true, some value => some (.complete [(f.long, value)])
    | true, none => some (.waiting [] f.long)
    | false, none => some (.complete [(f.long, "")])
    | false, some _ => none
  | none => if "--".isPrefixOf argument then none else shortNames forms cs.tail

/-- Whether an argument is an option. -/
def isOption (argument : String) : Bool :=
  "-".isPrefixOf argument && argument != "-"

/-- The options and the other arguments of a list of texts; nothing if an option is unknown or
misses its value.  With `mixed`, options may also stand after other arguments. -/
def read (forms : List OptionForm) (mixed : Bool) : List String → Option Arguments
  | [] => some ⟨[], []⟩
  | "--" :: rest => some ⟨[], rest⟩
  | argument :: rest =>
    if isOption argument then
      match meaning? forms argument with
      | none => none
      | some (.complete options) => (read forms mixed rest).map (withOptions options)
      | some (.waiting options long) =>
        match rest with
        | [] => none
        | value :: rest =>
          (read forms mixed rest).map fun a => withOptions options (withOption long value a)
    else if mixed then (read forms mixed rest).map (withOther argument)
    else some ⟨[], argument :: rest⟩

end Arguments

end GrammarForm
