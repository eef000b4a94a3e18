import ProgressTable.Command.Basic

/-!
# Arguments

Which arguments the command line takes. A grammar lists options and positional arguments; reading a
list of arguments by a grammar gives what was written, or the reason to stop. Main definition:
`Invocation.ofArguments`.
-/

namespace ProgressTable.CommandLine

/-! ## Grammars -/

/-- Why no command is carried out. -/
inductive Stop where
  /-- The arguments ask for help. -/
  | help
  /-- The arguments ask for the version. -/
  | version
  /-- The arguments do not fit the grammar. -/
  | misuse
deriving Repr, DecidableEq

/-- What a value may be. -/
inductive ValueKind where
  | text
  | integer
deriving Repr, DecidableEq

/-- What an option does. -/
inductive Effect where
  | flag
  | value (kind : ValueKind)
  | stop (s : Stop)
deriving Repr, DecidableEq

/-- An option: its long name, its letter if it has one, and what it does. -/
structure OptionRule where
  name : Text
  letter : Option Char
  effect : Effect
deriving Repr, DecidableEq

/-- The arguments that one part of the command line takes. Where commands are named, the first
argument that is no option is the name of one. -/
structure Grammar where
  options : List OptionRule
  positionals : List ValueKind
  namesCommand : Bool
deriving Repr, DecidableEq

/-- A value that was read. -/
inductive ArgumentValue where
  | flag
  | text (t : Text)
  | integer (n : Int64)
deriving Repr, DecidableEq

/-- What was written so far. -/
structure Given where
  options : List (Text × ArgumentValue)
  positionals : List ArgumentValue
deriving Repr, DecidableEq

namespace Given

/-- Nothing. -/
def empty : Given := ⟨[], []⟩

/-- Whether a flag was written. -/
def has (g : Given) (name : String) : Bool := (g.options.lookup name.toList).isSome

/-- The text of an option. -/
def text? (g : Given) (name : String) : Option Text :=
  match g.options.lookup name.toList with
  | some (.text t) => some t
  | _ => none

/-- The number of an option. -/
def integer? (g : Given) (name : String) : Option Int64 :=
  match g.options.lookup name.toList with
  | some (.integer n) => some n
  | _ => none

/-- The text of a positional argument. -/
def textAt? (g : Given) (place : Nat) : Option Text :=
  match g.positionals[place]? with
  | some (.text t) => some t
  | _ => none

/-- The number of a positional argument. -/
def integerAt? (g : Given) (place : Nat) : Option Int64 :=
  match g.positionals[place]? with
  | some (.integer n) => some n
  | _ => none

end Given

/-- Reads a value. -/
def ValueKind.read (kind : ValueKind) (t : Text) : Except Stop ArgumentValue :=
  match kind with
  | text => .ok (.text t)
  | integer => match Numeral.readInt64? t with
    | some n => .ok (.integer n)
    | none => .error .misuse

/-! ## Reading one argument -/

/-- Notes an option. It may be written once. -/
def Given.add (g : Given) (rule : OptionRule) (v : ArgumentValue) : Except Stop Given :=
  if (g.options.lookup rule.name).isSome then .error .misuse
  else .ok { g with options := (rule.name, v) :: g.options }

/-- Notes the value of an option. -/
def Given.addValue (g : Given) (rule : OptionRule) (kind : ValueKind) (t : Text) :
    Except Stop Given := do
  g.add rule (← kind.read t)

/-- Notes a positional argument, if one more is taken. -/
def Given.addPositional (grammar : Grammar) (g : Given) (t : Text) : Except Stop Given :=
  match grammar.positionals[g.positionals.length]? with
  | some kind => do
    let v ← kind.read t
    pure { g with positionals := g.positionals ++ [v] }
  | none => .error .misuse

/-- Whether a text is a number behind a hyphen: digits, one point that is not first, and one `e`
that is neither first nor last and has no point behind it. -/
def isUnsignedNumber (t : Text) : Bool :=
  match t.span (· ≠ 'e') with
  | (mantissa, []) => isMantissa mantissa
  | (mantissa, _ :: power) => isMantissa mantissa && !mantissa.isEmpty && !power.isEmpty
    && power.all Char.isDigit
where
  /-- Digits with at most one point, which is not first. -/
  isMantissa (t : Text) : Bool :=
    let (whole, rest) := t.span Char.isDigit
    match rest with
    | [] => true
    | c :: behind => c = '.' && !whole.isEmpty && behind.all Char.isDigit

/-- Whether an argument is a negative number where one may stand: the next positional argument is a
number. -/
def isNegativeNumber (grammar : Grammar) (g : Given) (arg : Text) : Bool :=
  match arg with
  | '-' :: t => !t.isEmpty && isUnsignedNumber t
    && grammar.positionals[g.positionals.length]? = some .integer
  | _ => false

/-- Whether an argument is written like an option. A lone hyphen is not. -/
def isOption (grammar : Grammar) (g : Given) (arg : Text) : Bool :=
  match arg with
  | '-' :: _ :: _ => !isNegativeNumber grammar g arg
  | _ => false

/-- What one argument comes to. -/
inductive Reading where
  /-- The argument is complete. -/
  | complete (g : Given)
  /-- The next argument is the value of an option. -/
  | wantsValue (g : Given) (rule : OptionRule) (kind : ValueKind)

/-- Reads an option that is written with its name. -/
def readNamed (grammar : Grammar) (g : Given) (t : Text) : Except Stop Reading :=
  let (name, rest) := t.span (· ≠ '=')
  match grammar.options.find? fun r => r.name = name with
  | none => .error .misuse
  | some rule => match rule.effect, rest with
    | .flag, [] => .complete <$> g.add rule .flag
    | .stop s, [] => .error s
    | .flag, _ :: _ | .stop _, _ :: _ => .error .misuse
    | .value kind, [] => .ok (.wantsValue g rule kind)
    | .value kind, _ :: v => .complete <$> g.addValue rule kind v

/-- Reads options that are written with their letters. The letter of an option with a value is the
last one: the value stands behind it, maybe after an equals sign, or is the next argument. -/
def readLetters (grammar : Grammar) (g : Given) : Text → Except Stop Reading
  | [] => .ok (.complete g)
  | c :: r => match grammar.options.find? fun rule => rule.letter = some c with
    | none => .error .misuse
    | some rule => match rule.effect with
      | .stop s => .error s
      | .flag => do readLetters grammar (← g.add rule .flag) r
      | .value kind => match r with
        | [] => .ok (.wantsValue g rule kind)
        | '=' :: v => .complete <$> g.addValue rule kind v
        | v => .complete <$> g.addValue rule kind v

/-- Reads an argument that is written like an option. -/
def readOption (grammar : Grammar) (g : Given) (arg : Text) : Except Stop Reading :=
  match arg with
  | '-' :: '-' :: t => readNamed grammar g t
  | _ => readLetters grammar g (arg.drop 1)

/-! ## Reading all arguments -/

/-- Reads arguments by a grammar, and gives what follows from the name of a command on, if the
grammar names commands. Behind two hyphens every argument is positional. What is written like an
option is never the value of one. -/
def Grammar.read (grammar : Grammar) (g : Given) : List Text → Except Stop (Given × List Text)
  | [] => .ok (g, [])
  | arg :: rest =>
    if arg = ['-', '-'] then do
      pure (← rest.foldlM (Given.addPositional grammar) g, [])
    else if isOption grammar g arg then
      match readOption grammar g arg with
      | .error s => .error s
      | .ok (.complete g') => grammar.read g' rest
      | .ok (.wantsValue g' rule kind) => match rest with
        | [] => .error .misuse
        | v :: rest =>
          if isOption grammar g' v then .error .misuse
          else match g'.addValue rule kind v with
            | .ok g' => grammar.read g' rest
            | .error s => .error s
    else if grammar.namesCommand then .ok (g, arg :: rest)
    else match g.addPositional grammar arg with
      | .ok g' => grammar.read g' rest
      | .error s => .error s

/-! ## The commands -/

/-- What a command is asked to do, with the names of the files that it reads and writes. -/
inductive Request where
  | render (element fixture : Text) (user : UserId) (target : Command.Target) (preview : Bool)
      (output : Option Text)
  | resolveDate (element : Text) (time : Option Timestamp)
  | validate (form : Text) (page : Option Text)
  | save (form : Text) (page : Option Text)
  | form (element : Option Text)
deriving Repr, DecidableEq

/-- What the command line is asked to do. -/
structure Invocation where
  /-- A settings file. -/
  config : Option Text
  /-- Whether everything down to debugging is logged. -/
  verbose : Bool
  request : Request
deriving Repr, DecidableEq

namespace Invocation

/-- An option with a value and no letter. -/
def valued (name : String) (kind : ValueKind) : OptionRule := ⟨name.toList, none, .value kind⟩

/-- The options that may stand before and behind the name of a command. -/
def generalOptions : List OptionRule :=
  [ valued "config" .text, ⟨"verbose".toList, some 'v', .flag⟩,
    ⟨"help".toList, some 'h', .stop .help⟩ ]

/-- What may stand before the name of a command. -/
def topGrammar : Grammar where
  options := generalOptions ++ [⟨"version".toList, some 'V', .stop .version⟩]
  positionals := []
  namesCommand := true

/-- The grammar of a command. -/
def commandGrammar (options : List OptionRule) (positionals : List ValueKind) : Grammar where
  options := generalOptions ++ options
  positionals
  namesCommand := false

/-- What must be given. -/
def needed {α : Type} : Option α → Except Stop α
  | some a => .ok a
  | none => .error .misuse

/-- The target of a rendering: a course or an element, and not both. -/
def target (g : Given) : Except Stop Command.Target :=
  match g.integer? "course", g.integer? "element" with
  | some c, none => .ok (.course c)
  | none, some e => .ok (.element e)
  | _, _ => .error .misuse

/-- The option that names the output file of a rendering. -/
def outputOption : OptionRule := ⟨"output".toList, some 'o', .value .text⟩

/-- The grammar of a rendering. -/
def renderGrammar : Grammar :=
  commandGrammar [valued "fixture" .text, valued "user" .integer, valued "course" .integer,
    valued "element" .integer, ⟨"preview".toList, none, .flag⟩, outputOption] [.text]

/-- What a rendering is asked to do. -/
def renderRequest (g : Given) : Except Stop Request := do
  pure (.render (← needed (g.textAt? 0)) (← needed (g.text? "fixture"))
    (← needed (g.integer? "user")) (← target g) (g.has "preview") (g.text? "output"))

/-- A command: its grammar, and what it is asked to do. -/
structure CommandRule where
  grammar : Grammar
  request : Given → Except Stop Request

/-- The commands by name. -/
def commands : List (Text × CommandRule) :=
  [ ("render".toList, { grammar := renderGrammar, request := renderRequest }),
    ("resolve-date".toList, {
      grammar := commandGrammar [] [.text, .integer]
      request := fun g => do pure (.resolveDate (← needed (g.textAt? 0)) (g.integerAt? 1)) }),
    ("validate".toList, {
      grammar := commandGrammar [valued "page" .text] [.text]
      request := fun g => do pure (.validate (← needed (g.textAt? 0)) (g.text? "page")) }),
    ("save".toList, {
      grammar := commandGrammar [valued "page" .text] [.text]
      request := fun g => do pure (.save (← needed (g.textAt? 0)) (g.text? "page")) }),
    ("form".toList, {
      grammar := commandGrammar [] [.text]
      request := fun g => pure (.form (g.textAt? 0)) }) ]

/-- The name of the command that gives help. -/
def helpName : Text := "help".toList

/-- Help about no command or about one. -/
def helpOn : List Text → Stop
  | [] => .help
  | [name] => if (commands.lookup name).isSome || name = helpName then .help else .misuse
  | _ => .misuse

/-- What the arguments ask for. A settings file behind the name of a command counts more than one
before it. -/
def ofArguments (args : List Text) : Except Stop Invocation := do
  match ← topGrammar.read .empty args with
  | (_, []) => throw .misuse
  | (general, name :: rest) =>
    if name = helpName then throw (helpOn rest)
    match commands.lookup name with
    | none => throw .misuse
    | some rule =>
      let (given, _) ← rule.grammar.read .empty rest
      pure {
        config := given.text? "config" <|> general.text? "config"
        verbose := general.has "verbose" || given.has "verbose"
        request := ← rule.request given }

end Invocation
end ProgressTable.CommandLine
