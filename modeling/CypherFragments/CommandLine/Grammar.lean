/-!
# Command line grammar

The arguments of a command are options, each with or without a value. An option takes its value from
the same argument, after an equals sign, or from the next one, which must not look like an option.
What an option was given is looked at when the next option or the end of the command is reached.
-/

set_option autoImplicit false

namespace CypherFragments.CommandLine

/-- How often an option may be given, and whether it takes a value. -/
inductive Arity
  | flag
  | once
  | repeated
  deriving DecidableEq, Repr

structure Opt where
  name : String
  arity : Arity
  /-- The values that it takes. -/
  accepts : String → Bool := fun _ => true

/-- Why the arguments do not run a command. -/
inductive Stop
  | usage
  | help
  | version
  deriving DecidableEq, Repr

/-- The options of a command, and whether it tells its version. -/
structure Options where
  list : List Opt
  hasVersion : Bool := false

/-- What has been read of the arguments of a command. -/
structure Given where
  /-- Names and values, in order. A flag has the empty value. -/
  values : List (String × String) := []
  /-- The last option, which may still wait for its value. -/
  pending : Option (Opt × Option String) := none
  /-- Only operands follow. -/
  ended : Bool := false

namespace Given

def has (g : Given) (name : String) : Bool := g.values.any (·.1 == name)

def all (g : Given) (name : String) : List String :=
  (g.values.filter (·.1 == name)).map (·.2)

def one? (g : Given) (name : String) : Option String := g.values.lookup name

def record (g : Given) (o : Opt) (value : String) : Except Stop Given :=
  if (o.arity ≠ .repeated ∧ g.has o.name) ∨ !o.accepts value then .error .usage
  else .ok { g with values := g.values ++ [(o.name, value)] }

/-- Looks at the last option, which must have got its value. -/
def resolve (g : Given) : Except Stop Given :=
  match g.pending with
  | none => .ok g
  | some (_, none) => .error .usage
  | some (o, some value) => { g with pending := none }.record o value

def isWaiting (g : Given) : Bool :=
  match g.pending with
  | some (_, none) => true
  | _ => false

/-- `h` and `V` are the only letters. A group of letters is read up to the first that decides. -/
def letter (s : Options) (g : Given) (c : Char) : Except Stop Given := do
  if c = 'h' then
    let _ ← g.resolve
    .error .help
  else if c = 'V' ∧ s.hasVersion then
    let _ ← g.resolve
    .error .version
  else .error .usage

/-- An option by its name, with the value after its equals sign, if there is one. -/
def long (s : Options) (g : Given) (name : String) (value : Option String) : Except Stop Given := do
  match s.list.find? (·.name == name) with
  | some o =>
    let g ← g.resolve
    match o.arity, value with
    | .flag, none => g.record o ""
    | .flag, some _ => .error .usage
    | _, none => return { g with pending := some (o, none) }
    | _, some value => g.record o value
  | none =>
    if value.isSome then .error .usage
    else if name = "help" then g.letter s 'h'
    else if name = "version" then g.letter s 'V'
    else .error .usage

/-- The name and the value of a long option. -/
def splitLong (cs : List Char) : String × Option String :=
  let name := cs.takeWhile (· != '=')
  let value := cs.drop name.length
  (String.ofList name, if value.isEmpty then none else some (String.ofList value.tail))

/-- An argument that is no subcommand. -/
def add (s : Options) (g : Given) (arg : String) : Except Stop Given :=
  if g.ended then .error .usage
  else
    match arg.toList with
    | ['-', '-'] => .ok { g with ended := true }
    | '-' :: '-' :: cs => g.long s (splitLong cs).1 (splitLong cs).2
    | '-' :: c :: _ => g.letter s c
    | _ =>
      match g.pending with
      | some (o, none) => .ok { g with pending := some (o, some arg) }
      | _ => .error .usage

/-- All arguments up to a subcommand, which is returned with the arguments after it. -/
def read (s : Options) (subcommands : List String) (g : Given) :
    List String → Except Stop (Given × Option (String × List String))
  | [] => .ok (g, none)
  | arg :: args =>
    if !g.ended && !g.isWaiting && subcommands.contains arg then .ok (g, some (arg, args))
    else
      match g.add s arg with
      | .error e => .error e
      | .ok g => read s subcommands g args

end Given

end CypherFragments.CommandLine
