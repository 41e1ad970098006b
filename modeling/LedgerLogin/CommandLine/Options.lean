/-!
# Options and positions

How the words of a command line are taken apart. A word that starts with two dashes names an option,
whose value follows an equals sign or is the next word, which must not look like an option itself. A
word that starts with one dash is a run of one-letter switches. Two dashes alone end the options.
Any other word is a subcommand where there are some, and else a positional argument; a single dash
is such a word too.

Words are read from left to right, and the first that cannot be read ends the reading, as do the
switches that ask for the version or for help. Only a value that is a word of its own and stands
right before a subcommand is judged late, after what follows the subcommand.
-/

namespace LedgerLogin.CommandLine

inductive OptionKind where
  /-- A switch that may be given once. -/
  | switch
  /-- A switch that may be given any number of times. -/
  | counter
  /-- An option whose value must be valid, and that may be given once. -/
  | value (valid : String → Bool)
  /-- An option that may be given any number of times. -/
  | repeated
  | version
  | help

/-- An option: its name, its letter if it has one, and what it is for. -/
structure OptionSpec where
  name : String
  letter : Option Char := none
  kind : OptionKind

/-- What may stand on one level of a command line. -/
structure Level where
  options : List OptionSpec
  /-- How many positional arguments there are. -/
  positions : Nat := 0
  subcommands : List String := []

/-- Why the reading of a command line ends early. -/
inductive Stop where
  | usage
  | version
  | help
  deriving DecidableEq, Repr

/-- What has been read on one level: the options with their values, the positional arguments, and
the subcommand with the words after it. -/
structure Words where
  options : List (String × String) := []
  positions : List String := []
  subcommand : Option (String × List String) := none
  /-- What is wrong with the value right before the subcommand; the subcommand may forestall it. -/
  fault : Option Stop := none
  deriving DecidableEq, Repr

namespace Words

/-- The value of an option, the last if there are several. -/
def value? (w : Words) (name : String) : Option String := w.options.reverse.lookup name

def values (w : Words) (name : String) : List String :=
  w.options.filterMap fun o => if o.1 = name then some o.2 else none

def count (w : Words) (name : String) : Nat := (w.values name).length

def has (w : Words) (name : String) : Bool := (w.value? name).isSome

def add (w : Words) (name value : String) : Words :=
  { w with options := w.options ++ [(name, value)] }

/-- Ends with the fault of the value before the subcommand, if it has one. -/
def settle (w : Words) : Except Stop Unit :=
  match w.fault with
  | some stop => .error stop
  | none => .ok ()

/-- The words with an option that may be given once. -/
def addOnce (w : Words) (name value : String) : Except Stop Words :=
  if w.has name then .error .usage else .ok (w.add name value)

end Words

/-- Whether a word can only be an option, or the end of the options. -/
def isOptionWord (s : String) : Bool :=
  match s.toList with
  | '-' :: _ :: _ => true
  | _ => false

/-- A word that names an option: its name, and the value after an equals sign. -/
def longOption? (s : String) : Option (String × Option String) :=
  match s.toList with
  | '-' :: '-' :: cs =>
    let name := String.ofList (cs.takeWhile (· ≠ '='))
    match cs.dropWhile (· ≠ '=') with
    | [] => some (name, none)
    | _ :: value => some (name, some (String.ofList value))
  | _ => none

namespace Level

def find? (l : Level) (name : String) : Option OptionSpec := l.options.find? (·.name = name)

def findLetter? (l : Level) (c : Char) : Option OptionSpec :=
  l.options.find? (·.letter = some c)

def addSwitch (spec : OptionSpec) (w : Words) : Except Stop Words :=
  match spec.kind with
  | .switch => w.addOnce spec.name ""
  | .counter => .ok (w.add spec.name "")
  | .version => .error .version
  | .help => .error .help
  | .value _ => .error .usage
  | .repeated => .error .usage

def addValue (spec : OptionSpec) (w : Words) (value : String) : Except Stop Words :=
  match spec.kind with
  | .value valid => if valid value then w.addOnce spec.name value else .error .usage
  | .repeated => .ok (w.add spec.name value)
  | _ => .error .usage

def hasValue (spec : OptionSpec) : Bool :=
  match spec.kind with
  | .value _ => true
  | .repeated => true
  | _ => false

/-- The words with a run of one-letter switches. -/
def addLetters (l : Level) (w : Words) (letters : List Char) : Except Stop Words :=
  letters.foldlM (fun w c =>
    match l.findLetter? c with
    | some spec => addSwitch spec w
    | none => .error .usage) w

def addPosition (l : Level) (w : Words) (s : String) : Except Stop Words :=
  if w.positions.length < l.positions then .ok { w with positions := w.positions ++ [s] }
  else .error .usage

/-- The subcommand that words start with, and the words after it. -/
def subcommand? (l : Level) : List String → Option (String × List String)
  | [] => none
  | word :: rest => if l.subcommands.contains word then some (word, rest) else none

def read (l : Level) (w : Words) : List String → Except Stop Words
  | [] => .ok w
  | word :: rest =>
    if word = "--" then rest.foldlM l.addPosition w
    else if l.subcommands.contains word then .ok { w with subcommand := some (word, rest) }
    else match longOption? word with
      | some (name, value) =>
        match l.find? name, value with
        | none, _ => .error .usage
        | some spec, some value => do l.read (← addValue spec w value) rest
        | some spec, none =>
          if hasValue spec then
            match rest with
            | [] => .error .usage
            | value :: rest =>
              if isOptionWord value then .error .usage
              else match addValue spec w value, l.subcommand? rest with
                | .ok w, _ => l.read w rest
                | .error stop, some sub => .ok { w with subcommand := some sub, fault := some stop }
                | .error stop, none => .error stop
          else do l.read (← addSwitch spec w) rest
      | none =>
        if isOptionWord word then do l.read (← l.addLetters w (word.toList.drop 1)) rest
        else do l.read (← l.addPosition w word) rest

end Level

end LedgerLogin.CommandLine
