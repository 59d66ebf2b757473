/-
# Options and words

A command line is a list of words.  Options have a long name and some a short one as well; they take a
value or are mere flags, and only some may be given more than once.  A value stands after `=`, at once
after a short name, or in the next word, which then does not look like an option.  After `--` there are
no more options.

`scan` goes through the words from left to right and stops at the first that it does not understand,
at a request for help or for the version, and, where commands are expected, at the command.
-/

namespace Readout.Cli

/-! ## 1. Options -/

/-- An option. -/
structure OptionSpec where
  /-- The long name. -/
  name : String
  short : Option Char := none
  /-- Whether the option takes a value. -/
  takesValue : Bool := true
  /-- Whether the option may be given more than once. -/
  repeats : Bool := false
  /-- Whether a value is understood. -/
  accepts : String → Bool := fun _ => true

/-- The options given, in order, each with its value; the value of a flag is empty. -/
abbrev Given := List (String × String)

namespace Given

/-- The values of an option. -/
def values (g : Given) (name : String) : List String :=
  (g.filter fun x => x.1 == name).map fun x => x.2

/-- The value of an option that is given at most once. -/
def value? (g : Given) (name : String) : Option String := (g.values name).head?

/-- Whether an option is given. -/
def has (g : Given) (name : String) : Bool := g.any fun x => x.1 == name

end Given

/-! ## 2. Single words -/

/-- What a word is. -/
inductive Word where
  /-- Neither an option nor the mark after which there are none. -/
  | plain
  /-- The mark after which there are no more options. -/
  | endOfOptions
  /-- An option by its long name, and the value after `=`. -/
  | long (name : List Char) (value : Option (List Char))
  /-- An option by its short name, and what follows that. -/
  | short (name : Char) (rest : List Char)

/-- The text before the first `=`, and the text after it. -/
def cutAtEquals (cs : List Char) : List Char × Option (List Char) :=
  match cs.dropWhile (· != '=') with
  | [] => (cs, none)
  | _ :: value => (cs.takeWhile (· != '='), some value)

/-- What a word is. -/
def Word.of (word : String) : Word :=
  match word.toList with
  | ['-', '-'] => endOfOptions
  | '-' :: '-' :: cs => let (name, value) := cutAtEquals cs; long name value
  | '-' :: c :: cs => short c cs
  | _ => plain

/-- Whether a word may be the value of the option before it. -/
def isValue (word : String) : Bool :=
  match Word.of word with
  | .plain => true
  | _ => false

/-- The value that follows a short name in the same word, if there is one. -/
def attached : List Char → Option (List Char)
  | [] => none
  | '=' :: value => some value
  | value => some value

/-! ## 3. Scanning -/

/-- What a list of words comes to. -/
inductive Scan where
  /-- Options, and words that belong to none. -/
  | finished (given : Given) (words : List String)
  /-- Options, then a command, and the words after it. -/
  | command (given : Given) (name : String) (rest : List String)
  | help
  | version
  | refused

/-- Which options and words are expected. -/
structure Expected where
  options : List OptionSpec
  /-- Whether the first word that belongs to no option names a command. -/
  commands : Bool := false
  /-- Whether the version can be asked for. -/
  versioned : Bool := false
  /-- How many words may belong to no option. -/
  words : Nat := 0

/-- Takes an option with its value, if it may be given again and the value is understood. -/
def take? (option : OptionSpec) (value : String) (given : Given) : Option Given :=
  if (given.has option.name && !option.repeats) || !option.accepts value then none
  else some (given ++ [(option.name, value)])

/-- What the options at the start of a word ask for. -/
inductive Asked where
  | help
  | version
  /-- This option, and the value in the same word. -/
  | option (spec : OptionSpec) (value : Option (List Char))
  | unknown

/-- What an option by its long name asks for. -/
def Expected.askLong (x : Expected) (name : List Char) (value : Option (List Char)) : Asked :=
  let text := String.ofList name
  if text = "help" ∧ value = none then .help
  else if text = "version" ∧ value = none ∧ x.versioned then .version
  else
    match x.options.find? (·.name == text) with
    | some spec => .option spec value
    | none => .unknown

/-- What an option by its short name asks for. -/
def Expected.askShort (x : Expected) (name : Char) (rest : List Char) : Asked :=
  if name = 'h' then .help
  else if name = 'V' ∧ x.versioned then .version
  else
    match x.options.find? (·.short == some name) with
    | some spec => .option spec (attached rest)
    | none => .unknown

/-- Goes through the words. -/
def scan (x : Expected) (given : Given) (words : List String) : List String → Scan
  | [] => .finished given words
  | arg :: rest =>
    let asked (asked : Asked) : Scan :=
      match asked with
      | .help => .help
      | .version => .version
      | .unknown => .refused
      | .option spec none =>
        if spec.takesValue then
          match rest with
          | [] => .refused
          | value :: rest =>
            if isValue value then
              match take? spec value given with
              | some given => scan x given words rest
              | none => .refused
            else .refused
        else
          match take? spec "" given with
          | some given => scan x given words rest
          | none => .refused
      | .option spec (some value) =>
        if spec.takesValue then
          match take? spec (String.ofList value) given with
          | some given => scan x given words rest
          | none => .refused
        else .refused
    match Word.of arg with
    | .endOfOptions =>
      if words.length + rest.length ≤ x.words then .finished given (words ++ rest) else .refused
    | .long name value => asked (x.askLong name value)
    | .short name more => asked (x.askShort name more)
    | .plain =>
      if x.commands then .command given arg rest
      else if words.length < x.words then scan x given (words ++ [arg]) rest
      else .refused

end Readout.Cli
