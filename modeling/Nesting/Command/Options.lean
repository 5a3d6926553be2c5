import Nesting.Text.Quoted

/-!
# Options on a command line

How the words of a command line are read as options and arguments. An option has long names, which
start with two dashes and can have their value behind an equals sign, and short ones of one letter,
of which several can stand behind one dash and the last can have its value right behind it. A value
that does not stand there is the next word, whatever it looks like. Two dashes end the options.
-/

namespace Nesting

/-- What is wrong with a command line. -/
inductive UsageFault where
  | noCommand
  | unknownCommand (name : String)
  | unknownOption (name : String)
  | missingValue (name : String)
  | unexpectedValue (name : String)
  | badNumber (text : String)
  | missingArgument
  | extraArgument (text : String)
  | noDirectory (text : String)
  deriving DecidableEq, Repr

namespace UsageFault

def message : UsageFault → String
  | noCommand => "a command is missing"
  | unknownCommand name => "there is no command " ++ quoted name
  | unknownOption name => "there is no option " ++ quoted name
  | missingValue name => "a value is missing behind " ++ quoted name
  | unexpectedValue name => "the option " ++ quoted name ++ " has no value"
  | badNumber text => quoted text ++ " is no number"
  | missingArgument => "a source is missing"
  | extraArgument text => "nothing is known about " ++ quoted text
  | noDirectory text => quoted text ++ " is no directory"

end UsageFault

/-- An option of a kind `κ`, with its names and whether it has a value. -/
structure OptionForm (κ : Type) where
  kind : κ
  long : List String
  short : List Char
  hasValue : Bool

/-- The options that were given, in order, each with its value if it has one, and the other
words. -/
structure GivenWords (κ : Type) where
  options : List (κ × String)
  arguments : List String

namespace GivenWords

variable {κ : Type} [DecidableEq κ]

def has (g : GivenWords κ) (k : κ) : Bool :=
  g.options.any (·.1 = k)

/-- The value that was given last for an option. -/
def last? (g : GivenWords κ) (k : κ) : Option String :=
  ((g.options.filter (·.1 = k)).getLast?).map (·.2)

end GivenWords

/-- What one word gives: options, and an option whose value is the next word, if any. -/
structure WordReading (κ : Type) where
  given : List (κ × String)
  waiting : Option κ

namespace OptionForm

variable {κ : Type}

def readLetters (forms : List (OptionForm κ)) : List Char → Except UsageFault (WordReading κ)
  | [] => return ⟨[], none⟩
  | c :: cs =>
    match forms.find? (·.short.contains c) with
    | none => throw (.unknownOption (String.ofList ['-', c]))
    | some f =>
      if f.hasValue then
        return if cs = [] then ⟨[], some f.kind⟩ else ⟨[(f.kind, String.ofList cs)], none⟩
      else do
        let r ← readLetters forms cs
        return { r with given := (f.kind, "") :: r.given }

/-- Read a word that starts with a dash and is no dash alone. -/
def readWord (forms : List (OptionForm κ)) (word : String) : Except UsageFault (WordReading κ) :=
  let cs := word.toList
  let name := String.ofList (cs.takeWhile (· != '='))
  let value? := (cs.dropWhile (· != '=')).tail?.map String.ofList
  match forms.find? (·.long.contains name) with
  | some f =>
    match f.hasValue, value? with
    | true, some v => return ⟨[(f.kind, v)], none⟩
    | true, none => return ⟨[], some f.kind⟩
    | false, some _ => throw (.unexpectedValue name)
    | false, none => return ⟨[(f.kind, "")], none⟩
  | none =>
    if "--".isPrefixOf word then throw (.unknownOption name) else readLetters forms cs.tail

/-- Whether a word gives options. -/
def isOptionWord (word : String) : Bool :=
  "-".isPrefixOf word && word != "-"

/-- Read words. The first is a value if an option waits for one, whose word is given too. If options
may not stand behind arguments, the first argument ends them. -/
def readFrom (forms : List (OptionForm κ)) (mixed : Bool) :
    (waiting : Option (String × κ)) → List String → Except UsageFault (GivenWords κ)
  | none, [] => return ⟨[], []⟩
  | some (word, _), [] => throw (.missingValue word)
  | some (_, k), v :: rest => do
    let g ← readFrom forms mixed none rest
    return { g with options := (k, v) :: g.options }
  | none, word :: rest =>
    if word = "--" then return ⟨[], rest⟩
    else if isOptionWord word then do
      let r ← readWord forms word
      let g ← readFrom forms mixed (r.waiting.map fun k => (word, k)) rest
      return { g with options := r.given ++ g.options }
    else if mixed then do
      let g ← readFrom forms mixed none rest
      return { g with arguments := word :: g.arguments }
    else return ⟨[], word :: rest⟩

/-- Read a command line. -/
def readWords (forms : List (OptionForm κ)) (mixed : Bool) (words : List String) :
    Except UsageFault (GivenWords κ) :=
  readFrom forms mixed none words

end OptionForm

end Nesting
