import SearchPanel.Config
import SearchPanel.Text.Numeral

/-!
# Command line arguments

`search FILE QUERY` and `inspect FILE`. Options of a search stand anywhere among its words, each at
most once; `--` makes all that follows words. The value of an option is attached to it or is the
next argument, which may not look like an option itself.
-/

namespace SearchPanel.Command

/-- What a command line asks for. -/
inductive Request
  | version
  | search (path query : String) (config : Config) (html : Bool)
  | inspect (path : String)
deriving DecidableEq

/-- What is wrong with a command line. -/
inductive UsageError
  | noCommand
  | unknownCommand (name : String)
  | unexpected (argument : String)
  | repeated (option : String)
  | noValue (option : String)
  | badValue (option value : String)
  | needlessValue (option : String)
  | missing (word : String)
deriving DecidableEq, Repr

def UsageError.message : UsageError → String
  | noCommand => "a command is required: search or inspect"
  | unknownCommand name => "unknown command: " ++ name
  | unexpected argument => "unexpected argument: " ++ argument
  | repeated option => "option given twice: " ++ option
  | noValue option => "option without a value: " ++ option
  | badValue option value => "no value for " ++ option ++ ": " ++ value
  | needlessValue option => "option takes no value: " ++ option
  | missing word => "missing argument: " ++ word

/-- The options of a search. -/
inductive Flag
  | limit
  | minChars
  | snippetLength
  | html
deriving DecidableEq, Repr

/-- An option as it is written in full. -/
def Flag.spelling : Flag → String
  | limit => "--limit"
  | minChars => "--min-chars"
  | snippetLength => "--snippet-length"
  | html => "--html"

/-- The option with a spelling. -/
def Flag.named? (spelling : String) : Option Flag :=
  [limit, minChars, snippetLength, html].find? (·.spelling = spelling)

/-- One argument by its form. -/
inductive Token
  | word
  /-- All that follows is words. -/
  | wordsFollow
  /-- An option, perhaps with a value attached. -/
  | option (flag : Flag) (value : Option String)
  /-- It looks like an option and is none. -/
  | strange
deriving DecidableEq

/-- The part of a text behind its first equals sign, if there is one. -/
def afterEquals? (cs : List Char) : Option String :=
  match cs.dropWhile (· ≠ '=') with
  | [] => none
  | _ :: value => some (String.ofList value)

/-- A value attached to a short option, perhaps behind an equals sign. -/
def attached? : List Char → Option String
  | [] => none
  | '=' :: value => some (String.ofList value)
  | value => some (String.ofList value)

/-- The form of an argument. -/
def Token.ofText (text : String) : Token :=
  match text.toList with
  | ['-', '-'] => wordsFollow
  | '-' :: '-' :: rest =>
    match Flag.named? (String.ofList ('-' :: '-' :: rest.takeWhile (· ≠ '='))) with
    | some flag => option flag (afterEquals? rest)
    | none => strange
  | '-' :: 'l' :: rest => option .limit (attached? rest)
  | '-' :: _ :: _ => strange
  | _ => word

/-- Numbers in options are below `2 ^ 64`. -/
def sizeBound : Nat := Nat.pow 2 64

/-- What was read of the arguments of a command. -/
structure Draft where
  words : List String := []
  limit : Option Nat := none
  minChars : Option Nat := none
  snippetLength : Option Nat := none
  html : Bool := false
deriving DecidableEq

namespace Draft

/-- Whether an option was given. -/
def has (d : Draft) : Flag → Bool
  | .limit => d.limit.isSome
  | .minChars => d.minChars.isSome
  | .snippetLength => d.snippetLength.isSome
  | .html => d.html

/-- An option with a number is given. -/
def setNumber (d : Draft) (n : Nat) : Flag → Draft
  | .limit => { d with limit := some n }
  | .minChars => { d with minChars := some n }
  | .snippetLength => { d with snippetLength := some n }
  | .html => d

/-- An option with a value is given. -/
def setValue (d : Draft) (flag : Flag) (value : String) : Except UsageError Draft :=
  if d.has flag then .error (.repeated flag.spelling)
  else match Text.boundedNumber? sizeBound value with
    | some n => .ok (d.setNumber n flag)
    | none => .error (.badValue flag.spelling value)

/-- The arguments of a search are read. -/
def readSearch (d : Draft) : List String → Except UsageError Draft
  | [] => .ok d
  | a :: rest =>
    match Token.ofText a with
    | .word => readSearch { d with words := d.words ++ [a] } rest
    | .wordsFollow => .ok { d with words := d.words ++ rest }
    | .strange => .error (.unexpected a)
    | .option .html none =>
      if d.html then .error (.repeated Flag.html.spelling)
      else readSearch { d with html := true } rest
    | .option .html (some _) => .error (.needlessValue Flag.html.spelling)
    | .option flag (some value) => (d.setValue flag value).bind fun d => readSearch d rest
    | .option flag none =>
      match rest with
      | [] => .error (.noValue flag.spelling)
      | value :: rest =>
        if Token.ofText value = .word then
          (d.setValue flag value).bind fun d => readSearch d rest
        else .error (.noValue flag.spelling)

/-- The search that a draft describes. -/
def toSearch (d : Draft) : Except UsageError Request :=
  match d.words with
  | [] => .error (.missing "FILE")
  | [_] => .error (.missing "QUERY")
  | [path, query] =>
    .ok (.search path query
      { indexPath := path
        minChars := d.minChars.getD defaultMinChars
        maxResults := d.limit.getD defaultMaxResults
        snippetLength := d.snippetLength.getD defaultSnippetLength } d.html)
  | _ :: _ :: extra :: _ => .error (.unexpected extra)

end Draft

/-- The words of a command without options. -/
def plainWords : List String → Except UsageError (List String)
  | [] => .ok []
  | a :: rest =>
    match Token.ofText a with
    | .word => (plainWords rest).map (a :: ·)
    | .wordsFollow => .ok rest
    | .option .. | .strange => .error (.unexpected a)

/-- The arguments of `inspect` are read. -/
def readInspect (arguments : List String) : Except UsageError Request :=
  (plainWords arguments).bind fun
    | [] => .error (.missing "FILE")
    | [path] => .ok (.inspect path)
    | _ :: extra :: _ => .error (.unexpected extra)

/-- Whether an argument in the command's place asks for the version: `-V` may have more letters
behind it. -/
def asksVersion (argument : String) : Bool :=
  argument = "--version" ∨ "-V".toList.isPrefixOf argument.toList

/-- What a command line asks for. -/
def Request.ofArguments : List String → Except UsageError Request
  | [] => .error .noCommand
  | "search" :: rest => (Draft.readSearch {} rest).bind Draft.toSearch
  | "inspect" :: rest => readInspect rest
  | a :: _ => if asksVersion a then .ok .version else .error (.unknownCommand a)

end SearchPanel.Command
