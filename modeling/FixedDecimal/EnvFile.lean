import FixedDecimal.Config
import FixedDecimal.Text.Alphanumeric
import FixedDecimal.Text.Blank

/-! Environment files: lines of a name, an equals sign and a value. A value may be quoted, escape
characters and use variables that are already set. Nothing that is already set is set again, the
first line that cannot be read ends the file, and a value that cannot be set spoils it all. -/
namespace FixedDecimal.EnvFile

inductive Place where
  | plain (quoted : Bool)
  | verbatim
  | escape (quoted : Bool)
  | variable (name : List Char) (quoted : Bool)
  | braced (name : List Char) (quoted : Bool)
  | ended
deriving DecidableEq

def substitute (env : Environment) (name : List Char) : List Char :=
  ((env.lookup (String.ofList name)).getD "").toList

def escaped? (c : Char) : Option Char :=
  if c = 'n' then some '\n'
  else if c = '\\' ∨ c = '\'' ∨ c = '"' ∨ c = '$' ∨ c = ' ' then some c
  else none

/-- Reads a value from a place on. A comment may follow a blank outside quotes, and nothing else
may. The character that ends the name of a variable stands for itself. -/
def readValue (env : Environment) (place : Place) (cs : List Char) : Option (List Char) :=
  match cs with
  | [] =>
    match place with
    | .plain false | .escape false | .ended => some []
    | .variable name false => some (substitute env name)
    | _ => none
  | c :: rest =>
    match place with
    | .ended =>
      if c = ' ' ∨ c = '\t' then readValue env .ended rest
      else if c = '#' then some []
      else none
    | .escape quoted =>
      match escaped? c with
      | some d => (readValue env (.plain quoted) rest).map (d :: ·)
      | none => none
    | .verbatim =>
      if c = '\'' then readValue env (.plain false) rest
      else (readValue env .verbatim rest).map (c :: ·)
    | .variable name quoted =>
      if Text.isAlphanumeric c then readValue env (.variable (name ++ [c]) quoted) rest
      else if c = '\x7b' ∧ name = [] then readValue env (.braced [] quoted) rest
      else if c = '$' then
        (readValue env (.variable [] quoted) rest).map (substitute env name ++ ·)
      else (readValue env (.plain quoted) rest).map (substitute env name ++ c :: ·)
    | .braced name quoted =>
      if c = '\x7d' then (readValue env (.plain quoted) rest).map (substitute env name ++ ·)
      else readValue env (.braced (name ++ [c]) quoted) rest
    | .plain quoted =>
      if c = '$' then readValue env (.variable [] quoted) rest
      else if c = '\\' then readValue env (.escape quoted) rest
      else if quoted then
        if c = '"' then readValue env (.plain false) rest
        else (readValue env (.plain true) rest).map (c :: ·)
      else if c = '\'' then readValue env .verbatim rest
      else if c = '"' then readValue env (.plain true) rest
      else if c = ' ' ∨ c = '\t' then readValue env .ended rest
      else (readValue env (.plain false) rest).map (c :: ·)

def isNameStart (c : Char) : Bool := c.isAlpha || c == '_'
def isNamePart (c : Char) : Bool := c.isAlphanum || c == '_' || c == '.'

def name? : List Char → Option (List Char × List Char)
  | [] => none
  | c :: rest =>
    if isNameStart c then
      some ((c :: rest).takeWhile isNamePart,
        Text.trimStart ((c :: rest).dropWhile isNamePart))
    else none

/-- What stands before an equals sign and what stands after it. The word `export` may come first,
and is itself a name when an equals sign follows it. -/
def splitLine? (cs : List Char) : Option (List Char × List Char) := do
  let (name, rest) ← name? cs
  match rest with
  | '=' :: value => some (name, Text.trimStart value)
  | _ =>
    guard (name = "export".toList)
    match ← name? rest with
    | (exported, '=' :: value) => some (exported, Text.trimStart value)
    | _ => none

def readEntry (env : Environment) (cs : List Char) : Option (String × String) := do
  let (name, written) ← splitLine? cs
  let value ← match written with
    | [] | '#' :: _ => some []
    | _ => readValue env (.plain false) written
  return (String.ofList name, String.ofList value)

/-- Sets a variable unless it is set. No environment holds a value with the character NUL, so such
a value cannot be set. -/
def define? (env : Environment) (name value : String) : Option Environment :=
  if (env.lookup name).isSome then some env
  else if '\x00' ∈ value.toList then none
  else some (env ++ [(name, value)])

/-- Takes in lines up to the first that cannot be read; nothing comes of lines with a value that
cannot be set. -/
def readLines (env : Environment) : List (List Char) → Option Environment
  | [] => some env
  | line :: rest =>
    match Text.trim line with
    | [] | '#' :: _ => readLines env rest
    | cs =>
      match readEntry env cs with
      | some (name, value) => do readLines (← define? env name value) rest
      | none => some env

def lines : List Char → List (List Char)
  | [] => [[]]
  | c :: rest =>
    if c = '\n' then [] :: lines rest
    else match lines rest with
      | [] => [[c]]
      | line :: others => (c :: line) :: others

/-- The names after dollar signs, with and without braces. -/
def mentioned : List Char → List String
  | [] => []
  | '$' :: '\x7b' :: rest =>
    String.ofList (rest.takeWhile (· != '\x7d')) :: mentioned rest
  | '$' :: rest => String.ofList (rest.takeWhile Text.isAlphanumeric) :: mentioned rest
  | _ :: rest => mentioned rest

def load? (env : Environment) (file : String) : Option Environment :=
  readLines env (lines file.toList)

end FixedDecimal.EnvFile
