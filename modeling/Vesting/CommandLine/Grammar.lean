/-
# Arguments of a program

A program has a grammar: commands, commands inside commands, and for each of them the options and
the place that it knows.  Reading arguments by a grammar gives the commands named and what was
given with them.

An argument that starts with a dash is an option.  A long one may be cut short as long as only one
option starts that way, and its value stands behind an equals sign or is the next argument.
Options of a single letter take no value and may share one dash.  Negative numbers are values, and
so is what has a space in it and starts like no option.  Behind two dashes everything is a value;
two dashes behind an equals sign leave an option empty.
-/
import Vesting.Datum
import Vesting.Text.IntegerLiteral
import Vesting.Text.Split

namespace Vesting.CommandLine

/-! ## 1. Grammars -/

/-- What a value has to look like. -/
inductive Shape
  | text
  | integer
  | oneOf (choices : List String)

/-- An option without a value. -/
structure Mark where
  name : String
  letter : Option Char := none
  /-- The option asks for help instead of an answer. -/
  help : Bool := false

/-- An option with a value. -/
structure Field where
  name : String
  shape : Shape := .text

/-- A value that stands by itself. -/
structure Place where
  name : String
  shape : Shape := .text
  required : Bool := true

/-- The options of a command. -/
structure Options where
  marks : List Mark := []
  fields : List Field := []

/-- What arguments may be. -/
inductive Grammar
  /-- A command that is one of several. -/
  | branch (options : Options) (commands : List (String × Grammar))
  /-- A command with at most one place. -/
  | leaf (options : Options) (place : Option Place)

/-- The mark by which help is asked for; every command knows it. -/
def helpMark : Mark := { name := "help", letter := some 'h', help := true }

namespace Options

/-- All marks of a command. -/
def allMarks (o : Options) : List Mark := helpMark :: o.marks

/-- The mark that a letter stands for. -/
def letter? (o : Options) (c : Char) : Option Mark := o.allMarks.find? fun m => m.letter == some c

end Options

/-- The options of a grammar's own level. -/
def Grammar.options : Grammar → Options
  | branch options _ => options
  | leaf options _ => options

/-! ## 2. Single arguments -/

/-- Either kind of option. -/
inductive Named
  | mark (m : Mark)
  | field (f : Field)

namespace Named

/-- The name of an option. -/
def name : Named → String
  | mark m => m.name
  | field f => f.name

end Named

/-- The options of a command by their names. -/
def Options.named (o : Options) : List Named := o.allMarks.map .mark ++ o.fields.map .field

/-- How an argument is read. -/
inductive Reading
  /-- A value. -/
  | value
  /-- An option of another program. -/
  | foreign
  /-- A beginning that several options share. -/
  | ambiguous
  /-- An option, and the value attached to it. -/
  | named (option : Named) (attached : Option String)
  /-- Letters behind one dash. -/
  | letters (cs : List Char)

/-- A number below zero: digits, or digits and a point with digits behind it. -/
def isNegativeNumber (cs : List Char) : Bool :=
  let isDigit (c : Char) : Bool := (Text.digitValue? c).isSome
  match cs with
  | '-' :: digits =>
    let digits := if digits.getLast? = some '\n' then digits.dropLast else digits
    let rest := digits.dropWhile isDigit
    match rest with
    | [] => !digits.isEmpty
    | '.' :: places => !places.isEmpty && places.all isDigit
    | _ => false
  | _ => false

/-- What starts like no option is a value if it is a negative number or has a space in it. -/
def readUnknown (cs : List Char) : Reading :=
  if isNegativeNumber cs || cs.contains ' ' then .value else .foreign

/-- Reads what stands behind two dashes. -/
def readLong (o : Options) (cs : List Char) : Reading :=
  let (name, attached) := match Text.cut? '=' cs with
    | none => (cs, none)
    | some (name, value) => (name, some (String.ofList value))
  match o.named.find? fun n => n.name.toList == name with
  | some option => .named option attached
  | none =>
    match o.named.filter fun n => name.isPrefixOf n.name.toList with
    | [] => readUnknown ('-' :: '-' :: cs)
    | [option] => .named option attached
    | _ => .ambiguous

/-- The letters behind one dash.  An equals sign behind the first of them says nothing, unless it
is the end. -/
def lettersOf : List Char → List Char
  | c :: '=' :: d :: rest => c :: d :: rest
  | cs => cs

/-- Reads an argument other than two dashes alone. -/
def readArgument (o : Options) (arg : String) : Reading :=
  match arg.toList with
  | '-' :: '-' :: cs => readLong o cs
  | '-' :: c :: cs =>
    if (o.letter? c).isSome then .letters (lettersOf (c :: cs)) else readUnknown ('-' :: c :: cs)
  | _ => .value

/-! ## 3. What is given -/

/-- A value that was given. -/
inductive Value
  | mark
  | text (s : String)
  | integer (n : Int)
  /-- An option was left empty. -/
  | blank

/-- What an option holds: a value, or nothing where it was left empty. -/
inductive Entry (α : Type)
  | value (a : α)
  | blank
deriving DecidableEq

namespace Entry

variable {α : Type}

/-- The value, if there is one. -/
def toOption : Entry α → Option α
  | value a => some a
  | blank => none

/-- An entry for people to read; an empty one is an empty list. -/
def toDatum (item : α → Datum) : Entry α → Datum
  | value a => item a
  | blank => .list []

end Entry

/-- What arguments say. -/
structure Given where
  /-- The commands named, the outermost first. -/
  commands : List String := []
  /-- Options and places by name, in the order given. -/
  values : List (String × Value) := []
  /-- Something has no place in the grammar. -/
  surplus : Bool := false

/-- Why there is nothing to do. -/
inductive Stop
  /-- Help was asked for. -/
  | help
  /-- The arguments do not follow the grammar. -/
  | usage
deriving DecidableEq

namespace Given

/-- Adds a value. -/
def add (g : Given) (name : String) (v : Value) : Given :=
  { g with values := g.values ++ [(name, v)] }

/-- Adds something that has no place. -/
def spill (g : Given) : Given := { g with surplus := true }

/-- Adds a mark; one for help ends the reading. -/
def addMark (g : Given) (m : Mark) : Except Stop Given :=
  if m.help then .error .help else .ok (g.add m.name .mark)

/-- Adds the value of a place. -/
def addText (g : Given) (name : String) (shape : Shape) (text : String) : Except Stop Given :=
  match shape with
  | .text => .ok (g.add name (.text text))
  | .oneOf choices => if choices.contains text then .ok (g.add name (.text text)) else .error .usage
  | .integer =>
    match Text.IntegerLiteral.parseDecimal text.toList with
    | .ok n => .ok (g.add name (.integer n))
    | .error _ => .error .usage

/-- Adds what is attached to an option: two dashes leave it empty, whatever its shape. -/
def addAttached (g : Given) (f : Field) (text : String) : Except Stop Given :=
  if text = "--" then .ok (g.add f.name .blank) else g.addText f.name f.shape text

/-- How often a mark was given. -/
def count (g : Given) (name : String) : Nat := (g.values.filter fun e => e.1 == name).length

/-- A mark was given. -/
def has (g : Given) (name : String) : Bool := 0 < g.count name

/-- The values given under a name. -/
def valuesOf (g : Given) (name : String) : List Value :=
  g.values.filterMap fun e => if e.1 = name then some e.2 else none

/-- The texts given for an option or a place. -/
def texts (g : Given) (name : String) : List (Entry String) :=
  (g.valuesOf name).filterMap fun v => match v with
    | .text s => some (.value s)
    | .blank => some .blank
    | _ => none

/-- The last text given for an option or a place. -/
def lastText? (g : Given) (name : String) : Option (Entry String) := (g.texts name).getLast?

/-- The last text given for an option or a place, unless the option was left empty then. -/
def text? (g : Given) (name : String) : Option String :=
  (g.lastText? name).bind Entry.toOption

/-- The last integer given for an option. -/
def integer? (g : Given) (name : String) : Option (Entry Int) :=
  ((g.valuesOf name).filterMap fun v => match v with
    | .integer n => some (.value n)
    | .blank => some .blank
    | _ => none).getLast?

end Given

/-! ## 4. All arguments -/

/-- The marks behind one dash; every letter stands for one. -/
def readLetters (o : Options) (cs : List Char) : Except Stop (List Mark) :=
  match cs.mapM o.letter? with
  | some marks => .ok marks
  | none => .error .usage

/-- No argument in front of two dashes is ambiguous. -/
def isClear (o : Options) : List String → Bool
  | [] => true
  | arg :: rest =>
    arg == "--" || match readArgument o arg with
      | .ambiguous => false
      | _ => isClear o rest

/-- The end of a command's arguments: a place that has to be filled is. -/
def finish (place : Option Place) (g : Given) : Except Stop Given :=
  match place with
  | some p => if p.required then .error .usage else .ok g
  | none => .ok g

/-- What stands behind two dashes: the value of a place that is still free, and surplus. -/
def readRest (place : Option Place) (g : Given) (args : List String) : Except Stop Given :=
  match place, args with
  | none, _ => .ok g.spill
  | some p, [] => finish (some p) g
  | some p, [arg] => g.addText p.name p.shape arg
  | some p, arg :: _ :: _ => (g.addText p.name p.shape arg).map Given.spill

/-- Reads on from what is given so far.  Behind a place that has just been filled, two dashes at
the very end say nothing. -/
def readOn (grammar : Grammar) (g : Given) : List String → Except Stop Given
  | [] =>
    match grammar with
    | .branch .. => .error .usage
    | .leaf _ place => finish place g
  | arg :: rest =>
    if arg = "--" then
      match grammar with
      | .branch .. => .error .usage
      | .leaf _ place => readRest place g rest
    else
      match readArgument grammar.options arg with
      | .ambiguous => .error .usage
      | .foreign => readOn grammar g.spill rest
      | .letters cs => do
        let marks ← readLetters grammar.options cs
        readOn grammar (← marks.foldlM Given.addMark g) rest
      | .named (.mark m) none => do readOn grammar (← g.addMark m) rest
      | .named (.mark _) (some _) => .error .usage
      | .named (.field f) (some text) => do readOn grammar (← g.addAttached f text) rest
      | .named (.field f) none =>
        match rest with
        | [] => .error .usage
        | text :: rest =>
          if text = "--" then .error .usage
          else match readArgument grammar.options text with
            | .value => do readOn grammar (← g.addText f.name f.shape text) rest
            | _ => .error .usage
      | .value =>
        match grammar with
        | .branch _ commands =>
          match commands.lookup arg with
          | none => .error .usage
          | some inner =>
            if isClear inner.options rest then
              readOn inner { g with commands := g.commands ++ [arg] } rest
            else .error .usage
        | .leaf options (some p) => do
          let g ← g.addText p.name p.shape arg
          if rest = ["--"] then return g
          readOn (.leaf options none) g rest
        | .leaf _ none => readOn grammar g.spill rest

/-- Reads arguments by a grammar. -/
def Grammar.read (grammar : Grammar) (args : List String) : Except Stop Given :=
  if isClear grammar.options args then
    match readOn grammar {} args with
    | .error stop => .error stop
    | .ok g => if g.surplus then .error .usage else .ok g
  else .error .usage

end Vesting.CommandLine
